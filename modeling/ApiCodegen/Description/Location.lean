/-!
# Locations

Where in a description a fault lies: the names on the way to it. Empty names leave no trace, and the
description itself is called `spec`.
-/

namespace ApiCodegen

/-- The names on the way to a part of a description, outermost first. -/
structure Location where
  segments : List String
deriving DecidableEq, Repr

namespace Location

/-- The description itself. -/
def root : Location := ⟨[]⟩

/-- One level further in. -/
def child (l : Location) (segment : String) : Location :=
  if segment.isEmpty then l else ⟨l.segments ++ [segment]⟩

/-- The text of a location. -/
def text (l : Location) : String :=
  if l.segments.isEmpty then "spec" else ".".intercalate l.segments

end Location

end ApiCodegen

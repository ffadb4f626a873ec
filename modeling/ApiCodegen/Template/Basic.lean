import ApiCodegen.Description.Config
import ApiCodegen.Json.Printer

/-!
# Templates

A template is text with places for values of a JSON context. Rendering is strict: a value that is
printed or repeated over has to be there. Only the test of a condition may find nothing, which then
does not hold.
-/

namespace ApiCodegen

open Number (Binary)

/-- A template. -/
inductive Template where
  | nothing
  | text (s : String)
  /-- The value of a field of the context. -/
  | field (name : String)
  /-- The context itself. -/
  | self
  /-- Text for a field whose value holds. -/
  | whenHolds (name : String) (body : Template)
  /-- Text for every repetition but the first. -/
  | unlessFirst (body : Template)
  /-- Repetition for each value of a field, which becomes the context. -/
  | each (name : String) (body : Template)
  | seq (first second : Template)
deriving DecidableEq, Repr

namespace Template

instance : Append Template := ⟨seq⟩

/-- The places of templates, one after the other. -/
def all (parts : List Template) : Template :=
  parts.foldr seq nothing

/-- Whether a number is neither zero nor too small for full precision. -/
def isNormal : Binary → Bool
  | .finite _ m _ => m ≥ Nat.pow 2 52
  | _ => false

/-- Whether a value holds as a condition. -/
def holds : Json → Bool
  | .null => false
  | .bool b => b
  | .int n => n != 0
  | .float x => isNormal x
  | .str s => !s.isEmpty
  | .arr items => !items.isEmpty
  | .obj fields => !fields.isEmpty

mutual

/-- The text of a printed value. -/
def print : Json → String
  | .null => ""
  | .str s => s
  | .arr items => "[" ++ ", ".intercalate (printItems items) ++ "]"
  | .obj _ => "[object]"
  | .bool b => (Json.bool b).compact
  | .int n => (Json.int n).compact
  | .float x => (Json.float x).compact

/-- The texts of printed values. -/
def printItems : List Json → List String
  | [] => []
  | item :: items => print item :: printItems items

end

/-- The values to repeat over. -/
def collection? : Json → Option (List Json)
  | .arr items => some items
  | .obj fields => some (fields.map Prod.snd)
  | _ => none

/-- The field of a context. -/
def needed (context : Json) (name : String) : Except TemplateFault Json :=
  match context.field? name with
  | some value => .ok value
  | none => .error (.missingVariable name)

/-- Renders a template; `first` tells whether this is the first repetition. -/
def render (context : Json) (first : Bool) : Template → Except TemplateFault String
  | nothing => .ok ""
  | text s => .ok s
  | field name => (needed context name).map print
  | self => .ok (print context)
  | whenHolds name body =>
    if (context.field? name).any holds then body.render context first else .ok ""
  | unlessFirst body => if first then .ok "" else body.render context first
  | each name body => do
    match collection? (← needed context name) with
    | none => .error (.notACollection name)
    | some [] => .ok ""
    | some (item :: items) =>
      let head ← body.render item true
      let tail ← items.mapM fun item => body.render item false
      return head ++ String.join tail
  | seq a b => do
    let before ← a.render context first
    let after ← b.render context first
    return before ++ after

end Template

end ApiCodegen

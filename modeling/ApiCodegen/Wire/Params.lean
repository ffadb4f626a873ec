import ApiCodegen.Description.Operation
import ApiCodegen.Text.Chars

/-!
# Parameters on the wire

The values of a URL, a query, headers or a form travel as pairs of texts. `ParamReader` reads typed
values out of such a group: it goes on after a failure and keeps all of them, in the order in which
they were met. `ParamWriter` is its counterpart.

How an element is read from its text is a parameter of every access.
-/

namespace ApiCodegen

/-- A name and a value. -/
abbrev WirePair := String × String

/-- Why a parameter could not be read. -/
inductive ParamProblem where
  | absent (name : String)
  /-- The text is none of those allowed. -/
  | notAllowed (raw : String) (allowed : List String)
  /-- The text denotes no value of the type. -/
  | unreadable (name raw : String)
deriving DecidableEq, Repr

namespace ParamProblem

/-- The code of an absent value. -/
def absentCode : String := "missing"

/-- The code of a value that could not be read. -/
def unreadableCode : String := "parsing_failed"

/-- The code of a problem. -/
def code : ParamProblem → String
  | absent _ => absentCode
  | notAllowed _ _ | unreadable _ _ => unreadableCode

/-- The wording of a problem. -/
def message : ParamProblem → String
  | absent name => "Parameter '" ++ name ++ "' is required"
  | notAllowed raw allowed => "Value '" ++ raw ++ "' is not one of: " ++ ", ".intercalate allowed
  | unreadable name raw => "Failed to parse parameter '" ++ name ++ "' from '" ++ raw ++ "'"

end ParamProblem

/-- A problem and the place it is reported at. -/
structure ParamFault where
  path : String
  problem : ParamProblem
deriving DecidableEq, Repr

/-- The ways to read a parameter. -/
inductive Accessor where
  /-- One value, which has to be there. -/
  | required
  /-- At most one value. -/
  | optional
  /-- One value, for which a text stands in. -/
  | withDefault (text : String)
  /-- Every value of the name. -/
  | array
deriving DecidableEq, Repr

/-- What an access yields for elements of a type. -/
def Accessor.Value (α : Type) : Accessor → Type
  | required | withDefault _ => α
  | optional => Option α
  | array => List α

/-- The pairs of one group, and the faults met so far. -/
structure ParamReader where
  location : ParamLocation
  pairs : List WirePair
  faults : List ParamFault
deriving DecidableEq, Repr

namespace ParamReader

/-- A reader that has met no fault. -/
def ofPairs (location : ParamLocation) (pairs : List WirePair) : ParamReader :=
  ⟨location, pairs, []⟩

/-- Whether a key stands for a name. Header names are the same in any case. -/
def keyMatches (location : ParamLocation) (key name : String) : Bool :=
  match location with
  | .header => Text.eqIgnoringAsciiCase key name
  | .url | .query | .form => key == name

/-- Where the faults of a name are reported. -/
def path (location : ParamLocation) (name : String) : String :=
  match location with
  | .url => ":" ++ name
  | .query | .header | .form => name

/-- The values of a name in order. -/
def values (r : ParamReader) (name : String) : List String :=
  (r.pairs.filter fun (key, _) => keyMatches r.location key name).map Prod.snd

/-- The first value of a name. -/
def first? (r : ParamReader) (name : String) : Option String :=
  (r.values name).head?

/-- Records a problem with a name. -/
def fail (r : ParamReader) (name : String) (problem : ParamProblem) : ParamReader :=
  { r with faults := r.faults ++ [⟨path r.location name, problem⟩] }

/-- Why a text is no element, or the element. -/
def check {α : Type} (parse : String → Option α) (allowed : Option (List String))
    (name raw : String) : Except ParamProblem α :=
  match allowed with
  | some texts =>
    if texts.contains raw then
      match parse raw with
      | some value => .ok value
      | none => .error (.unreadable name raw)
    else .error (.notAllowed raw texts)
  | none =>
    match parse raw with
    | some value => .ok value
    | none => .error (.unreadable name raw)

variable {α : Type} (parse : String → Option α) (allowed : Option (List String))

/-- Reads an element from its text. -/
def decode (r : ParamReader) (name raw : String) : Option α × ParamReader :=
  match check parse allowed name raw with
  | .ok value => (some value, r)
  | .error problem => (none, r.fail name problem)

/-- Reads the elements of several texts; the result is there if every one of them is. -/
def decodeAll (r : ParamReader) (name : String) : List String → Option (List α) × ParamReader
  | [] => (some [], r)
  | raw :: raws =>
    let (value, r) := r.decode parse allowed name raw
    let (values, r) := r.decodeAll name raws
    (value.bind fun v => values.map (v :: ·), r)

/-- Reads a value that has to be there. -/
def required (r : ParamReader) (name : String) : Option α × ParamReader :=
  match r.first? name with
  | none => (none, r.fail name (.absent name))
  | some raw => r.decode parse allowed name raw

/-- Reads a value that may be absent. -/
def optional (r : ParamReader) (name : String) : Option (Option α) × ParamReader :=
  match r.first? name with
  | none => (some none, r)
  | some raw =>
    let (value, r) := r.decode parse allowed name raw
    (value.map some, r)

/-- Reads a value for which a text stands in. -/
def withDefault (r : ParamReader) (name text : String) : Option α × ParamReader :=
  r.decode parse allowed name ((r.first? name).getD text)

/-- Reads all values of a name. -/
def array (r : ParamReader) (name : String) : Option (List α) × ParamReader :=
  r.decodeAll parse allowed name (r.values name)

/-- Reads a parameter in one of the four ways. -/
def read (r : ParamReader) (name : String) :
    (accessor : Accessor) → Option (accessor.Value α) × ParamReader
  | .required => r.required parse allowed name
  | .optional => r.optional parse allowed name
  | .withDefault text => r.withDefault parse allowed name text
  | .array => r.array parse allowed name

end ParamReader

/-- The pairs written so far. -/
structure ParamWriter where
  pairs : List WirePair
deriving DecidableEq, Repr

namespace ParamWriter

/-- No pairs. -/
def empty : ParamWriter := ⟨[]⟩

/-- Writes a value. -/
def add (w : ParamWriter) (name text : String) : ParamWriter := ⟨w.pairs ++ [(name, text)]⟩

/-- Writes a value if there is one. -/
def addOptional (w : ParamWriter) (name : String) : Option String → ParamWriter
  | none => w
  | some text => w.add name text

/-- Writes one pair for each value. -/
def addArray (w : ParamWriter) (name : String) (texts : List String) : ParamWriter :=
  texts.foldl (·.add name ·) w

end ParamWriter

end ApiCodegen

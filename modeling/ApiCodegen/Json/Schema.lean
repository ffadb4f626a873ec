import ApiCodegen.Json.Skip

/-!
# Reading a document against a schema

A `Schema` says which documents are wanted, and `Schema.read` reads one from its bytes in a single
pass. What it returns is the document in normal form: unknown fields gone, defaults filled in, maps
sorted by name, a record always an object. The first problem in document order is the failure.
-/

namespace ApiCodegen.Json

/-- Whether a record can do without a field. -/
inductive Presence where
  | required
  /-- Absent and null are the same, and neither is kept. -/
  | optional
  /-- An absent field has this value. -/
  | orElse (value : Json)

/-- The shape of a wanted document. -/
inductive Schema where
  | any
  /-- Any value; none of it is kept. -/
  | ignored
  | string
  | bool
  | int (low high : Int)
  | nullable (inner : Schema)
  | list (item : Schema)
  | map (item : Schema)
  /-- An object with these fields, or the list of their values. -/
  | record (fields : List (String × Presence × Schema))
  /-- One of several names, each alone or with a value of its own. -/
  | choice (variants : List (String × Option Schema))

/-- Reads the value of a field or variant, which lies one step further in. -/
def Reader.under {α : Type} (step : Step) (reader : Reader α) : Reader α :=
  fun bytes => (reader bytes).mapError (Failure.under step)

/-- The failure at a value of the wrong kind: a scalar is read first, and may itself be broken. -/
def wrongKind (bytes : Bytes) : Failure :=
  let after := fun (r : Except Failure Bytes) =>
    match r with
    | .ok _ => Failure.mismatch []
    | .error failure => failure
  match bytes with
  | [] => .early
  | b :: rest =>
    if b = ascii 'n' then after (word "ull" rest)
    else if b = ascii 't' then after (word "rue" rest)
    else if b = ascii 'f' then after (word "alse" rest)
    else if b = ascii '-' ∨ isDigitByte b then after ((number bytes).map Prod.snd)
    else if b = ascii '"' then after ((string rest).map Prod.snd)
    else if b = ascii '[' ∨ b = 0x7B then .mismatch []
    else .malformed

/-- Reads a string value. -/
def readString (bytes : Bytes) : Except Failure (String × Bytes) :=
  match skipGap bytes with
  | b :: rest => if b = ascii '"' then string rest else .error (wrongKind (b :: rest))
  | [] => .error .early

/-- Reads a whole number within bounds. -/
def readInt (low high : Int) : Reader Json := fun bytes =>
  let bytes := skipGap bytes
  match bytes with
  | [] => .error .early
  | b :: _ =>
    if b = ascii '-' ∨ isDigitByte b then
      match number bytes with
      | .ok (.int n, rest) =>
        if low ≤ n ∧ n ≤ high then .ok (.int n, rest) else .error (.mismatch [])
      | .ok _ => .error (.mismatch [])
      | .error failure => .error failure
    else .error (wrongKind bytes)

/-- Reads a truth value. -/
def readBool : Reader Json := fun bytes =>
  let bytes := skipGap bytes
  match bytes with
  | [] => .error .early
  | b :: rest =>
    if b = ascii 't' then (word "rue" rest).map (.bool true, ·)
    else if b = ascii 'f' then (word "alse" rest).map (.bool false, ·)
    else .error (wrongKind bytes)

/-- Reads nothing but null. -/
def readNull : Reader Json := fun bytes =>
  let bytes := skipGap bytes
  match bytes with
  | [] => .error .early
  | b :: rest =>
    if b = ascii 'n' then (word "ull" rest).map (.null, ·) else .error (wrongKind bytes)

/-- Reads null, or a value. -/
def readNullable (inner : Reader Json) : Reader Json := fun bytes =>
  match skipGap bytes with
  | b :: rest =>
    if b = ascii 'n' then (word "ull" rest).map (.null, ·) else inner (b :: rest)
  | [] => inner []

/-- Moves to the next item of a list, past a comma unless it is the first; none at the end. -/
def nextItem (first : Bool) (bytes : Bytes) : Except Failure (Option Bytes) :=
  match skipGap bytes with
  | [] => .error .early
  | b :: rest =>
    if b = ascii ']' then .ok none
    else if first then .ok (some (b :: rest))
    else if b = ascii ',' then
      match skipGap rest with
      | [] => .error .early
      | b :: rest => if b = ascii ']' then .error .malformed else .ok (some (b :: rest))
    else .error .malformed

/-- Reads the bracket that closes a list. -/
def closeList (bytes : Bytes) : Except Failure Bytes :=
  match skipGap bytes with
  | [] => .error .early
  | b :: rest => if b = ascii ']' then .ok rest else .error .malformed

/-- Reads the items of a list and its closing bracket. -/
def readItems (item : Reader Json) (i : Nat) (bytes : Bytes) :
    Except Failure (List Json × Bytes) := do
  match ← nextItem (i == 0) bytes with
  | none => return ([], ← closeList bytes)
  | some start =>
    let (value, rest) ← item.under (.position i) start
    if rest.length < bytes.length then
      let (values, rest) ← readItems item (i + 1) rest
      return (value :: values, rest)
    else .error .malformed
termination_by bytes.length

/-- Moves to the next name of an object, past a comma unless it is the first, and reads it; none at
the end. -/
def nextName (first : Bool) (bytes : Bytes) : Except Failure (Option (String × Bytes)) :=
  match skipGap bytes with
  | [] => .error .early
  | b :: rest =>
    if b = 0x7D then .ok none
    else if first then
      if b = ascii '"' then (string rest).map some else .error .malformed
    else if b = ascii ',' then
      match skipGap rest with
      | [] => .error .early
      | b :: rest => if b = ascii '"' then (string rest).map some else .error .malformed
    else .error .malformed

/-- Reads the colon after a name. -/
def readColon (bytes : Bytes) : Except Failure Bytes :=
  match skipGap bytes with
  | [] => .error .early
  | b :: rest => if b = ascii ':' then .ok rest else .error .malformed

/-- Reads the brace that closes an object. -/
def closeObject (bytes : Bytes) : Except Failure Bytes :=
  match skipGap bytes with
  | [] => .error .early
  | b :: rest => if b = 0x7D then .ok rest else .error .malformed

/-- Reads the entries of a map and its closing brace. -/
def readEntries (item : Reader Json) (first : Bool) (bytes : Bytes) :
    Except Failure (List (String × Json) × Bytes) := do
  match ← nextName first bytes with
  | none => return ([], ← closeObject bytes)
  | some (name, rest) =>
    let (value, rest) ← item.under (.name name) (← readColon rest)
    if rest.length < bytes.length then
      let (entries, rest) ← readEntries item false rest
      return ((name, value) :: entries, rest)
    else .error .malformed
termination_by bytes.length

/-- A field of a record with its reader. -/
structure FieldReader where
  name : String
  presence : Presence
  read : Reader Json

/-- Reads the entries of a record. An unknown name is skipped with its value, and a name that comes
twice is refused at its second coming. -/
def readFields (fields : List FieldReader) (seen : List (String × Json)) (first : Bool)
    (bytes : Bytes) : Except Failure (List (String × Json) × Bytes) := do
  match ← nextName first bytes with
  | none => return (seen, ← closeObject bytes)
  | some (name, rest) =>
    match fields.find? (·.name == name) with
    | some field =>
      if (seen.lookup name).isSome then .error (.mismatch [])
      else
        let (value, rest) ← field.read.under (.name name) (← readColon rest)
        if rest.length < bytes.length then
          readFields fields ((name, value) :: seen) false rest
        else .error .malformed
    | none =>
      let rest ← skipValue (← readColon rest)
      if rest.length < bytes.length then readFields fields seen false rest
      else .error .malformed
termination_by bytes.length

/-- The value of a field given what was read for it. -/
def FieldReader.settle (field : FieldReader) (absent : Failure) :
    Option Json → Except Failure (Option Json)
  | some value =>
    .ok <| match field.presence, value with
      | .optional, .null => none
      | _, value => some value
  | none =>
    match field.presence with
    | .required => .error absent
    | .optional => .ok none
    | .orElse value => .ok (some value)

/-- Settles every field of a record in order of declaration. -/
def settleFields (seen : List (String × Json)) :
    List FieldReader → Except Failure (List (String × Json))
  | [] => .ok []
  | field :: fields => do
    let value ← field.settle (.missing [] field.name) (seen.lookup field.name)
    let rest ← settleFields seen fields
    return match value with
      | some value => (field.name, value) :: rest
      | none => rest

/-- Reads a record written as the list of its values. -/
def readPositions (i : Nat) :
    List FieldReader → Bytes → Except Failure (List (String × Json) × Bytes)
  | [], bytes => .ok ([], bytes)
  | field :: fields, bytes => do
    let (found, rest) ← match ← nextItem (i == 0) bytes with
      | none => pure (none, bytes)
      | some start =>
        let (value, rest) ← field.read.under (.position i) start
        pure (some value, rest)
    let value ← field.settle (.mismatch []) found
    let (values, rest) ← readPositions (i + 1) fields rest
    return (match value with
      | some value => (field.name, value) :: values
      | none => values, rest)

/-- Reads a record in either form. -/
def readRecord (fields : List FieldReader) : Reader Json := fun bytes =>
  match skipGap bytes with
  | [] => .error .early
  | b :: rest =>
    if b = 0x7B then do
      let (seen, rest) ← readFields fields [] true rest
      return (.obj (← settleFields seen fields), rest)
    else if b = ascii '[' then do
      let (values, rest) ← readPositions 0 fields rest
      return (.obj values, ← closeList rest)
    else .error (wrongKind (b :: rest))

/-- Reads one of several names, alone or as the only field of an object. -/
def readChoice (variants : List (String × Option (Reader Json))) : Reader Json := fun bytes =>
  match skipGap bytes with
  | [] => .error .early
  | b :: rest =>
    if b = ascii '"' then do
      let (name, rest) ← string rest
      match variants.lookup name with
      | some none => return (.str name, rest)
      | some (some _) => .error (.mismatch [.name name])
      | none => .error (.mismatch [])
    else if b = 0x7B then do
      match ← nextName true rest with
      | none => .error .malformed
      | some (name, rest) =>
        match variants.lookup name with
        | none => .error (.mismatch [])
        | some none =>
          let (_, rest) ← readNull.under (.name name) (← readColon rest)
          return (.str name, ← closeObject rest)
        | some (some reader) =>
          let (value, rest) ← reader.under (.name name) (← readColon rest)
          return (.obj [(name, value)], ← closeObject rest)
    else .error .malformed

/-- Reads any value nested at most `depth` deep. -/
def readAny : Nat → Reader Json
  | depth, bytes =>
    let bytes := skipGap bytes
    match bytes with
    | [] => .error .early
    | b :: rest =>
      if b = ascii '"' then (string rest).map fun (s, rest) => (.str s, rest)
      else if b = ascii '-' ∨ isDigitByte b then number bytes
      else if b = ascii 'n' then (word "ull" rest).map (.null, ·)
      else if b = ascii 't' then (word "rue" rest).map (.bool true, ·)
      else if b = ascii 'f' then (word "alse" rest).map (.bool false, ·)
      else match depth with
        | 0 => .error .malformed
        | depth + 1 =>
          if b = ascii '[' then
            (readItems (readAny depth) 0 rest).map fun (items, rest) => (.arr items, rest)
          else if b = 0x7B then
            (readEntries (readAny depth) true rest).map fun (fields, rest) =>
              (ofFields fields, rest)
          else .error .malformed

mutual

/-- The reader of a schema at a place that may be nested `depth` deeper. -/
def Schema.reader (depth : Nat) : Schema → Reader Json
  | .any => readAny depth
  | .ignored => fun bytes => (skipValue bytes).map (.obj [], ·)
  | .string => fun bytes => (readString bytes).map fun (s, rest) => (.str s, rest)
  | .bool => readBool
  | .int low high => readInt low high
  | .nullable inner => readNullable (inner.reader depth)
  | .list item => fun bytes =>
    match skipGap bytes with
    | [] => .error .early
    | b :: rest =>
      if b = ascii '[' then
        (readItems (item.reader (depth - 1)) 0 rest).map fun (items, rest) => (.arr items, rest)
      else .error (wrongKind (b :: rest))
  | .map item => fun bytes =>
    match skipGap bytes with
    | [] => .error .early
    | b :: rest =>
      if b = 0x7B then
        (readEntries (item.reader (depth - 1)) true rest).map fun (fields, rest) =>
          (ofFields fields, rest)
      else .error (wrongKind (b :: rest))
  | .record fields => readRecord (Schema.fieldReaders (depth - 1) fields)
  | .choice variants => readChoice (Schema.variantReaders (depth - 1) variants)

/-- The readers of the fields of a record. -/
def Schema.fieldReaders (depth : Nat) :
    List (String × Presence × Schema) → List FieldReader
  | [] => []
  | (name, presence, schema) :: fields =>
    ⟨name, presence, schema.reader depth⟩ :: Schema.fieldReaders depth fields

/-- The readers of the variants of a choice. -/
def Schema.variantReaders (depth : Nat) :
    List (String × Option Schema) → List (String × Option (Reader Json))
  | [] => []
  | (name, none) :: variants => (name, none) :: Schema.variantReaders depth variants
  | (name, some schema) :: variants =>
    (name, some (schema.reader depth)) :: Schema.variantReaders depth variants

end

/-- How deep a value of any shape may be nested. -/
def depthLimit : Nat := 127

/-- Reads a whole document. -/
def Schema.read (schema : Schema) (bytes : Bytes) : Except Failure Json := do
  let (value, rest) ← schema.reader depthLimit bytes
  if (skipGap rest).isEmpty then return value else .error .malformed

end ApiCodegen.Json

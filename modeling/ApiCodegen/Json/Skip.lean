import ApiCodegen.Json.Scanner

/-!
# Skipping a value

A value that nobody keeps is only checked for its form: its strings may hold any bytes and halves of
surrogate pairs, its numbers may have any size, and it may be nested to any depth. `skipValue` runs
over the bytes once and holds the open brackets on a stack.
-/

namespace ApiCodegen.Json

/-- An open bracket. -/
inductive Bracket where
  | list
  | object
deriving DecidableEq

/-- The part of a number that has just been read. -/
inductive NumberPart where
  | minus
  | zero
  | whole
  | point
  | decimals
  | letter
  | sign
  | exponent
deriving DecidableEq

/-- What may come next. -/
inductive Skip where
  /-- A value. -/
  | value
  /-- The first part of the innermost bracket, or its end. -/
  | opened
  /-- A comma or the end of the innermost bracket. -/
  | closed
  /-- The name of a field. -/
  | fieldName
  /-- The colon after a name. -/
  | colon
  /-- The rest of a word. -/
  | word (rest : List UInt8)
  /-- The inside of a string, which is a field name when `isName` holds. -/
  | text (isName : Bool)
  /-- The letter after a backslash. -/
  | escape (isName : Bool)
  /-- Hexadecimal digits that are still missing. -/
  | hex (isName : Bool) (count : Nat)
  /-- More of a number. -/
  | number (part : NumberPart)

/-- What follows the first byte of a value. -/
def Skip.ofFirst (b : UInt8) (stack : List Bracket) : Except Failure (Skip × List Bracket) :=
  if b = ascii '"' then .ok (.text false, stack)
  else if b = ascii '[' then .ok (.opened, .list :: stack)
  else if b = 0x7B then .ok (.opened, .object :: stack)
  else if b = ascii '-' then .ok (.number .minus, stack)
  else if b = ascii '0' then .ok (.number .zero, stack)
  else if isDigitByte b then .ok (.number .whole, stack)
  else if b = ascii 'n' then .ok (.word ("ull".toList.map ascii), stack)
  else if b = ascii 't' then .ok (.word ("rue".toList.map ascii), stack)
  else if b = ascii 'f' then .ok (.word ("alse".toList.map ascii), stack)
  else .error .malformed

/-- What follows a byte after a whole value inside a bracket. -/
def Skip.afterValue (b : UInt8) : List Bracket → Except Failure (Skip × List Bracket)
  | [] => .error .malformed
  | .list :: stack =>
    if b = ascii ',' then .ok (.value, .list :: stack)
    else if b = ascii ']' then .ok (.closed, stack)
    else .error .malformed
  | .object :: stack =>
    if b = ascii ',' then .ok (.fieldName, .object :: stack)
    else if b = 0x7D then .ok (.closed, stack)
    else .error .malformed

/-- The parts of a number that the next byte may belong to; none where the number is over. -/
def NumberPart.next (part : NumberPart) (b : UInt8) : Option (Except Failure NumberPart) :=
  let digit := isDigitByte b
  let letter := b = ascii 'e' ∨ b = ascii 'E'
  match part with
  | .minus =>
    some (if b = ascii '0' then .ok .zero else if digit then .ok .whole else .error .malformed)
  | .zero =>
    if digit then some (.error .malformed)
    else if b = ascii '.' then some (.ok .point) else if letter then some (.ok .letter) else none
  | .whole =>
    if digit then some (.ok .whole)
    else if b = ascii '.' then some (.ok .point) else if letter then some (.ok .letter) else none
  | .point => some (if digit then .ok .decimals else .error .malformed)
  | .decimals =>
    if digit then some (.ok .decimals) else if letter then some (.ok .letter) else none
  | .letter =>
    some (if digit then .ok .exponent
      else if b = ascii '+' ∨ b = ascii '-' then .ok .sign else .error .malformed)
  | .sign => some (if digit then .ok .exponent else .error .malformed)
  | .exponent => if digit then some (.ok .exponent) else none

/-- Whether a number may end after this part. -/
def NumberPart.complete : NumberPart → Bool
  | .zero | .whole | .decimals | .exponent => true
  | .minus | .point | .letter | .sign => false

/-- Where a string leads once it is closed. -/
def Skip.afterText (isName : Bool) : Skip :=
  if isName then .colon else .closed

/-- One byte in a state other than `closed` with an empty stack. A gap keeps the state wherever a
gap may stand. -/
def Skip.step (state : Skip) (stack : List Bracket) (b : UInt8) :
    Except Failure (Skip × List Bracket) :=
  match state with
  | .value => if isGap b then .ok (.value, stack) else Skip.ofFirst b stack
  | .opened =>
    if isGap b then .ok (.opened, stack)
    else match stack with
      | .list :: outer =>
        if b = ascii ']' then .ok (.closed, outer) else Skip.ofFirst b stack
      | .object :: outer =>
        if b = 0x7D then .ok (.closed, outer)
        else if b = ascii '"' then .ok (.text true, stack)
        else .error .malformed
      | [] => .error .malformed
  | .closed => if isGap b then .ok (.closed, stack) else Skip.afterValue b stack
  | .fieldName =>
    if isGap b then .ok (.fieldName, stack)
    else if b = ascii '"' then .ok (.text true, stack) else .error .malformed
  | .colon =>
    if isGap b then .ok (.colon, stack)
    else if b = ascii ':' then .ok (.value, stack) else .error .malformed
  | .word [] => .ok (.closed, stack)
  | .word (w :: rest) =>
    if w = b then .ok (if rest.isEmpty then .closed else .word rest, stack) else .error .malformed
  | .text isName =>
    if b = ascii '"' then .ok (Skip.afterText isName, stack)
    else if b = 0x5C then .ok (.escape isName, stack)
    else if b < 0x20 then .error .malformed
    else .ok (.text isName, stack)
  | .escape isName =>
    if b = ascii 'u' then .ok (.hex isName 4, stack)
    else if (escapedByte? b).isSome then .ok (.text isName, stack)
    else .error .malformed
  | .hex isName count =>
    if (hexDigit? b).isNone then .error .malformed
    else .ok (if count ≤ 1 then .text isName else .hex isName (count - 1), stack)
  | .number part =>
    match part.next b with
    | some (.ok part) => .ok (.number part, stack)
    | some (.error failure) => .error failure
    | none => if isGap b then .ok (.closed, stack) else Skip.afterValue b stack

/-- Whether the value has ended before the next byte `b`. -/
def Skip.endsBefore (state : Skip) (stack : List Bracket) (b : UInt8) : Bool :=
  stack.isEmpty && match state with
    | .closed => true
    | .number part => (part.next b).isNone
    | _ => false

/-- Whether four hexadecimal digits are due and fewer bytes are left. -/
def Skip.lacksDigits (state : Skip) (bytes : Bytes) : Bool :=
  match state with
  | .hex _ 4 => (bytes.drop 3).isEmpty
  | _ => false

/-- The failure of a document that ends in a given state, if it is one. -/
def Skip.atEnd (stack : List Bracket) : Skip → Option Failure
  | .closed => if stack.isEmpty then none else some .early
  | .number part =>
    if part.complete then if stack.isEmpty then none else some .early else some .malformed
  | _ => some .early

/-- Runs over the bytes from a state until the value ends. -/
def skipFrom (state : Skip) (stack : List Bracket) : Bytes → Except Failure Bytes
  | [] =>
    match state.atEnd stack with
    | some failure => .error failure
    | none => .ok []
  | b :: bytes =>
    if state.endsBefore stack b then .ok (b :: bytes)
    else if state.lacksDigits (b :: bytes) then .error .early
    else match state.step stack b with
      | .error failure => .error failure
      | .ok (state, stack) => skipFrom state stack bytes

/-- Skips one value. -/
def skipValue (bytes : Bytes) : Except Failure Bytes :=
  skipFrom .value [] bytes

end ApiCodegen.Json

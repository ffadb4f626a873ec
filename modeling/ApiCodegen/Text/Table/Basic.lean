/-!
# Tables of characters

The characters of a large set by number, called pointers. A pointer without a character is a hole.
-/

namespace ApiCodegen.Text

/-- Characters by pointer; a hole holds the replacement character. -/
structure CharTable where
  chars : Array Char

namespace CharTable

/-- The character of a pointer. -/
def char? (t : CharTable) (pointer : Nat) : Option Char :=
  match t.chars[pointer]? with
  | some c => if c = '\uFFFD' then none else some c
  | none => none

/-- The table of several runs of characters, each with the pointer of its first one, in order. -/
def ofRuns (runs : List (Nat × String)) : CharTable :=
  ⟨runs.foldl (fun chars (first, text) =>
    text.toList.foldl Array.push (chars ++ Array.replicate (first - chars.size) '\uFFFD')) #[]⟩

/-- The code points from `first` on, `count` of them, that another table lacks, in order. -/
def others (t : CharTable) (first count : Nat) : CharTable :=
  let mark := fun (listed : Array Bool) (c : Char) =>
    if first ≤ c.toNat then listed.setIfInBounds (c.toNat - first) true else listed
  let listed := t.chars.foldl mark (Array.replicate count false)
  ⟨(Array.range count).filterMap fun n =>
    if listed.getD n false then none else some (Char.ofNat (first + n))⟩

end CharTable

end ApiCodegen.Text

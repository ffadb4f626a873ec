/-!
# Lists of characters

Splitting and trimming of text seen as a list of characters. `split` keeps every character that is
not a separator, in order, and returns one piece more than there are separators.
-/

namespace ApiCodegen.Text

/-- The pieces of `cs` between the characters on which `sep` holds. -/
def split (sep : Char → Bool) : List Char → List (List Char)
  | [] => [[]]
  | c :: cs =>
    match sep c, split sep cs with
    | true, pieces => [] :: pieces
    | false, [] => [[c]]
    | false, piece :: pieces => (c :: piece) :: pieces

theorem split_ne_nil (sep : Char → Bool) (cs : List Char) : split sep cs ≠ [] := by
  cases cs with
  | nil => simp [split]
  | cons c cs =>
    rw [split]
    split <;> simp

/-- `split` on strings. -/
def splitString (sep : Char → Bool) (s : String) : List String :=
  (split sep s.toList).map String.ofList

/-- The pieces of `cs` between two adjacent colons, read from the left. -/
def splitPaths : List Char → List (List Char)
  | [] => [[]]
  | ':' :: ':' :: cs => [] :: splitPaths cs
  | c :: cs =>
    match splitPaths cs with
    | [] => [[c]]
    | piece :: pieces => (c :: piece) :: pieces

/-- The characters with the Unicode property White_Space. -/
def isBlank (c : Char) : Bool :=
  let n := c.toNat
  (0x09 ≤ n && n ≤ 0x0D) || n == 0x20 || n == 0x85 || n == 0xA0 || n == 0x1680 ||
    (0x2000 ≤ n && n ≤ 0x200A) || n == 0x2028 || n == 0x2029 || n == 0x202F || n == 0x205F ||
    n == 0x3000

/-- `cs` without the trailing characters on which `p` holds. -/
def dropTrailing (p : Char → Bool) : List Char → List Char
  | [] => []
  | c :: cs =>
    match dropTrailing p cs with
    | [] => if p c then [] else [c]
    | rest => c :: rest

/-- `cs` without blanks at either end. -/
def trim (cs : List Char) : List Char :=
  dropTrailing isBlank (cs.dropWhile isBlank)

/-- `s` without the slashes it ends with. -/
def dropTrailingSlashes (s : String) : String :=
  String.ofList (dropTrailing (· == '/') s.toList)

/-- Whether `word` occurs in `cs`. -/
def occursIn (word : List Char) : List Char → Bool
  | [] => word.isEmpty
  | c :: cs => word.isPrefixOf (c :: cs) || occursIn word cs

/-- Lower case of the ASCII letters; every other character is kept. -/
def asciiLower (s : String) : String :=
  String.ofList (s.toList.map Char.toLower)

/-- Equality up to the case of ASCII letters. -/
def eqIgnoringAsciiCase (a b : String) : Bool :=
  asciiLower a == asciiLower b

end ApiCodegen.Text

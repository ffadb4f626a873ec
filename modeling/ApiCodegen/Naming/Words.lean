/-!
# Words of a name

A name of a description is cut into words, which are joined again in the case of the target. Every
character other than an ASCII letter or digit separates words, and so does the step from a lower
case to an upper case letter. A digit starts no word.
-/

namespace ApiCodegen.Naming

/-- Letters and digits stay; everything else becomes a separator. -/
def clean (c : Char) : Char :=
  if c.isAlphanum then c else '_'

/-- The pieces of cleaned text between separators and before capitals; some may be empty. -/
def pieces : List Char → List (List Char)
  | [] => [[]]
  | c :: cs =>
    match pieces cs with
    | [] => [[c]]
    | piece :: rest =>
      if c = '_' then [] :: piece :: rest
      else if c.isLower && piece.head?.any Char.isUpper then [c] :: piece :: rest
      else (c :: piece) :: rest

/-- The words of a name. -/
def words (name : String) : List (List Char) :=
  (pieces (name.toList.map clean)).filter (!·.isEmpty)

/-- A word with a capital and small letters after it. -/
def capitalize : List Char → List Char
  | [] => []
  | c :: cs => c.toUpper :: cs.map Char.toLower

/-- The words joined in the case of types. -/
def pascal (words : List (List Char)) : List Char :=
  words.flatMap capitalize

/-- The words joined in the case of values. -/
def snake (words : List (List Char)) : List Char :=
  ['_'].intercalate (words.map (·.map Char.toLower))

end ApiCodegen.Naming

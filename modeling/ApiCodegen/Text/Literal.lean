import ApiCodegen.Text.Property

/-!
# String literals

`quote s` is the string literal of the generated code that denotes `s`. A character is escaped when
it would end the literal, break its line or leave no trace on the page; the apostrophe stands for
itself.
-/

namespace ApiCodegen.Text

/-- The hexadecimal digits of `n` in lower case, without leading zeros. -/
def hex (n : Nat) : List Char :=
  Nat.toDigits 16 n

/-- How one character is written inside a literal. -/
def quoteChar (c : Char) : List Char :=
  match c with
  | '\x00' => ['\\', '0']
  | '\t' => ['\\', 't']
  | '\r' => ['\\', 'r']
  | '\n' => ['\\', 'n']
  | '\\' => ['\\', '\\']
  | '"' => ['\\', '"']
  | c =>
    if extendsGrapheme c || isInvisible c then
      ['\\', 'u', '\x7b'] ++ hex c.toNat ++ ['\x7d']
    else [c]

/-- The literal denoting the characters `cs`. -/
def quoteChars (cs : List Char) : List Char :=
  '"' :: (cs.flatMap quoteChar ++ ['"'])

/-- The literal denoting `s`. -/
def quote (s : String) : String :=
  String.ofList (quoteChars s.toList)

end ApiCodegen.Text

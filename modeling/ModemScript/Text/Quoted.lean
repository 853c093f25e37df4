import ModemScript.Unicode.Category
import ModemScript.Unicode.Property

/-!
# Quoted texts

A text in double quotes on which nothing can be mistaken: quotes and backslashes
are escaped, and so is every character that would not be seen, which is written
by its number unless it has a letter of its own. Not seen are the characters
without a glyph (controls, formats, separators other than the space, and code
points without a character) and those that only extend the one before them.
-/

namespace ModemScript.Text

open ModemScript.Unicode

/-- Whether a character is seen when it is printed. -/
def isVisible (c : Char) : Bool :=
  c == ' ' || !(BinaryProperty.graphemeExtend.contains c
    || [Category.control, .format, .surrogate, .privateUse, .unassigned, .lineSeparator,
      .paragraphSeparator, .spaceSeparator].contains (Category.ofChar c))

/-- A character as it is written in a quoted text. -/
def quotedChar (c : Char) : List Char :=
  match c with
  | '\x00' => ['\\', '0']
  | '\t' => ['\\', 't']
  | '\n' => ['\\', 'n']
  | '\r' => ['\\', 'r']
  | '"' => ['\\', '"']
  | '\\' => ['\\', '\\']
  | c => if isVisible c then [c] else ['\\', 'u', '{'] ++ Nat.toDigits 16 c.toNat ++ ['}']

def quoted (s : String) : String :=
  String.ofList (['"'] ++ s.toList.flatMap quotedChar ++ ['"'])

/-- Quoted texts in brackets with commas between them. -/
def quotedList (ss : List String) : String :=
  "[" ++ ", ".intercalate (ss.map quoted) ++ "]"

end ModemScript.Text

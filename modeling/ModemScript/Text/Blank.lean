/-!
# Blank characters

Which characters count as blank, and trimming a text of them. Blank means the
Unicode property `White_Space`: the ASCII blanks, the next-line control and the
typographic spaces, but neither the zero-width space nor the byte order mark.
The property has been closed to additions for decades, so it is written out
here as a list of ranges and not read from a table.
-/

namespace ModemScript.Text

/-- The characters of the Unicode property `White_Space`. -/
def isBlank (c : Char) : Bool :=
  let n := c.toNat
  (0x09 ≤ n && n ≤ 0x0D) || n == 0x20 || n == 0x85 || n == 0xA0 || n == 0x1680
    || (0x2000 ≤ n && n ≤ 0x200A) || n == 0x2028 || n == 0x2029 || n == 0x202F
    || n == 0x205F || n == 0x3000

/-- The text without the blanks it starts with. -/
def trimStart (s : List Char) : List Char := s.dropWhile isBlank

/-- The text without the blanks it ends with. -/
def trimEnd (s : List Char) : List Char := (s.reverse.dropWhile isBlank).reverse

/-- The text without the blanks around it. -/
def trim (s : List Char) : List Char := trimEnd (trimStart s)

end ModemScript.Text

/-!
# Lines

Two ways to cut a text into lines. Scripts end a line with a line feed, before
which one carriage return does not count (`lines`). Devices end it with a carriage
return, a line feed, or the pair of them (`replyLines`). In both a terminator at
the very end begins no further line.
-/

namespace ModemScript.Text

/-- The lines with `c` put before the first one. -/
def extend (c : Char) : List (List Char) → List (List Char)
  | [] => [[c]]
  | l :: ls => (c :: l) :: ls

/-- The lines of a text that end with a line feed or with a carriage return and a line
feed. A carriage return elsewhere belongs to its line. -/
def lines : List Char → List (List Char)
  | [] => []
  | '\r' :: '\n' :: s => [] :: lines s
  | '\n' :: s => [] :: lines s
  | c :: s => extend c (lines s)

/-- The lines of a text that end with a carriage return, a line feed, or both in this
order. -/
def replyLines : List Char → List (List Char)
  | [] => []
  | '\r' :: '\n' :: s => [] :: replyLines s
  | '\r' :: s => [] :: replyLines s
  | '\n' :: s => [] :: replyLines s
  | c :: s => extend c (replyLines s)

end ModemScript.Text

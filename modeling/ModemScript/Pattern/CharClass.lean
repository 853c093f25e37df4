import ModemScript.Pattern.Property
import ModemScript.Unicode.CaseFold

/-!
# Classes of characters

A class is an expression over ranges and named properties, and its meaning is
the test `contains`. Set operations are pointwise, and a class without regard to
case holds a character when it holds that letter in some case.
-/

namespace ModemScript.Pattern

open ModemScript.Unicode

/-- An expression for a set of characters. -/
inductive CharClass where
  | empty
  /-- The code points from `lo` to `hi`. -/
  | range (lo hi : Nat)
  | property (p : Property)
  | union (a b : CharClass)
  | inter (a b : CharClass)
  | compl (a : CharClass)
  /-- The letters of `a` in all their cases. -/
  | anyCase (a : CharClass)
  /-- The same for the letters of ASCII alone. -/
  | anyAsciiCase (a : CharClass)

namespace CharClass

def contains : CharClass → Char → Bool
  | empty, _ => false
  | range lo hi, c => lo ≤ c.toNat && c.toNat ≤ hi
  | property p, c => p.contains c
  | union a b, c => a.contains c || b.contains c
  | inter a b, c => a.contains c && b.contains c
  | compl a, c => !a.contains c
  | anyCase a, c => (CaseFold.orbit c).any fun n => a.contains (Char.ofNat n)
  | anyAsciiCase a, c => a.contains c || a.contains c.toLower || a.contains c.toUpper

def single (c : Char) : CharClass := range c.toNat c.toNat

def diff (a b : CharClass) : CharClass := inter a (compl b)

def symmDiff (a b : CharClass) : CharClass := diff (union a b) (inter a b)

def ofRanges (rs : List (Char × Char)) : CharClass :=
  rs.foldr (fun (lo, hi) acc => union (range lo.toNat hi.toNat) acc) empty

/-- Every character. -/
def all : CharClass := compl empty

/-- A rough measure of how many ranges of code units the class comes to; it serves only to
refuse patterns that are too large. -/
def ranges : CharClass → Nat
  | empty => 0
  | range lo hi => if hi < 0x80 then 1 else if lo == hi then 4 else 16
  | property _ => 1024
  | union a b => a.ranges + b.ranges
  | inter a b => a.ranges + b.ranges
  | compl a => a.ranges + 24
  | anyCase a => 2 * a.ranges
  | anyAsciiCase a => 2 * a.ranges

/-- Whether the class holds no code point from 128 to 255. -/
def isAscii (a : CharClass) : Bool :=
  (List.range 128).all fun n => !a.contains (Char.ofNat (128 + n))

/-- Decimal digits. -/
def digit : CharClass := property (.category .decimalNumber)

def space : CharClass := property (.binary .whiteSpace)

/-- Letters, marks, digits, connecting punctuation, and the two joiners. -/
def word : CharClass :=
  union (property (.binary .alphabetic)) <| union (property (.group 'M')) <|
    union digit <| union (property (.category .connectorPunctuation))
      (property (.binary .joinControl))

def asciiDigit : CharClass := ofRanges [('0', '9')]

def asciiSpace : CharClass := ofRanges [('\t', '\r'), (' ', ' ')]

def asciiWord : CharClass := ofRanges [('0', '9'), ('A', 'Z'), ('_', '_'), ('a', 'z')]

/-- The ASCII classes that have a name between `[:` and `:]`. -/
def named : List (String × CharClass) :=
  [("alnum", ofRanges [('0', '9'), ('A', 'Z'), ('a', 'z')]),
    ("alpha", ofRanges [('A', 'Z'), ('a', 'z')]),
    ("ascii", range 0 0x7F),
    ("blank", ofRanges [('\t', '\t'), (' ', ' ')]),
    ("cntrl", union (range 0 0x1F) (range 0x7F 0x7F)),
    ("digit", asciiDigit),
    ("graph", ofRanges [('!', '~')]),
    ("lower", ofRanges [('a', 'z')]),
    ("print", ofRanges [(' ', '~')]),
    ("punct", ofRanges [('!', '/'), (':', '@'), ('[', '\x60'), ('\x7B', '~')]),
    ("space", asciiSpace),
    ("upper", ofRanges [('A', 'Z')]),
    ("word", asciiWord),
    ("xdigit", ofRanges [('0', '9'), ('A', 'F'), ('a', 'f')])]

end CharClass

end ModemScript.Pattern

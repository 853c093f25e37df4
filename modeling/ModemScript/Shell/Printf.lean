import ModemScript.Text.Numeral

/-!
# Formatted output of the shell

What `printf` and `echo` make of their arguments. Backslash escapes stand for
control characters; a format takes one argument for each of its fields and is
used again as long as arguments are left.
-/

namespace ModemScript.Shell

/-- Octal digits at the head of a text, at most `n`, with the value they go on from. -/
def octal : (n : Nat) → (value : Nat) → List Char → Nat × List Char
  | n + 1, value, c :: s =>
    if '0' ≤ c && c ≤ '7' then octal n (8 * value + (c.toNat - '0'.toNat)) s
    else (value, c :: s)
  | _, value, s => (value, s)

/-- What follows a backslash: the characters it stands for, and the text after it. Nothing
if all output ends here. -/
def escape : List Char → Option (List Char × List Char)
  | [] => some (['\\'], [])
  | c :: s =>
    match c with
    | 'a' => some (['\x07'], s)
    | 'b' => some (['\x08'], s)
    | 'c' => none
    | 'f' => some (['\x0C'], s)
    | 'n' => some (['\n'], s)
    | 'r' => some (['\r'], s)
    | 't' => some (['\t'], s)
    | 'v' => some (['\x0B'], s)
    | '\\' => some (['\\'], s)
    | c =>
      if '0' ≤ c && c ≤ '7' then
        let (value, rest) := octal 3 0 (c :: s)
        some ([Char.ofNat (value % 256)], rest)
      else some (['\\', c], s)

/-- A text with its escapes resolved, and whether output goes on after it. -/
def unescape : (rounds : Nat) → List Char → List Char × Bool
  | 0, s => (s, true)
  | _, [] => ([], true)
  | rounds + 1, '\\' :: s =>
    match escape s with
    | none => ([], false)
    | some (chars, rest) =>
      let (more, goesOn) := unescape rounds rest
      (chars ++ more, goesOn)
  | rounds + 1, c :: s =>
    let (more, goesOn) := unescape rounds s
    (c :: more, goesOn)

/-- What `echo` prints. -/
def echo (args : List String) : String :=
  let (newline, args) := match args with
    | "-n" :: rest => (false, rest)
    | _ => (true, args)
  let s := (" ".intercalate args).toList
  let (text, goesOn) := unescape s.length s
  String.ofList text ++ if newline && goesOn then "\n" else ""

/-- One use of a format: what it prints, the arguments that are left, and whether any field
took one. -/
def format : (rounds : Nat) → List Char → List String → List Char × List String × Bool
  | 0, _, args => ([], args, false)
  | _, [], args => ([], args, false)
  | rounds + 1, '%' :: f :: s, args =>
    let arg := (args.headD "").toList
    let field (chars : List Char) :=
      let (more, args, _) := format rounds s args.tail
      (chars ++ more, args, true)
    match f with
    | '%' =>
      let (more, args, took) := format rounds s args
      ('%' :: more, args, took)
    | 's' => field arg
    | 'b' => field (unescape arg.length arg).1
    | 'c' => field (arg.take 1)
    | 'd' | 'i' | 'u' => field (toString ((Numeral.signed? arg).getD 0)).toList
    | 'x' => field (Nat.toDigits 16 ((Numeral.unsigned? arg).getD 0))
    | 'o' => field (Nat.toDigits 8 ((Numeral.unsigned? arg).getD 0))
    | f =>
      let (more, args, took) := format rounds s args
      ('%' :: f :: more, args, took)
  | rounds + 1, '\\' :: s, args =>
    match escape s with
    | none => ([], [], false)
    | some (chars, rest) =>
      let (more, args, took) := format rounds rest args
      (chars ++ more, args, took)
  | rounds + 1, c :: s, args =>
    let (more, args, took) := format rounds s args
    (c :: more, args, took)

/-- What a format prints when it is used until no argument is left. A format without fields
is used once. -/
def formatAll (f : List Char) : (rounds : Nat) → List String → List Char
  | 0, _ => []
  | rounds + 1, args =>
    let (text, rest, took) := format f.length f args
    if took && !rest.isEmpty then text ++ formatAll f rounds rest else text

/-- What `printf` prints. -/
def printf (args : List String) : String :=
  match args with
  | [] => ""
  | f :: args => String.ofList (formatAll f.toList (args.length + 1) args)

end ModemScript.Shell

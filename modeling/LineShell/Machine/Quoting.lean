import LineShell.Machine.Class

/-!
How tools quote names in what they say: so that the shell can read them again, or in plain quotes with
escapes.
-/

namespace LineShell.Machine.Quoting

/-- Characters that have a letter in escapes. -/
def letters : List (Char × Char) := [
  ('\x07', 'a'), ('\x08', 'b'), ('\x0c', 'f'), ('\n', 'n'), ('\r', 'r'), ('\t', 't'), ('\x0b', 'v')]

/-- A number in exactly three octal digits. -/
def octal (n : Nat) : List Char :=
  [n / 64, n / 8, n].map fun d => Char.ofNat ('0'.toNat + d % 8)

/-- The escape of a character that cannot be printed. -/
def escape (c : Char) : List Char :=
  match letters.lookup c with
  | some letter => ['\\', letter]
  | none => '\\' :: octal c.toNat

/-- In plain quotes. -/
def plain (text : String) : String :=
  let shown := text.toList.flatMap fun c =>
    if c = '\'' || c = '\\' then ['\\', c]
    else if Class.isPrintable c then [c]
    else escape c
  "'" ++ String.ofList shown ++ "'"

/-- Characters that mean the same within the double quotes of the shell as elsewhere. -/
def isHarmless (c : Char) : Bool :=
  c.isAlphanum || [' ', '\'', '%', '+', ',', '-', '.', '/', ':', ']', '_', '#', '~'].contains c

/-- Characters that mean something to the shell. -/
def isSpecial (c : Char) : Bool :=
  ['!', '"', '$', '&', '(', ')', '*', ';', '<', '=', '>', '[', '^', '\x60', '|', ' ', '?', '\\',
    '\''].contains c

/-- The characters between the quotes, where `pending` says that the last one was an escape. -/
def shellText : Bool → List Char → List Char
  | _, [] => []
  | pending, c :: rest =>
      if Class.isPrintable c then
        (if pending then ['\'', '\''] else []) ++
          (if c = '\'' then ['\'', '\\', '\'', '\''] else [c]) ++ shellText false rest
      else (if pending then [] else ['\'', '$', '\'']) ++ escape c ++ shellText true rest

/-- Quoted for the shell. -/
def always (text : String) : String :=
  let cs := text.toList
  if cs.contains '\'' && cs.all isHarmless then "\"" ++ text ++ "\""
  else "'" ++ String.ofList (shellText false cs) ++ "'"

/-- Quoted for the shell if that is needed. -/
def ifNeeded (text : String) : String :=
  let cs := text.toList
  let startsSpecial := cs.head?.any fun c => c = '#' || c = '~'
  let isBrace := text = "\x7b" || text = "\x7d"
  if cs.isEmpty || startsSpecial || isBrace || cs.any fun c => isSpecial c || !Class.isPrintable c then
    always text
  else text

end LineShell.Machine.Quoting

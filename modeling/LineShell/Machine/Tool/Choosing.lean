import LineShell.Machine.Quoting
import LineShell.Machine.Tool

/-!
Options whose value is one of some words. A word may be cut short as long as it is clear what it
means.
-/

namespace LineShell.Machine.Tool

/-- The words that an option may have as its value. Those of one list mean the same as the first of
them. -/
abbrev Choices := List (List String)

namespace Choices

/-- What a word means, or none with the reason if it is not clear. -/
def meaning (c : Choices) (text : String) : Except String String :=
  match c.find? (·.contains text) with
  | some words => .ok (words.headD "")
  | none =>
      match c.filter (·.any (·.startsWith text)) with
      | [words] => .ok (words.headD "")
      | [] => .error "invalid"
      | _ => .error "ambiguous"

/-- What a word means, if it is clear. -/
def meaning? (c : Choices) (text : String) : Option String := (c.meaning text).toOption

/-- The words, as they are shown when another one was given. -/
def shown (c : Choices) : String :=
  "Valid arguments are:\n" ++ String.join (c.map fun words =>
    "  - " ++ ", ".intercalate (words.map fun w => "'" ++ w ++ "'") ++ "\n")

/-- Insists that a word is one of those that an option may have. -/
def insist (c : Choices) (option text : String) : Tool Unit := do
  match c.meaning text with
  | .ok _ => return ()
  | .error wrong => do
      warn (wrong ++ " argument " ++ Quoting.plain text ++ " for '" ++ option ++ "'")
      say c.shown
      hint 1

end Choices

/-- How what is in the way is kept. -/
def backupChoices : Choices :=
  [["none", "off"], ["simple", "never"], ["existing", "nil"], ["numbered", "t"]]

/-- When something is to be done that makes sense only for people. -/
def whenChoices : Choices :=
  [["always", "yes", "force"], ["never", "no", "none"], ["auto", "tty", "if-tty"]]

end LineShell.Machine.Tool

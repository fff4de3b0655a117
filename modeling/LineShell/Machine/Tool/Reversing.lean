import LineShell.Machine.Regex.Parse
import LineShell.Machine.Tool.Copying

/-!
Tools that print lines, or the characters of each line, in reverse order.
-/

namespace LineShell.Machine.Tool

/-! ### Records -/

/-- What stands between the records of a text. -/
inductive Separator where
  | bytes (text : Bytes)
  | matching (r : Regex)

namespace Separator

/-- The last place in `text` at which `part` stands and that begins before `limit`. -/
def lastPlace? (part text : List Char) : Nat → Option Nat
  | 0 => none
  | limit + 1 =>
      if part.isPrefixOf (text.drop limit) then some limit else lastPlace? part text limit

/-- The last match that begins before `limit` in what comes before `limit`. -/
def lastMatch? (s : Regex.Subject) (r : Regex) : Nat → Option Regex.Match
  | 0 => none
  | limit + 1 =>
      match Regex.matchAt? s r (fun _ => true) ((Regex.start s).skip limit) with
      | some m => some m
      | none => lastMatch? s r limit

/-- The start and the end of the last separator that comes before `limit`. -/
def last? (sep : Separator) (text : List Char) (limit : Nat) : Option (Nat × Nat) :=
  match sep with
  | bytes part =>
      let part := part.map fun b => Char.ofNat b.toNat
      (lastPlace? part text (limit + 1 - part.length)).map fun start => (start, start + part.length)
  | matching r =>
      (lastMatch? { text := text.take limit } r limit).map fun m => (m.start, m.stop)

/-- The records of a text, the last one first. A separator belongs to the record that it ends or, if
`before` says so, to the one that it begins. `stop` is where the records found so far begin, and
`limit` where the search goes on. -/
def records (sep : Separator) (before : Bool) (text : List Char) :
    Nat → Bool → Nat → Nat → List (List Char)
  | 0, _, stop, _ => [text.take stop]
  | bound + 1, isFirst, stop, limit =>
      let part (start : Nat) : List Char := (text.take stop).drop start
      match sep.last? text limit with
      | none => [text.take stop]
      | some (start, finish) =>
          if before then part start :: records sep before text bound false start start
          else
            let later := records sep before text bound false finish start
            if isFirst && finish = stop then later else part finish :: later

end Separator

/-- An expression in the form of `tac`, in which a plus sign and a question mark ask for a repetition
unless a backslash stands before them, in the usual basic form. -/
def basicForm : List Char → List Char
  | '\\' :: c :: rest => if c = '+' || c = '?' then c :: basicForm rest else '\\' :: c :: basicForm rest
  | c :: rest => if c = '+' || c = '?' then '\\' :: c :: basicForm rest else c :: basicForm rest
  | [] => []

/-- Prints the records of each operand in reverse order. -/
def tac : Tool Unit := do
  let o ← options 1 "brs:" "before=b regex=r separator:=s"
  let text := (o.value? "s").getD "\n"
  let before := o.isSet "b"
  let separator ←
    if o.isSet "r" then
      if text.isEmpty then fail 1 "separator cannot be empty"
      match Regex.parse {} (basicForm text.toList) with
      | .ok (r, _) => pure (Separator.matching r)
      | .error e => fail 1 e
    else pure (.bytes (if text.isEmpty then [0] else Raw.toBytes text))
  forEach (orInput o.operands) fun operand =>
    withInput operand
      (fun e => complain ("failed to open " ++ Quoting.always operand ++ " for reading: " ++ e.sentence))
      fun d => do
        match ← everything d with
        | .error e =>
            let e := if e = .isDirectory then Errno.invalid else e
            complain (Quoting.ifNeeded (inputLabel operand) ++ ": read error: " ++ e.sentence)
        | .ok bytes =>
            match separator, before with
            | .bytes [10], false =>
                let (lines, rest) := cutLines 10 bytes
                put (rest ++ joinLines 10 lines.reverse)
            | separator, before =>
                let text := (Raw.ofBytes bytes).toList
                let records := separator.records before text (text.length + 1) true text.length
                  text.length
                put (Raw.toBytes (String.ofList records.flatten))

/-! ### Characters -/

/-- Prints the characters of each line in reverse order. A dash is the name of a file. -/
def rev : Tool Unit := do
  let o ← options 1 "0" "zero=0"
  let ending : UInt8 := if o.isSet "0" then 0 else 10
  let reverseOf (label : String) (d : Descriptor) : Tool Unit := do
    let (_, failure) ← foldLines d ending (fun whole () line => do
      put (line.reverse ++ if whole then [ending] else [])
      return .more ()) patience [] ()
    if let some e := failure then complain (label ++ ": " ++ e.sentence)
  if o.operands.isEmpty then reverseOf "stdin" Descriptor.input
  else
    forEach o.operands fun operand => do
      match ← openInput operand with
      | .error e => complain ("cannot open " ++ operand ++ ": " ++ e.sentence)
      | .ok d => do
          reverseOf operand d
          close d

end LineShell.Machine.Tool

import LineShell.Machine.Awk.State

/-!
Carrying out `awk` programs. Whatever is carried out has a bound, which what it is made of inherits
and which no program reaches.
-/

namespace LineShell.Machine.Awk.Run

/-- How a statement ends. -/
inductive Flow where
  | on
  | leave
  | goOn
  | give (v : Value)

def numberOf (v : Value) : Run Float := return v.toNumber

/-- The text that a print writes for a value. -/
def shownText (v : Value) : Run String := do return v.toText (← formatText "OFMT")

/-- The values as one key. -/
def keyOf : List Value → Run Key
  | [v] => do return v.toKey (← formatText "CONVFMT")
  | parts => do
      let texts ← parts.mapM textOf
      return .text ((← settingText "SUBSEP").intercalate texts)

/-- Prints values by a format, for the statement or function of that name. -/
def formatted (what : String) (keep : String → Run Unit) (values : List Value) : Run String := do
  match values with
  | [] => return ""
  | format :: args => do
      let format ← textOf format
      let conversion ← formatText "CONVFMT"
      let (done, trouble) :=
        Format.print (Value.toText conversion) (format.length + 1) 1 format.toList args []
      let text := String.join done.reverse
      match trouble with
      | none => return text
      | some trouble => do
          keep text
          let call := what ++ "(\"" ++ format ++ "\")"
          match trouble with
          | .missing => failRun ("not enough arguments passed to " ++ call)
          | .improper n => failRun ("improper conversion(number " ++ toString n ++ ") in " ++ call)

/-! ### Builtin functions -/

/-- The longest text that is counted on. -/
def mostLength : Int := 2147483647

/-- A part of a text. What would start before the text starts with it, and gets longer by as much. -/
def substring (text : String) (start : Float) (length : Option Float) : String :=
  let begin := Number.truncate (-mostLength) mostLength start
  let count := (length.map (Number.truncate (-mostLength) mostLength)).getD mostLength
  let count := if begin < 0 then count - begin else count
  let begin := max begin 1
  String.ofList ((text.toList.drop (begin - 1).toNat).take count.toNat)

/-- The position at which a text stands in another, where the first one is 1. -/
def indexOf (part : List Char) : Nat → List Char → Nat
  | position, text =>
      if part.isPrefixOf text then position
      else match text with
        | [] => 0
        | _ :: rest => indexOf part (position + 1) rest

def math? (b : Builtin) : Option (Float → Float) :=
  match b with
  | .sin => some Float.sin
  | .cos => some Float.cos
  | .exp => some Float.exp
  | .log => some Float.log
  | .sqrt => some Float.sqrt
  | .int => some fun x => if x.isNaN || x.isInf then x else if x < 0 then x.ceil else x.floor
  | _ => none

/-- The next number of a row without apparent order. -/
def nextRandom : Run Float := do
  let n := ((← get).random * 6364136223846793005 + 1442695040888963407) % 18446744073709551616
  modify fun s => { s with random := n }
  return Float.ofNat (n / 2048) / 9007199254740992

/-- Starts the row again, and gives the number with which it was started. -/
def startRandom (seed : Float) : Run Value := do
  let old := (← get).seed
  modify fun s => { s with seed := seed, random := seed.toBits.toNat }
  return .number old

/-- Carries out a function that takes values alone. -/
def plainBuiltin (b : Builtin) (values : List Value) : Run Value := do
  let first := values.headD .blank
  let second := values.getD 1 .blank
  match b with
  | .substr => do
      return .text (substring (← textOf first) second.toNumber
        ((values[2]?).map Value.toNumber))
  | .index => do
      return .ofNat (indexOf (← textOf second).toList 1 (← textOf first).toList)
  | .sprintf => do return .text (← formatted "sprintf" (fun _ => return ()) values)
  | .atan2 => return .number (Float.atan2 first.toNumber second.toNumber)
  | .toupper => do return .text (← textOf first).toUpper
  | .tolower => do return .text (← textOf first).toLower
  | .system => do return .number (Float.ofInt (← system (← textOf first)))
  | .close => do return .number (Float.ofInt (← close (← textOf first)))
  | .fflush => do
      flushAll
      return .number 0
  | .rand => do return .number (← nextRandom)
  | .srand => startRandom (if values.isEmpty then 0 else first.toNumber)
  | .length => do
      let v ← if values.isEmpty then record else pure first
      return .ofNat (← textOf v).length
  | b => match math? b with
    | some f => return .number (f first.toNumber)
    | none => return .blank

/-- Splits a text into the elements of an array. -/
def splitInto (id : Nat) (text : String) (s : Separator) : Run Value := do
  let parts := s.fields text.toList
  let (t, _) := parts.foldl (fun (t, n) cs =>
    (Table.insert (.number n) (Value.input (String.ofList cs)) t, n + 1)) (Table.empty, (1 : Int))
  changeTable id fun _ => t
  return .ofNat parts.length

/-- The array that a name alone stands for, if it is not that of a value. -/
def tableNamed (n : Name) : Run (Option Nat) := do
  let s ← get
  match n with
  | .shared name => return if s.shared.contains name then none else s.tableIds[name]?
  | .own index =>
      match s.frame.getD index .unset with
      | .table id | .undecided id => return some id
      | _ => return none

/-! ### What reading a record comes to -/

def ended : Value := .number 0

def unopened : Value := .number (-1)

/-- So many parameters there may be at the same time. -/
def mostStacked : Nat := 1006

mutual

def eval : Nat → Expr → Run Value
  | 0, _ => return .blank
  | bound + 1, e => do
      match e with
      | .number x => return .number x
      | .text s => return .text s
      | .regex source => matching bound false .blank (.regex source) true
      | .name n => value n
      | .field index => do
          let n := Number.truncate (-mostFields) mostFields (← number bound index)
          if n < 0 then failRun ("negative field index $" ++ toString n)
          field n.toNat
      | .element array key => do
          let key ← keyAt bound key
          element (← tableId array) key
      | .tuple parts => do return .text (← keyOf (← parts.mapM (eval bound))).toText
      | .grouped e => eval bound e
      | .assign target op e => do
          match op with
          | none => do
              let v ← eval bound e
              store bound target v
              return v
          | some op => do
              let second ← number bound e
              let first ← number bound target
              let v := Value.number (op.apply first second)
              store bound target v
              return v
      | .step target by_ before => do
          let old ← number bound target
          store bound target (.number (old + by_))
          return .number (if before then old + by_ else old)
      | .negate e => do return .number (0 - (← number bound e))
      | .plus e => do return .number (← number bound e)
      | .not e => do return .ofBool !(← holds bound e)
      | .operate op first second => do
          let x ← number bound first
          let y ← number bound second
          return .number (op.apply x y)
      | .join first second => do
          let a ← textOf (← eval bound first)
          let b ← textOf (← eval bound second)
          return .text (a ++ b)
      | .compare op first second => do
          let a ← eval bound first
          let b ← eval bound second
          return .ofBool (op.holds (← formatText "CONVFMT") a b)
      | .matches negated first second => do
          let v ← eval bound first
          matching bound negated v second false
      | .member key array => do
          let key ← keyAt bound key
          return .ofBool (← element? (← tableId array) key).isSome
      | .both first second => do
          if ← holds bound first then return .ofBool (← holds bound second)
          else return .ofBool false
      | .either first second => do
          if ← holds bound first then return .ofBool true
          else return .ofBool (← holds bound second)
      | .choice condition first second => do
          if ← holds bound condition then eval bound first else eval bound second
      | .builtin b args => builtin bound b args
      | .call function args => call bound function args
      | .getline target source => do
          match source with
          | none =>
              match ← nextRecord Tool.patience with
              | none => return ended
              | some text => do
                  keep bound target (.input text)
                  return .number 1
          | some (route, e) => do
              let name ← textOf (← eval bound e)
              match ← recordOf route name with
              | none => return unopened
              | some none => return ended
              | some (some text) => do
                  keep bound target (.input text)
                  return .number 1

/-- Puts a record that was read where it belongs. -/
def keep : Nat → Option Expr → Value → Run Unit
  | 0, _, _ => return ()
  | bound + 1, target, v =>
      match target with
      | none => setRecord v
      | some target => store bound target v

def number : Nat → Expr → Run Float
  | 0, _ => return 0
  | bound + 1, e => do return (← eval bound e).toNumber

def holds : Nat → Expr → Run Bool
  | 0, _ => return false
  | bound + 1, e => do return (← eval bound e).isTrue

/-- The key that an expression comes to. -/
def keyAt : Nat → Expr → Run Key
  | 0, _ => return .text ""
  | bound + 1, e => do
      match e with
      | .tuple parts => keyOf (← parts.mapM (eval bound))
      | e => keyOf [← eval bound e]

/-- The regular expression that an expression comes to. -/
def regexAt : Nat → Expr → Run Regex
  | 0, _ => return .nothing
  | bound + 1, e => do
      match e with
      | .regex source => findRegex source
      | .grouped (.regex source) => findRegex source
      | e => findRegex (← textOf (← eval bound e))

/-- Whether a value matches, or the record. -/
def matching : Nat → Bool → Value → Expr → Bool → Run Value
  | 0, _, _, _, _ => return .blank
  | bound + 1, negated, v, e, ofRecord => do
      let r ← regexAt bound e
      let text ← textOf (← if ofRecord then record else pure v)
      let found := (Regex.search? { text := text.toList } r 0).isSome
      return .ofBool (found != negated)

/-- Assigns a value. -/
def store : Nat → Expr → Value → Run Unit
  | 0, _, _ => return ()
  | bound + 1, target, v => do
      match target with
      | .name n => setValue n v
      | .field index => do
          let n := Number.truncate (-mostFields) mostFields (← number bound index)
          if n < 0 then failRun ("negative field index $" ++ toString n)
          setField n.toNat v
      | .element array key => do
          let key ← keyAt bound key
          setElement (← tableId array) key v
      | .grouped e => store bound e v
      | _ => return ()

def builtin : Nat → Builtin → List Expr → Run Value
  | 0, _, _ => return .blank
  | bound + 1, b, args => do
      match b, args with
      | .length, [.name n] => do
          match ← tableNamed n with
          | some id => return .ofNat (← table id).size
          | none => return .ofNat (← textOf (← value n)).length
      | .split, text :: .name array :: rest => do
          let text ← textOf (← eval bound text)
          let s ← match rest with
            | [] => findSeparator (← settingText "FS")
            | .regex source :: _ => do
                let r ← findRegex source
                pure (Separator.regex r)
            | e :: _ => findSeparator (← textOf (← eval bound e))
          splitInto (← tableId array) text s
      | .match, [text, e] => do
          let text ← textOf (← eval bound text)
          let r ← regexAt bound e
          let (start, length) := match Regex.search? { text := text.toList } r 0 with
            | some m => (Float.ofNat (m.start + 1), Float.ofNat (m.stop - m.start))
            | none => (0, -1)
          set "RSTART" (.number start)
          set "RLENGTH" (.number length)
          return .number start
      | .sub, e :: replacement :: rest => replaced bound false e replacement rest
      | .gsub, e :: replacement :: rest => replaced bound true e replacement rest
      | b, args => do plainBuiltin b (← args.mapM (eval bound))

/-- Puts a replacement in the place of matches, and tells of how many. -/
def replaced : Nat → Bool → Expr → Expr → List Expr → Run Value
  | 0, _, _, _, _ => return .blank
  | bound + 1, all, e, replacement, rest => do
      let r ← regexAt bound e
      let replacement ← textOf (← eval bound replacement)
      let target := rest.headD (.field (.number 0))
      let text ← textOf (← eval bound target)
      let (count, result) := substitute r replacement text all
      if count != 0 then store bound target (.text result)
      return .ofNat count

/-- What an argument stands for. -/
def argument : Nat → Expr → Run Slot
  | 0, _ => return .unset
  | bound + 1, e => do
      match e with
      | .name (.shared name) => do
          let s ← get
          match s.shared[name]?, s.tableIds[name]? with
          | some v, _ => return .value v
          | none, some id => return .table id
          | none, none => do
              if name = "NF" then return .value (← value (.shared name))
              return .undecided (← tableId (.shared name))
      | .name (.own index) => do
          match (← get).frame.getD index .unset with
          | .unset => do
              let id ← freshTable
              modify fun s => { s with frame := s.frame.setIfInBounds index (.undecided id) }
              return .undecided id
          | slot => return slot
      | e => return .value (← eval bound e)

/-- Calls a function. -/
def call : Nat → String → List Expr → Run Value
  | 0, _, _ => return .blank
  | bound + 1, name, args => do
      let slots ← args.mapM (argument bound)
      match (← get).functions.find? (·.name = name) with
      | none => return .blank
      | some f => do
          let frame := (← get).frame
          let rest := List.replicate (f.arity - slots.length) Slot.unset
          let stacked := (← get).stacked
          if mostStacked < stacked + f.arity then
            stop "program limit exceeded: eval stack size=1024"
          modify fun s => { s with frame := (slots ++ rest).toArray, stacked := stacked + f.arity }
          pause
          let flow ← exec bound f.body
          modify fun s => { s with frame := frame, stacked := stacked }
          match flow with
          | .give v => return v
          | _ => return .blank

def exec : Nat → Statement → Run Flow
  | 0, _ => return .on
  | bound + 1, statement => do
      match statement with
      | .nothing => return .on
      | .block list => execAll bound list
      | .expression e => do
          let _ ← eval bound e
          return .on
      | .print args sink => do
          let texts ← if args.isEmpty then do pure [← textOf (← record)] else
            args.mapM fun e => do shownText (← eval bound e)
          let line := (← settingText "OFS").intercalate texts ++ (← settingText "ORS")
          emit (← destination bound sink) line
          return .on
      | .printf args sink => do
          let values ← args.mapM (eval bound)
          let sink ← destination bound sink
          let text ← formatted "printf" (emit sink) values
          emit sink text
          return .on
      | .branch condition first second => do
          if ← holds bound condition then exec bound first else exec bound second
      | .loop condition body => do
          pause
          if ← holds bound condition then
            match ← exec bound body with
            | .leave => return .on
            | .give v => return .give v
            | _ => exec bound (.loop condition body)
          else return .on
      | .until body condition => do
          pause
          match ← exec bound body with
          | .leave => return .on
          | .give v => return .give v
          | _ =>
              if ← holds bound condition then exec bound (.until body condition) else return .on
      | .count start condition step body => do
          if let some e := start then
            let _ ← eval bound e
          pause
          let go ← match condition with
            | some e => holds bound e
            | none => pure true
          if go then
            match ← exec bound body with
            | .leave => return .on
            | .give v => return .give v
            | _ => do
                if let some e := step then
                  let _ ← eval bound e
                exec bound (.count none condition step body)
          else return .on
      | .each target array body => do
          eachKey bound target body (← keysOf (← tableId array))
      | .leave => return .leave
      | .goOn => return .goOn
      | .next => throw .next
      | .nextFile => throw .nextFile
      | .exit code => do
          if let some e := code then
            let n := Number.truncate (-mostFields) mostFields (← number bound e)
            modify fun s => { s with code := n }
          throw .exit
      | .give v =>
          match v with
          | some e => return .give (← eval bound e)
          | none => return .give .blank
      | .delete array key => do
          let id ← tableId array
          match key with
          | none => changeTable id fun _ => Table.empty
          | some key => do
              let key ← keyAt bound key
              changeTable id (·.erase key)
          return .on

/-- Carries out a statement for one key after another. -/
def eachKey : Nat → Expr → Statement → List String → Run Flow
  | 0, _, _, _ | _, _, _, [] => return .on
  | bound + 1, target, body, key :: rest => do
      pause
      store bound target (.text key)
      match ← exec bound body with
      | .leave => return .on
      | .give v => return .give v
      | _ => eachKey bound target body rest

def execAll : Nat → List Statement → Run Flow
  | 0, _ | _, [] => return .on
  | bound + 1, first :: rest => do
      match ← exec bound first with
      | .on => execAll bound rest
      | flow => return flow

/-- Where a print goes. -/
def destination : Nat → Option (Route × Expr) → Run (Option (Route × String))
  | 0, _ | _, none => return none
  | bound + 1, some (route, e) => do return some (route, ← textOf (← eval bound e))

end

/-! ### Whole programs -/

/-- A rule is carried out for the record. -/
def applies (bound index : Nat) (occasion : Occasion) : Run Bool := do
  match occasion with
  | .start | .finish => return false
  | .always => return true
  | .when condition => holds bound condition
  | .between first last => do
      if (← get).within.contains index then
        if ← holds bound last then
          modify fun s => { s with within := s.within.filter (· != index) }
        return true
      else if ← holds bound first then
        if !(← holds bound last) then
          modify fun s => { s with within := index :: s.within }
        return true
      else return false

/-- Carries out the rules that apply to the record. -/
def applyRules (bound : Nat) : Nat → List Rule → Run Unit
  | _, [] => return ()
  | index, rule :: rest => do
      if ← applies bound index rule.occasion then
        let _ ← exec bound rule.body
      applyRules bound (index + 1) rest

/-- Carries out what is left of the work on records, and tells whether it was ended before the last
one. -/
def applyAll (rules : List Rule) (bound : Nat) : Nat → Run Bool
  | 0 => return true
  | steps + 1 => do
      match ← nextRecord Tool.patience with
      | none => return false
      | some text => do
          pause
          setRecord (.input text)
          let leap ← tryCatch (do
            applyRules bound 0 rules
            return none) fun leap => return some leap
          match leap with
          | some .exit => return true
          | some .nextFile => do
              skipFile
              applyAll rules bound steps
          | _ => applyAll rules bound steps

/-- Carries out the rules for the start or the finish, and tells whether that was ended before the
last one. -/
def applyEdge (bound : Nat) (isDue : Occasion → Bool) (rules : List Rule) : Run Bool :=
  tryCatch (do
    for rule in rules.filter (isDue ·.occasion) do
      let _ ← exec bound rule.body
    return false) fun leap => return leap = .exit

/-- Carries out a program. What ends it before its finish does not keep that from being done. -/
def perform (script : Script) : Run Unit := do
  let isEdge (o : Occasion) : Bool := o matches .start | .finish
  let bound := Tool.patience
  let ended ← applyEdge bound (· matches .start) script.rules
  let waits := script.rules.any (!·.occasion matches .start)
  if waits && !ended then
    let _ ← applyAll (script.rules.filter (!isEdge ·.occasion)) bound Tool.patience
  let _ ← applyEdge bound (· matches .finish) script.rules
  leave (← get).code

end LineShell.Machine.Awk.Run

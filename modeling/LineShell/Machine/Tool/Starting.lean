import LineShell.Machine.Numeral
import LineShell.Machine.Quoting
import LineShell.Machine.Search
import LineShell.Machine.Signal
import LineShell.Machine.Stat
import LineShell.Machine.Tool

/-!
Tools that start commands: in other surroundings, for a limited time, or again and again with
arguments that are read.
-/

namespace LineShell.Machine.Tool

/-- The exit code if the file of a command is missing, and if it cannot be run. -/
def missingCode : Int := 127

def refusedCode : Int := 126

def codeOf (e : Errno) : Int := if e = .noEntry then missingCode else refusedCode

/-- Runs a command in the place of the tool, or ends with a complaint. -/
def become (argv : List String) (settings : Settings) (complaint : String → String) :
    Tool Unit := do
  flush
  let e ← act (Search.exec argv settings)
  fail (codeOf e) (complaint (Quoting.always (argv.headD "")) ++ ": " ++ e.sentence)

/-! ### Other surroundings -/

/-- The variables at the front of some words, with their values, and the words after them. -/
def assignments : List String → List (String × String) × List String
  | [] => ([], [])
  | word :: rest =>
      let name := word.toList.takeWhile (· != '=')
      if name.length < word.length then
        let (more, command) := assignments rest
        ((String.ofList name, String.ofList (word.toList.drop (name.length + 1))) :: more, command)
      else ([], word :: rest)

/-- The words of a text, between blanks and outside of quotes. -/
def splitWords : List Char → Option Char → Option (List Char) → List String
  | [], _, word => (word.map String.ofList).toList
  | c :: rest, quote, word =>
      match quote, c with
      | some q, c =>
          if c = q then splitWords rest none word
          else splitWords rest quote (some (word.getD [] ++ [c]))
      | none, '\'' => splitWords rest (some '\'') (some (word.getD []))
      | none, '"' => splitWords rest (some '"') (some (word.getD []))
      | none, c =>
          if Class.isSpace c then (word.map String.ofList).toList ++ splitWords rest none none
          else splitWords rest none (some (word.getD [] ++ [c]))

/-- Puts the words of a text in the place of the option that has it. -/
def spreadOption : List String → List String
  | [] => []
  | "-S" :: text :: rest => splitWords text.toList none none ++ rest
  | arg :: rest =>
      if arg.startsWith "-S" then splitWords (arg.toList.drop 2) none none ++ rest
      else if arg.startsWith "--split-string=" then
        splitWords (arg.toList.drop "--split-string=".length) none none ++ rest
      else if arg.startsWith "-" && arg != "-" && arg != "--" then arg :: spreadOption rest
      else arg :: rest

def env : Tool Unit := do
  let o ← optionsOf 125 "+0iu:C:S:v"
    ("ignore-environment=i null=0 unset:=u chdir:=C default-signal:: ignore-signal:: " ++
      "block-signal:: list-signal-handling debug=v split-string:=S") (spreadOption (← read).arguments)
  let (empties, operands) := match o.operands with
    | "-" :: rest => (true, rest)
    | operands => (false, operands)
  let own := (← world).self.settings
  let start : Settings := if empties || o.isSet "i" then [] else own
  let (given, command) := assignments operands
  for (key, name) in o.given do
    if key = "u" && (name.isEmpty || name.contains '=') then
      fail 125 ("cannot unset " ++ Quoting.always name ++ ": " ++ Errno.invalid.sentence)
  let kept := o.given.foldl (fun (s : Settings) (key, name) =>
    if key = "u" then s.drop name else s) start
  let settings := given.foldl (fun (s : Settings) (name, value) => s.assign name value) kept
  if command.isEmpty then
    if o.isSet "C" then misuse 125 "must specify command with --chdir (-C)"
    for (name, value) in settings do
      putText (name ++ "=" ++ value ++ if o.isSet "0" then "\x00" else "\n")
  else
    if o.isSet "0" then misuse 125 "cannot specify --null (-0) with command"
    if let some path := o.value? "C" then
      if let .error e ← instant (World.changeDirectory path) then
        fail 125 ("cannot change directory to " ++ Quoting.always path ++ ": " ++ e.sentence)
    become command settings id

def nohup : Tool Unit := do
  let o ← options 125 "+" ""
  if o.operands.isEmpty then misuse 125 "missing operand"
  instant (modify fun w => { w with self := { w.self with ignored := 1 :: w.self.ignored } })
  become o.operands (← world).self.settings ("failed to run command " ++ ·)

def nice : Tool Unit := do
  let o ← options 125 "+n:" "adjustment:=n"
  if o.operands.isEmpty then
    if o.isSet "n" then misuse 125 "a command must be given with an adjustment"
    putText "0\n"
  else become o.operands (← world).self.settings id

/-! ### Time -/

def nanoseconds : Nat := 1000000000

def secondsIn (suffix : List Char) : Option Nat :=
  match suffix with
  | [] | ['s'] => some 1
  | ['m'] => some 60
  | ['h'] => some 3600
  | ['d'] => some 86400
  | _ => none

/-- The longest time that is waited for. -/
def forever : Nat := 1000000000 * nanoseconds

/-- The nanoseconds that a text stands for. -/
def duration? (text : String) : Option Nat :=
  if text.toList.head?.any Class.isSpace then none
  else
    match Numeral.real? text.toList with
    | some (.finite negative r, suffix) =>
        if negative && !r.isZero then none
        else (secondsIn suffix).map fun unit =>
          min forever ((r.top * unit * nanoseconds + r.bottom - 1) / r.bottom)
    | some (.infinite false, suffix) => (secondsIn suffix).map fun _ => forever
    | _ => none

def sleep : Tool Unit := do
  let o ← options 1 "+" ""
  if o.operands.isEmpty then misuse 1 "missing operand"
  let times ← o.operands.mapM fun text => do
    match duration? text with
    | some time => return time
    | none => do
        warn ("invalid time interval " ++ Quoting.plain text)
        blame 1
        return 0
  if (← get).code != 0 then hint 1
  act (.sleep (times.foldl (· + ·) 0))

/-! ### Children -/

/-- Starts a command, which reads from `input` if that is given, and tells why it cannot be run. -/
def launch (argv : List String) (input : Option String) : Tool (Except Errno Pid) := do
  flush
  match ← instant World.pipe with
  | .error e => return .error e
  | .ok (reader, writer) => do
      let settings := (← world).self.settings
      let prepare : Instant Descriptor := do
        if let some path := input then
          let _ ← World.close Descriptor.input
          let _ ← World.openPath .forReading path
        let news ← World.duplicate writer 3 true
        let _ ← World.close writer
        let _ ← World.close reader
        return news.toOption.getD writer
      let child : Program := (do
        let news ← Act.instant prepare
        let e ← Search.exec argv settings
        let _ ← Act.write news [e.number.toNat.toUInt8]
        Act.exit (codeOf e) : Act Empty) nofun
      let pid ← act (.fork child)
      let _ ← instant (World.close writer)
      let news ← act (.read reader 1)
      let _ ← instant (World.close reader)
      match news with
      | .ok [number] => do
          let _ ← act (.wait (some pid) .endless)
          return .error ⟨number.toNat⟩
      | _ => return .ok pid

/-- How a child ended for which the tool waits. -/
def endingOf (pid : Pid) : Tool Ending := do
  match ← act (.wait (some pid) .endless) with
  | .ended _ ending => return ending
  | _ => return .exited 0

def signalNumber? (text : String) : Option Nat :=
  if text.all Char.isDigit && !text.isEmpty then text.toNat?
  else
    let name := if text.toUpper.startsWith "SIG" then (text.drop 3).copy else text
    Signal.number? name

def timeout : Tool Unit := do
  let o ← options 125 "+k:s:v" "kill-after:=k signal:=s verbose=v foreground preserve-status"
  match o.operands with
  | text :: name :: rest => do
      let some time := duration? text
        | misuse 125 ("invalid time interval " ++ Quoting.plain text)
      let some signal := signalNumber? ((o.value? "s").getD "TERM")
        | misuse 125 (Quoting.plain ((o.value? "s").getD "") ++ ": invalid signal")
      match ← launch (name :: rest) none with
      | .error e =>
          fail (codeOf e) ("failed to run command " ++ Quoting.always name ++ ": " ++ e.sentence)
      | .ok pid => do
          let timer ← if time = 0 then pure 0 else
            act (.fork ((do
              Act.sleep time
              Act.exit 0 : Act Empty) nofun))
          let (late, ending) ← match ← act (.wait none .endless) with
            | .ended first ending =>
                if first = timer && time != 0 then do
                  let _ ← act (.kill pid signal)
                  pure (true, ← endingOf pid)
                else do
                  let _ ← act (.kill timer Signal.kill)
                  pure (false, ending)
            | _ => pure (false, .exited 0)
          match late && !o.isSet "preserve-status", ending with
          | true, .killed 9 => do
              let _ ← act (.kill (← world).self.pid Signal.kill)
              exit 137
          | true, _ => exit 124
          | false, .exited code => exit code
          | false, .killed signal => do
              if !late then
                let _ ← act (.kill (← world).self.pid signal.toNat)
              exit (128 + signal)
  | _ => hint 125

def killUsage : String :=
  "\nUsage:\n kill [options] <pid> [...]\n\nOptions:\n" ++
  " <pid> [...]            send signal to every <pid> listed\n" ++
  " -<signal>, -s, --signal <signal>\n" ++
  "                        specify the <signal> to be sent\n" ++
  " -q, --queue <value>    integer value to be sent with the signal\n" ++
  " -l, --list=[<signal>]  list all signal names, or convert one to a name\n" ++
  " -L, --table            list all signal names in a nice table\n\n" ++
  " -h, --help     display this help and exit\n" ++
  " -V, --version  output version information and exit\n\n" ++
  "For more details see kill(1).\n"

/-- The names of the signals, as the tool that sends them has them. -/
def signalNames : List String :=
  (Signal.table.map (·.1)).map fun name => if name = "IO" then "POLL" else name

/-- Texts in lines of at most a width, with blanks between them. -/
def fillLines (width : Nat) : List String → String → String
  | [], line => line ++ "\n"
  | word :: rest, line =>
      if line.isEmpty then fillLines width rest word
      else if width < line.length + 1 + word.length then
        line ++ "\n" ++ fillLines width rest word
      else fillLines width rest (line ++ " " ++ word)

def killEach (signal : Nat) (targets : List String) : Tool Unit :=
  forEach targets fun target => do
    match Numeral.decimal? target.toList with
    | some (pid, []) => do
        if let .error e ← act (.kill pid signal) then
          complain ("(" ++ target ++ "): " ++ e.sentence)
    | _ => fail 1 ("failed to parse argument: " ++ Quoting.plain target)

def kill : Tool Unit := do
  let usage : Tool Unit := do
    say killUsage
    exit 1
  match (← read).arguments with
  | [] => usage
  | ["-l"] | ["--list"] => putText (fillLines 77 signalNames "")
  | "-l" :: text :: _ =>
      match count? text with
      | some n => match Signal.name? (n % 128) with
          | some name => putText (name ++ "\n")
          | none => fail 1 ("unknown signal name " ++ text)
      | none => match signalNumber? text with
          | some n => putText (toString n ++ "\n")
          | none => fail 1 ("unknown signal name " ++ text)
  | "-s" :: name :: rest | "--signal" :: name :: rest =>
      match signalNumber? name with
      | some signal => killEach signal rest
      | none => do
          warn ("unknown signal name " ++ name)
          usage
  | "--" :: rest => killEach Signal.terminate rest
  | first :: rest =>
      match first.toList with
      | '-' :: name =>
          match signalNumber? (String.ofList name) with
          | some signal => if rest.isEmpty then usage else killEach signal rest
          | none => do
              warn ("invalid argument " ++ String.ofList (name.take 1))
              usage
      | _ => killEach Signal.terminate (first :: rest)

def which : Tool Unit := do
  let arguments := (← read).arguments
  let flags := arguments.takeWhile fun a => a.startsWith "-" && a != "--"
  let names := arguments.drop flags.length
  let names := if names.head? = some "--" then names.drop 1 else names
  let letters := flags.flatMap fun f => f.toList.drop 1
  if let some letter := letters.find? fun c => c != 'a' && c != 's' then
    say ("Illegal option -" ++ String.singleton letter ++ "\n")
    putText "Usage: /usr/bin/which [-as] args\n"
    exit 2
  if names.isEmpty then exit 1
  let path := ((← world).self.settings.lookup "PATH").getD ""
  forEach names fun name => do
    let places := if name.contains '/' then [name] else Search.paths path name
    let found ← places.filterM fun place => do
      return (← instant (testPath 'f' place)) && (← instant (testPath 'x' place))
    if found.isEmpty then blame 1
    let shown := if letters.contains 'a' then found else found.take 1
    if !letters.contains 's' then putText (String.join (shown.map (· ++ "\n")))

/-! ### Commands with arguments that are read -/

/-- How `xargs` makes commands. -/
structure Gathering where
  command : List String
  /-- So many arguments, and so many lines of them, go into one command. -/
  most : Option Nat
  lines : Option Nat
  /-- The text in the place of which an argument is put. -/
  place : Option String
  size : Nat
  /-- No command is started if there is nothing for it. -/
  sparing : Bool
  tells : Bool
  /-- Commands that would be too long are not split. -/
  strict : Bool

/-- An argument, and whether it is the last one of its line. -/
structure Item where
  text : List Char
  closes : Bool
  deriving DecidableEq, Repr

/-- The items of a text, outside of quotes, where `word` is the one that has begun. Instead of the
end there may be a quote that is not closed, or the item that ends it all. -/
def items (wholeLines : Bool) (stop : Option String) :
    Nat → List Char → Option (List Char) → Bool → List Item → Except (Char × List Item) (List Item)
  | 0, _, _, _, found => .ok found.reverse
  | _, [], word, _, found =>
      .ok ((word.elim found fun w => ⟨w.reverse, true⟩ :: found).reverse)
  | bound + 1, c :: rest, word, blank, found =>
      let close (closes : Bool) : Except (Char × List Item) (List Item) :=
        match word with
        | none => items wholeLines stop bound rest none blank found
        | some w =>
            if stop = some (String.ofList w.reverse) then .ok found.reverse
            else items wholeLines stop bound rest none false (⟨w.reverse, closes⟩ :: found)
      if c = '\\' then
        match rest with
        | next :: rest =>
            items wholeLines stop bound rest (some (next :: word.getD [])) false found
        | [] => .ok ((word.elim found fun w => ⟨w.reverse, true⟩ :: found).reverse)
      else if c = '\'' || c = '"' then
        let inside := rest.takeWhile fun d => d != c && d != '\n'
        match rest.drop inside.length with
        | d :: after =>
            if d = c then
              items wholeLines stop bound after (some (inside.reverse ++ word.getD [])) false found
            else .error (c, found.reverse)
        | [] => .error (c, found.reverse)
      else if c = '\n' then close !blank
      else if Class.isBlank c && !wholeLines then
        match word with
        | none => items wholeLines stop bound rest none blank found
        | some w =>
            if stop = some (String.ofList w.reverse) then .ok found.reverse
            else items wholeLines stop bound rest none true (⟨w.reverse, false⟩ :: found)
      else if Class.isBlank c && word.isNone then
        items wholeLines stop bound rest none blank found
      else items wholeLines stop bound rest (some (c :: word.getD [])) false found

/-- Texts with a text in the place of another. -/
def substitute (old new : List Char) : Nat → List Char → List Char
  | 0, text => text
  | _, [] => []
  | bound + 1, c :: rest =>
      if !old.isEmpty && old.isPrefixOf (c :: rest) then
        new ++ substitute old new bound ((c :: rest).drop old.length)
      else c :: substitute old new bound rest

namespace Gathering

/-- Runs one command, and comes to an end if no more should be run. -/
def run (g : Gathering) (input : Option String) (arguments : List String) : Tool Unit := do
  let argv := match g.place with
    | some old => g.command.map fun word =>
        String.ofList (substitute old.toList (arguments.headD "").toList (word.length + 1)
          word.toList)
    | none => g.command ++ arguments
  let name := argv.headD ""
  if g.tells then say (" ".intercalate (argv.map Quoting.ifNeeded) ++ "\n")
  match ← launch argv input with
  | .error e => fail (codeOf e) (name ++ ": " ++ e.sentence)
  | .ok pid =>
      match ← endingOf pid with
      | .exited 0 => return ()
      | .exited 255 => fail 124 (name ++ ": exited with status 255; aborting")
      | .exited _ => blame 123
      | .killed signal => fail 125 (name ++ ": terminated by signal " ++ toString signal)

def sizeOf (words : List String) : Nat := words.foldl (fun n w => n + w.length + 1) 0

/-- Runs commands with arguments, where those in `held` are for the next one. -/
def gather (g : Gathering) (input : Option String) :
    List Item → List String → Nat → Nat → Tool Unit
  | [], held, _, _ => if held.isEmpty then return () else g.run input held.reverse
  | item :: rest, held, size, lines => do
      let text := String.ofList item.text
      let base := sizeOf g.command
      let room := text.length + 1
      if g.size < base + room then fail 1 "argument line too long"
      let (held, size, lines) ← if g.size < size + room && !held.isEmpty then do
          if g.strict then fail 1 "argument list too long"
          g.run input held.reverse
          pure (([] : List String), base, 0)
        else pure (held, size, lines)
      let held := text :: held
      let lines := if item.closes then lines + 1 else lines
      if g.most = some held.length || g.lines = some lines then
        g.run input held.reverse
        gather g input rest [] base 0
      else gather g input rest held (size + room) lines

end Gathering

/-- A number that an option of `xargs` gives. -/
def gatherNumber (o : Options) (key : String) (least : Nat) : Tool (Option Nat) := do
  match o.value? key with
  | none => return none
  | some text =>
      match Numeral.integer? text.toList with
      | some (n, []) =>
          if n < least then
            misuse 1 ("value " ++ text ++ " for -" ++ key ++ " option should be >= " ++
              toString least)
          else return some n.toNat
      | _ => misuse 1 ("invalid number \"" ++ text ++ "\" for -" ++ key ++ " option")

def xargs : Tool Unit := do
  let o ← options 1 "+0a:E:e::i::I:l::L:n:prs:txP:d:"
    ("null=0 arg-file:=a delimiter:=d eof::=e replace::=i max-lines::=l max-args:=n open-tty " ++
      "interactive=p no-run-if-empty=r max-chars:=s verbose=t show-limits exit=x max-procs:=P " ++
      "process-slot-var: version help")
  let most ← gatherNumber o "n" 1
  let lines ← gatherNumber o "L" 1
  let lines := if o.isSet "l" then
      some ((((o.value? "l").getD "").toNat?).getD 1) else lines
  let size ← gatherNumber o "s" 1
  let place := match o.last? ["I", "i"] with
    | some "I" => o.value? "I"
    | some _ => some (if ((o.value? "i").getD "").isEmpty then "\x7b\x7d" else (o.value? "i").getD "")
    | none => none
  let (place, most, lines) := match o.last? ["I", "i", "n", "L", "l"] with
    | some "n" => if most = some 1 && place.isSome then (place, none, none) else (none, most, none)
    | some "L" | some "l" => (none, none, lines)
    | _ => (place, none, none)
  let g : Gathering := {
    command := if o.operands.isEmpty then ["echo"] else o.operands
    most := if place.isSome then some 1 else most
    lines := lines, place := place, size := min 131072 (size.getD 131072)
    sparing := o.isSet "r" || place.isSome, tells := o.isSet "t" || o.isSet "p"
    strict := o.isSet "x" }
  let input := match o.value? "a" with
    | some _ => none
    | none => some "/dev/null"
  let bytes ← match o.value? "a" with
    | some path =>
        match ← openInput path with
        | .error e => fail 1 ("Cannot open input file " ++ Quoting.plain path ++ ": " ++ e.sentence)
        | .ok d => do
            let bytes ← everything d
            close d
            pure bytes
    | none => everything Descriptor.input
  let text := match bytes with
    | .ok bytes => (Raw.ofBytes bytes).toList
    | .error _ => []
  let delimiter := match o.last? ["0", "d"] with
    | some "0" => some '\x00'
    | some _ => match ((o.value? "d").getD "").toList with
        | ['\\', 'n'] => some '\n'
        | ['\\', 't'] => some '\t'
        | ['\\', '0'] => some '\x00'
        | c :: _ => some c
        | [] => some '\x00'
    | none => none
  let stop := match o.last? ["E", "e"] with
    | some key => (o.value? key).filter (!·.isEmpty)
    | none => none
  let base := Gathering.sizeOf g.command
  match delimiter with
  | some mark => do
      let parts := pieces (· = mark) text
      let parts := if parts.getLast? = some [] then parts.dropLast else parts
      if parts.isEmpty then
        if !g.sparing then g.run input []
      else g.gather input (parts.map fun p => ⟨p, true⟩) [] base 0
  | none =>
      match items g.place.isSome stop (text.length + 1) text none false [] with
      | .ok list =>
          if list.isEmpty then
            if !g.sparing then g.run input []
          else g.gather input list [] base 0
      | .error (quote, list) => do
          if !list.isEmpty then g.gather input list [] base 0
          fail 1 ("unmatched " ++ (if quote = '"' then "double" else "single") ++
            " quote; by default quotes are special to xargs unless you use the -0 option")

end LineShell.Machine.Tool

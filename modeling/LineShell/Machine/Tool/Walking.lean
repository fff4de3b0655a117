import LineShell.Machine.Glob
import LineShell.Machine.Mode
import LineShell.Machine.Regex.Parse
import LineShell.Machine.Tool.Listing
import LineShell.Machine.Tool.Starting

/-!
A tool that walks through directories and does something with the files that it finds there.
-/

namespace LineShell.Machine.Tool

/-- What a number is compared with. -/
inductive Measure where
  | exactly (n : Nat)
  | above (n : Nat)
  | under (n : Nat)
  deriving DecidableEq, Repr

def Measure.holds (n : Nat) : Measure → Bool
  | exactly m => n = m
  | above m => m < n
  | under m => n < m

/-- How permission bits are compared with those that are given. -/
inductive ModeMatch where
  | exactly
  | allOf
  | anyOf
  deriving DecidableEq, Repr

/-- Something asked of a file, or done with it. -/
inductive Finder where
  | name (folds : Bool) (pattern : String)
  | path (folds : Bool) (pattern : String)
  | linkName (folds : Bool) (pattern : String)
  | regex (folds : Bool) (r : Regex)
  | kind (follows : Bool) (letters : List Char)
  | size (unit : Nat) (bound : Measure)
  | empty
  | newer (stamp : Nat)
  | permissions (how : ModeMatch) (bits : Nat)
  | links (bound : Measure)
  | node (n : Option NodeId)
  | may (letter : Char)
  /-- Whole units of time since a change. -/
  | age (bound : Measure)
  | constant (value : Bool)
  | print (ending : String)
  | printFormat (format : List Char)
  | exec (command : List String) (asks : Bool)
  /-- A command for many files at once; the number tells it from others. -/
  | execMany (number : Nat) (command : List String)
  | delete
  | prune
  | quit
  | list

inductive Query where
  | ask (f : Finder)
  | not (q : Query)
  | both (a b : Query)
  | either (a b : Query)
  | last (a b : Query)

namespace Finder

def isAction : Finder → Bool
  | print _ | printFormat _ | exec .. | execMany .. | delete | list => true
  | _ => false

end Finder

namespace Query

def any (p : Finder → Bool) : Query → Bool
  | ask f => p f
  | not q => q.any p
  | both a b | either a b | last a b => a.any p || b.any p

def finders : Query → List Finder
  | ask f => [f]
  | not q => q.finders
  | both a b | either a b | last a b => a.finders ++ b.finders

end Query

/-- A file that was found. -/
structure Found where
  path : String
  /-- The operand below which it was found. -/
  start : String
  depth : Nat
  stat : Stat

structure WalkState where
  pruned : Bool := false
  ended : Bool := false
  /-- The files for commands that take many at once. -/
  held : List (Nat × List String) := []

/-- How the walk goes. -/
structure Walk where
  query : Query
  least : Nat := 0
  most : Option Nat := none
  /-- What is in a directory comes before it. -/
  depthFirst : Bool := false
  follows : Bool := false
  followsOperands : Bool := false

namespace Walk

def baseName (path : String) : String :=
  let body := FileTree.withoutSlashes path
  if body.all (· = '/') then body
  else String.ofList ((body.toList.reverse.takeWhile (· != '/')).reverse)

def parentName (path : String) : String :=
  let above := (FileTree.withoutSlashes path).toList.reverse.dropWhile (· != '/')
  match above with
  | [] => "."
  | ['/'] => "/"
  | _ :: rest => String.ofList rest.reverse

def globMatches (folds : Bool) (pattern text : String) : Bool :=
  let fold (t : String) : String := if folds then t.toLower else t
  Glob.matchesAll (Glob.ofText (fold pattern)) (fold text).toList

def typeLetter (s : Stat) : Char :=
  match s.kind with
  | .regular => 'f'
  | .directory => 'd'
  | .link => 'l'
  | .character => 'c'
  | .pipe => 'p'

/-- A part of a format: what it shows, and what follows. -/
def directive (f : Found) (linkText : String) (c : Char) : Option String :=
  let below := f.path.toList.drop f.start.length
  let below := if below.head? = some '/' then below.drop 1 else below
  match c with
  | 'p' => some f.path
  | 'f' => some (baseName f.path)
  | 'h' => some (parentName f.path)
  | 'P' => some (String.ofList below)
  | 'H' => some f.start
  | 'd' => some (toString f.depth)
  | 's' => some (toString f.stat.size)
  | 'b' => some (toString (Listing.blockCount f.stat * 2))
  | 'k' => some (toString (Listing.blockCount f.stat))
  | 'm' => some (String.ofList (Nat.toDigits 8 f.stat.mode))
  | 'M' => some (Listing.kindLetter f.stat ++ modeLetters f.stat.mode)
  | 'y' | 'Y' => some (String.singleton (typeLetter f.stat))
  | 'l' => some linkText
  | 'n' => some (toString f.stat.names)
  | 'i' => some (toString (f.stat.node + 2))
  | 'u' | 'g' => some "root"
  | 'U' | 'G' => some "0"
  | '%' => some "%"
  | _ => none

def formatText (f : Found) (linkText : String) : Nat → List Char → String
  | 0, _ | _, [] => ""
  | bound + 1, '%' :: c :: rest =>
      (directive f linkText c).getD ("%" ++ String.singleton c) ++ formatText f linkText bound rest
  | bound + 1, '\\' :: c :: rest =>
      let letters : List (Char × Char) := [('n', '\n'), ('t', '\t'), ('0', '\x00'), ('\\', '\\'),
        ('a', '\x07'), ('b', '\x08'), ('f', '\x0c'), ('r', '\r'), ('v', '\x0b')]
      if c = 'c' then ""
      else ((letters.lookup c).elim (String.ofList ['\\', c]) String.singleton) ++
        formatText f linkText bound rest
  | bound + 1, c :: rest => String.singleton c ++ formatText f linkText bound rest

/-- Words with the path in the place of each pair of braces. -/
def withPath (command : List String) (path : String) : List String :=
  command.map fun word => String.ofList
    (substitute ['\x7b', '\x7d'] path.toList (word.length + 1) word.toList)

/-- Runs a command to its end, and gives whether it succeeded. -/
def runCommand (argv : List String) : Tool Bool := do
  match ← launch argv none with
  | .error e => do
      warn (Quoting.always (argv.headD "") ++ ": " ++ e.sentence)
      return false
  | .ok pid => return (← endingOf pid) matches .exited 0

/-- Asks one thing of a file, or does it. -/
def apply (w : Walk) (f : Found) (st : WalkState) : Finder → Tool (Bool × WalkState)
  | .name folds pattern => return (globMatches folds pattern (baseName f.path), st)
  | .path folds pattern => return (globMatches folds pattern f.path, st)
  | .linkName folds pattern => do
      let text ← linkTarget f.stat.node
      return (f.stat.kind = .link && globMatches folds pattern text, st)
  | .regex folds r =>
      let s : Regex.Subject := { text := f.path.toList, folds := folds }
      let found := Regex.matchAt? s r (·.rest.isEmpty) (Regex.start s)
      return (found.isSome, st)
  | .kind follows letters => do
      if follows != w.follows then
        match ← instant (Stat.ofPath true f.path) with
        | .ok s => return (letters.contains (typeLetter s), st)
        | .error _ => return (letters.contains 'l', st)
      else return (letters.contains (typeLetter f.stat), st)
  | .size unit bound => return (bound.holds ((f.stat.size + unit - 1) / unit), st)
  | .empty =>
      match f.stat.kind with
      | .regular => return (f.stat.size = 0, st)
      | .directory => return ((← namesWithin f.stat.node).isEmpty, st)
      | _ => return (false, st)
  | .newer stamp => return (decide (stamp < f.stat.stamp), st)
  | .permissions how bits =>
      let shared := f.stat.mode &&& bits
      return (match how with
        | .exactly => f.stat.mode = bits
        | .allOf => shared = bits
        | .anyOf => bits = 0 || shared != 0, st)
  | .links bound => return (bound.holds f.stat.names, st)
  | .node n => return (n = some f.stat.node, st)
  | .may letter => return (← instant (testPath letter f.path), st)
  | .age bound => return (bound.holds 0, st)
  | .constant value => return (value, st)
  | .print ending => do
      putText (f.path ++ ending)
      return (true, st)
  | .printFormat format => do
      let text ← linkTarget f.stat.node
      putText (formatText f text (format.length + 1) format)
      return (true, st)
  | .exec command asks => do
      if asks then
        flush
        say ("< " ++ command.headD "" ++ " ... " ++ f.path ++ " > ? ")
        let first ← answer patience none
        if first != some 121 && first != some 89 then return (false, st)
      return (← runCommand (withPath command f.path), st)
  | .execMany number _ =>
      let others := st.held.filter (·.1 != number)
      let mine := (st.held.lookup number).getD []
      return (true, { st with held := others ++ [(number, f.path :: mine)] })
  | .delete => do
      if f.path = "." then return (true, st)
      let isDirectory := f.stat.kind = .directory
      match ← instant (World.change fun t cwd =>
          if isDirectory then t.removeDirectory cwd f.path else t.removeFile cwd f.path) with
      | .ok () => return (true, st)
      | .error e => do
          complain ("cannot delete " ++ quoted f.path e)
          return (false, st)
  | .prune => return (true, { st with pruned := true })
  | .quit => return (true, { st with ended := true })
  | .list => do
      putText ("        " ++ toString (f.stat.node + 2) ++ "      " ++
        toString (Listing.blockCount f.stat) ++ " " ++ Listing.kindLetter f.stat ++
        modeLetters f.stat.mode ++ "   " ++ toString f.stat.names ++ " root     root     " ++
        padLeft 8 (toString f.stat.size) ++ " Jan  1 00:00 " ++ f.path ++ "\n")
      return (true, st)

def evaluate (w : Walk) (f : Found) : Query → WalkState → Tool (Bool × WalkState)
  | .ask finder, st => if st.ended then return (false, st) else w.apply f st finder
  | .not q, st => do
      let (value, st) ← w.evaluate f q st
      return (!value, st)
  | .both a b, st => do
      let (value, st) ← w.evaluate f a st
      if value then w.evaluate f b st else return (false, st)
  | .either a b, st => do
      let (value, st) ← w.evaluate f a st
      if value then return (true, st) else w.evaluate f b st
  | .last a b, st => do
      let (_, st) ← w.evaluate f a st
      w.evaluate f b st

/-- Visits a file, and if it is a directory what is in it. -/
def visit (w : Walk) (start : String) : Nat → Nat → String → WalkState → Tool WalkState
  | 0, _, _, st => return st
  | bound + 1, depth, path, st => do
      if st.ended then return st
      let follows := w.follows || (w.followsOperands && depth = 0)
      match ← Listing.statOf follows path with
      | .error e => do
          complain (quoted path e)
          return st
      | .ok s => do
          let f : Found := ⟨path, start, depth, s⟩
          let judge (st : WalkState) : Tool WalkState := do
            if depth < w.least then return st
            return (← w.evaluate f w.query st).2
          let st := { st with pruned := false }
          let st ← if w.depthFirst then pure st else judge st
          let isOpen := s.kind = .directory && (w.depthFirst || !st.pruned) &&
            !(w.most.any (· ≤ depth)) && !st.ended
          let names ← if isOpen then namesWithin s.node else pure []
          let st ← names.foldlM (fun st name => visit w start bound (depth + 1) (below path name) st) st
          if w.depthFirst then judge st else return st

/-- Runs the commands that take many files at once. -/
def finishCommands (w : Walk) (st : WalkState) : Tool Unit := do
  for f in w.query.finders do
    if let .execMany number command := f then
      let files := ((st.held.lookup number).getD []).reverse
      if !files.isEmpty then
        if !(← runCommand (command ++ files)) then blame 1

/-! ### Reading the query -/

/-- The numbers that are compared with, as `+2`, `-2` and `2`. -/
def measure? (text : String) : Option Measure :=
  match text.toList with
  | '+' :: digits => (count? (String.ofList digits)).map .above
  | '-' :: digits => (count? (String.ofList digits)).map .under
  | _ => (count? text).map .exactly

def sizeUnit? (text : String) : Option (Nat × String) :=
  let body := (text.toList.reverse.drop 1).reverse
  let unit := match text.toList.getLast? with
    | some 'c' => some 1
    | some 'w' => some 2
    | some 'b' => some 512
    | some 'k' => some 1024
    | some 'M' => some 1048576
    | some 'G' => some 1073741824
    | _ => none
  match unit with
  | some unit => some (unit, String.ofList body)
  | none => some (512, text)

def permissions? (text : String) : Option (ModeMatch × Nat) :=
  let (how, body) := match text.toList with
    | '-' :: rest => (ModeMatch.allOf, String.ofList rest)
    | '/' :: rest => (.anyOf, String.ofList rest)
    | _ => (.exactly, text)
  (Mode.ofText? body).map fun change => (how, change.apply false 0 0)

/-- What the options of the walk say, as far as it has been read. -/
structure Reading where
  rest : List String
  walk : Walk
  commands : Nat := 0

abbrev Read := StateT Reading Tool

def argument (name : String) : Read String := do
  let st ← get
  match st.rest with
  | a :: rest => do
      set { st with rest := rest }
      return a
  | [] => fail 1 ("missing argument to \x60" ++ name ++ "'")

def invalidArgument {α : Type} (name text : String) : Read α :=
  fail 1 ("invalid argument \x60" ++ text ++ "' to \x60" ++ name ++ "'")

def measureArgument (name : String) : Read Measure := do
  let text ← argument name
  match measure? text with
  | some b => return b
  | none => invalidArgument name text

/-- The words of a command up to its end, and whether it takes many files. -/
def commandWords (many : Bool) : List String → List String → Option (List String × Bool × List String)
  | [], _ => none
  | ";" :: rest, found => some (found.reverse, false, rest)
  | word :: rest, found =>
      if many && word = "+" && found.head? = some "\x7b\x7d" then
        some ((found.drop 1).reverse, true, rest)
      else commandWords many rest (word :: found)

def setWalk (f : Walk → Walk) : Read Finder := do
  modify fun st => { st with walk := f st.walk }
  return .constant true

/-- Reads one predicate with its arguments. -/
def predicate (name : String) : Read Finder := do
  match name with
  | "-name" => return .name false (← argument name)
  | "-iname" => return .name true (← argument name)
  | "-path" | "-wholename" => return .path false (← argument name)
  | "-ipath" | "-iwholename" => return .path true (← argument name)
  | "-lname" => return .linkName false (← argument name)
  | "-ilname" => return .linkName true (← argument name)
  | "-regex" | "-iregex" =>
      let text ← argument name
      match Regex.parse {} text.toList with
      | .ok (r, _) => return .regex (name = "-iregex") r
      | .error e => fail 1 ("failed to compile regular expression '" ++ text ++ "': " ++ e)
  | "-type" | "-xtype" =>
      let text ← argument name
      let letters := (pieces (· = ',') text.toList)
      if text.isEmpty then fail 1 ("Arguments to " ++ name ++ " should contain at least one letter")
      for l in letters do
        if !("bcdpflsD".toList.map ([·])).contains l then
          fail 1 (if l.length ≤ 1 then "Unknown argument to " ++ name ++ ": " ++ String.ofList l
            else "Must separate multiple arguments to " ++ name ++ " using: ','")
      return .kind (name = "-xtype") letters.flatten
  | "-size" =>
      let text ← argument name
      match sizeUnit? text with
      | some (unit, body) => match measure? body with
          | some b => return .size unit b
          | none => fail 1 ("Invalid argument \x60" ++ text ++ "' to -size")
      | none => fail 1 ("Invalid argument \x60" ++ text ++ "' to -size")
  | "-empty" => return .empty
  | "-newer" | "-anewer" | "-cnewer" =>
      let text ← argument name
      match ← instant (Stat.ofPath true text) with
      | .ok s => return .newer s.stamp
      | .error e => fail 1 (quoted text e)
  | "-perm" =>
      let text ← argument name
      match permissions? text with
      | some (how, bits) => return .permissions how bits
      | none => fail 1 ("invalid mode " ++ Quoting.always text)
  | "-links" => return .links (← measureArgument name)
  | "-inum" =>
      let b ← measureArgument name
      return match b with
        | .exactly n => .node (if 2 ≤ n then some (n - 2) else none)
        | _ => .constant true
  | "-samefile" =>
      let text ← argument name
      match ← instant (Stat.ofPath false text) with
      | .ok s => return .node (some s.node)
      | .error e => fail 1 (quoted text e)
  | "-readable" => return .may 'r'
  | "-writable" => return .may 'w'
  | "-executable" => return .may 'x'
  | "-mtime" | "-atime" | "-ctime" | "-mmin" | "-amin" | "-cmin" => return .age (← measureArgument name)
  | "-user" | "-group" =>
      let text ← argument name
      if text = "root" || text = "0" then return .constant true
      else if (count? text).isSome then return .constant false
      else fail 1 (Quoting.plain text ++ " is not the name of a known " ++
        (if name = "-user" then "user" else "group"))
  | "-uid" | "-gid" => return .constant ((← measureArgument name).holds 0)
  | "-nouser" | "-nogroup" | "-false" => return .constant false
  | "-true" | "-noleaf" | "-xdev" | "-mount" | "-daystart" | "-warn" | "-nowarn"
  | "-ignore_readdir_race" | "-noignore_readdir_race" => return .constant true
  | "-regextype" =>
      let _ ← argument name
      return .constant true
  | "-follow" => setWalk ({ · with follows := true })
  | "-depth" | "-d" => setWalk ({ · with depthFirst := true })
  | "-maxdepth" | "-mindepth" =>
      let text ← argument name
      match count? text with
      | some n =>
          if name = "-maxdepth" then setWalk ({ · with most := some n })
          else setWalk ({ · with least := n })
      | none => fail 1 ("Expected a positive decimal integer argument to " ++ name ++
          ", but got " ++ Quoting.plain text)
  | "-print" => return .print "\n"
  | "-print0" => return .print "\x00"
  | "-printf" => return .printFormat (← argument name).toList
  | "-ls" => return .list
  | "-delete" => do
      let _ ← setWalk ({ · with depthFirst := true })
      return .delete
  | "-prune" => return .prune
  | "-quit" => return .quit
  | "-exec" | "-ok" | "-execdir" | "-okdir" =>
      let st ← get
      let asks := name.startsWith "-ok"
      match commandWords (!asks) st.rest [] with
      | some ([], _, _) | none => fail 1 ("missing argument to \x60" ++ name ++ "'")
      | some (command, true, rest) => do
          set { st with rest := rest, commands := st.commands + 1 }
          return .execMany st.commands command
      | some (command, false, rest) => do
          set { st with rest := rest }
          return .exec command asks
  | name =>
      if name.startsWith "-" then fail 1 ("unknown predicate \x60" ++ name ++ "'")
      else fail 1 ("paths must precede expression: \x60" ++ name ++ "'")

def isEither (word : String) : Bool := word = "-o" || word = "-or"

def isBoth (word : String) : Bool := word = "-a" || word = "-and"

def isNot (word : String) : Bool := word = "!" || word = "-not"

/-- Reads a query, where `previous` is the word before it. -/
def readQuery : Nat → String → Read Query
  | 0, _ => fail 1 "invalid expression"
  | bound + 1, previous => lists bound previous
where
  lists (bound : Nat) (previous : String) : Read Query := do
    let a ← alternatives bound previous
    match bound, (← get).rest with
    | bound + 1, "," :: rest => do
        modify ({ · with rest := rest })
        return .last a (← lists bound ",")
    | _, _ => return a
  alternatives (bound : Nat) (previous : String) : Read Query := do
    let a ← sequence bound previous
    match bound, (← get).rest with
    | bound + 1, word :: rest =>
        if isEither word then
          modify ({ · with rest := rest })
          return .either a (← alternatives bound word)
        else return a
    | _, _ => return a
  sequence (bound : Nat) (previous : String) : Read Query := do
    let a ← single bound previous
    match bound, (← get).rest with
    | bound + 1, word :: rest =>
        if isBoth word then
          modify ({ · with rest := rest })
          return .both a (← sequence bound word)
        else if isEither word || word = "," || word = ")" then return a
        else return .both a (← sequence bound previous)
    | _, _ => return a
  single (bound : Nat) (previous : String) : Read Query := do
    let st ← get
    match bound, st.rest with
    | _, [] => fail 1 ("expected an expression after " ++ Quoting.plain previous)
    | 0, _ => fail 1 "invalid expression"
    | bound + 1, word :: rest =>
        set { st with rest := rest }
        if isNot word then return .not (← single bound word)
        else if word = "(" then
          if rest.head? = some ")" then
            fail 1 "invalid expression; empty parentheses are not allowed."
          let q ← readQuery bound word
          let st ← get
          match st.rest with
          | ")" :: rest => do
              set { st with rest := rest }
              return q
          | _ => fail 1 ("invalid expression; I was expecting to find a ')' somewhere but did " ++
              "not see one.")
        else if word = ")" then
          fail 1 "invalid expression; you have too many ')'"
        else if isEither word || isBoth word || word = "," then
          fail 1 ("invalid expression; you have used a binary operator " ++ Quoting.plain word ++
            " with nothing before it.")
        else return .ask (← predicate word)

end Walk

/-- A word with which the query begins. -/
def startsQuery (word : String) : Bool :=
  (word.startsWith "-" && word.length != 1) || word = "(" || word = "!"

def find : Tool Unit := do
  let arguments := (← read).arguments
  let flags := arguments.takeWhile fun a => ["-H", "-L", "-P"].contains a
  let rest := arguments.drop flags.length
  let starts := rest.takeWhile (!startsQuery ·)
  let words := rest.drop starts.length
  let walk : Walk := {
    query := .ask (.print "\n"), follows := flags.getLast? = some "-L"
    followsOperands := flags.getLast? = some "-H" }
  let walk ← if words.isEmpty then pure walk else do
    let (q, st) ← (Walk.readQuery (8 * words.length + 8) "").run { rest := words, walk := walk }
    if let extra :: _ := st.rest then
      fail 1 (if extra = ")" then "invalid expression; you have too many ')'"
        else "paths must precede expression: \x60" ++ extra ++ "'")
    let q := if q.any Finder.isAction then q else .both q (.ask (.print "\n"))
    pure { st.walk with query := q }
  let starts := if starts.isEmpty then ["."] else starts
  let st ← starts.foldlM (fun st start => walk.visit start deepestTree 0 start st) {}
  walk.finishCommands st

end LineShell.Machine.Tool

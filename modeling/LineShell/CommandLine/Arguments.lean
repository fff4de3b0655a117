import LineShell.Text.Blank
import LineShell.Text.Distance

/-!
The arguments that the shell is started with. Flags may stand anywhere before an argument of two
dashes; short ones may stand together behind one dash. Each flag may be given once, and there is at
most one argument besides the flags. Which arguments fit the usage text, and how others are refused,
is as docopt 1.1 has it.
-/

namespace LineShell.CommandLine

inductive Flag where
  | help
  | version
  /-- The argument is not a file but a command. -/
  | command
  | log
  deriving DecidableEq, Repr

namespace Flag

def short? : Char → Option Flag
  | 'h' => some .help
  | 'c' => some .command
  | _ => none

/-- The long spellings of the flags that have one. -/
def long : List (String × Flag) := [("--help", .help), ("--version", .version), ("--log", .log)]

def name : Flag → String
  | .help => "--help"
  | .version => "--version"
  | .command => "-c"
  | .log => "--log"

def takesValue : Flag → Bool
  | .log => true
  | _ => false

end Flag

/-- Why arguments cannot be understood. -/
inductive UsageError where
  | unknownShort (c : Char)
  | unknownLong (text : String)
  | missingValue (flag : Flag)
  | unexpectedValue (flag : Flag) (value : String)
  /-- No form of the command line has these flags and arguments. -/
  | noForm
  deriving DecidableEq, Repr

namespace UsageError

/-- A typing error has fewer mistakes than this. -/
def farApart : Nat := 3

/-- The long flag that was meant, if one is close enough. -/
def meant? (text : String) : Option String :=
  let near := (Flag.long.map (·.1)).filter fun name => Distance.between text name < farApart
  near.foldl (fun best name => match best with
    | some other =>
        if Distance.between text name < Distance.between text other then some name else best
    | none => some name) none

def message : UsageError → String
  | .unknownShort c => "Unknown flag: '-" ++ String.singleton c ++ "'"
  | .unknownLong text =>
      "Unknown flag: '" ++ text ++ "'" ++
        match meant? text with
        | some name => ". Did you mean '" ++ name ++ "'?"
        | none => ""
  | .missingValue flag =>
      "Expected argument for flag '" ++ flag.name ++ "' but reached end of arguments."
  | .unexpectedValue flag value =>
      "Flag '" ++ flag.name ++ "' cannot have an argument, but found '" ++ value ++ "'."
  | .noForm => "Invalid arguments."

end UsageError

structure Arguments where
  /-- The flags with their values, in order. -/
  flags : List (Flag × String) := []
  positionals : List String := []
  deriving DecidableEq, Repr

namespace Arguments

def isSet (a : Arguments) (flag : Flag) : Bool := a.flags.any (·.1 = flag)

def value? (a : Arguments) (flag : Flag) : Option String :=
  (a.flags.find? (·.1 = flag)).map (·.2)

def addFlags (a : Arguments) (flags : List (Flag × String)) : Arguments :=
  { a with flags := flags ++ a.flags }

def addPositional (a : Arguments) (text : String) : Arguments :=
  { a with positionals := text :: a.positionals }

/-- An argument holds short flags: one dash, no second one, and no white space after that. -/
def shortLetters? (arg : String) : Option (List Char) :=
  match arg.toList with
  | '-' :: c :: rest => if c != '-' && !rest.any Blank.isBlank then some (c :: rest) else none
  | _ => none

def shortFlags : List Char → Except UsageError (List (Flag × String))
  | [] => .ok []
  | c :: rest =>
      match Flag.short? c with
      | some flag => (shortFlags rest).map ((flag, "") :: ·)
      | none => .error (.unknownShort c)

/-- An argument is a long flag: two dashes, and a text without newlines that has no white space but
behind an equals sign that is not its first character. -/
def isLongFlag (arg : String) : Bool :=
  let text := arg.toList.drop 2
  let start := text.takeWhile (!Blank.isBlank ·)
  arg.startsWith "--" && !start.isEmpty && !text.contains '\n' &&
    (start.length = text.length || (start.drop 1).contains '=')

/-- The spelling of a long flag and the value behind its equals sign. -/
def longFlag? (arg : String) : Option (String × Option String) :=
  let name := arg.toList.takeWhile (· != '=')
  if !isLongFlag arg then none
  else match arg.toList.drop name.length with
    | _ :: value => some (String.ofList name, some (String.ofList value))
    | [] => some (arg, none)

/-- Reads arguments in order, up to the first that is wrong. -/
def read : List String → Except UsageError Arguments
  | [] => .ok {}
  | arg :: rest =>
      match shortLetters? arg, longFlag? arg with
      | some letters, _ =>
          match shortFlags letters with
          | .error e => .error e
          | .ok flags => (read rest).map (·.addFlags flags)
      | none, some (name, value) =>
          match Flag.long.lookup name, value with
          | none, _ => .error (.unknownLong name)
          | some flag, some value =>
              if flag.takesValue then (read rest).map (·.addFlags [(flag, value)])
              else .error (.unexpectedValue flag value)
          | some flag, none =>
              if !flag.takesValue then (read rest).map (·.addFlags [(flag, "")])
              else match rest with
                | [] => .error (.missingValue flag)
                | value :: rest => (read rest).map (·.addFlags [(flag, value)])
      | none, none =>
          if arg = "--" then .ok { positionals := rest }
          else (read rest).map (·.addPositional arg)

end Arguments

/-- What the shell is asked to do. -/
inductive Request where
  | help
  | version
  /-- Execute the lines of standard input. -/
  | input
  | line (text : String)
  | file (path : String)
  /-- Execute a command that is not given. -/
  | nothing
  deriving DecidableEq, Repr

namespace Request

/-- The request that arguments make. As with docopt 1.1 an argument counts as given even if it is an
empty text, and `-c` fits the usage without one. -/
def ofArguments (a : Arguments) : Except UsageError Request :=
  if !(a.flags.map (·.1)).Nodup then .error .noForm
  else
    let what (positional : Option String) : Request :=
      if a.isSet .help then .help
      else if a.isSet .version then .version
      else match a.isSet .command, positional with
        | true, some text => .line text
        | true, none => .nothing
        | false, some path => .file path
        | false, none => .input
    match a.positionals with
    | [] => .ok (what none)
    | [text] => .ok (what (some text))
    | _ => .error .noForm

end Request

end LineShell.CommandLine

import LineShell.Split

/-!
Reading the arguments of a tool. Options are single letters, which may stand together behind one
dash, or words behind two dashes, which may be cut short as long as they stay distinct. They may stand
anywhere among the operands, up to an argument of two dashes.
-/

namespace LineShell.Machine

/-- Whether an option has a value. -/
inductive Takes where
  | nothing
  | value
  /-- A value may follow in the same argument. -/
  | maybe
  deriving DecidableEq, Repr

structure Options where
  /-- The options with their values, in order. A word that has a letter stands as that letter. -/
  given : List (String × String) := []
  operands : List String := []
  deriving DecidableEq, Repr

namespace Options

def isSet (o : Options) (key : String) : Bool := o.given.any (·.1 = key)

/-- The value of an option; the last one counts. -/
def value? (o : Options) (key : String) : Option String :=
  (o.given.reverse.find? (·.1 = key)).map (·.2)

/-- The last one given of some options. -/
def last? (o : Options) (keys : List String) : Option String :=
  (o.given.reverse.find? fun (key, _) => keys.contains key).map (·.1)

def add (o : Options) (given : List (String × String)) : Options :=
  { o with given := given ++ o.given }

/-- The letters that a text tells of, a colon after one that takes a value, and two after one that
may have one. -/
def letters : List Char → List (Char × Takes)
  | c :: ':' :: ':' :: rest => (c, .maybe) :: letters rest
  | c :: ':' :: rest => (c, .value) :: letters rest
  | c :: rest => (c, .nothing) :: letters rest
  | [] => []

/-- A word that is an option. -/
structure Word where
  name : String
  takes : Takes
  key : String
  deriving DecidableEq, Repr

/-- A word as it is told of: its name, with colons as for letters, and the letter that it stands
for behind an equals sign. -/
def word (text : String) : Word :=
  let name := text.toList.takeWhile fun c => c != ':' && c != '='
  let rest := text.toList.drop name.length
  let takes : Takes := match rest.takeWhile (· = ':') with
    | [] => .nothing
    | [_] => .value
    | _ => .maybe
  let key := (rest.dropWhile (· = ':')).drop 1
  ⟨String.ofList name, takes, String.ofList (if key.isEmpty then name else key)⟩

/-- The options that a tool has. -/
structure Known where
  letters : List (Char × Takes)
  words : List Word
  /-- Options end at the first operand. -/
  strict : Bool
  deriving DecidableEq, Repr

/-- Words that every tool knows. -/
def commonWords : List Word := [⟨"help", .nothing, "help"⟩, ⟨"version", .nothing, "version"⟩]

/-- The options told of by texts: letters, and words with blanks between them. A plus sign before
the letters says that options end at the first operand. -/
def known (letterText wordText : String) : Known :=
  let strict := letterText.startsWith "+"
  let words := ((pieces (· = ' ') wordText.toList).filter (!·.isEmpty)).map fun w =>
    word (String.ofList w)
  { letters := letters (if strict then letterText.toList.drop 1 else letterText.toList)
    words := words ++ commonWords.filter fun w => !words.any (·.name = w.name)
    strict := strict }

/-- What follows some options in a cluster. -/
inductive After where
  | nothing
  /-- The value of one more option, which is the next argument. -/
  | value (c : Char)
  | trouble (text : String)
  deriving DecidableEq, Repr

/-- The options behind one dash, and what follows them. -/
def cluster (k : Known) : List Char → List (String × String) × After
  | [] => ([], .nothing)
  | c :: rest =>
      match k.letters.lookup c with
      | none => ([], .trouble ("invalid option -- '" ++ String.singleton c ++ "'"))
      | some .nothing =>
          let (given, after) := cluster k rest
          ((String.singleton c, "") :: given, after)
      | some .maybe => ([(String.singleton c, String.ofList rest)], .nothing)
      | some .value =>
          if rest.isEmpty then ([], .value c)
          else ([(String.singleton c, String.ofList rest)], .nothing)

/-- The option that a word, which may be cut short, stands for. -/
def meaning (k : Known) (name argument : String) : Except String Word :=
  let near := k.words.filter (·.name.startsWith name)
  let unknown : Except String Word := .error ("unrecognized option '--" ++ argument ++ "'")
  let take (w : Word) : Except String Word := if commonWords.any (·.key = w.key) then unknown else .ok w
  match near.find? (·.name = name), near with
  | some w, _ => take w
  | none, [] => unknown
  | none, w :: more =>
      if more.all fun other => other.key = w.key && other.takes = w.takes then take w
      else
        .error ("option '--" ++ argument ++ "' is ambiguous; possibilities:" ++
          String.join ((w :: more).map fun other => " '--" ++ other.name ++ "'"))

/-- Reads arguments, up to the first thing that is wrong with them. -/
def parse (k : Known) : List String → Options × Option String
  | [] => ({}, none)
  | arg :: rest =>
      if arg = "--" then ({ operands := rest }, none)
      else
        match arg.toList with
        | '-' :: '-' :: text =>
            let name := text.takeWhile (· != '=')
            let value := text.drop name.length
            match meaning k (String.ofList name) (String.ofList text) with
            | .error e => ({}, some e)
            | .ok w =>
                match w.takes, value with
                | .nothing, _ :: _ =>
                    ({}, some ("option '--" ++ w.name ++ "' doesn't allow an argument"))
                | .value, [] =>
                    match rest with
                    | [] => ({}, some ("option '--" ++ w.name ++ "' requires an argument"))
                    | value :: rest => (parse k rest).map (·.add [(w.key, value)]) id
                | _, value => (parse k rest).map (·.add [(w.key, String.ofList (value.drop 1))]) id
        | '-' :: c :: more =>
            match cluster k (c :: more) with
            | (given, .trouble e) => ({ given := given }, some e)
            | (given, .nothing) => (parse k rest).map (·.add given) id
            | (given, .value lacking) =>
                match rest with
                | [] => ({ given := given },
                    some ("option requires an argument -- '" ++ String.singleton lacking ++ "'"))
                | value :: rest =>
                    (parse k rest).map (·.add (given ++ [(String.singleton lacking, value)])) id
        | _ =>
            if k.strict then ({ operands := arg :: rest }, none)
            else (parse k rest).map (fun o => { o with operands := arg :: o.operands }) id

end Options

end LineShell.Machine

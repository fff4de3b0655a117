import LineShell.Machine.Glob
import LineShell.Machine.Script.Arithmetic
import LineShell.Machine.Script.Children

/-!
What becomes of a word. Parameters, commands and sums give way to their values; what came of them
without quotes falls apart where the variable `IFS` says, and names with wild characters give way to
the names of files.
-/

namespace LineShell.Machine.Script

/-- A part of what a word has become. -/
inductive Glyph where
  /-- A character; whether it was quoted, and whether it may stand between fields. -/
  | char (c : Char) (quoted : Bool) (parts : Bool)
  /-- The end of one argument and the beginning of the next. -/
  | gap
  /-- Nothing, but quoted, so that there is a field. -/
  | void
  deriving DecidableEq, Repr

namespace Expansion

open Sh

def glyphs (text : String) (quoted parts : Bool) : List Glyph :=
  if text.isEmpty then (if quoted then [.void] else [])
  else text.toList.map fun c => .char c quoted parts

/-- The characters of glyphs. -/
def textOf (gs : List Glyph) : String :=
  String.ofList (gs.filterMap fun g => match g with
    | .char c _ _ => some c
    | _ => none)

def marksOf (gs : List Glyph) : List Glob.Mark :=
  gs.filterMap fun g => match g with
    | .char c quoted _ => some ⟨c, quoted⟩
    | _ => none

def defaultSeparators : String := " \t\n"

def separators : Sh String := return (← value? "IFS").getD defaultSeparators

/-! ### Commands in words -/

def blockSize : Nat := 65536

/-- Reads on to the end, after the blocks in `blocks`, the last one first. -/
def readAll (d : Descriptor) : Nat → List Bytes → Sh Bytes
  | 0, blocks => return blocks.reverse.flatten
  | bound + 1, blocks => do
      match ← act (.read d blockSize) with
      | .error _ => return blocks.reverse.flatten
      | .ok bytes =>
          if bytes.isEmpty then return blocks.reverse.flatten
          readAll d bound (bytes :: blocks)

/-- What commands print, less the newlines at its end. -/
def substitute (body : List Tree) : Sh String := do
  match body with
  | [] => do
      update ({ · with substituted := 0 })
      return ""
  | body => do
      match ← instant World.pipe with
      | .error e => fail ("Pipe call failed: " ++ e.sentence)
      | .ok (reader, writer) => do
          let pid ← Children.fork do
            let _ ← instant (World.close reader)
            if writer != Descriptor.output then
              let _ ← instant (World.replace writer Descriptor.output)
              let _ ← instant (World.close writer)
            let _ ← run (.sequence body) { isLast := true }
          let _ ← instant (World.close writer)
          let bytes ← readAll reader Children.patience []
          let _ ← instant (World.close reader)
          let status ← Children.await [pid]
          update ({ · with substituted := status })
          let text := (Raw.ofBytes bytes).toList.filter (· != '\x00')
          return String.ofList ((text.reverse.dropWhile (· = '\n')).reverse)

/-! ### Parameters -/

/-- The value of a parameter that is not the list of arguments. -/
def scalar? (name : String) : Sh (Option String) := do
  let s ← state
  match name with
  | "#" => return some (toString s.arguments.length)
  | "?" => return some (toString s.status)
  | "$" => return some (toString s.pid)
  | "!" => return s.background.map toString
  | "-" => return some (String.ofList (optionLetters.filter s.options.contains))
  | name =>
      match name.toNat? with
      | some 0 => return some s.name
      | some n => return s.arguments[n - 1]?
      | none => value? name

def isList (name : String) : Bool := name = "@" || name = "*"

/-- The arguments as glyphs. Unless they are to be fields, they are joined. -/
def argumentGlyphs (name : String) (quoted fields : Bool) : Sh (List Glyph) := do
  let arguments := (← state).arguments
  if fields && (name = "@" || !quoted) then
    let each := arguments.map fun a => glyphs a quoted !quoted
    return List.flatten (each.intersperse [.gap])
  else
    let joint := (← value? "IFS").getD " "
    let joint := String.ofList (joint.toList.take 1)
    return glyphs (joint.intercalate arguments) quoted !quoted

/-- Takes a part off one end of a text: the shortest or the longest that a pattern matches. -/
def trim (atEnd longest : Bool) (pattern : List Glob) (text : List Char) : List Char :=
  let counts := List.range (text.length + 1)
  let fits (count : Nat) : Bool :=
    if atEnd then Glob.matchesAll pattern (text.drop (text.length - count))
    else Glob.matchesAll pattern (text.take count)
  match (if longest then counts.reverse else counts).find? fits with
  | none => text
  | some count => if atEnd then text.take (text.length - count) else text.drop count

/-- Takes so many characters off the front of glyphs, where the end of an argument counts as one. -/
def dropGlyphs : Nat → List Glyph → List Glyph
  | 0, gs => gs
  | _, [] => []
  | count + 1, .void :: gs => .void :: dropGlyphs (count + 1) gs
  | count + 1, _ :: gs => dropGlyphs count gs

/-- Takes a part off one end of what all arguments are together. -/
def trimGlyphs (atEnd longest : Bool) (pattern : List Glob) (gs : List Glyph) : List Glyph :=
  let text := gs.filterMap fun g => match g with
    | .char c _ _ => some c
    | .gap => some '\x00'
    | .void => none
  let count := text.length - (trim atEnd longest pattern text).length
  if atEnd then (dropGlyphs count gs.reverse).reverse else dropGlyphs count gs

def notSet (name : String) (evenEmpty : Bool) (text : Option String) : String :=
  name ++ ": " ++ text.getD ("parameter not set" ++ if evenEmpty then " or null" else "")

/-- What a tilde at the front of a word stands for. -/
def home? (user : String) : Sh (Option String) := do
  if user.isEmpty then value? "HOME"
  else return if user = "root" then some "/root" else none

/-- Puts homes in the place of a tilde at the front of a text and, in an assignment, behind its
colons. The text is that of the first part of a word, and `isWhole` says that there are no others. -/
def tildes (inAssignment isWhole : Bool) : Nat → List Char → Sh (List Glyph)
  | 0, text => return text.map fun c => .char c false false
  | bound + 1, text => do
      let stops (c : Char) : Bool := c = '/' || (inAssignment && c = ':')
      let (shown, text) ← match text with
        | '~' :: rest => do
            let user := rest.takeWhile (!stops ·)
            let after := rest.drop user.length
            if after.isEmpty && !isWhole then pure ([], text)
            else
              match ← home? (String.ofList user) with
              | some home => pure (home.toList.map fun c => Glyph.char c true false, after)
              | none => pure ([], text)
        | text => pure ([], text)
      if !inAssignment then return shown ++ text.map fun c => .char c false false
      let part := text.takeWhile (· != ':')
      let shown := shown ++ part.map fun c => Glyph.char c false false
      match text.drop part.length with
      | [] => return shown
      | c :: rest => return shown ++ .char c false false :: (← tildes inAssignment isWhole bound rest)

/-- How a word is taken. -/
structure Manner where
  /-- It may become several fields. -/
  fields : Bool
  /-- Text that is not quoted may fall apart. -/
  parts : Bool := false
  inAssignment : Bool := false
  hasTilde : Bool := true

/-- What a word becomes, if parts stand in parts at most so deep. -/
def expand : Nat → Manner → Word → Sh (List Glyph)
  | 0, _, _ => return []
  | depth + 1, manner, word => do
      let start ← match word with
        | .text text false :: rest =>
            if manner.hasTilde && text.contains '~' then
              tildes manner.inAssignment rest.isEmpty (text.length + 1) text.toList
            else pure (glyphs text false manner.parts)
        | _ => pure []
      let rest := match word with
        | .text _ false :: rest => rest
        | word => word
      let more ← rest.mapM fun part => expandPart depth manner part
      return start ++ more.flatten
where
  /-- What one part becomes. -/
  expandPart (depth : Nat) (manner : Manner) (part : Part) : Sh (List Glyph) := do
    match part with
    | .text text quoted => return glyphs text quoted (manner.parts && !quoted)
    | .commands body quoted => return glyphs (← substitute body) quoted !quoted
    | .arithmetic e quoted => do
        let text := textOf (← expand depth { fields := false, hasTilde := false } e)
        return glyphs (toString (← Expression.valueOfText text)) quoted !quoted
    | .parameter name use quoted => do
        let word (w : Word) : Sh (List Glyph) :=
          expand depth { manner with parts := !quoted, hasTilde := !quoted } w
        let list := isList name
        let scalar ← if list then pure none else scalar? name
        let together ← if list then textOf <$> argumentGlyphs name true false else pure ""
        let isSet := list || scalar.isSome
        let void : List Glyph := if quoted then [.void] else []
        let value : Sh (List Glyph) :=
          if list then argumentGlyphs name quoted manner.fields
          else return glyphs (scalar.getD "") quoted !quoted
        let isEmpty := if list then together.isEmpty else scalar.all (·.isEmpty)
        let mayFail := !list && scalar.isNone && (← hasOption 'u')
        match use with
        | .bad => fail "Bad substitution"
        | .value => if mayFail then fail (notSet name false none) else value
        | .length =>
            if mayFail then fail (notSet name false none)
            else
              let count := (if list then together else scalar.getD "").length
              return glyphs (toString count) quoted !quoted
        | .fallback evenEmpty w =>
            if !isSet || (evenEmpty && isEmpty) then return (← word w) ++ void
            else return (← value) ++ void
        | .alternative evenEmpty w =>
            if !isSet || (evenEmpty && isEmpty) then
              return void
            else return (← word w) ++ void
        | .insist evenEmpty w =>
            if !isSet || (evenEmpty && isEmpty) then
              let text := textOf (← expand depth { fields := false } w)
              fail (notSet name evenEmpty (if w.isEmpty then none else some text))
            else return (← value) ++ void
        | .assign evenEmpty w =>
            if !isSet || (evenEmpty && isEmpty) then
              let text := textOf (← expand depth { fields := false } w)
              if !isName name then fail (name ++ ": bad variable name")
              assign name text
              return glyphs text quoted !quoted
            else return (← value) ++ void
        | .trim atEnd longest w =>
            if mayFail then fail (notSet name false none)
            else
              let pattern := Glob.ofMarks (marksOf (← expand depth { fields := false } w))
              if list then
                return void ++ trimGlyphs atEnd longest pattern (← value) ++ void
              else
                let text := trim atEnd longest pattern (scalar.getD "").toList
                return glyphs (String.ofList text) quoted !quoted

/-- So deep may parts stand in parts. -/
def deepest : Nat := 10000

/-! ### Fields -/

/-- The fields that glyphs fall into, the last one first; `current` is the one that has begun, and its
last glyph comes first. -/
def split (separators : List Char) : List Glyph → Option (List Glyph) → List (List Glyph) → Bool →
    List (List Glyph)
  | [], current, done, _ => (current.toList ++ done).reverse.map List.reverse
  | .gap :: rest, current, done, _ => split separators rest none (current.toList ++ done) false
  | .void :: rest, current, done, _ => split separators rest (some (current.getD [])) done false
  | g@(.char c _ parts) :: rest, current, done, afterSpace =>
      if parts && separators.contains c then
        if Class.isSpace c then
          split separators rest none (current.toList ++ done) (current.isSome || afterSpace)
        else if afterSpace && current.isNone then split separators rest none done false
        else split separators rest none (current.getD [] :: done) false
      else split separators rest (some (g :: current.getD [])) done false

/-! ### Names of files -/

/-- The names in a directory that a pattern matches, in order. Names that begin with a dot are
matched only by patterns that do. -/
def matching (tree : FileTree) (directory : NodeId) (pattern : List Glob) : List String :=
  let hidden := pattern.head? = some (.exactly '.')
  let names := ((tree.children directory).map (·.1)) ++ if hidden then [".", ".."] else []
  let fits := names.filter fun name =>
    (hidden || !name.startsWith ".") && Glob.matchesAll pattern name.toList
  fits.mergeSort fun a b => decide (a ≤ b)

/-- The paths that lead on from `base`, which ends in a slash if it is not empty, as the parts of a
pattern between slashes say. -/
def paths (w : World) : String → List (List Glob.Mark) → List String
  | base, [] => [base]
  | base, part :: rest =>
      let pattern := Glob.ofMarks part
      let literal := String.ofList (pattern.filterMap fun g => match g with
        | .exactly c => some c
        | _ => none)
      let next := if rest.isEmpty then "" else "/"
      if Glob.isWild pattern then
        match w.system.tree.locate w.self.cwd (if base.isEmpty then "." else base) with
        | .error _ => []
        | .ok directory =>
            (matching w.system.tree directory pattern).flatMap fun name =>
              let path := base ++ name ++ next
              if rest.isEmpty || (w.system.tree.locate w.self.cwd path).isOk then paths w path rest
              else []
      else
        let path := base ++ literal ++ next
        if rest.isEmpty && (w.system.tree.find false w.self.cwd path).isOk = false then []
        else paths w path rest

/-- The files that a field stands for, or none if it has no wild characters or no file fits. -/
def files (marks : List Glob.Mark) : Sh (List String) := do
  if !Glob.isWild (Glob.ofMarks marks) || (← hasOption 'f') then return []
  let parts := pieces (fun m : Glob.Mark => m.char = '/') marks
  return paths (← instant get) "" parts

def fieldTexts (field : List Glyph) : Sh (List String) := do
  match ← files (marksOf field) with
  | [] => return [textOf field]
  | found => return found

/-- The fields of a word. -/
def fields (word : Word) : Sh (List String) := do
  let gs ← expand deepest { fields := true } word
  let all := split (← separators).toList gs none [] false
  return (← all.mapM fieldTexts).flatten

/-- A word as one text. -/
def text (word : Word) : Sh String := do
  return textOf (← expand deepest { fields := false } word)

/-- The value that an assignment gives. -/
def assigned (word : Word) : Sh String := do
  return textOf (← expand deepest { fields := false, inAssignment := true } word)

/-- The text of a here-document. -/
def document (word : Word) : Sh String := do
  return textOf (← expand deepest { fields := false, hasTilde := false } word)

def pattern (word : Word) : Sh (List Glob) := do
  return Glob.ofMarks (marksOf (← expand deepest { fields := false } word))

end Expansion

end LineShell.Machine.Script

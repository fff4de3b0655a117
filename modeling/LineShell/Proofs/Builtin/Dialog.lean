import LineShell.Builtin
import LineShell.Builtin.Scripted
import LineShell.Proofs.State

/-!
Builtin commands as the trees of what they do. A command knows of the shell only what it is given when
it is called: it says something, asks the surroundings for something, or hands on to another command,
and each time goes on as the answer has it. So what holds of each of these steps holds of every
command, and what a command says can be told from the tree.
-/

namespace LineShell

/-- What a command can ask of the surroundings. -/
inductive Question where
  | currentDirectory
  | changeDirectory (path : SystemText)
  | value? (name : String)
  | setVariable (name : String) (value : SystemText)
  | accountHome?
  | complain (text : String)
  | readInput

namespace Question

def Answer : Question → Type
  | currentDirectory => Except Errno SystemText
  | changeDirectory _ => Except Fault Unit
  | value? _ | accountHome? => Option SystemText
  | setVariable .. | complain _ => Unit
  | readInput => Bytes

/-- Asks it. -/
def put {σ : Type} [Environment σ] : (q : Question) → StateM σ q.Answer
  | currentDirectory => Environment.currentDirectory
  | changeDirectory path => Environment.changeDirectory path
  | value? name => Environment.value? name
  | setVariable name value => Environment.setVariable name value
  | accountHome? => Environment.accountHome?
  | complain text => Environment.complain text
  | readInput => Environment.readInput

end Question

/-- What a command does, up to what it comes to. -/
inductive Dialog (α : Type) where
  | ended (a : α)
  /-- Writes bytes to the sink. -/
  | say (bytes : Bytes) (next : Except Fault Unit → Dialog α)
  | ask (q : Question) (next : q.Answer → Dialog α)
  /-- Runs the arguments as a command of their own. -/
  | handOn (next : Option Status → Dialog α)

namespace Dialog

variable {σ α β : Type}

def bind : Dialog α → (α → Dialog β) → Dialog β
  | ended a, f => f a
  | say bytes next, f => say bytes fun answer => (next answer).bind f
  | ask q next, f => ask q fun answer => (next answer).bind f
  | handOn next, f => handOn fun answer => (next answer).bind f

instance : Monad Dialog where
  pure := ended
  bind := bind

def put (q : Question) : Dialog q.Answer := ask q ended

/-- Says texts one after another, up to the first that cannot be written. -/
def sayAll : List Bytes → Dialog (Except Fault Unit)
  | [] => return .ok ()
  | bytes :: rest => say bytes fun
      | .ok () => sayAll rest
      | .error fault => return .error fault

def home? : Dialog (Option SystemText) := do
  match ← put (.value? "HOME") with
  | some home => if home.isEmpty then put .accountHome? else return some home
  | none => put .accountHome?

variable [Environment σ] (call : Invocation σ)

/-- Holds the dialog with what the command was given. -/
def hold : Dialog α → StateM σ α
  | ended a => return a
  | say bytes next => do (next (← call.sink.write bytes)).hold
  | ask q next => do (next (← q.put)).hold
  | handOn next => do (next (← call.onward)).hold

@[simp] theorem hold_pure (a : α) : hold call (Pure.pure a) = Pure.pure a := rfl

@[simp] theorem hold_bind (dialog : Dialog α) (f : α → Dialog β) :
    hold call (dialog >>= f) = hold call dialog >>= fun a => hold call (f a) := by
  show hold call (dialog.bind f) = _
  funext s
  induction dialog generalizing s with
  | ended a => rfl
  | say bytes next ih => exact ih _ _
  | ask q next ih => exact ih _ _
  | handOn next ih => exact ih _ _

@[simp] theorem hold_put (q : Question) : hold call (put q) = q.put := rfl

theorem hold_home? : hold call home? = Environment.home? := by
  rw [home?, hold_bind, hold_put]
  refine bind_congr fun (home : Option SystemText) => ?_
  cases home with
  | none => rfl
  | some home => exact apply_ite (hold call) ..

theorem hold_sayAll_encode (texts : List String) :
    hold call (sayAll (texts.map Utf8.encode)) = call.sink.writeAll texts := by
  funext s
  induction texts generalizing s with
  | nil => rfl
  | cons text rest ih =>
      simp only [List.map_cons, sayAll, hold, Sink.writeAll, bind_apply]
      rcases call.sink.write (Utf8.encode text) s with ⟨answer, s'⟩
      cases answer with
      | ok _ => exact ih s'
      | error fault => rfl

theorem hold_sayAll (pieces : List Bytes) :
    hold call (sayAll pieces) = Builtin.Scripted.writeBytes call.sink pieces := by
  funext s
  induction pieces generalizing s with
  | nil => rfl
  | cons bytes rest ih =>
      simp only [sayAll, hold, Builtin.Scripted.writeBytes, bind_apply]
      rcases call.sink.write bytes s with ⟨answer, s'⟩
      cases answer with
      | ok _ => exact ih s'
      | error fault => rfl

/-- What is said while the dialog is held from a state on. What other commands say that it hands on to
is given by `handed`. -/
def said (handed : σ → Bytes) : Dialog α → σ → Bytes
  | ended _, _ => []
  | say bytes next, s =>
      let (answer, s) := call.sink.write bytes s
      bytes ++ (next answer).said handed s
  | ask q next, s =>
      let (answer, s) := q.put s
      (next answer).said handed s
  | handOn next, s =>
      let (answer, s') := call.onward s
      handed s ++ (next answer).said handed s'

end Dialog

/-- A command that is given by its dialog. -/
structure Spoken extends Topic where
  /-- The dialog for the commands of the shell and the arguments. -/
  dialog : List Topic → List String → Dialog (Except Error Status)

namespace Spoken

variable {σ : Type} [Environment σ]

def command (s : Spoken) : Command σ :=
  { s.toTopic with body := fun call => (s.dialog call.topics call.argv).hold call }

/-- The registry of commands that are given by their dialogs. -/
def registry (commands : List Spoken) : Registry σ := ⟨commands.map command⟩

/-- What is said in a run of these commands with these arguments from a state on. -/
def said (commands : List Spoken) (sink : Sink σ) : List String → σ → Bytes
  | [], _ => []
  | name :: args, s =>
      match commands.find? (·.name = name) with
      | none => []
      | some command =>
          let call : Invocation σ :=
            { topics := (registry (σ := σ) commands).topics, argv := name :: args, sink := sink
              onward := (registry commands).run sink args }
          (command.dialog call.topics call.argv).said call (said commands sink args) s

theorem find?_registry (commands : List Spoken) (name : String) :
    (registry (σ := σ) commands).find? name = (commands.find? (·.name = name)).map command := by
  simp only [Registry.find?, registry, List.find?_map]
  rfl

end Spoken

/-! ### The commands that there are -/

namespace Builtin

variable {σ : Type} [Environment σ]

def Help.spoken : Spoken where
  toTopic := topic
  dialog topics argv := do
    let names := argv.drop 1
    match ← Dialog.sayAll ((output topics names).map Utf8.encode) with
    | .error fault => return .error (.stream fault)
    | .ok () =>
        match missing? topics names with
        | some e => return .error e
        | none => return .ok .success

theorem Help.command_spoken : spoken.command (σ := σ) = command := by
  refine congrArg (Command.mk topic) (funext fun call => ?_)
  simp only [spoken, Dialog.hold_bind, Dialog.hold_sayAll_encode, body]
  refine bind_congr fun answer => ?_
  cases answer with
  | error fault => rfl
  | ok _ => cases missing? call.topics (call.argv.drop 1) <;> rfl

def Exit.spoken : Spoken where
  toTopic := topic
  dialog _ argv :=
    match argv[1]? with
    | none => return .ok (.terminate .success)
    | some arg =>
        match Numeral.signed64? arg with
        | some n => return .ok (.terminate (.ofCode n))
        | none => do
            Dialog.put (.complain (diagnostic arg))
            return .ok (.terminate (.ofCode misuseCode))

theorem Exit.command_spoken : spoken.command (σ := σ) = command := by
  refine congrArg (Command.mk topic) (funext fun call => ?_)
  simp only [spoken, body]
  cases call.argv[1]? with
  | none => rfl
  | some arg =>
      dsimp only
      cases Numeral.signed64? arg <;> rfl

namespace ChangeDirectory

def destinationDialog : String → Dialog (Except Error SystemText)
  | "~" => do
      match ← Dialog.home? with
      | some home => return .ok home
      | none => return .error (failure "cd: HOME not set")
  | "-" => do
      match ← Dialog.put (.value? previousVariable) with
      | none => return .error (failure "cd: OLDPWD not set")
      | some previous =>
          match ← Dialog.sayAll ([previous.shown, "\n"].map Utf8.encode) with
          | .ok () => return .ok previous
          | .error fault => return .error (.stream fault)
  | path => return .ok (.ofText path)

def goToDialog (path : SystemText) : Dialog (Except Error Status) := do
  let previous ← Dialog.put .currentDirectory
  match ← Dialog.put (.changeDirectory path) with
  | .error fault => return .error (failure ("cd: " ++ path.shown ++ ": " ++ fault.message))
  | .ok () =>
      match previous with
      | .ok name => Dialog.put (.setVariable previousVariable name)
      | .error _ => pure ()
      return .ok .success

def spoken : Spoken where
  toTopic := topic
  dialog _ argv := do
    match argv[1]? with
    | none => return .error (failure "expected a path for 'cd'!")
    | some arg =>
        match ← destinationDialog arg with
        | .error e => return .error e
        | .ok path => goToDialog path

theorem hold_destinationDialog (call : Invocation σ) (arg : String) :
    (destinationDialog arg).hold call = destination call.sink arg := by
  unfold destinationDialog
  split
  · rw [Dialog.hold_bind, Dialog.hold_home?]
    refine bind_congr fun home => ?_
    cases home <;> rfl
  · rw [Dialog.hold_bind, Dialog.hold_put]
    refine bind_congr fun (previous : Option SystemText) => ?_
    cases previous with
    | none => rfl
    | some previous =>
        dsimp only
        rw [Dialog.hold_bind, Dialog.hold_sayAll_encode]
        refine bind_congr fun answer => ?_
        cases answer <;> rfl
  · exact (destination.eq_3 call.sink _ ‹_› ‹_›).symm

theorem hold_goToDialog (call : Invocation σ) (path : SystemText) :
    (goToDialog path).hold call = goTo path := by
  unfold goToDialog goTo
  rw [Dialog.hold_bind, Dialog.hold_put]
  refine bind_congr fun (previous : Except Errno SystemText) => ?_
  rw [Dialog.hold_bind, Dialog.hold_put]
  refine bind_congr fun (answer : Except Fault Unit) => ?_
  cases answer with
  | error fault => rfl
  | ok _ => cases previous <;> rfl

theorem command_spoken : spoken.command (σ := σ) = command := by
  refine congrArg (Command.mk topic) (funext fun call => ?_)
  simp only [spoken, body]
  cases call.argv[1]? with
  | none => rfl
  | some arg =>
      dsimp only
      rw [Dialog.hold_bind, hold_destinationDialog]
      refine bind_congr fun answer => ?_
      cases answer with
      | error e => rfl
      | ok path => exact hold_goToDialog call path

end ChangeDirectory

namespace Scripted

def spoken (script : Scripted) : Spoken where
  toTopic := script.toTopic
  dialog _ argv := do
    let input ← if script.slurps then Dialog.put .readInput else pure []
    match ← Dialog.sayAll (script.output argv input) with
    | .error fault => return .error (.stream fault)
    | .ok () =>
        let handed ← if script.delegates then .handOn .ended else pure none
        match handed with
        | some status => return .ok status
        | none => return script.conclude

theorem command_spoken (script : Scripted) : script.spoken.command (σ := σ) = script.command := by
  refine congrArg (Command.mk script.toTopic) (funext fun call => ?_)
  have hrest (input : Bytes) : (Dialog.sayAll (script.output call.argv input) >>= fun
        | .error fault => (return .error (.stream fault) : Dialog (Except Error Status))
        | .ok () => do
            let handed ← if script.delegates then .handOn .ended else pure none
            match handed with
            | some status => return .ok status
            | none => return script.conclude).hold call = (do
      match ← writeBytes call.sink (script.output call.argv input) with
      | .error fault => return .error (.stream fault)
      | .ok () =>
          let handed ← if script.delegates then call.onward else pure none
          match handed with
          | some status => return .ok status
          | none => return script.conclude) := by
    rw [Dialog.hold_bind, Dialog.hold_sayAll]
    refine bind_congr fun answer => ?_
    cases answer with
    | error fault => rfl
    | ok _ =>
        cases script.delegates with
        | true => exact bind_congr fun handed => by cases handed <;> rfl
        | false => rfl
  simp only [spoken, body]
  cases script.slurps with
  | true => exact bind_congr fun (input : Bytes) => hrest input
  | false => exact hrest []

end Scripted

end Builtin

theorem Spoken.registry_standard {σ : Type} [Environment σ] :
    registry (σ := σ) [Builtin.Help.spoken, Builtin.Exit.spoken, Builtin.ChangeDirectory.spoken] =
      .standard := by
  simp [registry, Registry.standard, Builtin.Help.command_spoken, Builtin.Exit.command_spoken,
    Builtin.ChangeDirectory.command_spoken]

end LineShell

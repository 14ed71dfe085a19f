import DeskShell.Command.Line
import DeskShell.Store.Edit
import DeskShell.Table

/-!
# Sessions

A shell at work: the store it works on, where it stands, what it knows, and what it has told its
host. Commands are entered in a table by name. What stands there is of any type `C`; the engine is
told how to run it.

* `Result`: what a command leaves; `Reply`: what it answers with.
* `Session`: the state, and `Run` the programs on it. A program that stops with a fault keeps the
  changes made before.
* `Session.start`: a session in the home folder.
-/
namespace DeskShell

/-- What a command asks of the screen. -/
inductive Effect
  | none
  | clear
  | exit
  | blueScreen
  deriving Repr, DecidableEq

namespace Effect

def word : Effect → String
  | none => "none"
  | clear => "clear"
  | exit => "exit"
  | blueScreen => "bsod"

def ofWord? : String → Option Effect
  | "none" => some none
  | "clear" => some clear
  | "exit" => some exit
  | "bsod" => some blueScreen
  | _ => Option.none

theorem ofWord?_word (e : Effect) : ofWord? e.word = some e := by cases e <;> rfl

end Effect

structure Result where
  stdout : String := ""
  stderr : String := ""
  exitCode : Int := 0
  effect : Effect := .none
  deriving Repr, DecidableEq

namespace Result

/-- Success without output. -/
def done : Result := {}

def out (text : String) : Result := { stdout := text }

def failure (message : String) : Result := { stderr := message, exitCode := 1 }

/-- A request to the screen and nothing else. -/
def ask (effect : Effect) : Result := { effect }

end Result

/-- A command answers with a full result, with its output alone, or with nothing. -/
inductive Reply
  | result (r : Result)
  | text (s : String)
  | nothing
  deriving Repr, DecidableEq

def Reply.toResult : Reply → Result
  | result r => r
  | text s => .out s
  | nothing => .done

/-! ## The host -/

/-- What the shell tells its host. -/
inductive Signal
  | clear
  | exit
  | blueScreen
  | color (hex : String)
  deriving Repr, DecidableEq

/-- What the host does about a signal: nothing, take it, or fail. Hosts that reach into the session
while they take a signal are left out. -/
inductive Hook
  | unset
  | accepts
  | raises (f : Fault)
  deriving Repr, DecidableEq

/-- Signal of an effect, for the effects that have one. -/
def Effect.signal? : Effect → Option Signal
  | none => Option.none
  | clear => some .clear
  | exit => some .exit
  | blueScreen => some .blueScreen

/-! ## Notes

What a session does, for a log. -/

inductive Note
  | shortCircuit (exitCode : Int)
  | dispatch (key : String) (arguments : Nat)
  | sideEffect (effect : Effect) (hooked : Bool)
  | commandFailed (key : String)
  | lineFailed (line : String)
  | added (kind : Kind) (name parent : String)
  | updated (id : String) (chars : Nat)
  | renamed (id old new : String)
  | moved (id source target : String)
  | recycled (id parent : String)
  | purged (id : String)
  deriving Repr, DecidableEq

/-! ## Sessions -/

/-- A shell at work. `folder` is the working folder and `shown` its displayed path; `allowed` holds
lower case names, `none` for no restriction; `signals` and `notes` are kept latest first. -/
structure Session (C : Type) where
  store : Store
  home : String
  folder : String
  shown : String
  env : Table String
  lastExit : Int := 0
  commands : Table C
  descriptions : Table String
  allowed : Option (List String) := none
  limit : Option Int := none
  hooks : Signal → Hook := fun _ => .unset
  clock : Int
  signals : List Signal := []
  notes : List Note := []

/-- A line and the time at which it is typed. -/
structure Typed where
  line : String
  clock : Int
  deriving Repr, DecidableEq

/-- A program on a session that may stop with a fault. -/
abbrev Run (C : Type) := EStateM Fault (Session C)

namespace Run

variable {C α : Type}

def get : Run C (Session C) := fun σ => .ok σ σ

def set (f : Session C → Session C) : Run C Unit := fun σ => .ok () (f σ)

/-- A question about the session, which it leaves alone. -/
def ask (f : Session C → Except Fault α) : Run C α := fun σ =>
  match f σ with
  | .ok a => .ok a σ
  | .error e => .error e σ

/-- Runs a program and hands over a fault instead of stopping with it. -/
def attempt (x : Run C α) : Run C (Except Fault α) := fun σ =>
  match x σ with
  | .ok a τ => .ok (.ok a) τ
  | .error e τ => .ok (.error e) τ

def note (n : Note) : Run C Unit := fun σ => .ok () { σ with notes := n :: σ.notes }

/-- A change of the store, kept also when it stops with a fault. -/
def edit (x : Edit α) : Run C α := fun σ =>
  match x σ.store with
  | .ok a s => .ok a { σ with store := s }
  | .error e s => .error e { σ with store := s }

/-- Tells the host. -/
def fire (signal : Signal) : Run C Unit := fun σ =>
  match σ.hooks signal with
  | .unset => .ok () σ
  | .accepts => .ok () { σ with signals := signal :: σ.signals }
  | .raises f => .error f σ

/-! ## Changes of the store with their notes -/

def add (r : Record) (parent : String) : Run C String := do
  let σ ← get
  let id ← edit (Store.add r parent σ.clock)
  let τ ← get
  match τ.store.get? id with
  | none => return id
  | some n =>
    note (.added n.kind n.name parent)
    return id

def update (id content : String) : Run C Unit := do
  let σ ← get
  edit (Store.update id content σ.clock)
  note (.updated id content.length)

def rename (id name : String) : Run C Unit := do
  let old ← edit (Store.rename id name)
  note (.renamed id old name)

def noteMoved (id target : String) : Option String → Run C Unit
  | none => return ()
  | some source => note (.moved id source target)

def move (id target : String) : Run C Unit := do
  let left ← edit (Store.move id target)
  noteMoved id target left

def restore (id : String) : Run C Unit := do
  let σ ← get
  let left ← edit (Store.restore id)
  noteMoved id σ.store.rootId left

def delete (id parent : String) : Run C Unit := do
  let held ← edit (Store.delete id parent)
  if held then note (.recycled id parent) else return ()

def purge (id : String) : Run C Unit := do
  edit (Store.purge id)
  note (.purged id)

def notePurged : List String → Run C Unit
  | [] => return ()
  | id :: rest => do
    note (.purged id)
    notePurged rest

def emptyBin : Run C Unit := do
  let σ ← get
  edit Store.emptyBin
  notePurged (((σ.store.get? σ.store.binId).map Node.childIds).getD [])

end Run

namespace Session

variable {C : Type}

/-- Where a path leads: an entry and the path to display for it. -/
structure Place where
  id : String
  shown : String
  deriving Repr, DecidableEq

def getEnv (σ : Session C) (name fallback : String) : String := (σ.env.get? name).getD fallback

/-- Enters a command. Names have no case; an empty description leaves the one that is there. -/
def register (σ : Session C) (name : String) (command : C) (description : String) : Session C :=
  let key := Text.lower name
  { σ with
    commands := σ.commands.put key command
    descriptions :=
      if description = "" then σ.descriptions else σ.descriptions.put key description }

/-- The names of all commands in code point order. -/
def commandNames (σ : Session C) : List String :=
  σ.commands.names.mergeSort fun a b => decide (a ≤ b)

/-- What a session is started with. Entries of `env` are entered over the standard ones; an empty
`home` means the root folder, and an empty list of allowed commands no restriction. -/
structure Options where
  env : Table String := []
  user : String := "Daniel"
  home : String := ""
  allowed : List String := []
  limit : Option Int := none

def standardEnv (user home : String) : Table String :=
  [("USER", user), ("HOME", home), ("SHELL", "/bin/bash")]

/-- A session in its home folder, without commands. -/
def start (store : Store) (o : Options) (clock : Int) : Except Fault (Session C) :=
  let home := if o.home = "" then store.rootId else o.home
  match store.path home with
  | .error f => .error f
  | .ok shown =>
    .ok {
      store, home, shown, clock
      folder := home
      env := (standardEnv o.user shown).merge o.env
      commands := []
      descriptions := []
      allowed := if o.allowed.isEmpty then none else some (o.allowed.map Text.lower)
      limit := o.limit }

end Session
end DeskShell

import DeskShell.Command.Args
import DeskShell.Shell.Resolve

/-!
# Inquiries

Commands look before they act: what they read from a session is a function of it that may end early,
with a result of its own or with a fault.

* `Inquiry`: such a reading; `Inquiry.run` is the command that does nothing else.
* `readOperand`: the text that a filter works on.
-/
namespace DeskShell

/-- Why a command ends before its end. -/
inductive Stop
  | result (r : Result)
  | fault (f : Fault)
  deriving Repr, DecidableEq

abbrev Inquiry (α : Type) := Except Stop α

namespace Inquiry

variable {C α : Type}

def fail (message : String) : Inquiry α := .error (.result (.failure message))

def finish (r : Result) : Inquiry α := .error (.result r)

def lift (x : Except Fault α) : Inquiry α :=
  match x with
  | .ok a => .ok a
  | .error f => .error (.fault f)

/-- A command that ends with a result or a fault and changes nothing. -/
def toRun (x : Session C → Inquiry Result) : Run C Result := fun σ =>
  match x σ with
  | .ok r => .ok r σ
  | .error (.result r) => .ok r σ
  | .error (.fault f) => .error f σ

/-- A command that acts on what it has found out. -/
def andThen (x : Session C → Inquiry α) (act : α → Run C Result) : Run C Result := fun σ =>
  match x σ with
  | .ok a => act a σ
  | .error (.result r) => .ok r σ
  | .error (.fault f) => .error f σ

end Inquiry

namespace Session

variable {C : Type}

/-- The entry that a path names, with its place; `missing` is the message when there is none. -/
def locate (σ : Session C) (path : Option String) (missing : String) :
    Inquiry (Place × Option Node) := do
  match ← Inquiry.lift (σ.resolveNode path) with
  | none => Inquiry.fail missing
  | some found => return found

/-- The content of the file at a path, for messages of `command`. -/
def readFile (σ : Session C) (command path : String) : Inquiry String := do
  let (_, node) ← σ.locate (some path) s!"{command}: {path}: No such file or directory"
  match node with
  | none => Inquiry.fail s!"{command}: {path}: Is a directory"
  | some n => if n.isDir then Inquiry.fail s!"{command}: {path}: Is a directory" else return n.text

/-- The content of the named file, or the standard input when no file is named. -/
def readOperand (σ : Session C) (command : String) (path : Option String) (stdin : String) :
    Inquiry String :=
  match path with
  | none => .ok stdin
  | some path => σ.readFile command path

end Session
end DeskShell

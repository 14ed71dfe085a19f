import DeskShell.Builtin.Program
import DeskShell.Shell.Call
import DeskShell.Shell.Engine

/-!
# Commands of the host

A host may enter commands of its own beside the built-in ones, or in place of them. One of them runs
a line in the session that it is called from, so how deep such lines may be nested is bounded.

* `HostCommand`: what a command of the host can do.
* `Action.run`: runs what stands in the table of such a session.
* `Session.withHost`: a session with the built-in commands, ready for those of the host.
-/
namespace DeskShell

inductive HostCommand
  /-- Always the same answer. -/
  | answer (r : Reply)
  /-- The arguments between bars, then a number sign and the input. -/
  | recite
  | fail (f : Fault)
  | call (c : Call)
  | line (text : String)
  deriving Repr, DecidableEq

/-- What stands in the command table of a session with a host. -/
inductive Action
  | program (p : Builtin.Program)
  | host (h : HostCommand)
  deriving Repr, DecidableEq

namespace HostCommand

variable {C : Type}

/-- Runs a command of the host; `nested` runs a line in its session. -/
def run (nested : String → Run C Result) (args : List String) (stdin : String) :
    HostCommand → Run C Reply
  | answer r => return r
  | recite => return .text (Text.glue '|' args ++ "#" ++ stdin)
  | fail f => throw f
  | call c => do
    let a ← c.run
    match a.text? with
    | none => return .nothing
    | some s => return .text s
  | line text => do
    let r ← nested text
    return .result r

end HostCommand

namespace Action

/-- Runs an action with at most `depth` lines of the host inside each other. -/
def run : Nat → Action → List String → String → Run Action Reply
  | _, program p, args, stdin => p.run args stdin
  | 0, host _, _, _ => throw .tooDeep
  | depth + 1, host h, args, stdin => h.run (Engine.execute (run depth)) args stdin

/-- How deep the lines of a host's commands may be nested. -/
def maxDepth : Nat := 1000

end Action

namespace Session

def withHost (σ : Session Action) : Session Action := σ.withPrograms .program

/-- Carries out a typed line in a session with a host. -/
def execute (text : String) : Run Action Result := Engine.execute (Action.run Action.maxDepth) text

end Session
end DeskShell

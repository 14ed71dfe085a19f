import DeskShell.Shell.Session
import DeskShell.Terminal.Invocation

/-!
# The log

How the notes of a session are written to the log.

* `Note.level`, `Note.source`, `Note.text`: the three parts of a record.
* `Log.write`: the records of the notes that a level lets through.
-/
namespace DeskShell
namespace Note

def level : Note → LogLevel
  | commandFailed _ | lineFailed _ => .error
  | _ => .debug

/-- The part of the program that a note comes from. -/
def source : Note → String
  | shortCircuit _ | dispatch .. | sideEffect .. | commandFailed _ | lineFailed _ =>
    "retroshell.shell.core"
  | added .. | updated .. | renamed .. | moved .. | recycled .. | purged _ => "retroshell.vfs"

def text : Note → String
  | shortCircuit exitCode => s!"Short-circuiting after exit code {exitCode}"
  | dispatch key arguments => s!"Dispatching {key} with {arguments} argument(s)"
  | sideEffect effect true => s!"Side effect {effect.word} (callback set)"
  | sideEffect effect false => s!"Side effect {effect.word} (callback unset)"
  | commandFailed key => s!"Built-in {key} failed"
  | lineFailed line => "Unhandled failure executing " ++ Text.quoted line
  | added kind name parent => s!"Added {kind.word} {Text.quoted name} to {parent}"
  | updated id chars => s!"Updated content of {id} ({chars} chars)"
  | renamed id old new => s!"Renamed {id} from {Text.quoted old} to {Text.quoted new}"
  | moved id source target => s!"Moved {id} from {source} to {target}"
  | recycled id parent => s!"Recycled {id} from {parent}"
  | purged id => s!"Permanently deleted {id}"

def record (n : Note) : String := n.level.word ++ ":" ++ n.source ++ ":" ++ n.text ++ "\n"

end Note

namespace Log

/-- The records of notes, latest first, that are at least as severe as `level`. -/
def write (level : LogLevel) (notes : List Note) : String :=
  String.join ((notes.reverse.filter fun n => level.rank ≤ n.level.rank).map Note.record)

end Log
end DeskShell

import DeskShell.Text.Quoted

/-!
# Faults

Why an operation stops. A fault is a cause; `Fault.message` gives its wording and `Fault.kind` the
class under which a host reports it.

* `Fault.isExpected`: the classes that a command reports under its own name. All others count as
  failures of the command itself.
-/
namespace DeskShell

/-- Classes of faults. The first five are expected of a file system in use. -/
inductive FaultKind
  | shell
  | notFound
  | taken
  | invalid
  | denied
  | key
  | value
  | index
  | runtime
  | unimplemented
  deriving Repr, DecidableEq

inductive Fault
  /-- No node has the id. -/
  | noNode (id : String)
  /-- A sibling of that name is in the folder already. -/
  | nameTaken (name folder : String)
  /-- The node has no list of children to add to. -/
  | holdsNothing (name : String)
  | notAFile (name : String)
  | notAFolder (name : String)
  | insideItself (name : String)
  | rootMissing (id : String)
  | systemItem (name : String)
  /-- A record or a table lacks an entry. -/
  | missing (key : String)
  /-- A word, or nothing, where one of a fixed family is needed. -/
  | notOneOf (family : String) (word : Option String)
  /-- A step up from a displayed path that has no parts left. -/
  | pathExhausted
  /-- A pattern that cannot be built at all, as against one that is written wrongly. -/
  | patternRefused (reason : String)
  /-- A time that no word of seconds holds. -/
  | secondsOutOfRange
  /-- A time whose year no word of years holds. -/
  | yearUnrepresentable
  | yearOutOfRange (year : Int)
  /-- A method that only concrete file systems have. -/
  | abstractMethod
  | tooDeep
  /-- A callback of the host failed. -/
  | callbackFailed (name : String)
  /-- Raised by a command of the host. -/
  | raised (kind : FaultKind) (message : String)
  deriving Repr, DecidableEq

namespace Fault

def message : Fault → String
  | noNode id => s!"No node with id {id}"
  | nameTaken name folder => s!"{name} already exists in {folder}"
  | holdsNothing name => s!"{name} cannot hold children"
  | notAFile name => s!"{name} is not a file"
  | notAFolder name => s!"{name} is not a folder"
  | insideItself name => s!"Cannot move {name} inside itself"
  | rootMissing id => s!"Root folder '{id}' missing from seed"
  | systemItem name => s!"{name} is a system item"
  | missing key => Text.quoted key
  | notOneOf family none => "None is not a valid " ++ family
  | notOneOf family (some word) => Text.quoted word ++ " is not a valid " ++ family
  | pathExhausted => "pop from empty list"
  | patternRefused reason => reason
  | secondsOutOfRange => "timestamp out of range for platform time_t"
  | yearUnrepresentable => "[Errno 75] Value too large for defined data type"
  | yearOutOfRange year => s!"year {year} is out of range"
  | abstractMethod => ""
  | tooDeep => "maximum recursion depth exceeded"
  | callbackFailed name => "callback " ++ name
  | raised _ text => text

def kind : Fault → FaultKind
  | noNode _ => .notFound
  | nameTaken .. => .taken
  | holdsNothing _ | notAFile _ | notAFolder _ | insideItself _ | rootMissing _ => .invalid
  | systemItem _ => .denied
  | missing _ => .key
  | notOneOf .. | patternRefused _ => .value
  | secondsOutOfRange | yearUnrepresentable | yearOutOfRange _ => .value
  | pathExhausted => .index
  | abstractMethod => .unimplemented
  | tooDeep | callbackFailed _ => .runtime
  | raised kind _ => kind

/-- The fault belongs to the normal use of a file system. -/
def isExpected (f : Fault) : Bool :=
  match f.kind with
  | .shell | .notFound | .taken | .invalid | .denied => true
  | _ => false

end Fault
end DeskShell

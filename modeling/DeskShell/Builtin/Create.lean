import DeskShell.Shell.Inquiry

/-!
# Making entries

`mkdir` makes folders and `touch` makes empty files. Both take any number of paths and end at the
first that cannot be made; `touch` leaves what is there as it is.

* `Making.plan`: what there is to do for one path.
-/
namespace DeskShell.Builtin

variable {C : Type}

inductive Making
  | folder
  | file
  deriving Repr, DecidableEq

namespace Making

def command : Making → String
  | folder => "mkdir"
  | file => "touch"

def verb : Making → String
  | folder => "create directory"
  | file => "touch"

def record (m : Making) (name : String) : Record :=
  match m with
  | folder => { name := some name, kind := some (some "folder"), children := some []
                appType := some "explorer" }
  | file => { name := some name, kind := some (some "file"), content := some ""
              appType := some "notepad" }

/-- The folder in which the entry at `path` is to be made and its name, or nothing when a file to be
touched is there. -/
def plan (m : Making) (path : String) (σ : Session C) : Inquiry (Option (String × String)) := do
  let failure (shown reason : String) : Inquiry (Option (String × String)) :=
    Inquiry.fail s!"{m.command}: cannot {m.verb} '{shown}': {reason}"
  match ← Inquiry.lift (σ.resolveParent path) with
  | (none, _) => failure path "No such file or directory"
  | (some parent, name) =>
    if name = "" then failure path "No such file or directory"
    else if ((σ.store.get? parent).map Node.isDir).getD false then
      match σ.store.childNamed parent name with
      | none => return some (parent, name)
      | some _ =>
        match m with
        | .file => return none
        | .folder => failure name "File exists"
    else failure path "Not a directory"

/-- Makes one entry. -/
def make (m : Making) (path : String) : Run C Result :=
  Inquiry.andThen (m.plan path) fun found => do
    match found with
    | none => return .done
    | some (parent, name) =>
      let _ ← Run.add (m.record name) parent
      return .done

/-- Makes entries until one fails. -/
def makeAll (m : Making) : List String → Run C Result
  | [] => return .done
  | path :: rest => do
    let r ← m.make path
    if r.exitCode = 0 then m.makeAll rest else return r

end Making

def mkdir (args : List String) : Run C Result :=
  match (Args.parse args).operands with
  | [] => return .failure "mkdir: missing operand"
  | paths => Making.folder.makeAll paths

def touch (args : List String) : Run C Result :=
  match (Args.parse args).operands with
  | [] => return .failure "touch: missing file operand"
  | paths => Making.file.makeAll paths

end DeskShell.Builtin

import DeskShell.Shell.Inquiry

/-!
# Moving and renaming

`mv` moves an entry into a folder, or gives it a new place and name.

* `MovePlan.ofPaths`: what there is to do, or why it cannot be done.
* `MovePlan.act`: doing it; a fault of the store becomes the message of the command.
-/
namespace DeskShell.Builtin

variable {C : Type}

/-- The old name is checked in the target folder and the new one in the old folder, so `place` may
have to rename before it moves. -/
inductive MovePlan
  | into (folder : String)
  | place (folder name : String) (renameFirst : Bool)
  deriving Repr, DecidableEq

namespace MovePlan

def noSource (source : String) : String :=
  s!"mv: cannot stat '{source}': No such file or directory"

/-- The entry to move, if it may be moved. -/
def sourceOf (source : String) (σ : Session C) : Inquiry Node := do
  let (_, node) ← σ.locate (some source) (noSource source)
  match node with
  | none => Inquiry.fail (noSource source)
  | some n =>
    if n.isSystem then Inquiry.fail s!"mv: cannot move '{source}': Permission denied"
    else return n

def refusal (source dest reason : String) : String :=
  s!"mv: cannot move '{source}' to '{dest}': {reason}"

/-- An entry other than `id`. -/
def isOther (n : Option Node) (id : String) : Bool := (n.map (·.id != id)).getD false

/-- A new place and name for `n` at a path that leads to nothing else. -/
def placeFor (n : Node) (source dest : String) (σ : Session C) : Inquiry MovePlan := do
  match ← Inquiry.lift (σ.resolveParent dest) with
  | (none, _) => Inquiry.fail (refusal source dest "No such file or directory")
  | (some parent, name) =>
    if name = "" then Inquiry.fail (refusal source dest "No such file or directory")
    else if isOther (σ.store.childNamed parent name) n.id then
      Inquiry.fail (refusal source dest "File exists")
    else return .place parent name (isOther (σ.store.childNamed parent n.name) n.id)

def ofPaths (n : Node) (source dest : String) (σ : Session C) : Inquiry MovePlan := do
  let found ← Inquiry.lift (σ.resolveNode (some dest))
  match found.bind (·.2) with
  | none => placeFor n source dest σ
  | some d =>
    if d.isContainer then return .into d.id
    else if d.id != n.id then Inquiry.fail (refusal source dest "File exists")
    else placeFor n source dest σ

def act (plan : MovePlan) (id : String) : Run C Unit :=
  match plan with
  | .into folder => Run.move id folder
  | .place folder name true => do
    Run.rename id name
    Run.move id folder
  | .place folder name false => do
    Run.move id folder
    Run.rename id name

/-- Does what is planned and reports an expected fault. -/
def perform (plan : MovePlan) (id source dest : String) : Run C Result := do
  match ← Run.attempt (plan.act id) with
  | .ok () => return .done
  | .error f => if f.isExpected then return .failure (refusal source dest f.message) else throw f

end MovePlan

def mv (args : List String) : Run C Result :=
  match (Args.parse args).operands with
  | source :: dest :: _ =>
    Inquiry.andThen (fun σ => do
        let n ← MovePlan.sourceOf source σ
        return (n.id, ← MovePlan.ofPaths n source dest σ))
      fun (id, plan) => plan.perform id source dest
  | _ => return .failure "mv: missing destination file operand"

end DeskShell.Builtin

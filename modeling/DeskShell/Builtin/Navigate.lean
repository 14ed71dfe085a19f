import DeskShell.Shell.Inquiry

/-!
# Moving about

`pwd` prints the displayed path of the working folder, `cd` changes both.

* `destination`: where `cd` leads.
-/
namespace DeskShell.Builtin

variable {C : Type}

def pwd (σ : Session C) : Inquiry Result := .ok (.out σ.shown)

/-- The folder that `cd` enters. A lone separator is the home folder; without a target, at a dot and
at the top of the tree there is nothing to enter. -/
def destination (target : String) (σ : Session C) : Inquiry Session.Place := do
  if target = "" then
    Inquiry.finish (.out σ.shown)
  else if target = "\\" ∨ target = "/" then
    return ⟨σ.home, ← Inquiry.lift (σ.store.path σ.home)⟩
  else if target = "." then
    Inquiry.finish .done
  else if target = ".." ∧ σ.store.parent? σ.folder = none then
    Inquiry.finish { stderr := "Already at root directory" }
  else
    let (place, node) ← σ.locate (some target) s!"cd: {target}: No such file or directory"
    match node with
    | none => Inquiry.fail s!"cd: {target}: Not a directory"
    | some n => if n.isDir then return place else Inquiry.fail s!"cd: {target}: Not a directory"

/-- Unquoted names with blanks work: the arguments are one target. -/
def cd (args : List String) : Run C Result :=
  Inquiry.andThen (destination (Text.glue ' ' args)) fun place => do
    Run.set fun σ => { σ with folder := place.id, shown := place.shown }
    return .done

end DeskShell.Builtin

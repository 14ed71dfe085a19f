import DeskShell.Shell.Inquiry

/-!
# Copying

`cp` copies a file, or with a flag a folder with all that is in it. A file of the same name is
replaced, not recycled.

* `copyTree`: a copy of an entry and of all below it that containers reach.
* `CopyPlan.ofPaths`: what there is to do, or why it cannot be done.
-/
namespace DeskShell.Builtin

variable {C : Type}

/-- The description of a copy. A system folder becomes an ordinary one; containers start empty. -/
def copyRecord (n : Node) (name : String) : Record :=
  let kind := if n.kind = .systemFolder then .folder else n.kind
  { name := some name
    kind := some (some kind.word)
    children := if n.isContainer then some [] else none
    content := n.content, icon := n.icon, appType := n.appType, metadata := n.metadata }

/-- Copies entries one after the other. -/
def copyAll (copyOne : String → Run C String) : List Node → Run C Unit
  | [] => return ()
  | n :: rest => do
    let _ ← copyOne n.id
    copyAll copyOne rest

/-- Copies the entry `id` into `parent`, under its own name unless another is given, to the depth
`fuel`. -/
def copyFrom : Nat → String → String → String → Run C String
  | 0, _, _, _ => throw .tooDeep
  | fuel + 1, id, parent, name => do
    let n ← Run.ask (·.store.require id)
    let made ← Run.add (copyRecord n (if name = "" then n.name else name)) parent
    if n.isContainer then
      let inside ← Run.ask fun σ => .ok (σ.store.contents id)
      copyAll (fun child => copyFrom fuel child made "") inside
    return made

/-- Copies an entry with all below it and gives the id of the copy. -/
def copyTree (id parent name : String) : Run C String := do
  let σ ← Run.get
  copyFrom (σ.store.nodes.length + 1) id parent name

structure CopyPlan where
  source : Node
  parent : String
  name : String
  /-- The entry that the copy takes the place of. -/
  existing : Option Node
  deriving Repr, DecidableEq

namespace CopyPlan

def noSource (source : String) : String :=
  s!"cp: cannot stat '{source}': No such file or directory"

/-- Where the copy of `n` goes: into a directory, in the place of a file, or to a new path. -/
def placeFor (n : Node) (dest : String) (σ : Session C) : Inquiry CopyPlan := do
  let found ← Inquiry.lift (σ.resolveNode (some dest))
  match found.bind (·.2) with
  | some d =>
    if d.isDir then
      if d.isSystem then Inquiry.fail s!"cp: cannot create '{dest}': Permission denied"
      else return ⟨n, d.id, n.name, σ.store.childNamed d.id n.name⟩
    else
      let parent := ((σ.store.parent? d.id).map (·.id)).getD σ.folder
      return ⟨n, parent, d.name, some d⟩
  | none =>
    match ← Inquiry.lift (σ.resolveParent dest) with
    | (none, _) => Inquiry.fail s!"cp: cannot create '{dest}': No such file or directory"
    | (some parent, name) =>
      if name = "" then Inquiry.fail s!"cp: cannot create '{dest}': No such file or directory"
      else return ⟨n, parent, name, none⟩

/-- The entry to copy, if it may be copied. -/
def sourceOf (source : String) (recursive : Bool) (σ : Session C) : Inquiry Node := do
  let (_, node) ← σ.locate (some source) (noSource source)
  match node with
  | none => Inquiry.fail (noSource source)
  | some n =>
    if n.isSystem then Inquiry.fail s!"cp: cannot copy '{source}': Permission denied"
    else if n.isContainer && !recursive then
      Inquiry.fail s!"cp: -r not specified; omitting directory '{source}'"
    else return n

def ofPaths (source dest : String) (recursive : Bool) (σ : Session C) : Inquiry CopyPlan := do
  let n ← sourceOf source recursive σ
  let plan ← placeFor n dest σ
  if (plan.existing.map (·.id)) = some n.id then
    Inquiry.fail s!"cp: '{source}' and '{dest}' are the same file"
  else if n.isContainer && σ.store.isWithin plan.parent n.id then
    Inquiry.fail s!"cp: cannot copy a directory, '{source}', into itself, '{dest}'"
  else if (plan.existing.map Node.isDir).getD false then
    Inquiry.fail s!"cp: cannot overwrite directory '{dest}': File exists"
  else return plan

def act (plan : CopyPlan) : Run C Result := do
  match plan.existing with
  | none => pure ()
  | some old => Run.purge old.id
  let _ ← copyTree plan.source.id plan.parent plan.name
  return .done

end CopyPlan

def cp (args : List String) : Run C Result :=
  let parsed := Args.parse args
  match parsed.operands with
  | source :: dest :: _ =>
    Inquiry.andThen (CopyPlan.ofPaths source dest (parsed.has ["r", "R", "recursive"]))
      CopyPlan.act
  | _ => return .failure "cp: missing destination file operand"

end DeskShell.Builtin

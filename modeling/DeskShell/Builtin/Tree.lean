import DeskShell.Shell.Inquiry

/-!
# Drawing a folder

`tree` draws all that lies below an entry through containers, one line for each entry.

* `Drawing`: lines with the numbers of folders and files among them.
-/
namespace DeskShell.Builtin

variable {C : Type}

structure Drawing where
  lines : List String := []
  dirs : Nat := 0
  files : Nat := 0
  deriving Repr, DecidableEq

def Drawing.append (a b : Drawing) : Drawing :=
  ⟨a.lines ++ b.lines, a.dirs + b.dirs, a.files + b.files⟩

/-- Draws the entries of one folder; `below` draws what is inside one of them. -/
def drawAll (below : String → String → Drawing) (indent : String) : List Node → Drawing
  | [] => {}
  | e :: rest =>
    let branch := if rest.isEmpty then "└── " else "├── "
    let deeper := if rest.isEmpty then "    " else "│   "
    let line := indent ++ branch ++ e.name
    let here : Drawing :=
      if e.isContainer then Drawing.append ⟨[line], 1, 0⟩ (below (indent ++ deeper) e.id)
      else ⟨[line], 0, 1⟩
    here.append (drawAll below indent rest)

def draw (s : Store) : Nat → String → String → Drawing
  | 0, _, _ => {}
  | fuel + 1, indent, id => drawAll (draw s fuel) indent (s.contents id)

def tree (args : List String) (σ : Session C) : Inquiry Result := do
  let start := (Args.parse args).operands.head?.getD "."
  let (place, node) ← σ.locate (some start) s!"tree: '{start}': No such file or directory"
  let drawing := draw σ.store σ.store.nodes.length "" place.id
  let top := (node.map (·.name)).getD start
  let summary := s!"{drawing.dirs} directories, {drawing.files} files"
  return .out (Text.unlines (top :: drawing.lines) ++ "\n\n" ++ summary)

end DeskShell.Builtin

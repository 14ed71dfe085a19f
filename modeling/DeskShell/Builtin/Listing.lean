import DeskShell.Shell.Inquiry
import DeskShell.Calendar

/-!
# Listing folders

`ls` lists names in a row or in a long table, `dir` lists in the manner of DOS.

* `Row`: what a listing shows of an entry.
-/
namespace DeskShell.Builtin

variable {C : Type}

structure Row where
  name : String
  isDir : Bool
  size : Nat
  modified : Int
  deriving Repr, DecidableEq

def Row.ofNode (n : Node) : Row := ⟨n.name, n.isDir, n.size, n.modified⟩

/-- A row of the long table. -/
def Row.long (user : String) (r : Row) : Inquiry String := do
  let stamp ← Inquiry.lift (Stamp.ofSeconds r.modified)
  let mode := if r.isDir then "drwxr-xr-x" else "-rw-r--r--"
  return s!"{mode}  1 {user}  {Text.padLeft 6 (toString r.size)}  {stamp.monthDay}  {r.name}"

/-- The rows that `ls` shows: a file itself, or the children of a folder after two rows for the
folder and its parent. -/
def rowsOf (σ : Session C) (showAll : Bool) (place : Session.Place) (node : Option Node) :
    List Row :=
  let inside := (σ.store.contents place.id).map Row.ofNode
  match node with
  | none => inside
  | some n =>
    if !n.isDir then [Row.ofNode n]
    else if showAll then ⟨".", true, 0, n.modified⟩ :: ⟨"..", true, 0, n.modified⟩ :: inside
    else inside

def ls (args : List String) (σ : Session C) : Inquiry Result := do
  let parsed := Args.parse args
  let target := parsed.operands.head?
  let named := target.getD ""
  let (place, node) ← σ.locate target
    s!"ls: cannot access '{named}': No such file or directory"
  let rows := rowsOf σ (parsed.has ["a", "all"]) place node
  if rows.isEmpty then
    return .done
  else if parsed.has ["l"] then
    let table ← rows.mapM (Row.long (σ.getEnv "USER" "user"))
    return .out (Text.unlines (s!"total {rows.length}" :: table))
  else
    return .out ("  ".intercalate (rows.map (·.name)))

/-! ## In the manner of DOS -/

def dosLine (r : Row) : Inquiry String := do
  let stamp ← Inquiry.lift (Stamp.ofSeconds r.modified)
  let size := Text.padLeft 14 (toString r.size)
  let column := if r.isDir then "<DIR>         " else size
  return s!"{stamp.date}  {stamp.clock12}    {column} {r.name}"

def dir (args : List String) (σ : Session C) : Inquiry Result := do
  let (place, _) ← σ.locate (Args.parse args).operands.head?
    "The system cannot find the path specified."
  let rows := (σ.store.contents place.id).map Row.ofNode
  let header := ["", s!" Directory of {place.shown}", ""]
  if rows.isEmpty then
    return .out (Text.unlines (header ++ ["File Not Found"]))
  else
    let table ← rows.mapM dosLine
    let files := rows.filter (!·.isDir)
    let total := files.foldl (fun total r => total + r.size) 0
    let fileCount := Text.padLeft 16 (toString files.length)
    let dirCount := Text.padLeft 16 (toString (rows.length - files.length))
    return .out (Text.unlines (header ++ table ++
      [s!"{fileCount} File(s) {Text.padLeft 14 (toString total)} bytes", s!"{dirCount} Dir(s)"]))

end DeskShell.Builtin

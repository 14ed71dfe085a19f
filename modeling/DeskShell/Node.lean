import DeskShell.Fault

/-!
# Nodes

The entries of the desktop: files, folders, drives and the two kinds of system items.

* `Kind`: what an entry is; `Kind.word` and `Kind.ofWord?` are its written form.
* `Node`: an entry with its list of children, if it has one.
* `Record`: a description of an entry to be made, in which the name may be missing and the kind
  may be any word; `Node.ofRecord` makes the entry or says what is wrong.
-/
namespace DeskShell

inductive Kind
  | file
  | folder
  | system
  | systemFolder
  | drive
  deriving Repr, DecidableEq

namespace Kind

def word : Kind → String
  | file => "file"
  | folder => "folder"
  | system => "system"
  | systemFolder => "system-folder"
  | drive => "drive"

def ofWord? : String → Option Kind
  | "file" => some file
  | "folder" => some folder
  | "system" => some system
  | "system-folder" => some systemFolder
  | "drive" => some drive
  | _ => none

theorem ofWord?_word (k : Kind) : ofWord? k.word = some k := by cases k <;> rfl

/-- Everything but a plain file is listed and entered like a directory. -/
def isDir (k : Kind) : Bool := k != file

/-- The kinds whose children are visited by a walk. -/
def isContainer : Kind → Bool
  | folder | systemFolder | drive => true
  | file | system => false

end Kind

/-- An entry of the store. `metadata` holds further fields with their values as written; nothing
here reads them. -/
structure Node where
  id : String
  name : String
  kind : Kind
  children : Option (List String)
  content : Option String
  icon : Option String
  appType : Option String
  metadata : List (String × String)
  created : Int
  modified : Int
  deriving Repr, DecidableEq

namespace Node

def isDir (n : Node) : Bool := n.kind.isDir
def isContainer (n : Node) : Bool := n.kind.isContainer
def isSystem (n : Node) : Bool := n.kind == .system

/-- The content, empty when there is none. -/
def text (n : Node) : String := n.content.getD ""

def size (n : Node) : Nat := n.text.length

/-- The ids listed as children, none when there is no list. -/
def childIds (n : Node) : List String := n.children.getD []

def lists (n : Node) (id : String) : Bool := n.childIds.contains id

/-- `id` put at the end of the children, if there is a list of them. -/
def pushChild (id : String) (n : Node) : Node := { n with children := n.children.map (· ++ [id]) }

/-- The first mention of `id` taken out of the children. -/
def dropChild (id : String) (n : Node) : Node := { n with children := n.children.map (·.erase id) }

end Node

/-- A description of an entry. `kind` is `none` when not given and `some none` when given as
nothing. -/
structure Record where
  name : Option String := none
  kind : Option (Option String) := none
  children : Option (List String) := none
  content : Option String := none
  icon : Option String := none
  appType : Option String := none
  metadata : List (String × String) := []
  deriving Repr, DecidableEq

/-- The kind that a record asks for; a file when it does not say. -/
def Record.kindOf (r : Record) : Except Fault Kind :=
  match r.kind with
  | none => .ok .file
  | some none => .error (.notOneOf "NodeKind" none)
  | some (some word) =>
    match Kind.ofWord? word with
    | some k => .ok k
    | none => .error (.notOneOf "NodeKind" (some word))

/-- The entry described by a record. A container always has a list of children. -/
def Node.ofRecord (id : String) (r : Record) (now : Int) : Except Fault Node :=
  match r.name with
  | none => .error (.missing "name")
  | some name =>
    match r.kindOf with
    | .error f => .error f
    | .ok kind =>
      .ok {
        id, name, kind
        children := if kind.isContainer then some (r.children.getD []) else r.children
        content := r.content, icon := r.icon, appType := r.appType, metadata := r.metadata
        created := now, modified := now }

end DeskShell

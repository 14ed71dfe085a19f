import DeskShell.Shell.Session

/-!
# Calls of the file system

Questions to the store of a session and changes of it, as data, so that a host can keep a call and
make it later.

* `Call` and `Answer`: what is asked and what comes back; `Call.run` makes the call.
* `Method`: the operations that every file system offers. `Method.bare` is how they answer before a
  file system fills them in.
-/
namespace DeskShell

inductive Call
  | get (id : String)
  | contents (id : String)
  | parent (id : String)
  | path (id : String)
  | find (path : String)
  | walk (id : String)
  | child (parent name : String)
  | add (r : Record) (parent : String)
  | update (id content : String)
  | rename (id name : String)
  | move (id target : String)
  | delete (id parent : String)
  | purge (id : String)
  | restore (id : String)
  | emptyBin
  deriving Repr, DecidableEq

inductive Answer
  | nothing
  | text (s : String)
  | node (n : Node)
  | ids (all : List String)
  deriving Repr, DecidableEq

namespace Answer

/-- The id of an entry that may be missing. -/
def ofNode? : Option Node → Answer
  | none => nothing
  | some n => text n.id

def text? : Answer → Option String
  | text s => some s
  | _ => none

end Answer

namespace Call

variable {C : Type}

def run : Call → Run C Answer
  | get id => Run.ask fun σ =>
      .ok (match σ.store.get? id with
        | none => .nothing
        | some n => .node n)
  | contents id => Run.ask fun σ => .ok (.ids ((σ.store.contents id).map (·.id)))
  | parent id => Run.ask fun σ => .ok (.ofNode? (σ.store.parent? id))
  | path id => Run.ask fun σ => (σ.store.path id).map .text
  | find text => Run.ask fun σ => (σ.store.find text).map .ofNode?
  | walk id => Run.ask fun σ => (σ.store.walk id).map fun ns => .ids (ns.map (·.id))
  | child folder name => Run.ask fun σ => .ok (.ofNode? (σ.store.childNamed folder name))
  | add r folder => do
    let id ← Run.add r folder
    return .text id
  | update id content => do
    Run.update id content
    return .nothing
  | rename id name => do
    Run.rename id name
    return .nothing
  | move id target => do
    Run.move id target
    return .nothing
  | delete id folder => do
    Run.delete id folder
    return .nothing
  | purge id => do
    Run.purge id
    return .nothing
  | restore id => do
    Run.restore id
    return .nothing
  | emptyBin => do
    Run.emptyBin
    return .nothing

end Call

inductive Method
  | get | contents | parent | path | find | add | update | rename | move | delete | purge
  deriving Repr, DecidableEq

namespace Method

def all : List Method :=
  [get, contents, parent, path, find, add, update, rename, move, delete, purge]

/-- A method that a file system does not fill in has no answer. -/
def bare (_ : Method) : Except Fault Answer := .error .abstractMethod

end Method
end DeskShell

import DeskShell.Store.Walk

/-!
# Changing a store

The operations that change a store. Each of them may stop with a fault, and then hands on the store
it had reached; the number that the next fresh id tries is part of that store.

* `Store.add`, `Store.update`, `Store.rename`, `Store.move`: making and changing an entry.
* `Store.delete`: into the recycle bin, or out of the store when there is no bin to hold it.
* `Store.purge`, `Store.restore`, `Store.emptyBin`: out of the store and back from the bin.
* `Store.ofRecords`: a store from the descriptions of its entries.
-/
namespace DeskShell

/-- An operation on a store that may stop with a fault. -/
abbrev Edit := EStateM Fault Store

namespace Edit

/-- A question about the store, which it leaves alone. -/
def ask {α : Type} (f : Store → Except Fault α) : Edit α := fun s =>
  match f s with
  | .ok a => .ok a s
  | .error e => .error e s

def apply (f : Store → Store) : Edit Unit := fun s => .ok () (f s)

def check (fault : Fault) (holds : Store → Bool) : Edit Unit := fun s =>
  if holds s then .ok () s else .error fault s

end Edit

namespace Store

/-- Ids given to new entries. -/
def idOf (k : Nat) : String := s!"file-{k}"

/-- The first number from `k` on whose id is free, tried `fuel` times at most. -/
def freeFrom (s : Store) : Nat → Nat → Nat
  | 0, k => k
  | fuel + 1, k => if s.has (idOf k) then s.freeFrom fuel (k + 1) else k

/-- A number whose id is free: among one more number than there are entries, one is. -/
def freeNumber (s : Store) : Nat := s.freeFrom s.nodes.length s.counter

/-- Takes a free id out of the supply. -/
def freshId : Edit String := fun s =>
  let k := s.freeNumber
  .ok (idOf k) { s with counter := k + 1 }

def guardSystem (n : Node) : Edit Unit :=
  Edit.check (.systemItem n.name) fun _ => !n.isSystem

/-! ## Entries out of the store -/

theorem length_erase_lt {s : Store} {id : String} (h : s.has id = true) :
    (s.erase id).nodes.length < s.nodes.length := by
  obtain ⟨n, hn, hid⟩ := List.any_eq_true.mp h
  exact List.length_filter_lt_length_iff_exists.mpr ⟨n, hn, by simpa using hid⟩

/-- Takes the entries `pending` and all that their lists of children mention out of the store. -/
def dropAll (s : Store) (pending : List String) : Store :=
  match pending with
  | [] => s
  | id :: rest =>
    if h : s.has id then
      have := length_erase_lt h
      dropAll (s.erase id) (((s.get? id).map Node.childIds).getD [] ++ rest)
    else dropAll s rest
termination_by (s.nodes.length, pending.length)

/-! ## Operations -/

/-- Makes the described entry, last among the children of `parent`, and gives its id. -/
def add (r : Record) (parent : String) (now : Int) : Edit String := do
  let folder ← Edit.ask (·.require parent)
  Edit.check (.holdsNothing folder.name) fun _ => folder.children.isSome
  let name ← Edit.ask fun _ => (r.name.map .ok).getD (.error (.missing "name"))
  Edit.check (.nameTaken name folder.name) fun s => (s.childNamed parent name).isNone
  let id ← freshId
  let made ← Edit.ask fun _ => Node.ofRecord id r now
  let made := if made.isContainer then { made with children := some [] } else made
  Edit.apply fun s => (s.insert made).adjust parent (Node.pushChild id)
  return id

/-- Gives a file new content. -/
def update (id content : String) (now : Int) : Edit Unit := do
  let n ← Edit.ask (·.require id)
  Edit.check (.notAFile n.name) fun _ => !n.isDir
  Edit.apply (·.adjust id fun n => { n with content := some content, modified := now })

/-- Gives an entry a new name, and answers with the old one. -/
def rename (id name : String) : Edit String := do
  let n ← Edit.ask (·.require id)
  guardSystem n
  let parent ← Edit.ask fun s => .ok (s.parent? id)
  match parent with
  | none => pure ()
  | some p =>
    Edit.check (.nameTaken name p.name) fun s =>
      match s.childNamed p.id name with
      | none => true
      | some other => other.id == id
  Edit.apply (·.adjust id fun n => { n with name := name })
  return n.name

/-- Moves an entry to the end of another folder's children. Answers with the folder that it left,
or with nothing when it stays where it is. -/
def move (id target : String) : Edit (Option String) := do
  let n ← Edit.ask (·.require id)
  guardSystem n
  let folder ← Edit.ask (·.require target)
  if id = target then
    return none
  Edit.check (.notAFolder folder.name) fun _ => folder.children.isSome
  let below ← Edit.ask (·.walk id)
  Edit.check (.insideItself n.name) fun _ => !below.any (·.id == target)
  let parent ← Edit.ask fun s => .ok (s.parent? id)
  match parent with
  | none => return none
  | some p =>
    if p.id = target then
      return none
    Edit.check (.nameTaken n.name folder.name) fun s => (s.childNamed target n.name).isNone
    Edit.apply fun s => (s.adjust p.id (Node.dropChild id)).adjust target (Node.pushChild id)
    return some p.id

/-- Takes an entry from `parent` into the recycle bin. Answers whether the bin holds it now. -/
def delete (id parent : String) : Edit Bool := do
  let n ← Edit.ask (·.require id)
  guardSystem n
  let _ ← Edit.ask (·.require parent)
  Edit.apply (·.adjust parent (Node.dropChild id))
  let bin ← Edit.ask fun s => .ok (s.get? s.binId)
  match bin.bind (·.children) with
  | none =>
    Edit.apply (·.dropAll [id])
    return false
  | some _ =>
    Edit.apply fun s => s.adjust s.binId (Node.pushChild id)
    return true

/-- Takes an entry and all below it out of the store. -/
def purge (id : String) : Edit Unit :=
  Edit.apply fun s =>
    match s.parent? id with
    | none => s.dropAll [id]
    | some p => (s.adjust p.id (Node.dropChild id)).dropAll [id]

/-- Moves an entry to the root folder. -/
def restore (id : String) : Edit (Option String) := do
  let root ← Edit.ask fun s => .ok s.rootId
  move id root

def purgeAll : List String → Edit Unit
  | [] => pure ()
  | id :: rest => do
    purge id
    purgeAll rest

def emptyBin : Edit Unit := do
  let bin ← Edit.ask fun s => s.require s.binId
  purgeAll bin.childIds

/-! ## Building -/

def nodesOf (now : Int) : List (String × Record) → Except Fault (List Node)
  | [] => .ok []
  | (id, r) :: rest =>
    match Node.ofRecord id r now with
    | .error f => .error f
    | .ok n =>
      match nodesOf now rest with
      | .error f => .error f
      | .ok ns => .ok (n :: ns)

/-- A store from descriptions with distinct ids. The root must be among them. -/
def ofRecords (records : List (String × Record)) (rootId binId : String) (now : Int) :
    Except Fault Store :=
  match nodesOf now records with
  | .error f => .error f
  | .ok nodes =>
    let s : Store := { nodes, rootId, binId }
    if s.has rootId then .ok s else .error (.rootMissing rootId)

end Store
end DeskShell

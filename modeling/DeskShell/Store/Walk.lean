import DeskShell.Path
import DeskShell.Store.Basic

/-!
# Finding the way in a store

Up through the entries that list an id, down through lists of children, and along path texts. Names
are compared without case. Each walk is bounded by the number of entries, which no walk in a store
without cycles exceeds.

* `Store.ancestors`, `Store.path`, `Store.isWithin`: the way up.
* `Store.walk`: an entry and all that is below it through containers, parents first.
* `Store.childNamed`, `Store.find`: the way down by name.
-/
namespace DeskShell.Store

/-! ## Up -/

/-- The entries above `id`, nearest first, at most `fuel` of them. -/
def climb (s : Store) : Nat → String → List Node
  | 0, _ => []
  | fuel + 1, id =>
    match s.parent? id with
    | none => []
    | some p => p :: s.climb fuel p.id

def ancestors (s : Store) (id : String) : List Node := s.climb s.nodes.length id

/-- The displayed path of an entry: the drive, then the names from the top down. -/
def path (s : Store) (id : String) : Except Fault String :=
  match s.require id with
  | .error f => .error f
  | .ok n => .ok (Path.display (Path.drive :: ((n :: s.ancestors id).reverse.map (·.name))))

/-- `id` is the entry `ancestor` or lies below it. -/
def isWithin (s : Store) (id ancestor : String) : Bool :=
  id == ancestor || (s.ancestors id).any (·.id == ancestor)

/-! ## Down -/

/-- `n` and the entries below it that are reached through containers, to the depth `fuel`. -/
def walkFrom (s : Store) : Nat → Node → List Node
  | 0, n => [n]
  | fuel + 1, n =>
    n :: if n.isContainer then (s.contents n.id).flatMap (s.walkFrom fuel) else []

def walk (s : Store) (id : String) : Except Fault (List Node) :=
  match s.require id with
  | .error f => .error f
  | .ok n => .ok (s.walkFrom s.nodes.length n)

/-! ## By name -/

/-- The first child of an entry with that name in any case. -/
def childNamed (s : Store) (parent name : String) : Option Node :=
  (s.contents parent).find? fun n => Text.sameName n.name name

/-- The entry reached from `here` by names, where `.` stays and `..` goes up if it can. -/
def follow (s : Store) (here : Node) : List String → Option Node
  | [] => some here
  | part :: parts =>
    if part = "." then s.follow here parts
    else if part = ".." then s.follow ((s.parent? here.id).getD here) parts
    else
      match s.childNamed here.id part with
      | none => none
      | some child => s.follow child parts

/-- The entry at an absolute path. The drive and the name of the root may be left out. -/
def find (s : Store) (path : String) : Except Fault (Option Node) :=
  match s.get? s.rootId with
  | none => .error (.missing s.rootId)
  | some root =>
    match Path.segments (Path.dropDrive (Path.normalize path)) with
    | [] => .ok (some root)
    | first :: rest =>
      .ok (s.follow root (if Text.sameName first root.name then rest else first :: rest))

end DeskShell.Store

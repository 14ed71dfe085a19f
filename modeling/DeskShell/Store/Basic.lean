import DeskShell.Node

/-!
# The store

The entries of a desktop by id, in the order in which they were entered. Children are named by id,
so the lists may mention ids that are not stored or are mentioned elsewhere too; that the entries
form a tree is a property of a store and not of the type.

* `Store.get?`, `Store.contents`, `Store.parent?`: reading.
* `Store.insert`, `Store.adjust`, `Store.erase`: the three ways in which the list of entries
  changes, each with its effect on `get?`.
-/
namespace DeskShell

/-- `counter` is the number that the next fresh id tries first. -/
structure Store where
  nodes : List Node
  rootId : String
  binId : String
  counter : Nat := 1
  deriving Repr, DecidableEq

namespace Store

def get? (s : Store) (id : String) : Option Node := s.nodes.find? (·.id == id)

def has (s : Store) (id : String) : Bool := s.nodes.any (·.id == id)

/-- The stored children of an entry, in order. -/
def contents (s : Store) (id : String) : List Node :=
  match s.get? id with
  | none => []
  | some n => n.childIds.filterMap s.get?

/-- The first entry that lists `id` among its children. -/
def parent? (s : Store) (id : String) : Option Node := s.nodes.find? (·.lists id)

def require (s : Store) (id : String) : Except Fault Node :=
  match s.get? id with
  | some n => .ok n
  | none => .error (.noNode id)

/-! ## Changes to the list of entries -/

def insert (s : Store) (n : Node) : Store := { s with nodes := s.nodes ++ [n] }

/-- The entry `id` changed by `f`. -/
def adjust (s : Store) (id : String) (f : Node → Node) : Store :=
  { s with nodes := s.nodes.map fun n => if n.id == id then f n else n }

def erase (s : Store) (id : String) : Store :=
  { s with nodes := s.nodes.filter (·.id != id) }

theorem id_of_get? {s : Store} {id : String} {n : Node} (h : s.get? id = some n) : n.id = id := by
  have := List.find?_some h
  simpa using this

theorem has_iff {s : Store} {id : String} : s.has id = true ↔ ∃ n, s.get? id = some n := by
  rw [← Option.isSome_iff_exists]
  simp [has, get?, List.find?_isSome]

theorem get?_insert (s : Store) (n : Node) (id : String) :
    (s.insert n).get? id = (s.get? id).or (if n.id = id then some n else none) := by
  by_cases h : n.id = id <;> simp [get?, insert, List.find?_append, h]

theorem get?_adjust (s : Store) (id : String) (f : Node → Node) (hf : ∀ n, (f n).id = n.id)
    (other : String) :
    (s.adjust id f).get? other = if other = id then (s.get? id).map f else s.get? other := by
  unfold get? adjust
  induction s.nodes with
  | nil => simp
  | cons n rest ih =>
    by_cases hn : n.id = id
    · by_cases ho : other = id
      · subst ho
        simp [hn, hf]
      · have hne : ¬ n.id = other := fun e => ho (e ▸ hn)
        simp only [List.map_cons, hn, BEq.rfl, ↓reduceIte, ho] at ih ⊢
        rw [List.find?_cons_of_neg (by simpa [hf] using hne),
          List.find?_cons_of_neg (by simpa using hne)]
        exact ih
    · by_cases ho : other = id
      · subst ho
        simp only [List.map_cons, beq_eq_false_iff_ne.mpr hn, Bool.false_eq_true, ↓reduceIte] at ih ⊢
        rw [List.find?_cons_of_neg (by simpa using hn), List.find?_cons_of_neg (by simpa using hn)]
        exact ih
      · simp only [List.map_cons, beq_eq_false_iff_ne.mpr hn, Bool.false_eq_true, ↓reduceIte,
          ho] at ih ⊢
        by_cases hm : n.id = other
        · rw [List.find?_cons_of_pos (by simpa using hm), List.find?_cons_of_pos (by simpa using hm)]
        · rw [List.find?_cons_of_neg (by simpa using hm), List.find?_cons_of_neg (by simpa using hm)]
          exact ih

theorem get?_erase (s : Store) (id other : String) :
    (s.erase id).get? other = if other = id then none else s.get? other := by
  by_cases h : other = id
  · subst h
    simp [get?, erase, List.find?_eq_none]
  · simp only [get?, erase, h, ↓reduceIte, List.find?_filter]
    congr 1
    funext n
    by_cases hn : n.id = other <;> simp [hn, h]

end Store
end DeskShell

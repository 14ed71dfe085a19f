/-!
# Tables

Small tables from names to values that keep the order in which names were first entered:
environment variables, flags, commands.

* `Table.put`: enters a value under a name, in place when the name is there already.
* `Table.get?_put`: reading after a change.
-/
namespace DeskShell

abbrev Table (α : Type) := List (String × α)

namespace Table

variable {α : Type}

def get? (t : Table α) (name : String) : Option α :=
  match t with
  | [] => none
  | (n, v) :: rest => if n = name then some v else get? rest name

def put (t : Table α) (name : String) (value : α) : Table α :=
  match t with
  | [] => [(name, value)]
  | (n, v) :: rest => if n = name then (name, value) :: rest else (n, v) :: put rest name value

def drop (t : Table α) (name : String) : Table α := t.filter fun e => e.1 != name

/-- All entries of `u` entered over `t`, in order. -/
def merge (t u : Table α) : Table α := u.foldl (fun acc e => put acc e.1 e.2) t

def names (t : Table α) : List String := t.map (·.1)

theorem get?_put (t : Table α) (name : String) (value : α) (other : String) :
    get? (put t name value) other = if name = other then some value else get? t other := by
  induction t with
  | nil => simp [get?, put]
  | cons e rest ih =>
    obtain ⟨n, v⟩ := e
    by_cases hn : n = name
    · subst hn
      by_cases h : n = other <;> simp [get?, put, h]
    · by_cases h : n = other
      · subst h
        simp [get?, put, hn, Ne.symm hn]
      · simp [get?, put, hn, h, ih]

theorem mem_of_get? {t : Table α} {name : String} {value : α} (h : t.get? name = some value) :
    (name, value) ∈ t := by
  induction t with
  | nil => cases h
  | cons e rest ih =>
    obtain ⟨n, v⟩ := e
    rw [get?] at h
    split at h
    · next hn =>
      obtain rfl := Option.some.inj h
      exact hn ▸ List.mem_cons_self
    · exact List.mem_cons_of_mem _ (ih h)

end Table
end DeskShell

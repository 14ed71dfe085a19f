import DeskShell.Proofs.HalfMoves

/-!
# Inside, from above and from below

Whether an entry is inside another one is asked in two ways. A move walks down from the upper entry
and looks whether it meets the lower one; a copy climbs up from the lower entry and looks whether it
comes to the upper one. The walk goes on from containers only, the climb from any entry to the one
that lists it.

* `Store.Ordinary`: only containers have children in what is below an entry.
* `Forest.walk_agrees_iff`: the two ways agree exactly on such entries.
-/
namespace DeskShell

open Relation (ReflTransGen TransGen)

variable {s : Store} {a b : String}

/-- Of all that is below `a`, and of `a` itself, only containers list children. -/
def Store.Ordinary (s : Store) (a : String) : Prop :=
  ∀ m, s.get? m.id = some m → ReflTransGen s.Lists a m.id → m.childIds ≠ [] →
    m.isContainer = true

namespace Forest

open Store

/-- Below an ordinary entry, each step down is a step down from a container. -/
theorem opens_of_lists (h : s.Ordinary a) (hab : ReflTransGen s.Lists a b) :
    ReflTransGen s.Opens a b := by
  induction hab with
  | refl => exact .refl
  | @tail p c hap hpc ih =>
    obtain ⟨n, hn, hc⟩ := hpc
    obtain rfl := id_of_get? hn
    have hcont := h n hn hap (List.ne_nil_of_mem hc)
    exact ih.tail ⟨n, hn, hcont, hc⟩

/-- A child that is reached by steps down from containers has a container for its parent. -/
theorem isContainer_of_opens (F : Forest s) {m : Node} {c : String} (hm : s.get? m.id = some m)
    (hc : c ∈ m.childIds) (ham : ReflTransGen s.Lists a m.id) (hopens : ReflTransGen s.Opens a c) :
    m.isContainer = true := by
  have hmc : s.Lists m.id c := ⟨m, hm, hc⟩
  rcases ReflTransGen.cases_tail hopens with rfl | ⟨p, -, hpc⟩
  · -- Nothing comes back to where it started.
    exact absurd (TransGen.tail' ham hmc) (F.acyclic _)
  · obtain rfl := F.parent_unique hpc.lists hmc
    obtain ⟨n, hn, hcont, -⟩ := hpc
    rw [hm] at hn
    rwa [Option.some.inj hn]

/-- It is enough to look at the stored entries, from below. -/
theorem ordinary_iff (F : Forest s) : s.Ordinary a ↔
    ∀ m ∈ s.nodes, s.isWithin m.id a = true → m.childIds ≠ [] → m.isContainer = true := by
  constructor
  · intro h m hm hwithin hchildren
    exact h m (F.distinct.get?_of_mem hm) (F.isWithin_iff.mp hwithin) hchildren
  · intro h m hm ham hchildren
    exact h m (mem_nodes_of_get? hm) (F.isWithin_iff.mpr ham) hchildren

/-- A walk down from an entry of a forest meets no entry twice. It meets just the entries that are
within that entry if and only if, below it, only containers have children. -/
theorem walk_agrees_iff (F : Forest s) {n : Node} (hn : s.get? a = some n) :
    ∃ L, s.walk a = .ok L ∧ (L.map (·.id)).Nodup ∧
      ((∀ b m, s.get? b = some m → (m ∈ L ↔ s.isWithin b a = true)) ↔ s.Ordinary a) := by
  obtain rfl := id_of_get? hn
  refine ⟨s.walkFrom s.nodes.length n, by rw [walk, require, hn], F.nodup_walkFrom _ n hn, ?_⟩
  constructor
  · intro h m hm ham hchildren
    obtain ⟨c, hc⟩ := List.exists_mem_of_ne_nil _ hchildren
    obtain ⟨k, hk⟩ := has_iff.mp (F.stored m.id c ⟨m, hm, hc⟩)
    have hwithin : s.isWithin c n.id = true := F.isWithin_iff.mpr (ham.tail ⟨m, hm, hc⟩)
    have hmet := (F.mem_walkFrom_iff hn).mp ((h c k hk).mpr hwithin)
    rw [id_of_get? hk] at hmet
    exact F.isContainer_of_opens hm hc ham hmet.2
  · intro h b m hm
    obtain rfl := id_of_get? hm
    rw [F.mem_walkFrom_iff hn, F.isWithin_iff]
    constructor
    · rintro ⟨-, hopens⟩
      exact ReflTransGen.mono (fun _ _ => Opens.lists) _ _ hopens
    · intro hlists
      exact ⟨hm, opens_of_lists h hlists⟩

end Forest

namespace Desktop

/-- When a file has gone to the recycle bin, which is a child of the root and no container, a walk
from the root does not meet it. What is inside the folder beside the bin is the same in both ways.
-/
theorem walk_agrees_removed : ∃ σ, session {} 0 (fun _ => .unset) = .ok σ ∧
    let s := (σ.play [⟨"rm Contact.txt", 1⟩]).store
    Forest s ∧ s.has "projects" = true ∧ s.has "desktop" = true ∧
    (∃ L, s.walk "projects" = .ok L ∧ (L.map (·.id)).Nodup ∧
      ∀ b m, s.get? b = some m → (m ∈ L ↔ s.isWithin b "projects" = true)) ∧
    ∃ L, s.walk "desktop" = .ok L ∧ (L.map (·.id)).Nodup ∧
      ¬ ∀ b m, s.get? b = some m → (m ∈ L ↔ s.isWithin b "desktop" = true) := by
  have hrun : (session {} 0 fun _ => .unset).map (fun σ =>
      let s := (σ.play [⟨"rm Contact.txt", 1⟩]).store
      let ordinary (a : String) : Bool :=
        s.nodes.all fun m => s.isWithin m.id a && m.childIds ≠ [] → m.isContainer
      (s.has "projects", s.has "desktop", ordinary "projects", ordinary "desktop")) =
      .ok (true, true, true, false) := by
    decide +kernel
  obtain ⟨σ, hσ, hin, -⟩ := exists_session {} 0 fun _ => .unset
  have hrun := eq_of_session hσ hrun
  have hplayed := Session.inOrder_play Path.bare_splitParent hin [⟨"rm Contact.txt", 1⟩]
  refine ⟨σ, hσ, ?_⟩
  dsimp only at hrun ⊢
  generalize σ.play [⟨"rm Contact.txt", 1⟩] = τ at hrun hplayed ⊢
  have F : Forest τ.store := hplayed.sound.toForest
  simp only [Prod.mk.injEq, List.all_eq_true, List.all_eq_false, decide_eq_true_eq,
    Bool.and_eq_true] at hrun
  obtain ⟨hprojects, hdesktop, hordinary, hbin⟩ := hrun
  obtain ⟨n, hn⟩ := Store.has_iff.mp hprojects
  obtain ⟨d, hd⟩ := Store.has_iff.mp hdesktop
  obtain ⟨L, hL, hLnodup, hLiff⟩ := F.walk_agrees_iff hn
  obtain ⟨M, hM, hMnodup, hMiff⟩ := F.walk_agrees_iff hd
  refine ⟨F, hprojects, hdesktop, ⟨L, hL, hLnodup, hLiff.mpr ?_⟩, M, hM, hMnodup, ?_⟩
  · rw [F.ordinary_iff]
    intro m hm hwithin hchildren
    exact hordinary m hm ⟨hwithin, hchildren⟩
  · intro hagree
    obtain ⟨m, hm, hnot⟩ := hbin
    have hall := F.ordinary_iff.mp (hMiff.mp hagree)
    exact hnot fun h => hall m hm h.1 h.2

end Desktop
end DeskShell

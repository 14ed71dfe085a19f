import DeskShell.Proofs.Steps

/-!
# What is taken out of a store

Entries are taken out of a store together with all that is below them. What remains is part of what
was there, and it is as tidy as the store was.

* `Store.Thins`: a store that has no entries and no edges but those of another one.
* `Tidy.unlisted`: an entry that no list mentions any more.
* `Tidy.dropAll`: taking out entries that no list mentions. The lists of the entries that go are the
  only ones that mention what is below them, so nothing that remains mentions what is gone.
* `Tidy.purge`, `Tidy.purgeAll`: the operations.
-/
namespace DeskShell

namespace Store

variable {s t u : Store}

/-- The entries of `t` are entries of `s`, under the same names, and list nothing that they did not
list in `s`. -/
structure Thins (s t : Store) : Prop where
  bin : t.binId = s.binId
  lists : ∀ p c, t.Lists p c → s.Lists p c
  named : ∀ id n, t.get? id = some n → ∃ m, s.get? id = some m ∧ m.name = n.name

namespace Thins

theorem refl (s : Store) : Thins s s := ⟨rfl, fun _ _ h => h, fun _ n hn => ⟨n, hn, rfl⟩⟩

theorem trans (h : Thins s t) (h' : Thins t u) : Thins s u where
  bin := h'.bin.trans h.bin
  lists p c hc := h.lists p c (h'.lists p c hc)
  named id n hn := by
    obtain ⟨m, hm, hmn⟩ := h'.named id n hn
    obtain ⟨k, hk, hkm⟩ := h.named id m hm
    exact ⟨k, hk, hkm.trans hmn⟩

/-- A change of one entry that gives it no new name and no new children. -/
theorem adjust {id : String} {f : Node → Node} (hf : ∀ n, (f n).id = n.id)
    (hname : ∀ n, (f n).name = n.name) (hc : ∀ n, (f n).childIds ⊆ n.childIds) :
    Thins s (s.adjust id f) where
  bin := rfl
  lists p c h := by
    rcases (lists_adjust hf p c).mp h with ⟨rfl, n, hn, hcn⟩ | ⟨-, h⟩
    · exact ⟨n, hn, hc n hcn⟩
    · exact h
  named x n hn := by
    rw [get?_adjust s id f hf] at hn
    split at hn
    · next h =>
      obtain ⟨m, hm, rfl⟩ := Option.map_eq_some_iff.mp hn
      exact ⟨m, h ▸ hm, (hname m).symm⟩
    · exact ⟨n, hn, rfl⟩

theorem dropChild (p c : String) : Thins s (s.adjust p (Node.dropChild c)) := by
  refine adjust (Node.id_dropChild c) (fun n => rfl) fun n => ?_
  rw [Node.childIds_dropChild]
  exact List.erase_subset

theorem erase (c : String) : Thins s (s.erase c) where
  bin := rfl
  lists p x h := ((lists_erase c p x).mp h).2
  named x n hn := by
    rw [get?_erase] at hn
    split at hn
    · cases hn
    · exact ⟨n, hn, rfl⟩

theorem dropAll (pending : List String) : Thins s (s.dropAll pending) := by
  fun_induction Store.dropAll s pending with
  | case1 s => exact refl s
  | case2 s id rest h _ ih => exact (erase id).trans ih
  | case3 s id rest h ih => exact ih

theorem unlisted (id : String) : Thins s (s.unlisted id) := by
  unfold Store.unlisted
  split
  · exact refl s
  · exact dropChild _ _

theorem purge (id : String) : Thins s ((Store.purge id).after s) := by
  rw [after_purge_eq]
  exact (unlisted id).trans (dropAll [id])

end Thins

theorem after_purgeAll_cons (id : String) (rest : List String) :
    (purgeAll (id :: rest)).after s = (purgeAll rest).after ((purge id).after s) := rfl

theorem Thins.purgeAll (ids : List String) : Thins s ((Store.purgeAll ids).after s) := by
  induction ids generalizing s with
  | nil => exact refl s
  | cons id rest ih =>
    rw [after_purgeAll_cons]
    exact (purge id).trans ih

/-- Emptying the bin is purging what it lists. -/
theorem after_emptyBin : emptyBin.after s = (purgeAll (s.listed s.binId)).after s := by
  unfold emptyBin listed Edit.after
  cases hb : s.get? s.binId with
  | none =>
    simp only [bind, EStateM.bind, Edit.ask, require, hb]
    rfl
  | some bin =>
    simp only [bind, EStateM.bind, Edit.ask, require, hb]
    rfl

end Store

namespace Tidy

open Store

variable {s : Store}

/-- Only the supply of ids has changed. -/
theorem counter (T : Tidy s) (k : Nat) : Tidy { s with counter := k } :=
  ⟨T.distinct, T.stored, T.once⟩

theorem unlisted (T : Tidy s) (id : String) :
    Tidy (s.unlisted id) ∧ ∀ a, ¬ (s.unlisted id).Lists a id := by
  unfold Store.unlisted
  cases hp : s.parent? id with
  | none => exact ⟨T, (parent?_eq_none_iff T.distinct).mp hp⟩
  | some p =>
    obtain ⟨hpg, hpc⟩ := T.parent?_eq_some_iff.mp hp
    refine ⟨T.unhang hpg, fun a h => ?_⟩
    obtain ⟨h, hne⟩ := (T.lists_unhang hpg a id).mp h
    exact hne ⟨T.parent_unique h ⟨p, hpg, hpc⟩, rfl⟩

theorem dropAll (T : Tidy s) (pending : List String)
    (hfree : ∀ c ∈ pending, ∀ a, ¬ s.Lists a c) : Tidy (s.dropAll pending) := by
  fun_induction Store.dropAll s pending with
  | case1 s => exact T
  | case2 s id rest h _ ih =>
    refine ih (T.erase (hfree id List.mem_cons_self)) fun c hc a hl => ?_
    obtain ⟨hne, hl⟩ := (lists_erase id a c).mp hl
    rcases List.mem_append.mp hc with hc | hc
    · -- What `id` lists was listed by `id` alone.
      have hid : s.Lists id c := mem_listed.mp hc
      exact hne (T.parent_unique hl hid)
    · exact hfree c (List.mem_cons_of_mem _ hc) a hl
  | case3 s id rest h ih => exact ih T fun c hc => hfree c (List.mem_cons_of_mem _ hc)

theorem purge (T : Tidy s) (id : String) : Tidy ((Store.purge id).after s) := by
  obtain ⟨hT, hfree⟩ := T.unlisted id
  rw [after_purge_eq]
  refine hT.dropAll [id] fun c hc => ?_
  obtain rfl := List.mem_singleton.mp hc
  exact hfree

theorem purgeAll (T : Tidy s) (ids : List String) : Tidy ((Store.purgeAll ids).after s) := by
  induction ids generalizing s with
  | nil => exact T
  | cons id rest ih =>
    rw [after_purgeAll_cons]
    exact ih (T.purge id)

end Tidy
end DeskShell

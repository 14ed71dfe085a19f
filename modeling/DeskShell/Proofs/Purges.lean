import DeskShell.Proofs.Cycles

/-!
# What a purge takes out of a store

Entries are taken out of a store together with what they list, and that again with what it lists.
Taking one out changes what the rest is reached from, but not what is reached.

* `Store.Prunes`: a store without some of its entries.
* `Store.reached_erase_iff`: what is reached is the first entry, or is reached from its children and
  the other entries without passing it.
* `Store.prunes_dropAll`: what is taken out of any store is what is reached from the entries given.
* `Forest.prunes_purge`: in a forest, a purge removes an entry with all that is below it.
* `Forest.prunes_purgeAll`: purging the children of an entry one after the other removes all that
  is below it.
* `Forest.prunes_purge_emptyBin`: the operations.
-/
namespace DeskShell

open Relation (TransGen ReflTransGen)

variable {s t u : Store}

/-- The entry with an empty list of children, if it has a list. -/
def Node.emptied (n : Node) : Node := { n with children := n.children.map fun _ => [] }

theorem Node.id_emptied (n : Node) : n.emptied.id = n.id := rfl

theorem Node.emptied_dropChild (c : String) (n : Node) : (n.dropChild c).emptied = n.emptied := by
  cases h : n.children <;> simp [emptied, dropChild, h]

theorem Node.emptied_of_childless {n : Node} (h : n.childIds = []) : n.emptied = n := by
  cases n with
  | mk id name kind children =>
    cases children with
    | none => rfl
    | some ids => simpa [emptied, childIds, eq_comm] using h

namespace Store

/-- `t` is `s` without the entries whose ids are in `gone`, the others in their order. -/
structure Prunes (s t : Store) (gone : String → Prop) : Prop where
  frame : t = { s with nodes := t.nodes }
  order : t.nodes.Sublist s.nodes
  mem : ∀ n, n ∈ t.nodes ↔ n ∈ s.nodes ∧ ¬ gone n.id

namespace Prunes

variable {gone more : String → Prop}

theorem refl (s : Store) (hnone : ∀ n ∈ s.nodes, ¬ gone n.id) : Prunes s s gone :=
  ⟨rfl, List.Sublist.refl _, fun n => ⟨fun hn => ⟨hn, hnone n hn⟩, And.left⟩⟩

theorem congr (h : Prunes s t gone) (hiff : ∀ n ∈ s.nodes, gone n.id ↔ more n.id) :
    Prunes s t more :=
  ⟨h.frame, h.order, fun n => (h.mem n).trans (and_congr_right fun hn => not_congr (hiff n hn))⟩

theorem trans (h : Prunes s t gone) (h' : Prunes t u more) :
    Prunes s u fun x => gone x ∨ more x where
  frame := by rw [h'.frame, h.frame]
  order := h'.order.trans h.order
  mem n := by rw [h'.mem, h.mem, not_or, and_assoc]

theorem adjust (h : Prunes s t gone) (id : String) {f : Node → Node}
    (hf : ∀ n, (f n).id = n.id) : Prunes (s.adjust id f) (t.adjust id f) gone where
  frame := by
    have hframe := h.frame
    generalize t.nodes = nodes at hframe
    subst hframe
    rfl
  order := h.order.map _
  mem n := by
    have hid : ∀ m : Node, (if m.id == id then f m else m).id = m.id := fun m => by
      split <;> simp [hf]
    simp only [Store.adjust, List.mem_map, h.mem]
    constructor
    · rintro ⟨m, ⟨hm, hkept⟩, rfl⟩
      exact ⟨⟨m, hm, rfl⟩, (hid m).symm ▸ hkept⟩
    · rintro ⟨⟨m, hm, rfl⟩, hkept⟩
      exact ⟨m, ⟨hm, hid m ▸ hkept⟩, rfl⟩

/-- An entry that is not gone is found as before. -/
theorem get? (h : Prunes s t gone) (hd : s.IdsDistinct) {x : String} (hx : ¬ gone x) :
    t.get? x = s.get? x := by
  have hd' : t.IdsDistinct := hd.sublist (h.order.map _)
  cases hs : s.get? x with
  | none =>
    refine get?_eq_none_iff.mpr (Bool.eq_false_iff.mpr fun hhas => ?_)
    obtain ⟨n, hn⟩ := has_iff.mp hhas
    have hmem := ((h.mem n).mp (mem_nodes_of_get? hn)).1
    exact List.find?_eq_none.mp hs n hmem (by simpa using id_of_get? hn)
  | some n =>
    obtain rfl := id_of_get? hs
    exact hd'.get?_of_mem ((h.mem n).mpr ⟨mem_nodes_of_get? hs, hx⟩)

theorem not_has (h : Prunes s t gone) {x : String} (hx : gone x) : t.has x = false := by
  refine Bool.eq_false_iff.mpr fun hhas => ?_
  obtain ⟨n, hn⟩ := has_iff.mp hhas
  obtain rfl := id_of_get? hn
  exact ((h.mem n).mp (mem_nodes_of_get? hn)).2 hx

theorem lists_iff (h : Prunes s t gone) (hd : s.IdsDistinct) (a b : String) :
    t.Lists a b ↔ s.Lists a b ∧ ¬ gone a := by
  by_cases ha : gone a
  · refine iff_of_false (fun hl => ?_) fun hl => hl.2 ha
    have := hl.has
    simp [h.not_has ha] at this
  · simp [Lists, h.get? hd ha, ha]

end Prunes

/-! ## What is reached -/

theorem mem_nodes_erase {c : String} {n : Node} : n ∈ (s.erase c).nodes ↔ n ∈ s.nodes ∧ n.id ≠ c := by
  simp [erase]

/-- What is reached from some entries is the first one, or is reached from what that lists and the
other ones in the store without it. -/
theorem reached_erase_iff {id : String} {rest : List String} {x : String} :
    (∃ c ∈ id :: rest, ReflTransGen s.Lists c x) ↔
      x = id ∨ ∃ c ∈ s.listed id ++ rest, ReflTransGen (s.erase id).Lists c x := by
  constructor
  · rintro ⟨c, hc, hway⟩
    induction hway with
    | refl =>
      rcases List.mem_cons.mp hc with rfl | hc
      · exact .inl rfl
      · exact .inr ⟨c, List.mem_append_right _ hc, .refl⟩
    | @tail y x _ hl ih =>
      by_cases hy : y = id
      · exact .inr ⟨x, List.mem_append_left _ (mem_listed.mpr (hy ▸ hl)), .refl⟩
      · obtain ⟨d, hd, hway⟩ := ih.resolve_left hy
        exact .inr ⟨d, hd, hway.tail ((lists_erase id y x).mpr ⟨hy, hl⟩)⟩
  · have hold : ∀ {c}, ReflTransGen (s.erase id).Lists c x → ReflTransGen s.Lists c x :=
      ReflTransGen.mono (fun a b h => ((lists_erase id a b).mp h).2) _ _
    rintro (rfl | ⟨c, hc, hway⟩)
    · exact ⟨x, List.mem_cons_self, .refl⟩
    · rcases List.mem_append.mp hc with hc | hc
      · exact ⟨id, List.mem_cons_self, .head (mem_listed.mp hc) (hold hway)⟩
      · exact ⟨c, List.mem_cons_of_mem _ hc, hold hway⟩

/-- In any store, also with cycles and shared children, what is reached from the entries `pending` is
taken out and nothing else. -/
theorem prunes_dropAll (s : Store) (pending : List String) :
    Prunes s (s.dropAll pending) fun x => ∃ c ∈ pending, ReflTransGen s.Lists c x := by
  fun_induction Store.dropAll s pending with
  | case1 s => exact .refl s (by simp)
  | case2 s id rest h _ ih =>
    refine ⟨ih.frame, ih.order.trans List.filter_sublist, fun n => ?_⟩
    rw [ih.mem, mem_nodes_erase, reached_erase_iff, not_or, and_assoc]
    rfl
  | case3 s id rest h ih =>
    -- From an id that is not stored, no way leads on, and no entry has it.
    refine ih.congr fun n hn => ?_
    have hne : id ≠ n.id := by
      rintro rfl
      exact h (List.any_eq_true.mpr ⟨n, hn, by simp⟩)
    have hno : ¬ ReflTransGen s.Lists id n.id := by
      intro hway
      obtain ⟨_, hl, -⟩ := (ReflTransGen.cases_head hway).resolve_left hne
      exact h hl.has
    simp [hno]

end Store

/-! ## Purging -/

namespace Forest

open Store

theorem pruned (F : Forest s) (T : Tidy t) (h : Thins s t) : Forest t :=
  T.forest fun x hx => F.acyclic x (TransGen.mono h.lists x x hx)

theorem purge (F : Forest s) (id : String) : Forest ((Store.purge id).after s) :=
  F.pruned (F.tidy.purge id) (.purge id)

theorem purgeAll (F : Forest s) (ids : List String) : Forest ((Store.purgeAll ids).after s) :=
  F.pruned (F.tidy.purgeAll ids) (.purgeAll ids)

/-- The edges that are left when a folder does not mention an entry any more. -/
theorem lists_unlisted (F : Forest s) (id a b : String) :
    (s.unlisted id).Lists a b ↔ s.Lists a b ∧ b ≠ id := by
  constructor
  · intro h
    refine ⟨(Thins.unlisted id).lists a b h, ?_⟩
    rintro rfl
    exact (F.tidy.unlisted b).2 a h
  · intro ⟨h, hne⟩
    unfold unlisted
    cases hp : s.parent? id with
    | none => exact h
    | some p =>
      obtain ⟨hpg, -⟩ := F.parent?_eq_some_iff.mp hp
      exact (F.tidy.lists_unhang hpg a b).mpr ⟨h, fun he => hne he.2⟩

/-- In a forest, a purge takes out the entry with all that is below it, and changes no other entry
but the one that has listed it. -/
theorem prunes_purge (F : Forest s) (id : String) :
    Prunes (s.unlisted id) ((Store.purge id).after s) (ReflTransGen s.Lists id) := by
  rw [after_purge_eq]
  refine (prunes_dropAll (s.unlisted id) [id]).congr fun n _ => ?_
  simp only [List.mem_singleton, exists_eq_left]
  refine ⟨ReflTransGen.mono (Thins.unlisted id).lists _ _, fun hway => ?_⟩
  rcases Relation.reflTransGen_iff_eq_or_transGen.mp hway with heq | hbelow
  · exact heq ▸ .refl
  · have hkept : ∀ a b, s.Lists a b → b ≠ id → (s.unlisted id).Lists a b :=
      fun a b h hne => (F.lists_unlisted id a b).mpr ⟨h, hne⟩
    exact (F.below_of_others hkept hbelow).to_reflTransGen

section Children

variable {p c : String} {n : Node}

theorem unlisted_of_lists (F : Forest s) (hp : s.get? p = some n) (hc : c ∈ n.childIds) :
    s.unlisted c = s.adjust p (Node.dropChild c) := by
  unfold unlisted
  rw [F.parent?_of_lists hp hc]
  dsimp only
  rw [id_of_get? hp]

theorem lists_purge (F : Forest s) (a b : String) : ((Store.purge c).after s).Lists a b ↔
    (s.Lists a b ∧ b ≠ c) ∧ ¬ ReflTransGen s.Lists c a := by
  rw [(F.prunes_purge c).lists_iff (F.tidy.unlisted c).1.distinct, F.lists_unlisted]

/-- What is below an entry is below it through one child, or is still below it when that child has been
purged. -/
theorem below_iff_purge (F : Forest s) (hc : s.Lists p c) (x : String) :
    s.Below p x ↔ ReflTransGen s.Lists c x ∨ ((Store.purge c).after s).Below p x := by
  have hl := F.lists_purge (c := c)
  constructor
  · intro h
    have hstep : ∀ a b, s.Lists a b → ¬ ReflTransGen s.Lists c a →
        ReflTransGen s.Lists c b ∨ ((Store.purge c).after s).Lists a b := by
      intro a b hab hac
      by_cases hb : b = c
      · exact .inl (hb ▸ .refl)
      · exact .inr ((hl a b).mpr ⟨⟨hab, hb⟩, hac⟩)
    induction h with
    | single hpx =>
      refine (hstep _ _ hpx fun hway => F.acyclic p ?_).imp_right .single
      exact .head' hc hway
    | @tail y x _ hyx ih =>
      by_cases hy : ReflTransGen s.Lists c y
      · exact .inl (hy.tail hyx)
      · exact (hstep _ _ hyx hy).imp_right (ih.resolve_left hy).tail
  · rintro (hway | hbelow)
    · exact .head' hc hway
    · exact TransGen.mono (Thins.purge c).lists _ _ hbelow

/-- Purging the children of an entry one after the other takes out all that is below it, and changes
no other entry but that one. -/
theorem prunes_purgeAll (F : Forest s) (hp : s.get? p = some n) :
    Prunes (s.adjust p Node.emptied) ((Store.purgeAll n.childIds).after s) (s.Below p) := by
  generalize hids : n.childIds = ids
  induction ids generalizing s n with
  | nil =>
    have hnone : ∀ x, ¬ s.Below p x := fun x hx => by
      obtain ⟨c, hc, -⟩ := TransGen.head'_iff.mp hx
      simpa [hids] using (lists_iff_of_get? hp).mp hc
    rw [F.distinct.adjust_of_get? hp (Node.emptied_of_childless hids)]
    exact .refl s fun m _ => hnone m.id
  | cons c rest ih =>
    have hc : s.Lists p c := ⟨n, hp, by simp [hids]⟩
    have hpurge := F.prunes_purge c
    rw [F.unlisted_of_lists hp (by simp [hids])] at hpurge
    have hd : (s.adjust p (Node.dropChild c)).IdsDistinct := F.distinct.adjust (Node.id_dropChild c)
    have hp' : ((Store.purge c).after s).get? p = some (n.dropChild c) := by
      rw [hpurge.get? hd fun hway => F.acyclic p (.head' hc hway),
        get?_adjust s p _ (Node.id_dropChild c), if_pos rfl, hp]
      rfl
    -- The list of children that is left is the rest of those to be purged.
    have hrest : (n.dropChild c).childIds = rest := by
      rw [Node.childIds_dropChild, hids, List.erase_cons_head]
    have hall := (hpurge.adjust p Node.id_emptied).trans (ih (F.purge c) hp' hrest)
    rw [adjust_adjust (Node.id_dropChild c)] at hall
    simp only [Node.emptied_dropChild] at hall
    exact hall.congr fun m _ => (F.below_iff_purge hc m.id).symm

end Children

/-! ## The operations -/

/-- Purging an entry and emptying the recycle bin take out what lies below them and nothing else, and
leave a forest. -/
theorem prunes_purge_emptyBin (F : Forest s) :
    (∀ id, ∃ t, Store.purge id s = .ok () t ∧ Forest t ∧
      Prunes (s.unlisted id) t (ReflTransGen s.Lists id)) ∧
    (s.has s.binId = true → ∃ t, emptyBin s = .ok () t ∧ Forest t ∧
      Prunes (s.adjust s.binId Node.emptied) t (s.Below s.binId)) := by
  constructor
  · intro id
    exact ⟨_, rfl, F.purge id, F.prunes_purge id⟩
  · intro hbin
    obtain ⟨bin, hbin⟩ := has_iff.mp hbin
    obtain ⟨⟨⟩, t, ht⟩ := sure_purgeAll bin.childIds s
    have hok : emptyBin s = .ok () t := by
      simp only [emptyBin, bind, EStateM.bind, Edit.ask, require, hbin]
      exact ht
    have hafter : (Store.purgeAll bin.childIds).after s = t := by simp only [Edit.after, ht]
    refine ⟨t, hok, ?_, ?_⟩
    · exact hafter ▸ F.purgeAll bin.childIds
    · exact hafter ▸ F.prunes_purgeAll hbin

end Forest

namespace Desktop

/-- A folder goes with the recycle bin in it and with what is in the bin. Emptying the bin takes out
the latter alone. -/
theorem prunes_deepBin : Forest deepBin ∧ deepBin.has deepBin.binId = true ∧
    (∃ t, Store.purge "home" deepBin = .ok () t ∧ t.has "docs" = false ∧
      Store.Prunes (deepBin.unlisted "home") t (ReflTransGen deepBin.Lists "home")) ∧
    ∃ t, Store.emptyBin deepBin = .ok () t ∧ t.has "docs" = false ∧
      Store.Prunes (deepBin.adjust deepBin.binId Node.emptied) t
        (deepBin.Below deepBin.binId) := by
  have hbin : deepBin.has deepBin.binId = true := by decide
  have hhome : deepBin.Lists "home" "recycle-bin" := Store.mem_listed.mp (by decide)
  have hdocs : deepBin.Lists "recycle-bin" "docs" := Store.mem_listed.mp (by decide)
  obtain ⟨hone, hall⟩ := forest_deepBin.prunes_purge_emptyBin
  obtain ⟨t, ht, -, hpurged⟩ := hone "home"
  obtain ⟨u, hu, -, hemptied⟩ := hall hbin
  refine ⟨forest_deepBin, hbin, ⟨t, ht, ?_, hpurged⟩, u, hu, ?_, hemptied⟩
  · exact hpurged.not_has (.head hhome (.single hdocs))
  · exact hemptied.not_has (.single hdocs)

end Desktop
end DeskShell

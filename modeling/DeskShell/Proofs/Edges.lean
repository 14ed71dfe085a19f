import DeskShell.Proofs.Forest

/-!
# Changes of a store and the edges of its forest

What the changes of the list of entries do to the relation `Store.Lists`, and that each of them
leaves a tidy store tidy and a forest a forest.

* `Store.lists_pushChild`, `Store.lists_dropChild`: one edge more and one edge less.
* `Forest.hang`, `Forest.unhang`: an entry that nothing lists is put below one that is not below
  it, and taken away again.
* `Forest.insert`, `Forest.erase`: entries come and go without edges.
-/
namespace DeskShell

open Relation (TransGen ReflTransGen)

namespace Node

variable {c : String} {n : Node}

theorem id_pushChild (c : String) (n : Node) : (n.pushChild c).id = n.id := rfl

theorem id_dropChild (c : String) (n : Node) : (n.dropChild c).id = n.id := rfl

theorem childIds_pushChild (h : n.children.isSome) :
    (n.pushChild c).childIds = n.childIds ++ [c] := by
  obtain ⟨ids, hids⟩ := Option.isSome_iff_exists.mp h
  simp [pushChild, childIds, hids]

theorem childIds_dropChild : (n.dropChild c).childIds = n.childIds.erase c := by
  cases h : n.children <;> simp [dropChild, childIds, h]

theorem childIds_of_new (h : n.children = if n.isContainer then some [] else none) :
    n.childIds = [] := by
  unfold childIds
  rw [h]
  split <;> rfl

end Node

namespace Store

variable {s : Store}

/-! ## Ids -/

theorem map_id_adjust {id : String} {f : Node → Node} (hf : ∀ n, (f n).id = n.id) :
    (s.adjust id f).nodes.map (·.id) = s.nodes.map (·.id) := by
  simp only [adjust, List.map_map]
  refine List.map_congr_left fun n _ => ?_
  simp only [Function.comp_apply]
  split <;> simp [hf]

theorem has_adjust {id : String} {f : Node → Node} (hf : ∀ n, (f n).id = n.id) (x : String) :
    (s.adjust id f).has x = s.has x := by
  rw [Bool.eq_iff_iff, has_iff, has_iff, get?_adjust s id f hf]
  by_cases h : x = id
  · subst h
    simp
  · simp [h]

theorem has_insert (n : Node) (x : String) :
    (s.insert n).has x = true ↔ s.has x = true ∨ n.id = x := by
  simp [has, insert]

theorem has_erase (c x : String) : (s.erase c).has x = true ↔ s.has x = true ∧ x ≠ c := by
  rw [has_iff, has_iff, get?_erase]
  by_cases h : x = c <;> simp [h]

theorem IdsDistinct.adjust (hd : s.IdsDistinct) {id : String} {f : Node → Node}
    (hf : ∀ n, (f n).id = n.id) : (s.adjust id f).IdsDistinct := by
  unfold IdsDistinct
  rw [map_id_adjust hf]
  exact hd

theorem IdsDistinct.insert (hd : s.IdsDistinct) {n : Node} (hn : s.has n.id = false) :
    (s.insert n).IdsDistinct := by
  unfold IdsDistinct Store.insert
  rw [List.map_append, List.map_singleton]
  refine List.Nodup.append hd (List.nodup_singleton _) fun x hx hy => ?_
  obtain ⟨m, hm, rfl⟩ := List.mem_map.mp hx
  have hs : s.has m.id = true := List.any_eq_true.mpr ⟨m, hm, by simp⟩
  rw [List.mem_singleton.mp hy, hn] at hs
  cases hs

theorem IdsDistinct.erase (hd : s.IdsDistinct) (c : String) : (s.erase c).IdsDistinct :=
  hd.sublist ((List.filter_sublist).map _)

/-! ## Changes of one entry -/

/-- A change that would leave the entry as it is leaves the store as it is. -/
theorem IdsDistinct.adjust_of_get? (hd : s.IdsDistinct) {id : String} {f : Node → Node} {n : Node}
    (hn : s.get? id = some n) (hf : f n = n) : s.adjust id f = s := by
  unfold Store.adjust
  have hmap : (s.nodes.map fun m => if m.id == id then f m else m) = s.nodes := by
    refine (List.map_congr_left fun m hm => ?_).trans s.nodes.map_id
    by_cases hid : m.id = id
    · have hget := hd.get?_of_mem hm
      rw [hid, hn] at hget
      obtain rfl := Option.some.inj hget
      simp [hid, hf]
    · simp [hid]
  rw [hmap]

theorem adjust_adjust {id : String} {f g : Node → Node} (hf : ∀ n, (f n).id = n.id) :
    (s.adjust id f).adjust id g = s.adjust id fun n => g (f n) := by
  simp only [adjust, List.map_map]
  congr 1
  refine List.map_congr_left fun n _ => ?_
  by_cases hid : n.id = id <;> simp [hid, hf]

/-! ## Edges -/

theorem lists_adjust {id : String} {f : Node → Node} (hf : ∀ n, (f n).id = n.id) (a b : String) :
    (s.adjust id f).Lists a b ↔
      a = id ∧ (∃ n, s.get? id = some n ∧ b ∈ (f n).childIds) ∨ a ≠ id ∧ s.Lists a b := by
  unfold Lists
  rw [get?_adjust s id f hf]
  by_cases h : a = id
  · subst h
    simp
  · simp [h]

theorem lists_adjust_of_childIds {id : String} {f : Node → Node} (hf : ∀ n, (f n).id = n.id)
    (hc : ∀ n, (f n).childIds = n.childIds) (a b : String) :
    (s.adjust id f).Lists a b ↔ s.Lists a b := by
  rw [lists_adjust hf]
  by_cases h : a = id
  · subst h
    simp [Lists, hc]
  · simp [h]

theorem lists_pushChild {p c : String} {n : Node} (hp : s.get? p = some n)
    (hk : n.children.isSome) (a b : String) :
    (s.adjust p (Node.pushChild c)).Lists a b ↔ s.Lists a b ∨ a = p ∧ b = c := by
  rw [lists_adjust (Node.id_pushChild c)]
  by_cases h : a = p
  · subst h
    simp [hp, lists_iff_of_get? hp, Node.childIds_pushChild hk]
  · simp [h]

theorem lists_dropChild {p c : String} {n : Node} (hp : s.get? p = some n)
    (hn : n.childIds.Nodup) (a b : String) :
    (s.adjust p (Node.dropChild c)).Lists a b ↔ s.Lists a b ∧ ¬ (a = p ∧ b = c) := by
  rw [lists_adjust (Node.id_dropChild c)]
  by_cases h : a = p
  · subst h
    simp [hp, lists_iff_of_get? hp, Node.childIds_dropChild, hn.mem_erase_iff, and_comm]
  · simp [h]

theorem lists_insert {n : Node} (hn : s.has n.id = false) (hc : n.childIds = []) (a b : String) :
    (s.insert n).Lists a b ↔ s.Lists a b := by
  unfold Lists
  rw [get?_insert]
  by_cases h : n.id = a
  · subst h
    simp [get?_eq_none_iff.mpr hn, hc]
  · simp [h]

theorem lists_erase (c a b : String) : (s.erase c).Lists a b ↔ a ≠ c ∧ s.Lists a b := by
  unfold Lists
  rw [get?_erase]
  by_cases h : a = c <;> simp [h]

theorem lists_make {p : String} {folder n : Node} (hp : s.get? p = some folder)
    (hk : folder.children.isSome) (hid : s.has n.id = false) (hc : n.childIds = [])
    (a b : String) : ((s.insert n).adjust p (Node.pushChild n.id)).Lists a b ↔
      s.Lists a b ∨ a = p ∧ b = n.id := by
  have hp' : (s.insert n).get? p = some folder := by rw [get?_insert, hp, Option.some_or]
  exact (lists_pushChild hp' hk a b).trans (or_congr_left (lists_insert hid hc a b))

end Store

/-! ## Tidy stores -/

namespace Tidy

open Store

variable {s : Store}

/-- A change of an entry that is not one of its id or its children. -/
theorem adjust (T : Tidy s) {id : String} {f : Node → Node} (hf : ∀ n, (f n).id = n.id)
    (hc : ∀ n, (f n).childIds = n.childIds) : Tidy (s.adjust id f) := by
  have hl : ∀ a b, (s.adjust id f).Lists a b ↔ s.Lists a b := lists_adjust_of_childIds hf hc
  refine of_view (T.distinct.adjust hf) (fun p c h => ?_) (fun p n h => ?_)
    (fun p q c hp hq => T.parent_unique ((hl p c).mp hp) ((hl q c).mp hq))
  · rw [has_adjust hf]
    exact T.stored p c ((hl p c).mp h)
  · rw [get?_adjust s id f hf] at h
    split at h
    · obtain ⟨m, hm, rfl⟩ := Option.map_eq_some_iff.mp h
      rw [hc]
      exact T.nodup_childIds hm
    · exact T.nodup_childIds h

theorem lists_unhang (T : Tidy s) {p c : String} {n : Node} (hp : s.get? p = some n)
    (a b : String) : (s.adjust p (Node.dropChild c)).Lists a b ↔ s.Lists a b ∧ ¬ (a = p ∧ b = c) :=
  lists_dropChild hp (T.nodup_childIds hp) a b

theorem unhang (T : Tidy s) {p c : String} {n : Node} (hp : s.get? p = some n) :
    Tidy (s.adjust p (Node.dropChild c)) := by
  have hle : ∀ a b, (s.adjust p (Node.dropChild c)).Lists a b → s.Lists a b :=
    fun a b h => ((T.lists_unhang hp a b).mp h).1
  refine of_view (T.distinct.adjust (Node.id_dropChild c)) (fun a b h => ?_) (fun a m h => ?_)
    (fun a b x ha hb => T.parent_unique (hle a x ha) (hle b x hb))
  · rw [has_adjust (Node.id_dropChild c)]
    exact T.stored a b (hle a b h)
  · rw [get?_adjust s p _ (Node.id_dropChild c)] at h
    split at h
    · obtain ⟨k, hk, rfl⟩ := Option.map_eq_some_iff.mp h
      rw [Node.childIds_dropChild]
      exact (T.nodup_childIds hk).erase c
    · exact T.nodup_childIds h

theorem hang (T : Tidy s) {p c : String} {n : Node} (hp : s.get? p = some n)
    (hk : n.children.isSome) (hc : s.has c = true) (hfree : ∀ a, ¬ s.Lists a c) :
    Tidy (s.adjust p (Node.pushChild c)) := by
  have hl := lists_pushChild (c := c) hp hk
  refine of_view (T.distinct.adjust (Node.id_pushChild c)) (fun a b h => ?_) (fun a m h => ?_)
    (fun a b x ha hb => ?_)
  · rw [has_adjust (Node.id_pushChild c)]
    rcases (hl a b).mp h with h | ⟨-, rfl⟩
    · exact T.stored a b h
    · exact hc
  · rw [get?_adjust s p _ (Node.id_pushChild c)] at h
    split at h
    · obtain ⟨k, hk', rfl⟩ := Option.map_eq_some_iff.mp h
      have hkn : k = n := Option.some.inj (hk'.symm.trans hp)
      subst hkn
      rw [Node.childIds_pushChild hk]
      refine (T.nodup_childIds hp).append (List.nodup_singleton c) fun y hy hy' => ?_
      exact hfree p ⟨k, hp, List.mem_singleton.mp hy' ▸ hy⟩
    · exact T.nodup_childIds h
  · rcases (hl a x).mp ha with ha' | ⟨rfl, rfl⟩
    · rcases (hl b x).mp hb with hb' | ⟨-, rfl⟩
      · exact T.parent_unique ha' hb'
      · exact absurd ha' (hfree a)
    · rcases (hl b x).mp hb with hb' | ⟨rfl, -⟩
      · exact absurd hb' (hfree b)
      · rfl

theorem insert (T : Tidy s) {n : Node} (hn : s.has n.id = false) (hc : n.childIds = []) :
    Tidy (s.insert n) := by
  have hl := lists_insert hn hc
  refine of_view (T.distinct.insert hn) (fun a b h => ?_) (fun a m h => ?_)
    (fun a b x ha hb => T.parent_unique ((hl a x).mp ha) ((hl b x).mp hb))
  · exact (has_insert n b).mpr (.inl (T.stored a b ((hl a b).mp h)))
  · rw [get?_insert] at h
    rcases Option.or_eq_some_iff.mp h with h | ⟨-, h⟩
    · exact T.nodup_childIds h
    · split at h
      · obtain rfl := Option.some.inj h
        simp [hc]
      · cases h

theorem erase (T : Tidy s) {c : String} (hfree : ∀ a, ¬ s.Lists a c) : Tidy (s.erase c) := by
  have hle : ∀ a b, (s.erase c).Lists a b → s.Lists a b := fun a b h => ((lists_erase c a b).mp h).2
  refine of_view (T.distinct.erase c) (fun a b h => ?_) (fun a m h => ?_)
    (fun a b x ha hb => T.parent_unique (hle a x ha) (hle b x hb))
  · refine (has_erase c b).mpr ⟨T.stored a b (hle a b h), ?_⟩
    rintro rfl
    exact hfree a (hle a b h)
  · rw [get?_erase] at h
    split at h
    · cases h
    · exact T.nodup_childIds h

theorem make (T : Tidy s) {p : String} {folder n : Node} (hp : s.get? p = some folder)
    (hk : folder.children.isSome) (hid : s.has n.id = false) (hc : n.childIds = []) :
    Tidy ((s.insert n).adjust p (Node.pushChild n.id)) := by
  have hp' : (s.insert n).get? p = some folder := by rw [get?_insert, hp, Option.some_or]
  refine (T.insert hid hc).hang hp' hk ((has_insert n n.id).mpr (.inr rfl)) fun a h => ?_
  have hstored := T.stored a n.id ((lists_insert hid hc a n.id).mp h)
  simp [hid] at hstored

section Rehang

variable (T : Tidy s) {c p q : String} {n m folder : Node} (hn : s.get? c = some n)
  (hp : s.get? p = some m) (hq : s.get? q = some folder) (hk : folder.children.isSome)

include hq hk in
/-- A folder with a list of children still has one when an entry is taken from it. -/
theorem exists_folder_unhang : ∃ folder', (s.adjust p (Node.dropChild c)).get? q = some folder' ∧
    folder'.children.isSome := by
  rw [get?_adjust s p _ (Node.id_dropChild c)]
  split
  · next h => exact ⟨folder.dropChild c, by rw [← h, hq]; rfl, by simpa [Node.dropChild] using hk⟩
  · exact ⟨folder, hq, hk⟩

include T hp hq hk

/-- An entry taken from `p` to the end of `q`. -/
theorem lists_rehang (a b : String) :
    ((s.adjust p (Node.dropChild c)).adjust q (Node.pushChild c)).Lists a b ↔
      (s.Lists a b ∧ ¬ (a = p ∧ b = c)) ∨ a = q ∧ b = c := by
  obtain ⟨folder', hq', hk'⟩ := exists_folder_unhang (c := c) (p := p) hq hk
  rw [lists_pushChild hq' hk', T.lists_unhang hp]

include hn

theorem rehang (honly : ∀ a, s.Lists a c → a = p) :
    Tidy ((s.adjust p (Node.dropChild c)).adjust q (Node.pushChild c)) := by
  obtain ⟨folder', hq', hk'⟩ := exists_folder_unhang (c := c) (p := p) hq hk
  refine (T.unhang hp).hang hq' hk' ?_ fun a h => ?_
  · rw [has_adjust (Node.id_dropChild c)]
    exact has_of_get? hn
  · obtain ⟨h, hne⟩ := (T.lists_unhang hp a c).mp h
    exact hne ⟨honly a h, rfl⟩

end Rehang

end Tidy

/-! ## Forests -/

namespace Forest

open Store

variable {s : Store}

theorem adjust (F : Forest s) {id : String} {f : Node → Node} (hf : ∀ n, (f n).id = n.id)
    (hc : ∀ n, (f n).childIds = n.childIds) : Forest (s.adjust id f) := by
  have hl : ∀ a b, (s.adjust id f).Lists a b → s.Lists a b :=
    fun a b => (lists_adjust_of_childIds hf hc a b).mp
  exact (F.tidy.adjust hf hc).forest fun x hx => F.acyclic x (TransGen.mono hl x x hx)

theorem unhang (F : Forest s) {p c : String} {n : Node} (hp : s.get? p = some n) :
    Forest (s.adjust p (Node.dropChild c)) := by
  have hle : ∀ a b, (s.adjust p (Node.dropChild c)).Lists a b → s.Lists a b :=
    fun a b h => ((F.tidy.lists_unhang hp a b).mp h).1
  exact (F.tidy.unhang hp).forest fun x hx => F.acyclic x (TransGen.mono hle x x hx)

theorem hang (F : Forest s) {p c : String} {n : Node} (hp : s.get? p = some n)
    (hk : n.children.isSome) (hc : s.has c = true) (hfree : ∀ a, ¬ s.Lists a c) (hne : p ≠ c)
    (hup : ¬ s.Below c p) : Forest (s.adjust p (Node.pushChild c)) := by
  have hl := lists_pushChild (c := c) hp hk
  refine (F.tidy.hang hp hk hc hfree).forest fun x hx => ?_
  -- A way from `x` to itself uses the new edge, so there is an old way from `c` to `p`.
  rcases transGen_of_new_edge (fun a b => (hl a b).mp) hx with h | ⟨hxp, hcx⟩
  · exact F.acyclic x h
  · rcases Relation.reflTransGen_iff_eq_or_transGen.mp (hcx.trans hxp) with h | h
    · exact hne h
    · exact hup h

theorem insert (F : Forest s) {n : Node} (hn : s.has n.id = false) (hc : n.childIds = []) :
    Forest (s.insert n) := by
  have hl : ∀ a b, (s.insert n).Lists a b → s.Lists a b := fun a b => (lists_insert hn hc a b).mp
  exact (F.tidy.insert hn hc).forest fun x hx => F.acyclic x (TransGen.mono hl x x hx)

theorem erase (F : Forest s) {c : String} (hfree : ∀ a, ¬ s.Lists a c) : Forest (s.erase c) := by
  have hle : ∀ a b, (s.erase c).Lists a b → s.Lists a b := fun a b h => ((lists_erase c a b).mp h).2
  exact (F.tidy.erase hfree).forest fun x hx => F.acyclic x (TransGen.mono hle x x hx)

end Forest
end DeskShell

import DeskShell.Store.Walk
import Mathlib.Data.List.Nodup
import Mathlib.Data.List.Pairwise
import Mathlib.Data.List.Perm.Subperm
import Mathlib.Logic.Relation

/-!
# Stores that are forests

Children are named by id, so that the entries of a store form trees is a property of it: `Forest`.

* `Store.Lists` and `Store.Below`: one step down through a list of children, and one or more.
* `Tidy`: ids name one entry each, every listed id is stored, and none is listed twice. In a `Forest`
  no way down comes back to where it started either.
* `Tidy.parent?_eq_some_iff`: the parent that is found is the only entry that lists an id.
* `Forest.ancestors_of_parent`: the way up is never cut short by its bound on the number of steps,
  so an entry has its parent above it and then what is above the parent.
* `Forest.length_ancestors_lt`: there are fewer entries above an entry than there are entries.
* `Forest.of_order`: a store whose entries come after those that list them is a forest.
* `Store.Opens`: one step down from a container. `Forest.mem_walkFrom_iff` says that a walk meets
  what is reached by such steps and nothing else.
* `Forest.nodup_walkFrom`, `Forest.walkFrom_of_le`: it meets no entry twice, and how deep it goes
  makes no difference beyond the number of entries.
* `Forest.isWithin_iff`: a climb to the top finds what is reached by any steps down.
-/
namespace DeskShell

open Relation (TransGen ReflTransGen)

/-- A new edge adds to an order only ways through that edge. -/
theorem transGen_of_new_edge {α : Type} {r r' : α → α → Prop} {a b : α}
    (h : ∀ x y, r' x y → r x y ∨ x = a ∧ y = b) {x y : α} (hxy : TransGen r' x y) :
    TransGen r x y ∨ ReflTransGen r x a ∧ ReflTransGen r b y := by
  induction hxy with
  | single hxy =>
    rcases h _ _ hxy with h | ⟨rfl, rfl⟩
    · exact .inl (.single h)
    · exact .inr ⟨.refl, .refl⟩
  | tail _ hyz ih =>
    rcases h _ _ hyz with hyz | ⟨rfl, rfl⟩
    · exact ih.imp (·.tail hyz) fun ⟨hxa, hby⟩ => ⟨hxa, hby.tail hyz⟩
    · refine .inr ⟨?_, .refl⟩
      rcases ih with hxy | ⟨hxa, -⟩
      · exact hxy.to_reflTransGen
      · exact hxa

theorem Node.isSome_children {c : String} {n : Node} (h : c ∈ n.childIds) : n.children.isSome := by
  cases hids : n.children with
  | none => simp [childIds, hids] at h
  | some ids => rfl

namespace Store

variable {s : Store}

def IdsDistinct (s : Store) : Prop := (s.nodes.map (·.id)).Nodup

/-- The stored entry `p` has `c` among its children. -/
def Lists (s : Store) (p c : String) : Prop := ∃ n, s.get? p = some n ∧ c ∈ n.childIds

/-- The ids that the entry `p` lists. -/
def listed (s : Store) (p : String) : List String := ((s.get? p).map Node.childIds).getD []

/-- `c` is reached from `p` by going down once or more. -/
def Below (s : Store) : String → String → Prop := TransGen s.Lists

/-- The stored entries that nothing lists. -/
def Parentless (s : Store) (id : String) : Prop := s.has id = true ∧ s.parent? id = none

/-- A directory is stored under `id`. -/
def HasDir (s : Store) (id : String) : Prop := ∃ n, s.get? id = some n ∧ n.isDir = true

/-! ## Reading -/

theorem mem_nodes_of_get? {id : String} {n : Node} (h : s.get? id = some n) : n ∈ s.nodes :=
  List.mem_of_find?_eq_some h

theorem IdsDistinct.get?_of_mem (hd : s.IdsDistinct) {n : Node} (hn : n ∈ s.nodes) :
    s.get? n.id = some n := by
  have hs : s.has n.id = true := List.any_eq_true.mpr ⟨n, hn, by simp⟩
  obtain ⟨m, hm⟩ := has_iff.mp hs
  have := List.inj_on_of_nodup_map hd (mem_nodes_of_get? hm) hn (id_of_get? hm)
  rw [hm, this]

theorem has_of_get? {id : String} {n : Node} (h : s.get? id = some n) : s.has id = true :=
  has_iff.mpr ⟨n, h⟩

theorem get?_eq_none_iff {id : String} : s.get? id = none ↔ s.has id = false := by
  rw [← Bool.not_eq_true, has_iff]
  cases s.get? id <;> simp

theorem Lists.has {p c : String} (h : s.Lists p c) : s.has p = true :=
  let ⟨_, hn, _⟩ := h
  has_of_get? hn

theorem lists_iff_of_get? {p c : String} {n : Node} (h : s.get? p = some n) :
    s.Lists p c ↔ c ∈ n.childIds := by
  simp [Lists, h]

theorem mem_listed {p c : String} : c ∈ s.listed p ↔ s.Lists p c := by
  unfold listed Lists
  cases s.get? p <;> simp

theorem contents_eq (s : Store) (p : String) : s.contents p = (s.listed p).filterMap s.get? := by
  unfold contents listed
  cases s.get? p <;> rfl

theorem mem_contents {p : String} {n : Node} :
    n ∈ s.contents p ↔ s.Lists p n.id ∧ s.get? n.id = some n := by
  rw [contents_eq, List.mem_filterMap]
  constructor
  · rintro ⟨c, hc, hn⟩
    obtain rfl := id_of_get? hn
    exact ⟨mem_listed.mp hc, hn⟩
  · rintro ⟨hl, hn⟩
    exact ⟨n.id, mem_listed.mpr hl, hn⟩

theorem lists_of_parent? (hd : s.IdsDistinct) {c : String} {p : Node} (h : s.parent? c = some p) :
    s.get? p.id = some p ∧ c ∈ p.childIds := by
  refine ⟨hd.get?_of_mem (List.mem_of_find?_eq_some h), ?_⟩
  have := List.find?_some h
  simpa [Node.lists] using this

theorem parent?_eq_none_iff (hd : s.IdsDistinct) {c : String} :
    s.parent? c = none ↔ ∀ p, ¬ s.Lists p c := by
  constructor
  · rintro h p ⟨n, hn, hc⟩
    have := List.find?_eq_none.mp h n (mem_nodes_of_get? hn)
    exact this (by simpa [Node.lists] using hc)
  · intro h
    refine List.find?_eq_none.mpr fun n hn hl => ?_
    exact h n.id ⟨n, hd.get?_of_mem hn, by simpa [Node.lists] using hl⟩

/-! ## By name -/

theorem childNamed_eq_none_iff {p name : String} : s.childNamed p name = none ↔
    ∀ c n, s.Lists p c → s.get? c = some n → Text.lower n.name ≠ Text.lower name := by
  unfold childNamed
  simp only [List.find?_eq_none, Text.sameName_iff, mem_contents]
  constructor
  · intro h c n hl hn
    obtain rfl := id_of_get? hn
    exact h n ⟨hl, hn⟩
  · intro h n ⟨hl, hn⟩
    exact h n.id n hl hn

theorem childNamed_eq_some {p name : String} {n : Node} (h : s.childNamed p name = some n) :
    s.Lists p n.id ∧ s.get? n.id = some n ∧ Text.lower n.name = Text.lower name := by
  obtain ⟨hl, hn⟩ := mem_contents.mp (List.mem_of_find?_eq_some h)
  exact ⟨hl, hn, Text.sameName_iff.mp (by simpa using List.find?_some h)⟩

end Store

/-! ## Tidy stores and forests -/

/-- Ids name one entry each, and every listed id is stored and listed once. A way down may still
come back to where it started. -/
structure Tidy (s : Store) : Prop where
  distinct : s.IdsDistinct
  stored : ∀ p c, s.Lists p c → s.has c = true
  once : (s.nodes.flatMap Node.childIds).Nodup

structure Forest (s : Store) : Prop where
  distinct : s.IdsDistinct
  stored : ∀ p c, s.Lists p c → s.has c = true
  once : (s.nodes.flatMap Node.childIds).Nodup
  acyclic : ∀ id, ¬ s.Below id id

namespace Tidy

open Store

variable {s : Store}

theorem forest (T : Tidy s) (ha : ∀ id, ¬ s.Below id id) : Forest s :=
  ⟨T.distinct, T.stored, T.once, ha⟩

theorem nodup_childIds (T : Tidy s) {p : String} {n : Node} (h : s.get? p = some n) :
    n.childIds.Nodup :=
  (List.nodup_flatMap.mp T.once).1 n (mem_nodes_of_get? h)

theorem nodup_contents (T : Tidy s) (p : String) : (s.contents p).Nodup := by
  have hids : (s.listed p).Nodup := by
    unfold listed
    cases hp : s.get? p with
    | none => exact List.nodup_nil
    | some n => exact T.nodup_childIds hp
  rw [contents_eq]
  refine hids.filterMap fun a b n ha hb => ?_
  rw [← id_of_get? ha, ← id_of_get? hb]

theorem parent_unique (T : Tidy s) {p q c : String} (hp : s.Lists p c) (hq : s.Lists q c) :
    p = q := by
  obtain ⟨m, hm, hcm⟩ := hp
  obtain ⟨n, hn, hcn⟩ := hq
  by_contra hne
  have hmn : m ≠ n := fun h => hne (by rw [← id_of_get? hm, ← id_of_get? hn, h])
  have hsymm : Std.Symm (Function.onFun List.Disjoint Node.childIds) :=
    ⟨fun _ _ h _ hb ha => h ha hb⟩
  have hpw := (List.nodup_flatMap.mp T.once).2
  exact hpw.forall (mem_nodes_of_get? hm) (mem_nodes_of_get? hn) hmn hcm hcn

/-- A store is tidy when this can be seen through its ids. -/
theorem of_view (hd : s.IdsDistinct) (hs : ∀ p c, s.Lists p c → s.has c = true)
    (hn : ∀ p n, s.get? p = some n → n.childIds.Nodup)
    (hu : ∀ p q c, s.Lists p c → s.Lists q c → p = q) : Tidy s := by
  refine ⟨hd, hs, List.nodup_flatMap.mpr ⟨fun n h => hn _ _ (hd.get?_of_mem h), ?_⟩⟩
  have hpw : s.nodes.Pairwise fun m n => m.id ≠ n.id := List.pairwise_map.mp hd
  refine hpw.imp_of_mem fun {m n} hm hn' hne c hcm hcn => hne ?_
  exact hu _ _ c ⟨m, hd.get?_of_mem hm, hcm⟩ ⟨n, hd.get?_of_mem hn', hcn⟩

theorem parent?_eq_some_iff (T : Tidy s) {c : String} {p : Node} :
    s.parent? c = some p ↔ s.get? p.id = some p ∧ c ∈ p.childIds := by
  refine ⟨lists_of_parent? T.distinct, fun ⟨hp, hc⟩ => ?_⟩
  cases h : s.parent? c with
  | none => exact absurd ⟨p, hp, hc⟩ ((parent?_eq_none_iff T.distinct).mp h p.id)
  | some q =>
    obtain ⟨hq, hcq⟩ := lists_of_parent? T.distinct h
    have hid := T.parent_unique ⟨q, hq, hcq⟩ ⟨p, hp, hc⟩
    rw [hid, hp] at hq
    exact hq.symm

theorem parent?_of_lists (T : Tidy s) {p c : String} {n : Node} (hn : s.get? p = some n)
    (hc : c ∈ n.childIds) : s.parent? c = some n := by
  obtain rfl := id_of_get? hn
  exact T.parent?_eq_some_iff.mpr ⟨hn, hc⟩

end Tidy

namespace Forest

open Store

variable {s : Store}

theorem tidy (F : Forest s) : Tidy s := ⟨F.distinct, F.stored, F.once⟩

theorem nodup_childIds (F : Forest s) {p : String} {n : Node} (h : s.get? p = some n) :
    n.childIds.Nodup :=
  F.tidy.nodup_childIds h

theorem parent_unique (F : Forest s) {p q c : String} (hp : s.Lists p c) (hq : s.Lists q c) :
    p = q :=
  F.tidy.parent_unique hp hq

theorem parent?_eq_some_iff (F : Forest s) {c : String} {p : Node} :
    s.parent? c = some p ↔ s.get? p.id = some p ∧ c ∈ p.childIds :=
  F.tidy.parent?_eq_some_iff

theorem parent?_of_lists (F : Forest s) {p c : String} {n : Node} (hn : s.get? p = some n)
    (hc : c ∈ n.childIds) : s.parent? c = some n :=
  F.tidy.parent?_of_lists hn hc

/-- A store whose entries come after those that list them is a forest. -/
theorem of_order (hd : (s.nodes.map (·.id)).Nodup) (hn : (s.nodes.flatMap Node.childIds).Nodup)
    (hs : ∀ n ∈ s.nodes, ∀ c ∈ n.childIds, s.has c = true)
    (ho : ∀ n ∈ s.nodes, ∀ c ∈ n.childIds,
      (s.nodes.map (·.id)).idxOf n.id < (s.nodes.map (·.id)).idxOf c) : Forest s where
  distinct := hd
  stored p c hl := by
    obtain ⟨n, hn, hc⟩ := hl
    exact hs n (mem_nodes_of_get? hn) c hc
  once := hn
  acyclic id hb := by
    have hlt : ∀ a b, s.Below a b →
        (s.nodes.map (·.id)).idxOf a < (s.nodes.map (·.id)).idxOf b := by
      intro a b hab
      have hstep : ∀ p c, s.Lists p c →
          (s.nodes.map (·.id)).idxOf p < (s.nodes.map (·.id)).idxOf c := by
        rintro p c ⟨n, hn, hc⟩
        obtain rfl := id_of_get? hn
        exact ho n (mem_nodes_of_get? hn) c hc
      induction hab with
      | single hl => exact hstep _ _ hl
      | tail _ hl ih => exact Nat.lt_trans ih (hstep _ _ hl)
    exact Nat.lt_irrefl _ (hlt id id hb)

/-! ## The way up -/

theorem below_of_mem_climb (F : Forest s) {a : Node} :
    ∀ (fuel : Nat) (id : String), a ∈ s.climb fuel id → s.get? a.id = some a ∧ s.Below a.id id
  | 0, _, h => by simp [climb] at h
  | fuel + 1, id, h => by
    unfold climb at h
    cases hp : s.parent? id with
    | none => simp [hp] at h
    | some p =>
      obtain ⟨hg, hc⟩ := F.parent?_eq_some_iff.mp hp
      have hl : s.Lists p.id id := ⟨p, hg, hc⟩
      rw [hp] at h
      rcases List.mem_cons.mp h with rfl | h
      · exact ⟨hg, .single hl⟩
      · obtain ⟨ha, hb⟩ := F.below_of_mem_climb fuel p.id h
        exact ⟨ha, hb.tail hl⟩

theorem nodup_climb (F : Forest s) : ∀ (fuel : Nat) (id : String),
    ((s.climb fuel id).map (·.id)).Nodup
  | 0, _ => by simp [climb]
  | fuel + 1, id => by
    unfold climb
    cases hp : s.parent? id with
    | none => simp
    | some p =>
      refine List.nodup_cons.mpr ⟨fun h => ?_, F.nodup_climb fuel p.id⟩
      obtain ⟨a, ha, hid : a.id = p.id⟩ := List.mem_map.mp h
      exact F.acyclic p.id (hid ▸ (F.below_of_mem_climb fuel p.id ha).2)

/-- The entries above a stored entry are others, all different. -/
theorem length_climb_lt (F : Forest s) {id : String} (h : s.has id = true) (fuel : Nat) :
    (s.climb fuel id).length < s.nodes.length := by
  have hnd : (id :: (s.climb fuel id).map (·.id)).Nodup := by
    refine List.nodup_cons.mpr ⟨fun hm => ?_, F.nodup_climb fuel id⟩
    obtain ⟨a, ha, hid⟩ := List.mem_map.mp hm
    exact F.acyclic id (hid ▸ (F.below_of_mem_climb fuel id ha).2)
  have hsub : id :: (s.climb fuel id).map (·.id) ⊆ s.nodes.map (·.id) := by
    intro x hx
    rcases List.mem_cons.mp hx with rfl | hx
    · obtain ⟨n, hn⟩ := has_iff.mp h
      exact List.mem_map.mpr ⟨n, mem_nodes_of_get? hn, id_of_get? hn⟩
    · obtain ⟨a, ha, rfl⟩ := List.mem_map.mp hx
      exact List.mem_map_of_mem (mem_nodes_of_get? (F.below_of_mem_climb fuel id ha).1)
  have := (hnd.subperm hsub).length_le
  simp only [List.length_cons, List.length_map] at this
  omega

theorem climb_succ_of_lt (s : Store) : ∀ (fuel : Nat) (id : String),
    (s.climb fuel id).length < fuel → s.climb (fuel + 1) id = s.climb fuel id
  | 0, _, h => by simp at h
  | fuel + 1, id, h => by
    unfold climb at h ⊢
    cases hp : s.parent? id with
    | none => rfl
    | some p =>
      rw [hp] at h
      have hlt : (s.climb fuel p.id).length < fuel := by simpa using h
      simp only [climb_succ_of_lt s fuel p.id hlt]

theorem length_ancestors_lt (F : Forest s) {id : String} (h : s.has id = true) :
    (s.ancestors id).length < s.nodes.length :=
  F.length_climb_lt h _

theorem ancestors_of_root {id : String} (h : s.parent? id = none) : s.ancestors id = [] := by
  unfold ancestors
  cases s.nodes.length <;> simp [climb, h]

theorem ancestors_of_parent (F : Forest s) {id : String} {p : Node} (h : s.parent? id = some p) :
    s.ancestors id = p :: s.ancestors p.id := by
  obtain ⟨hp, hc⟩ := F.parent?_eq_some_iff.mp h
  have hid := F.stored p.id id ⟨p, hp, hc⟩
  have hup : ∀ fuel, s.climb (fuel + 1) id = p :: s.climb fuel p.id := by
    intro fuel
    simp [climb, h]
  -- One step of the bound is used for `p`, and the way up from there is shorter than what is left.
  obtain ⟨k, hk⟩ : ∃ k, s.nodes.length = k + 1 :=
    Nat.exists_eq_succ_of_ne_zero (by have := F.length_climb_lt hid 0; omega)
  have hlt := F.length_climb_lt hid (k + 1)
  rw [hup, List.length_cons] at hlt
  unfold ancestors
  rw [hk, hup, climb_succ_of_lt s k p.id (by omega)]

theorem length_ancestors_of_parent (F : Forest s) {id : String} {p : Node}
    (h : s.parent? id = some p) : (s.ancestors id).length = (s.ancestors p.id).length + 1 := by
  rw [F.ancestors_of_parent h, List.length_cons]

theorem length_ancestors_of_lists (F : Forest s) {p c : String} (h : s.Lists p c) :
    (s.ancestors c).length = (s.ancestors p).length + 1 := by
  obtain ⟨n, hn, hc⟩ := h
  rw [F.length_ancestors_of_parent (F.parent?_of_lists hn hc), id_of_get? hn]

theorem length_ancestors_of_below (F : Forest s) {a b : String} (h : s.Below a b) :
    (s.ancestors a).length < (s.ancestors b).length := by
  induction h with
  | single h =>
    have := F.length_ancestors_of_lists h
    omega
  | tail _ h ih =>
    have := F.length_ancestors_of_lists h
    omega

end Forest

/-! ## The way down -/

namespace Store

variable {s : Store}

/-- The container `p` has `c` among its children. -/
def Opens (s : Store) (p c : String) : Prop :=
  ∃ n, s.get? p = some n ∧ n.isContainer = true ∧ c ∈ n.childIds

theorem Opens.lists {p c : String} (h : s.Opens p c) : s.Lists p c :=
  let ⟨n, hn, _, hc⟩ := h
  ⟨n, hn, hc⟩

theorem below_of_opens {a b : String} (h : TransGen s.Opens a b) : s.Below a b :=
  TransGen.mono (fun _ _ => Opens.lists) a b h

/-- A walk meets only what is reached through containers. -/
theorem opens_of_mem_walkFrom {m : Node} : ∀ (fuel : Nat) (n : Node), s.get? n.id = some n →
    m ∈ s.walkFrom fuel n → ReflTransGen s.Opens n.id m.id
  | 0, n, _, h => by rw [List.mem_singleton.mp h]
  | fuel + 1, n, hn, h => by
    rw [walkFrom] at h
    rcases List.mem_cons.mp h with rfl | h
    · exact .refl
    · split at h
      · next hcont =>
        obtain ⟨x, hx, hm⟩ := List.mem_flatMap.mp h
        obtain ⟨hl, hget⟩ := mem_contents.mp hx
        exact .head ⟨n, hn, hcont, (lists_iff_of_get? hn).mp hl⟩
          (opens_of_mem_walkFrom fuel x hget hm)
      · cases h

theorem get?_of_mem_walkFrom {m : Node} : ∀ (fuel : Nat) (n : Node), s.get? n.id = some n →
    m ∈ s.walkFrom fuel n → s.get? m.id = some m
  | 0, n, hn, h => by rwa [List.mem_singleton.mp h]
  | fuel + 1, n, hn, h => by
    rw [walkFrom] at h
    rcases List.mem_cons.mp h with rfl | h
    · exact hn
    · split at h
      · obtain ⟨x, hx, hm⟩ := List.mem_flatMap.mp h
        exact get?_of_mem_walkFrom fuel x (mem_contents.mp hx).2 hm
      · cases h

theorem lists_of_mem_walkFrom {fuel : Nat} {p : String} {c m : Node} (hc : c ∈ s.contents p)
    (hm : m ∈ s.walkFrom fuel c) : ReflTransGen s.Lists c.id m.id :=
  ReflTransGen.mono (fun _ _ => Opens.lists) _ _
    (opens_of_mem_walkFrom fuel c (mem_contents.mp hc).2 hm)

end Store

namespace Forest

open Store

variable {s : Store}

/-- A walk whose depth suffices meets all that is reached through containers. -/
theorem exists_mem_walkFrom (F : Forest s) {target : String} : ∀ (fuel : Nat) (n : Node),
    s.get? n.id = some n → TransGen s.Opens n.id target →
    (s.ancestors target).length ≤ (s.ancestors n.id).length + fuel →
    ∃ m ∈ s.walkFrom fuel n, m.id = target
  | 0, n, _, hopens, hle => by
    have := F.length_ancestors_of_below (below_of_opens hopens)
    omega
  | fuel + 1, n, hn, hopens, hle => by
    obtain ⟨x, hnx, hx⟩ := TransGen.head'_iff.mp hopens
    obtain ⟨m, hm⟩ := has_iff.mp (F.stored _ _ hnx.lists)
    obtain rfl := id_of_get? hm
    have hmem : m ∈ s.contents n.id := mem_contents.mpr ⟨hnx.lists, hm⟩
    have hwalk : ∀ k ∈ s.walkFrom fuel m, k ∈ s.walkFrom (fuel + 1) n := fun k hk => by
      obtain ⟨n', hn', hcont, -⟩ := hnx
      obtain rfl := Option.some.inj (hn.symm.trans hn')
      rw [walkFrom, if_pos hcont]
      exact List.mem_cons_of_mem _ (List.mem_flatMap.mpr ⟨m, hmem, hk⟩)
    rcases Relation.reflTransGen_iff_eq_or_transGen.mp hx with rfl | hx
    · refine ⟨m, hwalk m ?_, rfl⟩
      cases fuel <;> simp [walkFrom]
    · have hdepth := F.length_ancestors_of_lists hnx.lists
      obtain ⟨k, hk, hid⟩ := F.exists_mem_walkFrom fuel m hm hx (by omega)
      exact ⟨k, hwalk k hk, hid⟩

/-- The walk from an entry meets all that is reached from it through containers. -/
theorem exists_mem_walk (F : Forest s) {target : String} {n : Node} (hn : s.get? n.id = some n)
    (hopens : TransGen s.Opens n.id target) :
    ∃ m ∈ s.walkFrom s.nodes.length n, m.id = target := by
  refine F.exists_mem_walkFrom _ n hn hopens ?_
  obtain ⟨q, -, hq⟩ := TransGen.tail'_iff.mp hopens
  have := F.length_ancestors_lt (F.stored q target hq.lists)
  omega

/-- A walk meets an entry just when it is reached through containers. -/
theorem mem_walkFrom_iff (F : Forest s) {m n : Node} (hn : s.get? n.id = some n) :
    m ∈ s.walkFrom s.nodes.length n ↔
      s.get? m.id = some m ∧ ReflTransGen s.Opens n.id m.id := by
  constructor
  · intro hm
    exact ⟨get?_of_mem_walkFrom _ n hn hm, opens_of_mem_walkFrom _ n hn hm⟩
  · rintro ⟨hm, hopens⟩
    rcases Relation.reflTransGen_iff_eq_or_transGen.mp hopens with heq | hopens
    · rw [heq, hn] at hm
      obtain rfl := Option.some.inj hm
      cases s.nodes.length <;> exact List.mem_cons_self
    · obtain ⟨x, hx, hid⟩ := F.exists_mem_walk hn hopens
      have hget := get?_of_mem_walkFrom _ n hn hx
      rw [hid, hm] at hget
      rwa [Option.some.inj hget]

/-- Of two entries from which one is reached, one is reached from the other. -/
theorem comparable (F : Forest s) {a b x : String} (ha : ReflTransGen s.Lists a x)
    (hb : ReflTransGen s.Lists b x) : ReflTransGen s.Lists a b ∨ ReflTransGen s.Lists b a := by
  have hunique : Relator.RightUnique (Function.swap s.Lists) :=
    fun _ _ _ hp hq => F.parent_unique hp hq
  have hup := ReflTransGen.total_of_right_unique hunique (Relation.reflTransGen_swap.mpr ha)
    (Relation.reflTransGen_swap.mpr hb)
  simp only [Relation.reflTransGen_swap] at hup
  exact hup.symm

/-- Two children of one entry are on one way down only if they are the same. -/
theorem eq_of_contents (F : Forest s) {p : String} {c d : Node} (hc : c ∈ s.contents p)
    (hd : d ∈ s.contents p) (hcd : ReflTransGen s.Lists c.id d.id) : c = d := by
  obtain ⟨hlc, hgc⟩ := mem_contents.mp hc
  obtain ⟨hld, hgd⟩ := mem_contents.mp hd
  rcases Relation.reflTransGen_iff_eq_or_transGen.mp hcd with heq | hway
  · rw [heq, hgc] at hgd
    exact Option.some.inj hgd
  · obtain ⟨q, hcq, hqd⟩ := TransGen.tail'_iff.mp hway
    obtain rfl := F.parent_unique hqd hld
    exact absurd (TransGen.head' hlc hcq) (F.acyclic _)

/-- The walks from the children of an entry have no entry in common. -/
theorem nodup_flatMap_walkFrom (F : Forest s) (fuel : Nat) (p : String)
    (h : ∀ c ∈ s.contents p, ((s.walkFrom fuel c).map (·.id)).Nodup) :
    (((s.contents p).flatMap (s.walkFrom fuel)).map (·.id)).Nodup := by
  rw [List.map_flatMap, List.nodup_flatMap]
  refine ⟨h, (F.tidy.nodup_contents p).imp_of_mem fun {c d} hc hd hne x hxc hxd => hne ?_⟩
  obtain ⟨m, hm, rfl⟩ := List.mem_map.mp hxc
  obtain ⟨m', hm', hid⟩ := List.mem_map.mp hxd
  rcases F.comparable (lists_of_mem_walkFrom hc hm) (hid ▸ lists_of_mem_walkFrom hd hm') with h | h
  · exact F.eq_of_contents hc hd h
  · exact (F.eq_of_contents hd hc h).symm

/-- A walk meets no entry twice. -/
theorem nodup_walkFrom (F : Forest s) : ∀ (fuel : Nat) (n : Node), s.get? n.id = some n →
    ((s.walkFrom fuel n).map (·.id)).Nodup
  | 0, n, _ => List.nodup_singleton _
  | fuel + 1, n, hn => by
    rw [walkFrom, List.map_cons, List.nodup_cons]
    split
    · refine ⟨fun hmem => ?_, F.nodup_flatMap_walkFrom fuel n.id fun c hc =>
        F.nodup_walkFrom fuel c (mem_contents.mp hc).2⟩
      obtain ⟨m, hm, hid⟩ := List.mem_map.mp hmem
      obtain ⟨c, hc, hm⟩ := List.mem_flatMap.mp hm
      have hbelow : s.Below n.id m.id := .head' (mem_contents.mp hc).1 (lists_of_mem_walkFrom hc hm)
      exact F.acyclic n.id (hid ▸ hbelow)
    · exact ⟨List.not_mem_nil, List.nodup_nil⟩

/-- There is nothing below an entry that all others are above. -/
theorem contents_eq_nil (F : Forest s) {id : String}
    (hle : s.nodes.length ≤ (s.ancestors id).length + 1) : s.contents id = [] := by
  refine List.eq_nil_iff_forall_not_mem.mpr fun m hm => ?_
  obtain ⟨hl, hm⟩ := mem_contents.mp hm
  have hup := F.length_ancestors_of_lists hl
  have hlt := F.length_ancestors_lt (has_of_get? hm)
  omega

/-- A walk that is deep enough meets no more when it goes deeper. -/
theorem walkFrom_succ (F : Forest s) : ∀ (fuel : Nat) (n : Node), s.get? n.id = some n →
    s.nodes.length ≤ (s.ancestors n.id).length + fuel + 1 →
    s.walkFrom (fuel + 1) n = s.walkFrom fuel n
  | 0, n, hn, hle => by simp [walkFrom, F.contents_eq_nil hle]
  | fuel + 1, n, hn, hle => by
    have hdeep : ∀ m ∈ s.contents n.id, s.walkFrom (fuel + 1) m = s.walkFrom fuel m := by
      intro m hm
      obtain ⟨hl, hm⟩ := mem_contents.mp hm
      have hup := F.length_ancestors_of_lists hl
      exact F.walkFrom_succ fuel m hm (by omega)
    rw [walkFrom, walkFrom]
    congr 2
    exact List.flatMap_congr hdeep

/-- A walk to the depth of one entry less than there are meets all that a walk meets. -/
theorem walkFrom_of_le (F : Forest s) {n : Node} (hn : s.get? n.id = some n) {fuel : Nat}
    (hle : s.nodes.length ≤ fuel + 1) :
    s.walkFrom fuel n = s.walkFrom s.nodes.length n := by
  have hsame : ∀ k, s.walkFrom (s.nodes.length - 1 + k) n = s.walkFrom (s.nodes.length - 1) n := by
    intro k
    induction k with
    | zero => rfl
    | succ k ih => exact (F.walkFrom_succ (s.nodes.length - 1 + k) n hn (by omega)).trans ih
  have hfuel := hsame (fuel - (s.nodes.length - 1))
  have hlength := hsame (s.nodes.length - (s.nodes.length - 1))
  rw [Nat.add_sub_cancel' (by omega)] at hfuel hlength
  rw [hfuel, hlength]

/-- Whatever an entry is reached from, it is within. -/
theorem isWithin_of_reached (F : Forest s) {a b : String} (h : ReflTransGen s.Lists a b) :
    s.isWithin b a = true := by
  have hup : ∀ b, s.Below a b → ∃ p ∈ s.ancestors b, p.id = a := by
    intro b hab
    induction hab with
    | single hl =>
      obtain ⟨p, hp, hc⟩ := hl
      rw [F.ancestors_of_parent (F.parent?_of_lists hp hc)]
      exact ⟨p, List.mem_cons_self, id_of_get? hp⟩
    | tail _ hl ih =>
      obtain ⟨p, hp, hc⟩ := hl
      obtain ⟨q, hq, hid⟩ := ih
      rw [F.ancestors_of_parent (F.parent?_of_lists hp hc), id_of_get? hp]
      exact ⟨q, List.mem_cons_of_mem _ hq, hid⟩
  rcases Relation.reflTransGen_iff_eq_or_transGen.mp h with rfl | hab
  · simp [isWithin]
  · obtain ⟨p, hp, hid⟩ := hup b hab
    have hany : (s.ancestors b).any (·.id == a) = true :=
      List.any_eq_true.mpr ⟨p, hp, by simpa using hid⟩
    simp [isWithin, hany]

theorem isWithin_iff (F : Forest s) : s.isWithin b a = true ↔ ReflTransGen s.Lists a b := by
  refine ⟨fun h => ?_, F.isWithin_of_reached⟩
  rw [isWithin, Bool.or_eq_true, beq_iff_eq, List.any_eq_true] at h
  rcases h with rfl | ⟨p, hp, hid⟩
  · exact .refl
  · rw [beq_iff_eq] at hid
    rw [← hid]
    exact (F.below_of_mem_climb _ b hp).2.to_reflTransGen

end Forest
end DeskShell

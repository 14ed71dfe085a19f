import DeskShell.Proofs.Moves
import DeskShell.Proofs.Redirects

/-!
# What copying makes

A copy is made entry by entry, each one put at the end of a folder and then filled with the copies of
its children, while the store that is copied from grows.

* `Node.copy`: the copy of one entry. `Run.add_copy`: how it is made.
* `Session.Grows`: new entries have come to the end of the store, some of them below `parent`.
* `Store.Intact`: the entries to be copied are as they were.
* `Store.IsCopy`: an entry and its copy, whose children are the copies of its children.
* `Builtin.copied_copyFrom`: a copy that succeeds is a copy of all that a walk meets. One that stops
  with a fault has made copies of the first entries that a walk meets.
-/
namespace DeskShell

open Relation (ReflTransGen)

variable {C : Type} {s t : Store} {σ τ υ : Session C}

/-! ## One entry -/

namespace Node

/-- The copy of an entry, with an id, a name and children of its own. A system folder becomes an
ordinary one, and the copy has children only if it is a container. -/
def copy (n : Node) (id name : String) (ids : List String) (now : Int) : Node :=
  { n with
    id, name
    kind := if n.kind = .systemFolder then .folder else n.kind
    children := if n.isContainer then some ids else none
    created := now, modified := now }

/-- Ids put at the end of the children. -/
def pushAll (ids : List String) (n : Node) : Node :=
  { n with children := n.children.map (· ++ ids) }

theorem id_pushAll (ids : List String) (n : Node) : (n.pushAll ids).id = n.id := rfl

theorem pushAll_nil (n : Node) : n.pushAll [] = n := by
  cases n with
  | mk id name kind children => cases children <;> simp [pushAll]

theorem pushAll_pushAll (a b : List String) (n : Node) :
    (n.pushAll a).pushAll b = n.pushAll (a ++ b) := by
  cases h : n.children <;> simp [pushAll, h]

theorem pushAll_copy (n : Node) (id name : String) (ids : List String) (now : Int) :
    (n.copy id name [] now).pushAll ids = n.copy id name ids now := by
  by_cases h : n.isContainer = true <;> simp [copy, pushAll, h]

/-- The copy of a system item is one. -/
theorem isSystem_copy (n : Node) (id name : String) (ids : List String) (now : Int) :
    (n.copy id name ids now).isSystem = n.isSystem := by
  cases h : n.kind <;> simp [copy, isSystem, h]

theorem ofRecord_copyRecord (n : Node) (id name : String) (now : Int) :
    ofRecord id (Builtin.copyRecord n name) now = .ok (n.copy id name [] now) := by
  have hkind : (Builtin.copyRecord n name).kindOf =
      .ok (if n.kind = .systemFolder then .folder else n.kind) := by
    simp [Builtin.copyRecord, Record.kindOf, Kind.ofWord?_word]
  unfold ofRecord
  rw [hkind]
  cases h : n.kind <;> simp [Builtin.copyRecord, copy, isContainer, h, Kind.isContainer]

end Node

/-! ## Growing stores -/

namespace Store

theorem map_adjust_of_ne {id : String} {f : Node → Node} {l : List Node}
    (h : ∀ n ∈ l, n.id ≠ id) : (l.map fun n => if n.id == id then f n else n) = l := by
  refine (List.map_congr_left fun n hn => ?_).trans l.map_id
  simp [h n hn]

theorem adjust_eq_self {id : String} {f : Node → Node} (hf : ∀ n, f n = n) :
    s.adjust id f = s := by
  unfold adjust
  have : (s.nodes.map fun n => if n.id == id then f n else n) = s.nodes := by simp [hf]
  rw [this]

theorem ne_of_has {a b : String} (ha : s.has a = true) (hb : s.has b = false) : a ≠ b := by
  rintro rfl
  rw [ha] at hb
  cases hb

end Store

/-- `τ` is `σ` after the entries `copies` have come to the end of the store, those with the ids `tops`
at the end of the children of `parent`. -/
structure Session.Grows (σ τ : Session C) (parent : String) (tops : List String)
    (copies : List Node) : Prop where
  frame : τ = { σ with
    store := { σ.store with nodes := τ.store.nodes, counter := τ.store.counter }
    notes := τ.notes }
  nodes : τ.store.nodes = (σ.store.adjust parent (Node.pushAll tops)).nodes ++ copies
  fresh : ∀ c ∈ copies, σ.store.has c.id = false
  distinct : (copies.map (·.id)).Nodup

namespace Session.Grows

variable {parent : String} {tops more : List String} {copies news : List Node}

theorem refl (σ : Session C) (parent : String) : σ.Grows σ parent [] [] where
  frame := rfl
  nodes := by rw [Store.adjust_eq_self Node.pushAll_nil, List.append_nil]
  fresh := by simp
  distinct := List.nodup_nil

theorem clock (h : σ.Grows τ parent tops copies) : τ.clock = σ.clock := by rw [h.frame]

theorem has_iff (h : σ.Grows τ parent tops copies) (x : String) :
    τ.store.has x = true ↔ σ.store.has x = true ∨ ∃ c ∈ copies, c.id = x := by
  have hold : (σ.store.adjust parent (Node.pushAll tops)).has x = σ.store.has x :=
    Store.has_adjust (Node.id_pushAll tops) x
  rw [← hold]
  simp [Store.has, h.nodes]

/-- The entries that were there have not changed, but `parent` has new children. -/
theorem get?_of_has (h : σ.Grows τ parent tops copies) {x : String} (hx : σ.store.has x = true) :
    τ.store.get? x =
      if x = parent then (σ.store.get? parent).map (Node.pushAll tops) else σ.store.get? x := by
  have hold := Store.get?_adjust σ.store parent (Node.pushAll tops) (Node.id_pushAll tops) x
  rw [← hold]
  obtain ⟨n, hn⟩ := Store.has_iff.mp ((Store.has_adjust (Node.id_pushAll tops) x).trans hx)
  rw [hn]
  unfold Store.get? at hn ⊢
  rw [h.nodes, List.find?_append, hn, Option.some_or]

/-- The new entries are found under their ids. -/
theorem get?_of_mem (h : σ.Grows τ parent tops copies) {c : Node} (hc : c ∈ copies) :
    τ.store.get? c.id = some c := by
  have hold : (σ.store.adjust parent (Node.pushAll tops)).get? c.id = none := by
    rw [Store.get?_eq_none_iff, Store.has_adjust (Node.id_pushAll tops)]
    exact h.fresh c hc
  have hnew : Store.get? { σ.store with nodes := copies } c.id = some c :=
    Store.IdsDistinct.get?_of_mem (s := { σ.store with nodes := copies }) h.distinct hc
  unfold Store.get? at hold hnew ⊢
  rw [h.nodes, List.find?_append, hold, Option.none_or, hnew]

/-- What is free afterwards has been free before, and is none of the new entries. -/
theorem free (h : σ.Grows τ parent tops copies) {x : String} (hx : τ.store.has x = false) :
    σ.store.has x = false ∧ ∀ c ∈ copies, c.id ≠ x := by
  have hno := mt (h.has_iff x).mpr (by simp [hx])
  refine ⟨?_, fun c hc hid => hno (.inr ⟨c, hc, hid⟩)⟩
  cases hold : σ.store.has x with
  | false => rfl
  | true => exact absurd (.inl hold) hno

/-- More copies come into the same folder. -/
theorem trans (h : σ.Grows τ parent tops copies) (h' : τ.Grows υ parent more news)
    (hparent : σ.store.has parent = true) : σ.Grows υ parent (tops ++ more) (copies ++ news) where
  frame := by rw [h'.frame, h.frame]
  nodes := by
    have hne : ∀ c ∈ copies, c.id ≠ parent :=
      fun c hc => (Store.ne_of_has hparent (h.fresh c hc)).symm
    have hboth : (σ.store.adjust parent (Node.pushAll (tops ++ more))).nodes =
        (σ.store.adjust parent (Node.pushAll tops)).nodes.map
          fun n => if n.id == parent then n.pushAll more else n := by
      simp only [Store.adjust, List.map_map]
      refine List.map_congr_left fun n _ => ?_
      by_cases hid : n.id = parent
      · simp [hid, Node.id_pushAll, Node.pushAll_pushAll]
      · simp [hid]
    rw [h'.nodes, Store.adjust, h.nodes, List.map_append, Store.map_adjust_of_ne hne, hboth,
      List.append_assoc]
  fresh c hc := by
    rcases List.mem_append.mp hc with hc | hc
    · exact h.fresh c hc
    · exact (h.free (h'.fresh c hc)).1
  distinct := by
    rw [List.map_append]
    refine h.distinct.append h'.distinct fun x hx hx' => ?_
    obtain ⟨c, hc, rfl⟩ := List.mem_map.mp hx
    obtain ⟨d, hd, hid⟩ := List.mem_map.mp hx'
    exact (h.free (h'.fresh d hd)).2 c hc hid.symm

/-- Copies come into the folder that has been made last. -/
theorem fill {made : Node} {id : String} (h : σ.Grows τ parent [id] [made]) (hid : made.id = id)
    (h' : τ.Grows υ id tops copies) :
    σ.Grows υ parent [id] (made.pushAll tops :: copies) where
  frame := by rw [h'.frame, h.frame]
  nodes := by
    have hmade := h.fresh made (List.mem_singleton_self _)
    have hne : ∀ n ∈ (σ.store.adjust parent (Node.pushAll [id])).nodes, n.id ≠ id := by
      intro n hn heq
      have hhas : (σ.store.adjust parent (Node.pushAll [id])).has n.id = true :=
        List.any_eq_true.mpr ⟨n, hn, by simp⟩
      rw [Store.has_adjust (Node.id_pushAll [id]), heq, ← hid, hmade] at hhas
      cases hhas
    rw [h'.nodes, Store.adjust, h.nodes, List.map_append, Store.map_adjust_of_ne hne]
    simp [hid]
  fresh c hc := by
    rcases List.mem_cons.mp hc with rfl | hc
    · exact h.fresh made (List.mem_singleton_self _)
    · exact (h.free (h'.fresh c hc)).1
  distinct := by
    refine List.nodup_cons.mpr ⟨fun hmem => ?_, h'.distinct⟩
    obtain ⟨c, hc, hid⟩ := List.mem_map.mp hmem
    exact (h.free (h'.fresh c hc)).2 made (List.mem_singleton_self _) hid.symm

end Session.Grows

/-- The copy of one entry is refused, and nothing has changed, or it is a new entry at the end of the
folder `parent`. -/
theorem Run.add_copy (n : Node) (name parent : String) (σ : Session C) :
    (∃ f, add (Builtin.copyRecord n name) parent σ = .error f σ) ∨
    ∃ id τ, add (Builtin.copyRecord n name) parent σ = .ok id τ ∧
      σ.store.HasList parent ∧ σ.Grows τ parent [id] [n.copy id name [] σ.clock] := by
  rcases Store.add_cases (Builtin.copyRecord n name) parent σ.clock σ.store with
    ⟨f, h⟩ | ⟨f, -, id, h⟩ | ⟨p, made, hmakes, h⟩
  · exact .inl ⟨f, add_of_error h⟩
  · cases (Node.ofRecord_copyRecord n id name σ.clock).symm.trans h
  · obtain ⟨notes, h⟩ := add_of_ok h
    obtain ⟨m, hm, hmade⟩ := hmakes.record
    obtain rfl := Except.ok.inj ((Node.ofRecord_copyRecord n _ name σ.clock).symm.trans hm)
    have hid : made.id = Store.idOf σ.store.freeNumber := hmakes.fields.1
    have hcopy : made = n.copy made.id name [] σ.clock := by
      rw [hid, hmade]
      cases hk : n.kind <;> simp [Node.copy, Node.isContainer, hk, Kind.isContainer]
    have hfresh : σ.store.has made.id = false := by
      rw [hid]
      exact Store.has_idOf_freeNumber σ.store
    have hpush : (Node.pushAll [made.id] : Node → Node) = Node.pushChild made.id := rfl
    refine .inr ⟨_, _, h, ⟨p, hmakes.folder, hmakes.holds⟩, rfl, ?_, ?_, by simp⟩
    · have hne : made.id ≠ parent :=
        (Store.ne_of_has (Store.has_of_get? hmakes.folder) hfresh).symm
      simp only [Store.insert, Store.adjust, List.map_append, List.map_cons, List.map_nil, hpush,
        beq_eq_false_iff_ne.mpr hne, Bool.false_eq_true, if_false, ← hcopy]
    · intro c hc
      rw [List.mem_singleton.mp hc]
      exact hfresh

/-! ## The entries to be copied -/

namespace Store

/-- The entries that are reached from `n` through containers are in `t` as they are in `s`. -/
def Intact (s t : Store) (n : Node) : Prop :=
  ∀ x, ReflTransGen s.Opens n.id x → ∃ m, s.get? x = some m ∧ t.get? x = some m

theorem Intact.stored {n : Node} (h : s.Intact t n) (hn : s.get? n.id = some n) :
    t.get? n.id = some n := by
  obtain ⟨m, hm, hmt⟩ := h n.id .refl
  rwa [← Option.some.inj (hn.symm.trans hm)] at hmt

theorem Intact.child {n m : Node} (h : s.Intact t n) (hn : s.get? n.id = some n)
    (hcont : n.isContainer = true) (hm : m ∈ s.contents n.id) : s.Intact t m := by
  obtain ⟨hl, -⟩ := mem_contents.mp hm
  exact fun x hx => h x (.head ⟨n, hn, hcont, (lists_iff_of_get? hn).mp hl⟩ hx)

theorem Intact.contents {n : Node} (h : s.Intact t n) (hn : s.get? n.id = some n)
    (hcont : n.isContainer = true) : t.contents n.id = s.contents n.id := by
  unfold Store.contents
  rw [h.stored hn, hn]
  refine List.filterMap_congr fun c hc => ?_
  obtain ⟨m, hm, hmt⟩ := h c (.single ⟨n, hn, hcont, hc⟩)
  rw [hm, hmt]

/-- What has come to another place leaves them as they are. -/
theorem Intact.grows {n : Node} {parent : String} {tops : List String} {copies : List Node}
    (h : s.Intact σ.store n) (hgrows : σ.Grows τ parent tops copies)
    (hparent : ¬ ReflTransGen s.Opens n.id parent) : s.Intact τ.store n := by
  intro x hx
  obtain ⟨m, hm, hmσ⟩ := h x hx
  refine ⟨m, hm, ?_⟩
  rw [hgrows.get?_of_has (has_of_get? hmσ), if_neg, hmσ]
  rintro rfl
  exact hparent hx

/-- What a copy to the depth `fuel` reads: nothing, or what a walk meets. -/
def visits (s : Store) : Nat → Node → List Node
  | 0, _ => []
  | fuel + 1, n => s.walkFrom fuel n

theorem visits_succ (s : Store) (fuel : Nat) (n : Node) : s.visits (fuel + 1) n =
    n :: if n.isContainer then (s.contents n.id).flatMap (s.visits fuel) else [] := by
  cases fuel with
  | zero =>
    have hnone : (s.contents n.id).flatMap (s.visits 0) = [] := by
      rw [List.flatMap_eq_nil_iff]
      exact fun m _ => rfl
    simp [visits, walkFrom, hnone]
  | succ fuel =>
    rw [visits, walkFrom]
    rfl

/-! ## Copies of trees -/

variable {now : Int} {pairs more : List (Node × Node)}

/-- `c` is the copy of `m` under the name `name`, and its children are the copies of those of `m`.
Which entry is the copy of which is told by `pairs`. -/
def IsCopy (s : Store) (now : Int) (pairs : List (Node × Node)) (name : String) (m c : Node) : Prop :=
  ∃ ids, c = m.copy c.id name ids now ∧ (m.isContainer = true →
    List.Forall₂ (fun k id => ∃ d, (k, d) ∈ pairs ∧ d.id = id) (s.contents m.id) ids)

theorem IsCopy.mono {name : String} {m c : Node} (h : s.IsCopy now pairs name m c)
    (hsub : pairs ⊆ more) : s.IsCopy now more name m c := by
  obtain ⟨ids, hc, hids⟩ := h
  refine ⟨ids, hc, fun hcont => (hids hcont).imp ?_⟩
  exact fun k id ⟨d, hd, hid⟩ => ⟨d, hsub hd, hid⟩

theorem IsCopy.isSystem {name : String} {m c : Node} (h : s.IsCopy now pairs name m c) :
    c.isSystem = m.isSystem := by
  obtain ⟨ids, hc, -⟩ := h
  rw [hc, Node.isSystem_copy]

/-- The entries `ms` and all that a walk to the depth `fuel` meets below them have been copied, `ms`
themselves under the ids `ids`. -/
structure CopiedRow (s : Store) (now : Int) (fuel : Nat) (ms : List Node) (ids : List String)
    (pairs : List (Node × Node)) : Prop where
  walked : pairs.map Prod.fst = ms.flatMap (s.visits fuel)
  copies : ∀ q ∈ pairs, s.IsCopy now pairs q.1.name q.1 q.2
  tops : List.Forall₂ (fun k id => ∃ d, (k, d) ∈ pairs ∧ d.id = id) ms ids

/-- The entry `n` and all that a walk to the depth `fuel` meets below it have been copied, `n` itself
under the name `name` and as the first one. -/
structure CopiedTree (s : Store) (now : Int) (fuel : Nat) (n : Node) (name id : String)
    (pairs : List (Node × Node)) : Prop where
  walked : pairs.map Prod.fst = s.visits fuel n
  copies : ∃ top rest, pairs = (n, top) :: rest ∧ top.id = id ∧ s.IsCopy now pairs name n top ∧
    ∀ q ∈ rest, s.IsCopy now pairs q.1.name q.1 q.2

/-- Some of the first entries on a walk have been copied. -/
structure CopiedPart (walk : List Node) (pairs : List (Node × Node)) : Prop where
  walked : pairs.map Prod.fst <+: walk
  system : ∀ q ∈ pairs, q.2.isSystem = q.1.isSystem

theorem CopiedTree.mem {fuel : Nat} {n : Node} {name id : String}
    (h : s.CopiedTree now fuel n name id pairs) : ∃ top, (n, top) ∈ pairs ∧ top.id = id := by
  obtain ⟨top, rest, rfl, hid, -⟩ := h.copies
  exact ⟨top, List.mem_cons_self, hid⟩

theorem CopiedTree.all {fuel : Nat} {n : Node} {id : String}
    (h : s.CopiedTree now fuel n n.name id pairs) :
    ∀ q ∈ pairs, s.IsCopy now pairs q.1.name q.1 q.2 := by
  obtain ⟨top, rest, rfl, -, htop, hrest⟩ := h.copies
  intro q hq
  rcases List.mem_cons.mp hq with rfl | hq
  · exact htop
  · exact hrest q hq

theorem CopiedTree.part {fuel : Nat} {n : Node} {name id : String}
    (h : s.CopiedTree now fuel n name id pairs) : CopiedPart (s.visits fuel n) pairs := by
  refine ⟨h.walked ▸ List.prefix_refl _, ?_⟩
  obtain ⟨top, rest, rfl, -, htop, hrest⟩ := h.copies
  intro q hq
  rcases List.mem_cons.mp hq with rfl | hq
  · exact htop.isSystem
  · exact (hrest q hq).isSystem

theorem CopiedRow.nil (s : Store) (now : Int) (fuel : Nat) : s.CopiedRow now fuel [] [] [] :=
  ⟨rfl, by simp, .nil⟩

/-- One tree after the other. -/
theorem CopiedTree.cons {fuel : Nat} {n : Node} {ms : List Node} {id : String}
    {ids : List String} (h : s.CopiedTree now fuel n n.name id pairs)
    (h' : s.CopiedRow now fuel ms ids more) :
    s.CopiedRow now fuel (n :: ms) (id :: ids) (pairs ++ more) where
  walked := by rw [List.map_append, h.walked, h'.walked, List.flatMap_cons]
  copies q hq := by
    rcases List.mem_append.mp hq with hq | hq
    · exact (h.all q hq).mono (List.subset_append_left _ _)
    · exact (h'.copies q hq).mono (List.subset_append_right _ _)
  tops := by
    obtain ⟨top, htop, hid⟩ := h.mem
    refine .cons ⟨top, List.mem_append_left _ htop, hid⟩ (h'.tops.imp ?_)
    exact fun k id ⟨d, hd, hid⟩ => ⟨d, List.mem_append_right _ hd, hid⟩

/-- A container over what is in it. -/
theorem CopiedRow.under {fuel : Nat} {n : Node} {ids : List String}
    (h : s.CopiedRow now fuel (s.contents n.id) ids pairs) (hcont : n.isContainer = true)
    (name id : String) :
    s.CopiedTree now (fuel + 1) n name id ((n, n.copy id name ids now) :: pairs) where
  walked := by rw [List.map_cons, h.walked, visits_succ, if_pos hcont]
  copies := by
    have hsub : pairs ⊆ (n, n.copy id name ids now) :: pairs := List.subset_cons_self _ _
    refine ⟨_, pairs, rfl, rfl, ⟨ids, rfl, fun _ => h.tops.imp ?_⟩,
      fun q hq => (h.copies q hq).mono hsub⟩
    exact fun k id ⟨d, hd, hid⟩ => ⟨d, hsub hd, hid⟩

theorem CopiedTree.leaf {fuel : Nat} {n : Node} (hcont : n.isContainer = false) (name id : String) :
    s.CopiedTree now (fuel + 1) n name id [(n, n.copy id name [] now)] where
  walked := by simp [visits_succ, hcont]
  copies := ⟨_, [], rfl, rfl, ⟨[], rfl, by simp [hcont]⟩, by simp⟩

end Store

/-! ## Copying -/

namespace Builtin

open Store

variable {fuel : Nat} {n : Node} {parent name : String}

/-- What a copy of the tree of `n` has come to: a copy of all of it, or a fault after copies of a
part. -/
def TreeOutcome (s : Store) (fuel : Nat) (n : Node) (parent name : String) (σ : Session C) :
    EStateM.Result Fault (Session C) String → Prop
  | .ok id τ => ∃ pairs, σ.store.HasList parent ∧ σ.Grows τ parent [id] (pairs.map Prod.snd) ∧
      s.CopiedTree σ.clock fuel n (if name = "" then n.name else name) id pairs
  | .error _ τ => ∃ tops pairs, σ.Grows τ parent tops (pairs.map Prod.snd) ∧
      CopiedPart (s.visits fuel n) pairs

/-- The same of several trees that are copied into `parent`. -/
def RowOutcome (s : Store) (fuel : Nat) (ms : List Node) (parent : String) (σ : Session C) :
    EStateM.Result Fault (Session C) Unit → Prop
  | .ok () τ => ∃ ids pairs, σ.Grows τ parent ids (pairs.map Prod.snd) ∧
      s.CopiedRow σ.clock fuel ms ids pairs
  | .error _ τ => ∃ ids pairs, σ.Grows τ parent ids (pairs.map Prod.snd) ∧
      CopiedPart (ms.flatMap (s.visits fuel)) pairs

/-- What is true of each tree that is copied is true of a row of them. -/
theorem copied_copyAll {copyOne : String → Run C String}
    (hone : ∀ (n : Node) (σ : Session C), s.get? n.id = some n → s.Intact σ.store n →
      ¬ ReflTransGen s.Opens n.id parent → TreeOutcome s fuel n parent "" σ (copyOne n.id σ)) :
    ∀ (ms : List Node) (σ : Session C), σ.store.has parent = true →
      (∀ m ∈ ms, s.get? m.id = some m ∧ s.Intact σ.store m ∧
        ¬ ReflTransGen s.Opens m.id parent) →
      RowOutcome s fuel ms parent σ (copyAll copyOne ms σ)
  | [], σ, _, _ => ⟨[], [], .refl σ parent, .nil s σ.clock fuel⟩
  | m :: ms, σ, hparent, hms => by
    obtain ⟨hm, hintact, hout⟩ := hms m List.mem_cons_self
    have hone' := hone m σ hm hintact hout
    simp only [copyAll, bind, EStateM.bind]
    cases hres : copyOne m.id σ with
    | error f τ =>
      rw [hres] at hone'
      obtain ⟨tops, pairs, hgrows, hpart⟩ := hone'
      refine ⟨tops, pairs, hgrows, hpart.walked.trans ?_, hpart.system⟩
      rw [List.flatMap_cons]
      exact List.prefix_append _ _
    | ok id τ =>
      rw [hres] at hone'
      obtain ⟨pairs, -, hgrows, htree⟩ := hone'
      rw [if_pos rfl] at htree
      have hrest := copied_copyAll hone ms τ ((hgrows.has_iff _).mpr (.inl hparent))
        fun k hk => by
          obtain ⟨hk, hintact, hout⟩ := hms k (List.mem_cons_of_mem _ hk)
          exact ⟨hk, hintact.grows hgrows hout, hout⟩
      dsimp only
      cases hres' : copyAll copyOne ms τ with
      | error f υ =>
        rw [hres'] at hrest
        obtain ⟨ids, more, hgrows', hpart⟩ := hrest
        refine ⟨id :: ids, pairs ++ more, ?_, ?_, ?_⟩
        · rw [List.map_append]
          exact hgrows.trans hgrows' hparent
        · rw [List.map_append, htree.walked, List.flatMap_cons]
          exact (List.prefix_append_right_inj _).mpr hpart.walked
        · intro q hq
          rcases List.mem_append.mp hq with hq | hq
          · exact htree.part.system q hq
          · exact hpart.system q hq
      | ok u υ =>
        rw [hres'] at hrest
        obtain ⟨ids, more, hgrows', hrow⟩ := hrest
        refine ⟨id :: ids, pairs ++ more, ?_, htree.cons (hgrows.clock ▸ hrow)⟩
        rw [List.map_append]
        exact hgrows.trans hgrows' hparent

/-- A copy of the tree of `n` that succeeds is a copy of all that a walk to that depth meets. One that
stops with a fault has made copies of the first entries that the walk meets. -/
theorem copied_copyFrom (s : Store) : ∀ (fuel : Nat) (n : Node) (parent name : String)
    (σ : Session C), s.get? n.id = some n → s.Intact σ.store n →
    (n.isContainer = true → ¬ ReflTransGen s.Opens n.id parent) →
    TreeOutcome s fuel n parent name σ (copyFrom fuel n.id parent name σ)
  | 0, n, parent, name, σ, _, _, _ =>
    ⟨[], [], .refl σ parent, List.nil_prefix, by simp⟩
  | fuel + 1, n, parent, name, σ, hn, hintact, hout => by
    have hask : Run.ask (·.store.require n.id) σ = .ok n σ := by
      simp only [Run.ask, require_eq_ok.mpr (hintact.stored hn)]
    simp only [copyFrom, bind, EStateM.bind, hask]
    generalize hgiven : (if name = "" then n.name else name) = given
    rcases Run.add_copy n given parent σ with ⟨f, hadd⟩ | ⟨id, τ, hadd, hlist, hgrows⟩
    · rw [hadd]
      exact ⟨[], [], .refl σ parent, List.nil_prefix, by simp⟩
    rw [hadd]
    dsimp only
    cases hcont : n.isContainer with
    | false =>
      simp only [Bool.false_eq_true, if_false]
      refine ⟨[(n, n.copy id given [] σ.clock)], hlist, hgrows, ?_⟩
      rw [hgiven]
      exact .leaf hcont given id
    | true =>
      have hintact' := hintact.grows hgrows (hout hcont)
      have hid : ∀ x, ReflTransGen s.Opens n.id x → x ≠ id := by
        intro x hx
        obtain ⟨m, -, hm⟩ := hintact x hx
        exact ne_of_has (has_of_get? hm) (hgrows.fresh _ (List.mem_singleton_self _))
      have hrow : RowOutcome s fuel (s.contents n.id) id τ
          (copyAll (fun child => copyFrom fuel child id "") (s.contents n.id) τ) := by
        refine copied_copyAll
          (fun m υ hm hm' hout' => copied_copyFrom s fuel m id "" υ hm hm' fun _ => hout') _ τ
          ((hgrows.has_iff id).mpr (.inr ⟨_, List.mem_singleton_self _, rfl⟩)) fun m hm => ?_
        obtain ⟨hl, hm'⟩ := mem_contents.mp hm
        refine ⟨hm', hintact'.child hn hcont hm, fun hreach => hid id ?_ rfl⟩
        exact .head ⟨n, hn, hcont, (lists_iff_of_get? hn).mp hl⟩ hreach
      have hask' : Run.ask (fun σ => .ok (σ.store.contents n.id)) τ = .ok (s.contents n.id) τ := by
        simp only [Run.ask, hintact'.contents hn hcont]
      simp only [if_true, EStateM.bind, hask']
      cases hres : copyAll (fun child => copyFrom fuel child id "") (s.contents n.id) τ with
      | error f υ =>
        rw [hres] at hrow
        obtain ⟨ids, pairs, hgrows', hpart⟩ := hrow
        refine ⟨[id], (n, n.copy id given ids σ.clock) :: pairs, ?_, ?_, ?_⟩
        · rw [List.map_cons, ← Node.pushAll_copy]
          exact hgrows.fill rfl hgrows'
        · rw [visits_succ, if_pos hcont, List.map_cons]
          exact (List.prefix_cons_inj n).mpr hpart.walked
        · intro q hq
          rcases List.mem_cons.mp hq with rfl | hq
          · exact Node.isSystem_copy _ _ _ _ _
          · exact hpart.system q hq
      | ok u υ =>
        rw [hres] at hrow
        obtain ⟨ids, pairs, hgrows', hcopied⟩ := hrow
        refine ⟨(n, n.copy id given ids σ.clock) :: pairs, hlist, ?_, ?_⟩
        · rw [List.map_cons, ← Node.pushAll_copy]
          exact hgrows.fill rfl hgrows'
        · rw [hgiven]
          rw [hgrows.clock] at hcopied
          exact hcopied.under hcont given id

end Builtin
end DeskShell

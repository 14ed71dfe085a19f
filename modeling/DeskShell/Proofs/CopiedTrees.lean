import DeskShell.Proofs.LostCopies

/-!
# What a successful copy leaves

A `cp` that ends with exit code 0 has taken at most one file out of the store and has put a copy of a
whole tree into a folder. Its copies of the entries of the tree are told apart by their new ids, so the
copy is described by a map from ids to ids.

* `Store.without`: the store without the file whose place a copy takes.
* `Store.Duplicated`: a store with the copy of a tree at the end of a folder.
* `Session.CopyGoal`: what the second path asks for. `Store.GivesWay`: the file that is replaced.
* `Builtin.CopyPlan.Fits`: what has been found out when a copy is planned.
  `Builtin.CopyPlan.Fits.act_outcome`: what becomes of the plan.
* `Builtin.cp_duplicates`: a `cp` that succeeds has done what it is asked for, and nothing else.
-/
namespace DeskShell

open Relation (TransGen ReflTransGen)

variable {C : Type} {s t : Store} {σ τ υ : Session C}

/-! ## A file less -/

namespace Node

theorem dropChild_eq_self {c : String} {n : Node} (h : c ∉ n.childIds) : n.dropChild c = n := by
  cases n with
  | mk id name kind children =>
    cases children with
    | none => rfl
    | some ids => simpa [dropChild, childIds] using h

/-- The entry without the mention of a child that goes. -/
def without (n : Node) : Option Node → Node
  | none => n
  | some old => n.dropChild old.id

end Node

namespace Store

variable {removed : Option Node}

/-- The store without an entry that has no children, and without the mention of it. -/
def without (s : Store) : Option Node → Store
  | none => s
  | some old => (s.unlisted old.id).erase old.id

theorem map_id_without (s : Store) (removed : Option Node) : (s.without removed).nodes.map (·.id) =
    (s.nodes.map (·.id)).filter fun x => removed.all (·.id != x) := by
  cases removed with
  | none => simp [without]
  | some old =>
    have hids : (s.unlisted old.id).nodes.map (·.id) = s.nodes.map (·.id) := by
      unfold unlisted
      split
      · rfl
      · exact map_id_adjust (Node.id_dropChild old.id)
    rw [without, erase, ← hids, List.filter_map]
    congr 1
    exact List.filter_congr fun n _ => bne_comm

theorem without_frame (s : Store) (removed : Option Node) :
    s.without removed = { s with nodes := (s.without removed).nodes } := by
  cases removed with
  | none => rfl
  | some old =>
    rw [without]
    unfold unlisted
    split <;> rfl

theorem has_without {x : String} : (s.without removed).has x = true ↔
    s.has x = true ∧ ∀ old, removed = some old → x ≠ old.id := by
  have hmem : ∀ u : Store, u.has x = true ↔ x ∈ u.nodes.map (·.id) := fun u => by simp [has]
  rw [hmem, hmem, map_id_without, List.mem_filter]
  refine and_congr_right fun _ => ?_
  cases removed with
  | none => simp
  | some old =>
    simp only [Option.all_some, bne_iff_ne, Option.some.injEq, forall_eq']
    exact ne_comm

theorem length_without (hd : s.IdsDistinct) (removed : Option Node) :
    s.nodes.length ≤ (s.without removed).nodes.length + 1 := by
  have hlength := congrArg List.length (map_id_without s removed)
  rw [List.length_map] at hlength
  rw [hlength, ← List.length_map (f := (·.id))]
  cases removed with
  | none => simp
  | some old =>
    have hfilter : (s.nodes.map (·.id)).filter (fun x => (some old).all (·.id != x)) =
        (s.nodes.map (·.id)).erase old.id := by
      rw [List.Nodup.erase_eq_filter hd]
      exact List.filter_congr fun x _ => bne_comm
    rw [hfilter, List.length_erase]
    split <;> omega

/-- The other entries are as before, without the mention of the one that has gone. -/
theorem get?_without (T : Tidy s) {x : String} (hx : ∀ old, removed = some old → x ≠ old.id) :
    (s.without removed).get? x = (s.get? x).map (·.without removed) := by
  cases removed with
  | none => simp [without, Node.without]
  | some old =>
    have hne := hx old rfl
    have hsame : ¬ s.Lists x old.id → s.get? x = (s.get? x).map (·.without (some old)) := by
      intro hno
      cases hn : s.get? x with
      | none => rfl
      | some n =>
        have hdrop : n.dropChild old.id = n := Node.dropChild_eq_self fun hc => hno ⟨n, hn, hc⟩
        simp [Node.without, hdrop]
    cases hp : s.parent? old.id with
    | none =>
      rw [without, unlisted, hp, get?_erase, if_neg hne]
      exact hsame ((parent?_eq_none_iff T.distinct).mp hp x)
    | some p =>
      obtain ⟨hpg, hpc⟩ := T.parent?_eq_some_iff.mp hp
      rw [without, get?_unlisted hp hpg hne]
      by_cases hxp : x = p.id
      · rw [if_pos hxp, hxp, hpg]
        rfl
      · rw [if_neg hxp]
        exact hsame fun hl => hxp (T.parent_unique hl ⟨p, hpg, hpc⟩)

/-! ## A tree more -/

/-- `t` is `s` without the entry `removed` and with a copy of the tree of `n`, under the name `name`
and at the end of `folder`. The copy of an entry has the id that `f` gives for its id, and all the rest
of a copy is read off the entry and the copies of its children. Nothing else is different. -/
structure Duplicated (s t : Store) (n : Node) (folder name : String) (removed : Option Node)
    (now : Int) (f : String → String) : Prop where
  frame : t = { s with nodes := t.nodes, counter := t.counter }
  ids : t.nodes.map (·.id) = (s.nodes.map (·.id)).filter (fun x => removed.all (·.id != x)) ++
    (s.walkFrom s.nodes.length n).map fun m => f m.id
  distinct : ((s.walkFrom s.nodes.length n).map fun m => f m.id).Nodup
  fresh : ∀ m ∈ s.walkFrom s.nodes.length n,
    s.has (f m.id) = false ∨ removed.map (·.id) = some (f m.id)
  entered : ∃ dir, s.get? folder = some dir ∧ dir.children.isSome ∧
    t.get? folder = some ((dir.without removed).pushChild (f n.id))
  copies : ∀ m ∈ s.walkFrom s.nodes.length n, t.get? (f m.id) =
    some (m.copy (f m.id) (if m.id = n.id then name else m.name)
      ((s.contents m.id).map fun k => f k.id) now)
  others : ∀ x, s.has x = true → x ≠ folder → (∀ old, removed = some old → x ≠ old.id) →
    t.get? x = s.get? x

/-- The id of the copy of the entry with the id `x`. -/
def twin (pairs : List (Node × Node)) (x : String) : String :=
  ((pairs.find? fun q => q.1.id == x).map fun q => q.2.id).getD ""

theorem twin_of_mem {m c : Node} : ∀ {pairs : List (Node × Node)},
    (pairs.map fun q => q.1.id).Nodup → (m, c) ∈ pairs → twin pairs m.id = c.id
  | [], _, h => nomatch h
  | q :: pairs, hnd, h => by
    obtain ⟨hq, hnd⟩ := List.nodup_cons.mp hnd
    unfold twin
    rcases List.mem_cons.mp h with rfl | h
    · rw [List.find?_cons_of_pos (by simp)]
      rfl
    · have hne : q.1.id ≠ m.id := fun heq => hq (List.mem_map.mpr ⟨(m, c), h, heq.symm⟩)
      rw [List.find?_cons_of_neg (by simpa using hne)]
      exact twin_of_mem hnd h

section Duplicated

variable {now : Int} {pairs : List (Node × Node)} {n : Node} {folder name id : String} {fuel : Nat}

/-- A copy is determined by the ids of all copies. -/
theorem IsCopy.eq_copy {m c : Node} (h : s.IsCopy now pairs name m c)
    (hnd : (pairs.map fun q => q.1.id).Nodup) (hmem : (m, c) ∈ pairs) :
    c = m.copy (twin pairs m.id) name ((s.contents m.id).map fun k => twin pairs k.id) now := by
  obtain ⟨ids, hc, hids⟩ := h
  rw [twin_of_mem hnd hmem]
  refine hc.trans ?_
  by_cases hcont : m.isContainer = true
  · have heq : List.Forall₂ (· = ·) ((s.contents m.id).map fun k => twin pairs k.id) ids := by
      refine List.forall₂_map_left_iff.mpr ((hids hcont).imp fun k id ⟨d, hd, hid⟩ => ?_)
      rw [twin_of_mem hnd hd, hid]
    rw [List.forall₂_eq_eq_eq] at heq
    rw [heq]
  · simp [Node.copy, hcont]

/-- A tree that has been copied as a whole into a store from which `removed` has been taken. -/
theorem duplicated_of_grows (F : Forest s) (hn : s.get? n.id = some n) {removed : Option Node}
    (hplace : ∀ old, removed = some old → ∀ q, s.Lists q old.id → q = folder)
    (hυ : υ.store = s.without removed) (hlist : υ.store.HasList folder)
    (hgrows : υ.Grows τ folder [id] (pairs.map Prod.snd))
    (htree : s.CopiedTree now (υ.store.nodes.length + 1) n name id pairs) :
    s.Duplicated τ.store n folder name removed now (twin pairs) := by
  have hwalk : pairs.map Prod.fst = s.walkFrom s.nodes.length n := by
    rw [htree.walked]
    exact F.walkFrom_of_le hn (hυ ▸ length_without F.distinct removed)
  have hnd : (pairs.map fun q => q.1.id).Nodup := by
    have := F.nodup_walkFrom s.nodes.length n hn
    rwa [← hwalk, List.map_map] at this
  have htwins : (s.walkFrom s.nodes.length n).map (fun m => twin pairs m.id) =
      (pairs.map Prod.snd).map (·.id) := by
    rw [← hwalk, List.map_map, List.map_map]
    exact List.map_congr_left fun q hq => twin_of_mem hnd hq
  have hpair : ∀ m ∈ s.walkFrom s.nodes.length n, ∃ c, (m, c) ∈ pairs := by
    intro m hm
    rw [← hwalk] at hm
    obtain ⟨⟨m, c⟩, hq, rfl⟩ := List.mem_map.mp hm
    exact ⟨c, hq⟩
  have hnew : ∀ m c, (m, c) ∈ pairs → τ.store.get? (twin pairs m.id) = some c := by
    intro m c hq
    rw [twin_of_mem hnd hq]
    exact hgrows.get?_of_mem (List.mem_map.mpr ⟨(m, c), hq, rfl⟩)
  obtain ⟨top, rest, hpairs, rfl, htop, hrest⟩ := htree.copies
  have hroot : twin pairs n.id = top.id := twin_of_mem hnd (hpairs ▸ List.mem_cons_self)
  have hold : ∀ x, s.has x = true → (∀ old, removed = some old → x ≠ old.id) →
      υ.store.has x = true ∧ υ.store.get? x = (s.get? x).map (·.without removed) := by
    intro x hx hne
    rw [hυ]
    exact ⟨has_without.mpr ⟨hx, hne⟩, get?_without F.tidy hne⟩
  refine ⟨?_, ?_, ?_, fun m hm => ?_, ?_, fun m hm => ?_, fun x hx hxf hne => ?_⟩
  · have hframe := congrArg Session.store hgrows.frame
    rw [hυ, without_frame] at hframe
    exact hframe
  · rw [hgrows.nodes, List.map_append, map_id_adjust (Node.id_pushAll [top.id]), hυ, map_id_without,
      htwins]
  · rw [htwins]
    exact hgrows.distinct
  · obtain ⟨c, hq⟩ := hpair m hm
    have hfree := hgrows.fresh c (List.mem_map.mpr ⟨(m, c), hq, rfl⟩)
    rw [hυ, ← Bool.not_eq_true, has_without] at hfree
    rw [twin_of_mem hnd hq]
    by_cases hhas : s.has c.id = true
    · push Not at hfree
      obtain ⟨old, hremoved, hid⟩ := hfree hhas
      exact .inr (by rw [hremoved, hid, Option.map_some])
    · exact .inl (by simpa using hhas)
  · obtain ⟨dir', hdir', hk⟩ := hlist
    have hhas : υ.store.has folder = true := has_of_get? hdir'
    obtain ⟨hhas', hne⟩ := has_without.mp (hυ ▸ hhas)
    obtain ⟨dir, hdir⟩ := has_iff.mp hhas'
    have hget := (hold folder hhas' hne).2
    rw [hdir, Option.map_some] at hget
    have hdir'' : dir' = dir.without removed := Option.some.inj (hdir'.symm.trans hget)
    refine ⟨dir, hdir, ?_, ?_⟩
    · rw [hdir''] at hk
      cases removed with
      | none => exact hk
      | some old => simpa [Node.without, Node.dropChild] using hk
    · rw [hgrows.get?_of_has hhas, if_pos rfl, hget, Option.map_some, hroot]
      rfl
  · obtain ⟨c, hq⟩ := hpair m hm
    rw [hnew m c hq]
    rw [hpairs] at hnd
    have hfirst := (List.nodup_cons.mp hnd).1
    rw [← hpairs] at hnd
    rcases List.mem_cons.mp (hpairs ▸ hq) with heq | hq'
    · obtain ⟨rfl, rfl⟩ := Prod.mk.inj heq
      rw [if_pos rfl]
      exact congrArg some (htop.eq_copy hnd hq)
    · have hmn : m.id ≠ n.id := fun heq => hfirst (List.mem_map.mpr ⟨(m, c), hq', heq⟩)
      rw [if_neg hmn]
      exact congrArg some ((hrest _ hq').eq_copy hnd hq)
  · obtain ⟨hhas, hget⟩ := hold x hx hne
    rw [hgrows.get?_of_has hhas, if_neg hxf, hget]
    cases hx : s.get? x with
    | none => rfl
    | some m =>
      cases removed with
      | none => rfl
      | some old =>
        have hno : old.id ∉ m.childIds := fun hc => hxf (hplace old rfl x ⟨m, hx, hc⟩)
        rw [Option.map_some, Node.without, Node.dropChild_eq_self hno]

end Duplicated

end Store

/-! ## Plans -/

/-- What the path `dest` asks for when `n` is copied: a folder, a name there, and the entry whose place
the copy takes. The copy comes into the directory to which the path leads, under the old name, or in
the place of the file to which it leads, or to the last name on the path in the folder part of it. A
file that is in no folder stands for its name in the working folder, and an entry without a name gives
none. -/
inductive Session.CopyGoal (σ : Session C) (n : Node) (dest : String) :
    String → String → Option Node → Prop
  | into {place : Session.Place} {d : Node}
      (found : σ.resolveNode (some dest) = .ok (some (place, some d)))
      (dir : d.isDir = true) (plain : d.isSystem = false) :
      CopyGoal σ n dest d.id n.name (σ.store.childNamed d.id n.name)
  | overwrite {place : Session.Place} {d : Node}
      (found : σ.resolveNode (some dest) = .ok (some (place, some d))) (file : d.isDir = false) :
      CopyGoal σ n dest (((σ.store.parent? d.id).map (·.id)).getD σ.folder)
        (if d.name = "" then n.name else d.name) (some d)
  | place {found : Option (Session.Place × Option Node)} {folder name : String}
      (nowhere : σ.resolveNode (some dest) = .ok found) (none : found.bind (·.2) = Option.none)
      (parent : σ.resolveParent dest = .ok (some folder, name)) (named : name ≠ "") :
      CopyGoal σ n dest folder name Option.none

/-- The entry `old` is a file that can be replaced by a copy of `n` with the name `name` in `folder`.
It is in no other folder, and has that name if it has one. -/
structure Store.GivesWay (s : Store) (old n : Node) (folder name : String) : Prop where
  stored : s.get? old.id = some old
  file : old.kind = .file
  other : old.id ≠ n.id
  place : ∀ q, s.Lists q old.id → q = folder
  named : old.name ≠ "" → Text.lower old.name = Text.lower name

namespace Builtin

open Store

variable {plan : CopyPlan} {source dest : String} {recursive : Bool} {r : Result}
  {args : List String}

namespace CopyPlan

/-- What has been found out when a copy is planned. -/
structure Fits (plan : CopyPlan) (s : Store) : Prop where
  source : s.get? plan.source.id = some plan.source
  plain : plan.source.isSystem = false
  outside : plan.source.isContainer = true → ¬ ReflTransGen s.Lists plan.source.id plan.parent
  replaces : ∀ old, plan.existing = some old → s.GivesWay old plan.source plan.parent plan.given

/-- A plan is what the two paths ask for. -/
theorem goal_of_ofPaths (h : ofPaths source dest recursive σ = .ok plan) :
    (∃ place, σ.resolveNode (some source) = .ok (some (place, some plan.source))) ∧
      σ.CopyGoal plan.source dest plan.parent plan.given plan.existing := by
  obtain ⟨n, hn, hplan, -⟩ := of_ofPaths h
  obtain ⟨place, hsource, -⟩ := of_sourceOf hn
  refine ⟨⟨place, source_of_placeFor hplan ▸ hsource⟩, ?_⟩
  rcases cases_of_placeFor hplan with ⟨_, d, hd, hdir, hsys, rfl⟩ | ⟨_, d, hd, hfile, rfl⟩ |
    ⟨_, folder, name, hfound, hnone, hparent, hname, rfl⟩
  · have hgiven : (CopyPlan.mk n d.id n.name (σ.store.childNamed d.id n.name)).given = n.name := by
      simp [given]
    rw [hgiven]
    exact .into hd hdir hsys
  · exact .overwrite hd hfile
  · have hgiven : (CopyPlan.mk n folder name none).given = name := if_neg hname
    rw [hgiven]
    exact .place hfound hnone hparent hname

theorem fits_of_ofPaths (F : Forest σ.store) (h : ofPaths source dest recursive σ = .ok plan) :
    plan.Fits σ.store := by
  obtain ⟨n, hn, hplan, hother, hout⟩ := of_ofPaths h
  obtain ⟨place, hsource, hsys⟩ := of_sourceOf hn
  obtain rfl := source_of_placeFor hplan
  refine ⟨Session.get?_of_resolveNode hsource, hsys, fun hcont hreach => ?_, fun old hold => ?_⟩
  · have hwithin := F.isWithin_of_reached hreach
    rw [hout hcont] at hwithin
    cases hwithin
  · obtain ⟨hget, hfile, -⟩ := file_of_ofPaths h hold
    refine ⟨hget, Node.kind_eq_file hfile, (hother old hold).1, fun q hq => ?_,
      lower_given h hold⟩
    rcases cases_of_placeFor hplan with ⟨_, d, -, -, -, hp⟩ | ⟨_, d, -, -, hp⟩ |
      ⟨_, _, _, -, -, -, -, hp⟩
    all_goals rw [hp] at hold ⊢
    · exact F.parent_unique hq (childNamed_eq_some hold).1
    · obtain rfl := Option.some.inj hold
      obtain ⟨p, hp, hc⟩ := hq
      simp [F.parent?_of_lists hp hc, id_of_get? hp]
    · cases hold

section Fits

variable (F : Forest s) (hleaf : ∀ n ∈ s.nodes, n.kind = .file → n.childIds = [])
  (h : plan.Fits s)

include hleaf h

/-- No entry of the tree that is copied lists the file that is replaced. -/
theorem Fits.not_lists {old : Node} (hold : plan.existing = some old) {x : String}
    (hx : ReflTransGen s.Opens plan.source.id x) : ¬ s.Lists x old.id := by
  intro hl
  obtain rfl := (h.replaces old hold).place x hl
  cases hcont : plan.source.isContainer with
  | true => exact h.outside hcont (ReflTransGen.mono (fun _ _ => Opens.lists) _ _ hx)
  | false =>
    -- Nothing is reached through a file, and it has no children of its own.
    rcases ReflTransGen.cases_head hx with heq | ⟨y, ⟨n, hn, hopen, -⟩, -⟩
    · obtain ⟨n, hn, hc⟩ := hl
      rw [← heq, h.source] at hn
      obtain rfl := Option.some.inj hn
      have hkind : plan.source.kind = .file := by
        have hplain := h.plain
        unfold Node.isSystem at hplain
        unfold Node.isContainer at hcont
        cases hk : plan.source.kind <;> simp_all [Kind.isContainer]
      rw [hleaf _ (mem_nodes_of_get? h.source) hkind] at hc
      cases hc
    · rw [h.source] at hn
      obtain rfl := Option.some.inj hn
      rw [hcont] at hopen
      cases hopen

include F

theorem Fits.intact : s.Intact (s.without plan.existing) plan.source := by
  intro x hx
  have hstored : s.has x = true := by
    rcases Relation.reflTransGen_iff_eq_or_transGen.mp hx with rfl | hway
    · exact has_of_get? h.source
    · obtain ⟨q, -, hq⟩ := TransGen.tail'_iff.mp hway
      exact F.stored q x hq.lists
  have hne : ∀ old, plan.existing = some old → x ≠ old.id := by
    rintro old hold rfl
    rcases Relation.reflTransGen_iff_eq_or_transGen.mp hx with heq | hway
    · exact (h.replaces old hold).other heq
    · obtain ⟨q, hq, hopen⟩ := TransGen.tail'_iff.mp hway
      exact h.not_lists hleaf hold hq hopen.lists
  obtain ⟨m, hm⟩ := has_iff.mp hstored
  refine ⟨m, hm, ?_⟩
  rw [get?_without F.tidy hne, hm, Option.map_some]
  cases hold : plan.existing with
  | none => rfl
  | some old =>
    have hno : old.id ∉ m.childIds := fun hc => h.not_lists hleaf hold hx ⟨m, hm, hc⟩
    rw [Node.without, Node.dropChild_eq_self hno]

end Fits

/-- Before the copy is made, the file that it takes the place of goes. -/
theorem Fits.exists_clear (hleaf : ∀ n ∈ σ.store.nodes, n.kind = .file → n.childIds = [])
    (h : plan.Fits σ.store) : ∃ notes, plan.clear σ =
      .ok () { σ with store := σ.store.without plan.existing, notes } := by
  unfold clear
  cases hold : plan.existing with
  | none => exact ⟨σ.notes, rfl⟩
  | some old =>
    obtain ⟨hget, hfile, -⟩ := h.replaces old hold
    have hpurge := after_purge hget (hleaf old (mem_nodes_of_get? hget) hfile)
    refine ⟨.purged old.id :: σ.notes, ?_⟩
    dsimp only
    rw [without, ← hpurge]
    rfl

/-- A plan that is carried out copies the tree of its source, from a store without the file that the
copy takes the place of. -/
theorem Fits.act_outcome (F : Forest σ.store)
    (hleaf : ∀ n ∈ σ.store.nodes, n.kind = .file → n.childIds = []) (h : plan.Fits σ.store) :
    ∃ notes, let υ := { σ with store := σ.store.without plan.existing, notes }
      plan.act σ = (do
        let _ ← copyTree plan.source.id plan.parent plan.name
        return .done : Run C Result) υ ∧
      TreeOutcome σ.store (υ.store.nodes.length + 1) plan.source plan.parent plan.name υ
        (copyTree plan.source.id plan.parent plan.name υ) := by
  obtain ⟨notes, hclear⟩ := h.exists_clear hleaf
  refine ⟨notes, ?_, ?_⟩
  · simp only [act_eq, bind, EStateM.bind, hclear]
  · refine copied_copyFrom σ.store _ plan.source plan.parent plan.name _ h.source
      (h.intact F hleaf) fun hcont hreach => h.outside hcont ?_
    exact ReflTransGen.mono (fun _ _ => Opens.lists) _ _ hreach

/-- A plan that has been carried out has put a copy of the whole tree where it is asked for. -/
theorem Fits.duplicated (F : Forest σ.store)
    (hleaf : ∀ n ∈ σ.store.nodes, n.kind = .file → n.childIds = []) (h : plan.Fits σ.store)
    (hact : plan.act σ = .ok r τ) : τ = { σ with store := τ.store, notes := τ.notes } ∧
      ∃ f, σ.store.Duplicated τ.store plan.source plan.parent plan.given plan.existing σ.clock f := by
  obtain ⟨notes, hrun, houtcome⟩ := h.act_outcome F hleaf
  rw [hrun] at hact
  simp only [bind, EStateM.bind] at hact
  cases hcopy : copyTree plan.source.id plan.parent plan.name
      { σ with store := σ.store.without plan.existing, notes } with
  | error f υ =>
    rw [hcopy] at hact
    cases hact
  | ok id υ =>
    rw [hcopy] at hact houtcome
    obtain ⟨-, rfl⟩ := EStateM.Result.ok.inj hact
    obtain ⟨pairs, hlist, hgrows, htree⟩ := houtcome
    refine ⟨by rw [hgrows.frame], _, duplicated_of_grows F h.source
      (fun old hold => (h.replaces old hold).place) rfl hlist hgrows htree⟩

end CopyPlan

/-! ## The command -/

/-- A `cp` carries out its plan, or it has found none and fails with nothing changed. -/
theorem cp_cases (args : List String) (σ : Session C) : (cp args).Fails σ σ ∨
    ∃ source dest rest plan, (Args.parse args).operands = source :: dest :: rest ∧
      CopyPlan.ofPaths source dest ((Args.parse args).has ["r", "R", "recursive"]) σ = .ok plan ∧
      cp args σ = plan.act σ := by
  have hfailed : ∀ message, (Result.failure message).exitCode ≠ 0 :=
    fun _ => (by decide : (1 : Int) ≠ 0)
  by_cases hargs : ∃ source dest rest, (Args.parse args).operands = source :: dest :: rest
  · obtain ⟨source, dest, rest, hargs⟩ := hargs
    have hcp : cp args σ = Inquiry.andThen (CopyPlan.ofPaths source dest
        ((Args.parse args).has ["r", "R", "recursive"])) CopyPlan.act σ := by
      simp only [cp, hargs]
    have hends : Inquiry.Ends (fun r => r.exitCode ≠ 0)
        (CopyPlan.ofPaths source dest ((Args.parse args).has ["r", "R", "recursive"]) σ) :=
      CopyPlan.ends_ofPaths hfailed _ _ _
    rw [Inquiry.andThen] at hcp
    cases hplan : CopyPlan.ofPaths source dest ((Args.parse args).has ["r", "R", "recursive"]) σ with
    | ok plan =>
      rw [hplan] at hcp
      exact .inr ⟨source, dest, rest, plan, hargs, hplan, hcp⟩
    | error stop =>
      rw [hplan] at hcp hends
      unfold Run.Fails
      cases hends with
      | ended hr =>
        rw [hcp]
        exact .inl ⟨hr, rfl⟩
      | fault f =>
        rw [hcp]
        exact .inl rfl
  · have hcp : (cp args : Run C Result) =
        pure (.failure "cp: missing destination file operand") := by
      unfold cp
      dsimp only
      split
      · next source dest rest heq => exact absurd ⟨source, dest, rest, heq⟩ hargs
      · rfl
    rw [Run.Fails, hcp]
    exact .inl ⟨hfailed _, rfl⟩

/-- A `cp` that ends with exit code 0 has put a copy of the tree of its source where it is asked for.
It has changed nothing else, but that a file that stood in the place of the copy is gone. -/
theorem cp_duplicates (F : Forest σ.store)
    (hleaf : ∀ n ∈ σ.store.nodes, n.kind = .file → n.childIds = []) (h : cp args σ = .ok r τ)
    (hcode : r.exitCode = 0) : ∃ source dest rest place n folder name removed f,
      (Args.parse args).operands = source :: dest :: rest ∧
      σ.resolveNode (some source) = .ok (some (place, some n)) ∧
      σ.CopyGoal n dest folder name removed ∧
      (∀ old, removed = some old → σ.store.GivesWay old n folder name) ∧
      τ = { σ with store := τ.store, notes := τ.notes } ∧
      σ.store.Duplicated τ.store n folder name removed σ.clock f := by
  rcases cp_cases args σ with hfails | ⟨source, dest, rest, plan, hargs, hplan, hact⟩
  · rw [Run.Fails, h] at hfails
    exact absurd hcode hfails.1
  rw [hact] at h
  obtain ⟨⟨place, hsource⟩, hgoal⟩ := CopyPlan.goal_of_ofPaths hplan
  have hfits := CopyPlan.fits_of_ofPaths F hplan
  obtain ⟨hframe, f, hduplicated⟩ := hfits.duplicated F hleaf h
  exact ⟨source, dest, rest, place, _, _, _, _, f, hargs, hsource, hgoal, hfits.replaces, hframe,
    hduplicated⟩

end Builtin

/-- What is read off a session that starts. -/
theorem Session.exists_of_map_start {α : Type} {o : Options} {now : Int} {f : Session C → α} {a : α}
    (h : (start s o now).map f = .ok a) : ∃ σ, start s o now = .ok σ ∧ f σ = a := by
  cases hσ : (start s o now : Except Fault (Session C)) with
  | error e =>
    rw [hσ] at h
    cases h
  | ok σ =>
    rw [hσ] at h
    exact ⟨σ, rfl, Except.ok.inj h⟩

namespace Desktop

/-- The folder of projects is copied to a new name. -/
theorem cp_duplicates_projects : ∃ σ, session {} 0 (fun _ => .unset) = .ok σ ∧
    Forest σ.store ∧ (∀ m ∈ σ.store.nodes, m.kind = .file → m.childIds = []) ∧
    ∃ r τ place n f, Builtin.cp ["-r", "My Projects", "Copies"] σ = .ok r τ ∧ r.exitCode = 0 ∧
      σ.resolveNode (some "My Projects") = .ok (some (place, some n)) ∧
      σ.store.Duplicated τ.store n "desktop" "Copies" none σ.clock f := by
  have hrun : (session {} 0 fun _ => .unset).map (fun σ =>
      (((Builtin.cp ["-r", "My Projects", "Copies"]).result? σ).map (·.exitCode),
        σ.resolve (some "Copies"), σ.resolveParent "Copies")) =
      .ok (some 0, .ok none, .ok (some "desktop", "Copies")) := by
    decide +kernel
  obtain ⟨σ, hσ, hin, -⟩ := exists_session {} 0 fun _ => .unset
  have S := hin.sound
  have hrun := eq_of_session hσ hrun
  simp only [Prod.mk.injEq] at hrun
  obtain ⟨hcode, hdest, hfolder⟩ := hrun
  obtain ⟨r, hr, hcode⟩ := Option.map_eq_some_iff.mp hcode
  have hcp := Run.eq_ok_of_result? hr
  have hleaf := S.reliable.childIds_of_mem
  obtain ⟨source, dest, rest, place, n, folder, name, removed, f, hargs, hsource, hgoal, -, -,
    hduplicated⟩ := Builtin.cp_duplicates S.toForest hleaf hcp hcode
  obtain ⟨rfl, rfl, -⟩ : "My Projects" = source ∧ "Copies" = dest ∧ [] = rest := by
    have hoperands : (Args.parse ["-r", "My Projects", "Copies"]).operands =
        ["My Projects", "Copies"] := rfl
    simpa [hoperands] using hargs
  refine ⟨σ, hσ, S.toForest, hleaf, r, _, place, n, f, hcp, hcode, hsource, ?_⟩
  cases hgoal with
  | into hfound => simp [Session.resolveNode, hdest] at hfound
  | overwrite hfound => simp [Session.resolveNode, hdest] at hfound
  | place _ _ hparent =>
    obtain ⟨hid, rfl⟩ := Prod.mk.inj (Except.ok.inj (hfolder.symm.trans hparent))
    obtain rfl := Option.some.inj hid
    exact hduplicated

/-- A file without a name. -/
def nameless : Node where
  id := "file-1"
  name := ""
  kind := .file
  children := none
  content := some "old"
  icon := none
  appType := none
  metadata := []
  created := 0
  modified := 0

/-- The file `x` in the folder `e` in the folder `d`, and a root that is a file without a name. -/
def rootFile : Store where
  nodes := [
    nameless,
    { nameless with id := "d", name := "d", kind := .folder, children := some ["e"] },
    { nameless with id := "e", name := "e", kind := .folder, children := some ["x"] },
    { nameless with id := "x", name := "x", content := some "new" }]
  rootId := "file-1"
  binId := "recycle-bin"

theorem forest_rootFile : Forest rootFile :=
  .of_order (by decide) (by decide) (by decide) (by decide)

/-- A copy that is to take the place of the root: the file that goes is in no folder and is not named
like the copy, which comes into the working folder under its own name and gets the id of that file. -/
theorem not_cp_duplicates : ∃ σ r τ,
    (Session.start rootFile { home := "d" } 0 : Except Fault (Session Builtin.Program)) = .ok σ ∧
    σ.store = rootFile ∧ Forest rootFile ∧
    (∀ n ∈ rootFile.nodes, n.kind = .file → n.children = none) ∧ (∀ p, rootFile.Apart p) ∧
    Builtin.cp ["e/x", "/"] σ = .ok r τ ∧ r.exitCode = 0 ∧
    rootFile.get? "file-1" = some nameless ∧ (∀ q, ¬ rootFile.Lists q "file-1") ∧
    Text.lower nameless.name ≠ Text.lower "x" ∧ rootFile.listed "d" = ["e"] ∧
    τ.store.listed "d" = ["e", "file-1"] ∧
    (τ.store.get? "file-1").map (fun n => (n.name, n.text)) = some ("x", "new") := by
  let plan : Builtin.CopyPlan :=
    ⟨{ nameless with id := "x", name := "x", content := some "new" }, "d", "", some nameless⟩
  have hrun : (Session.start rootFile { home := "d" } 0 : Except Fault (Session Builtin.Program)).map
      (fun σ => (decide (σ.store = rootFile), σ.clock,
        (Builtin.CopyPlan.ofPaths "e/x" "/" false σ).toOption)) = .ok (true, 0, some plan) := by
    decide +kernel
  have hmade : ((Store.add (Builtin.copyRecord plan.source plan.given) "d" 0).result?
      (rootFile.without (some nameless))).map (fun (id, t) => (id, t.listed "d",
        (t.get? "file-1").map fun n => (n.name, n.text))) =
      some ("file-1", ["e", "file-1"], some ("x", "new")) := by
    decide +kernel
  obtain ⟨σ, hσ, hrun⟩ := Session.exists_of_map_start hrun
  simp only [Prod.mk.injEq, decide_eq_true_eq] at hrun
  obtain ⟨hstore, hclock, hplan⟩ := hrun
  have hplan := Inquiry.eq_ok_of_toOption hplan
  have hfits := Builtin.CopyPlan.fits_of_ofPaths (hstore ▸ forest_rootFile) hplan
  obtain ⟨notes, hact, -⟩ := hfits.act_outcome (hstore ▸ forest_rootFile)
    (hstore ▸ by decide : ∀ n ∈ σ.store.nodes, n.kind = .file → n.childIds = [])
  obtain ⟨⟨id, t⟩, hadd, hread⟩ := Option.map_eq_some_iff.mp hmade
  simp only [Prod.mk.injEq] at hread
  obtain ⟨rfl, hlisted, hcopy⟩ := hread
  have hadd := Edit.eq_ok_of_result? hadd
  rw [← hstore, ← hclock] at hadd
  obtain ⟨notes', hadd⟩ :=
    Run.add_of_ok (σ := { σ with store := σ.store.without plan.existing, notes }) hadd
  have hsource : (σ.store.without plan.existing).get? plan.source.id = some plan.source :=
    hstore ▸ rfl
  have htree : Builtin.copyTree plan.source.id plan.parent plan.name
      { σ with store := σ.store.without plan.existing, notes } =
      .ok "file-1" { σ with store := t, notes := notes' } :=
    (Builtin.copyTree_of_file hsource rfl "d" "").trans hadd
  have hcp : Builtin.cp ["e/x", "/"] σ = .ok .done { σ with store := t, notes := notes' } := by
    rw [Builtin.cp_of_plan rfl hplan, hact]
    simp only [bind, EStateM.bind, htree]
    rfl
  have hroot : rootFile.parent? "file-1" = none := by decide
  refine ⟨σ, .done, _, hσ, hstore, forest_rootFile, by decide, ?_, hcp, rfl, rfl,
    (Store.parent?_eq_none_iff forest_rootFile.distinct).mp hroot, ?_, by decide, hlisted, hcopy⟩
  · exact Store.forall_apart_of_nodes (by decide +kernel)
  · decide +kernel

end Desktop
end DeskShell

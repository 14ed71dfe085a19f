import DeskShell.Proofs.Moves

/-!
# Moves and deletions that close a cycle

A forest stays one as long as no entry comes to a place in or below itself. A move looks for that
with a walk from the entry, which passes containers only, though entries of any kind may hold
children. A deletion does not look for it, and it takes the entry out of the folder that it is told,
which need not be the one that lists it.

* `Store.Cyclic`: some way down comes back to where it started.
* `Tidy.rehang_iff`, `Forest.cyclic_rehang_iff`: what becomes of an entry that is put into another
  folder.
* `Store.forest_move_iff`: when a move that is not refused leaves a forest.
* `Store.forest_delete_iff`: when a deletion does, and leaves the entry in the recycle bin alone.
-/
namespace DeskShell

open Relation (TransGen ReflTransGen)

variable {s t : Store}

/-! ## One entry in another folder -/

/-- Some way down comes back to where it started. -/
def Store.Cyclic (s : Store) : Prop := ∃ x, s.Below x x

theorem forest_iff : Forest s ↔ Tidy s ∧ ¬ s.Cyclic := by
  constructor
  · intro F
    exact ⟨F.tidy, fun ⟨x, hx⟩ => F.acyclic x hx⟩
  · intro ⟨T, hacyclic⟩
    exact T.forest fun x hx => hacyclic ⟨x, hx⟩

/-- A way down from an entry does not need the edges into it. -/
theorem Forest.below_of_others (F : Forest s) {c q : String}
    (hkept : ∀ a b, s.Lists a b → b ≠ c → t.Lists a b) (h : s.Below c q) : t.Below c q := by
  induction h with
  | single hl =>
    refine .single (hkept _ _ hl ?_)
    rintro rfl
    exact F.acyclic _ (.single hl)
  | tail hway hl ih =>
    refine ih.tail (hkept _ _ hl ?_)
    rintro rfl
    exact F.acyclic _ (hway.tail hl)

section Rehang

variable {c p q : String} {n m folder : Node} (hp : s.get? p = some m)
  (hq : s.get? q = some folder) (hk : folder.children.isSome)

include hp hq hk

/-- An entry put at the end of a folder is then listed once if no folder but the one that it is
taken from has listed it. -/
theorem Tidy.rehang_iff (T : Tidy s) (hn : s.get? c = some n) :
    Tidy ((s.adjust p (Node.dropChild c)).adjust q (Node.pushChild c)) ↔
      ∀ a, s.Lists a c → a = p := by
  refine ⟨fun T' a ha => ?_, T.rehang hn hp hq hk⟩
  have hl := T.lists_rehang (c := c) hp hq hk
  by_contra hne
  obtain rfl : a = q :=
    T'.parent_unique ((hl a c).mpr (.inl ⟨ha, fun h => hne h.1⟩)) ((hl q c).mpr (.inr ⟨rfl, rfl⟩))
  -- The folder that still lists the entry is the one at whose end it is put.
  have hget := (Store.get?_rehang (c := c) hp hq (Ne.symm hne) a).trans (if_pos rfl)
  have hnodup := T'.nodup_childIds hget
  rw [Node.childIds_pushChild hk] at hnodup
  exact (List.nodup_append.mp hnodup).2.2 c ((Store.lists_iff_of_get? hq).mp ha) c
    (List.mem_singleton_self c) rfl

/-- An entry put at the end of a folder closes a cycle if that is the entry or lies below it. -/
theorem Forest.cyclic_rehang_iff (F : Forest s) :
    ((s.adjust p (Node.dropChild c)).adjust q (Node.pushChild c)).Cyclic ↔
      q = c ∨ s.Below c q := by
  have hl := F.tidy.lists_rehang (c := c) hp hq hk
  generalize (s.adjust p (Node.dropChild c)).adjust q (Node.pushChild c) = t at hl
  constructor
  · intro ⟨x, hx⟩
    have hold : ∀ a b, t.Lists a b → s.Lists a b ∨ a = q ∧ b = c :=
      fun a b h => ((hl a b).mp h).imp_left (·.1)
    rcases transGen_of_new_edge hold hx with hx | ⟨hxq, hcx⟩
    · exact absurd hx (F.acyclic x)
    · exact Relation.reflTransGen_iff_eq_or_transGen.mp (hcx.trans hxq)
  · have hnew : t.Lists q c := (hl q c).mpr (.inr ⟨rfl, rfl⟩)
    intro h
    cases h with
    | inl heq =>
      subst heq
      exact ⟨q, .single hnew⟩
    | inr hbelow =>
      have hkept : ∀ a b, s.Lists a b → b ≠ c → t.Lists a b :=
        fun a b h hne => (hl a b).mpr (.inl ⟨h, fun he => hne he.2⟩)
      exact ⟨c, (F.below_of_others hkept hbelow).tail hnew⟩

end Rehang

/-! ## Moves -/

namespace Store

variable {id target : String} {left : Option String}

/-- An entry stays, if it is the target, is in the target already or is in no folder, or it leaves
its folder for the target. -/
theorem moved_cases (s : Store) (id target : String) :
    (s.moved id target = s ∧ ∀ p, s.parent? id = some p → id = target ∨ p.id = target) ∨
    ∃ p, s.parent? id = some p ∧ id ≠ target ∧ p.id ≠ target ∧ s.moved id target =
      (s.adjust p.id (Node.dropChild id)).adjust target (Node.pushChild id) := by
  unfold moved
  by_cases hne : id = target
  · exact .inl ⟨if_pos hne, fun _ _ => .inl hne⟩
  rw [if_neg hne]
  cases hp : s.parent? id with
  | none => exact .inl ⟨rfl, fun _ h => nomatch h⟩
  | some p =>
    dsimp only [Option.map_some]
    by_cases hpt : p.id = target
    · refine .inl ⟨if_pos hpt, fun q hq => .inr ?_⟩
      obtain rfl := Option.some.inj hq
      exact hpt
    · exact .inr ⟨p, rfl, hne, hpt, if_neg hpt⟩

theorem relocated_of_moved (F : Forest s) {n p : Node} (hn : s.get? n.id = some n)
    (hp : s.parent? n.id = some p) (hne : n.id ≠ target) (hlist : s.HasList target) :
    Relocated s (s.moved n.id target) n p target n.name := by
  have h : Relocated s ((s.adjust n.id fun m => { m with name := n.name }).moved n.id target) n p
      target n.name := relocated_moved F hn hp hne.symm hlist
  rwa [adjust_name_self F.distinct hn] at h

/-- A move that is not refused leaves the store as it was, or takes the entry to the end of the
children of `target` and changes nothing else. What it leaves is a forest unless the entry is in a
folder and `target` lies below it, which can only be behind an entry that is no container. -/
theorem forest_move_iff (F : Forest s) (h : move id target s = .ok left t) :
    (Forest t ↔ ¬ ((s.parent? id).isSome ∧ s.Below id target)) ∧
    ¬ TransGen s.Opens id target ∧
    (t = s ∨ ∃ n p, s.get? id = some n ∧ s.parent? id = some p ∧ p.id ≠ target ∧
      Relocated s t n p target n.name) := by
  obtain ⟨n, hn, hreceives, rfl⟩ := of_move_eq_ok h
  obtain rfl := id_of_get? hn
  have hopens : ¬ TransGen s.Opens n.id target := by
    intro hopens
    cases hreceives with
    | inl heq =>
      subst heq
      exact F.acyclic n.id (below_of_opens hopens)
    | inr hlet => exact hlet.2 ((inside_iff F hn target).mpr hopens)
  rcases moved_cases s n.id target with ⟨hstays, hwhy⟩ | ⟨p, hp, hne, hpt, hmoved⟩
  · refine ⟨iff_of_true (hstays.symm ▸ F) ?_, hopens, .inl hstays⟩
    intro ⟨hsome, hbelow⟩
    obtain ⟨p, hp⟩ := Option.isSome_iff_exists.mp hsome
    obtain ⟨hpg, hpc⟩ := F.parent?_eq_some_iff.mp hp
    cases hwhy p hp with
    | inl heq => exact F.acyclic target (heq ▸ hbelow)
    | inr heq => exact F.acyclic n.id (hbelow.tail (heq ▸ ⟨p, hpg, hpc⟩))
  · obtain ⟨hpg, hpc⟩ := F.parent?_eq_some_iff.mp hp
    obtain ⟨hlist, -⟩ := hreceives.resolve_left hne
    obtain ⟨dir, hdir, hk⟩ := hlist
    have hT := F.tidy.rehang hn hpg hdir hk fun a ha => F.parent_unique ha ⟨p, hpg, hpc⟩
    have hcyclic := F.cyclic_rehang_iff (c := n.id) hpg hdir hk
    refine ⟨?_, hopens, .inr ⟨n, p, hn, hp, hpt, relocated_of_moved F hn hp hne ⟨dir, hdir, hk⟩⟩⟩
    rw [hmoved, forest_iff, hcyclic]
    simp [hT, hp, Ne.symm hne]

end Store

namespace Desktop

/-- The page about the desktop goes into the folder of projects. -/
theorem forest_move_about : ∃ s left t, store 0 = .ok s ∧ Forest s ∧
    Store.move "about" "projects" s = .ok left t ∧ ¬ s.Below "about" "projects" ∧ Forest t ∧
    ∃ n p, s.get? "about" = some n ∧ s.parent? "about" = some p ∧
      Store.Relocated s t n p "projects" n.name := by
  obtain ⟨s, hs, -, -, h⟩ := exists_store 0
  have hrun : (store 0).map (fun s => ((Store.move "about" "projects").result? s).map
      fun (left, t) => (left, decide (t = s), s.listed "about")) =
      .ok (some (some "desktop", false, [])) := by
    decide +kernel
  rw [hs] at hrun
  obtain ⟨⟨left, t⟩, hmove, hread⟩ := Option.map_eq_some_iff.mp (Except.ok.inj hrun)
  obtain ⟨-, hchanged, hchildless⟩ : _ ∧ t ≠ s ∧ s.listed "about" = [] := by simpa using hread
  have hmove := Edit.eq_ok_of_result? hmove
  have F := forest_nodes h
  have hbelow : ¬ s.Below "about" "projects" := by
    intro hbelow
    obtain ⟨c, hc, -⟩ := TransGen.head'_iff.mp hbelow
    simpa [hchildless] using Store.mem_listed.mpr hc
  obtain ⟨hforest, -, hwhat⟩ := Store.forest_move_iff F hmove
  obtain ⟨n, p, hn, hp, -, hplace⟩ := hwhat.resolve_left hchanged
  exact ⟨s, left, t, hs, F, hmove, hbelow, hforest.mpr fun h => hbelow h.2, n, p, hn, hp, hplace⟩

/-- A folder that holds the recycle bin, with a folder in the bin. -/
def deepBin : Store where
  nodes := [
    { id := "desktop", name := "Desktop", kind := .folder, children := some ["home"],
      content := none, icon := none, appType := none, metadata := [], created := 0, modified := 0 },
    { id := "home", name := "Home", kind := .folder, children := some ["recycle-bin"],
      content := none, icon := none, appType := none, metadata := [], created := 0, modified := 0 },
    { id := "recycle-bin", name := "Recycle Bin", kind := .system, children := some ["docs"],
      content := none, icon := none, appType := none, metadata := [], created := 0, modified := 0 },
    { id := "docs", name := "Docs", kind := .folder, children := some [],
      content := none, icon := none, appType := none, metadata := [], created := 0, modified := 0 }]
  rootId := "desktop"
  binId := "recycle-bin"

theorem forest_deepBin : Forest deepBin :=
  .of_order (by decide) (by decide) (by decide) (by decide)

/-- The folder goes to a place below itself, as the walk does not look into the bin. -/
theorem not_forest_move : Forest deepBin ∧ ∃ left t,
    Store.move "home" "docs" deepBin = .ok left t ∧ t.Cyclic ∧ ¬ Forest t := by
  have hrun : ((Store.move "home" "docs").result? deepBin).map (fun (left, t) =>
      (left, t.listed "home", t.listed "recycle-bin", t.listed "docs")) =
      some (some "desktop", ["recycle-bin"], ["docs"], ["home"]) := by
    decide +kernel
  obtain ⟨⟨left, t⟩, hmove, hread⟩ := Option.map_eq_some_iff.mp hrun
  obtain ⟨-, hhome, hbin, hdocs⟩ := by simpa using hread
  have hcycle : t.Below "home" "home" :=
    .head (Store.mem_listed.mp (by simp [hhome] : "recycle-bin" ∈ t.listed "home"))
      (.head (Store.mem_listed.mp (by simp [hbin] : "docs" ∈ t.listed "recycle-bin"))
        (.single (Store.mem_listed.mp (by simp [hdocs]))))
  exact ⟨forest_deepBin, left, t, Edit.eq_ok_of_result? hmove, ⟨_, hcycle⟩,
    fun F => F.acyclic _ hcycle⟩

end Desktop

/-! ## Deletions -/

namespace Store

variable {id folder : String} {held : Bool}

/-- What a deletion leaves, when there is a recycle bin with a list of children that cannot itself be
deleted. All ids stay. Each is still listed once exactly if no folder but the one that is told has
listed the entry, and there is a cycle exactly if the bin lies below the entry. The entry is in the
bin, and stays in the folder that has listed it if another one is told. -/
theorem forest_delete_iff (F : Forest s) {bin : Node} (hbin : s.get? s.binId = some bin)
    (hsys : bin.isSystem = true) (hk : bin.children.isSome) (h : delete id folder s = .ok held t) :
    t.nodes.map (·.id) = s.nodes.map (·.id) ∧
    (∀ a, t.Lists a id ↔ a = s.binId ∨ s.Lists a id ∧ a ≠ folder) ∧
    (Tidy t ↔ ∀ a, s.Lists a id → a = folder) ∧
    (t.Cyclic ↔ s.Below id s.binId) ∧
    (Forest t ∧ (∀ a, t.Lists a id ↔ a = s.binId) ↔
      (∀ a, s.Lists a id → a = folder) ∧ ¬ s.Below id s.binId) := by
  rcases delete_cases id folder s with ⟨f, hf, -⟩ | ⟨n, p, hn, hnsys, hp, ⟨-, hd⟩ | ⟨hno, -⟩⟩
  · cases hf.symm.trans h
  · obtain ⟨-, rfl⟩ := EStateM.Result.ok.inj (hd.symm.trans h)
    have hne : s.binId ≠ id := by
      intro heq
      rw [heq, hn] at hbin
      obtain rfl := Option.some.inj hbin
      rw [hnsys] at hsys
      cases hsys
    have hids : ((s.adjust folder (Node.dropChild id)).adjust s.binId
        (Node.pushChild id)).nodes.map (·.id) = s.nodes.map (·.id) := by
      rw [map_id_adjust (Node.id_pushChild id), map_id_adjust (Node.id_dropChild id)]
    have hl := fun a => F.tidy.lists_rehang (c := id) hp hbin hk a id
    have hT := F.tidy.rehang_iff hp hbin hk hn
    have hC := F.cyclic_rehang_iff (c := id) hp hbin hk
    generalize (s.adjust folder (Node.dropChild id)).adjust s.binId (Node.pushChild id) = t
      at hids hl hT hC ⊢
    have hlists : ∀ a, t.Lists a id ↔ a = s.binId ∨ s.Lists a id ∧ a ≠ folder := by
      intro a
      rw [hl]
      simp [or_comm]
    have hcyclic : t.Cyclic ↔ s.Below id s.binId := by simp [hC, hne]
    refine ⟨hids, hlists, hT, hcyclic, ?_⟩
    rw [forest_iff, hT, hcyclic]
    constructor
    · exact fun h => h.1
    · intro h
      refine ⟨h, fun a => (hlists a).trans ⟨fun ha => ?_, .inl⟩⟩
      exact ha.resolve_right fun ha => ha.2 (h.1 a ha.1)
  · exact absurd ⟨bin, hbin, hk⟩ hno

end Store

namespace Desktop

/-- The recycle bin of the delivered desktop. -/
theorem exists_bin {s : Store} (hid : s.binId = binId) (h : s.nodes.map Node.outline = outline) :
    ∃ bin, s.get? s.binId = some bin ∧ bin.isSystem = true ∧ bin.children.isSome := by
  have hmem : (⟨"recycle-bin", "Recycle Bin", .system, some []⟩ : Outline) ∈ outline := by decide
  obtain ⟨bin, hbin, ho⟩ := get?_of_mem_outline h hmem
  have hkind : bin.kind = .system := congrArg Outline.kind ho
  have hchildren : bin.children = some [] := congrArg Outline.children ho
  exact ⟨bin, hid ▸ hbin, by simp [Node.isSystem, hkind], by simp [hchildren]⟩

/-- The page about the desktop goes from the desktop into the recycle bin. -/
theorem forest_delete_about : ∃ s bin held t, store 0 = .ok s ∧ Forest s ∧
    s.get? s.binId = some bin ∧ bin.isSystem = true ∧ bin.children.isSome ∧
    Store.delete "about" "desktop" s = .ok held t ∧ Forest t ∧
    ∀ a, t.Lists a "about" ↔ a = s.binId := by
  obtain ⟨s, hs, -, hid, h⟩ := exists_store 0
  obtain ⟨bin, hbin, hsys, hk⟩ := exists_bin hid h
  have hrun : (store 0).map (fun s => ((Store.delete "about" "desktop").result? s).map
      fun (held, _) => (held, s.listed "about")) = .ok (some (true, [])) := by
    decide +kernel
  rw [hs] at hrun
  obtain ⟨⟨held, t⟩, hdelete, hread⟩ := Option.map_eq_some_iff.mp (Except.ok.inj hrun)
  have hchildless : s.listed "about" = [] := (Prod.mk.inj hread).2
  have hdelete := Edit.eq_ok_of_result? hdelete
  have F := forest_nodes h
  have hfolder : ∀ a, s.Lists a "about" → a = "desktop" :=
    fun a ha => F.parent_unique ha (lists_of_mem_outline h List.mem_cons_self (by decide))
  have hbelow : ¬ s.Below "about" s.binId := by
    intro hbelow
    obtain ⟨c, hc, -⟩ := TransGen.head'_iff.mp hbelow
    simpa [hchildless] using Store.mem_listed.mpr hc
  obtain ⟨-, -, -, -, hiff⟩ := Store.forest_delete_iff F hbin hsys hk hdelete
  obtain ⟨hforest, hlists⟩ := hiff.mpr ⟨hfolder, hbelow⟩
  exact ⟨s, bin, held, t, hs, F, hbin, hsys, hk, hdelete, hforest, hlists⟩

/-- A folder that goes from its place into the recycle bin, which is in it, and a project that is taken
from a folder in which it is not. -/
theorem not_forest_delete :
    (Forest deepBin ∧ (∃ bin, deepBin.get? deepBin.binId = some bin ∧ bin.isSystem = true ∧
      bin.children.isSome) ∧ deepBin.Lists "desktop" "home" ∧
      ∃ held t, Store.delete "home" "desktop" deepBin = .ok held t ∧ t.Cyclic) ∧
    ∃ s bin, store 0 = .ok s ∧ Forest s ∧ s.get? s.binId = some bin ∧ bin.isSystem = true ∧
      bin.children.isSome ∧
      ∃ held t, Store.delete "project-1" "desktop" s = .ok held t ∧ ¬ Tidy t ∧
        t.Lists "projects" "project-1" := by
  constructor
  · have hrun : ((Store.delete "home" "desktop").result? deepBin).map (fun (_, t) =>
        (t.listed "home", decide ("home" ∈ t.listed "recycle-bin"))) =
        some (["recycle-bin"], true) := by
      decide +kernel
    obtain ⟨⟨held, t⟩, hdelete, hread⟩ := Option.map_eq_some_iff.mp hrun
    obtain ⟨hinHome, hinBin⟩ : t.listed "home" = _ ∧ "home" ∈ t.listed "recycle-bin" := by
      simpa using hread
    have hcycle : t.Below "home" "home" :=
      .head (Store.mem_listed.mp (by simp [hinHome] : "recycle-bin" ∈ t.listed "home"))
        (.single (Store.mem_listed.mp hinBin))
    have hplace : deepBin.Lists "desktop" "home" := Store.mem_listed.mp (by decide)
    exact ⟨forest_deepBin, ⟨_, rfl, rfl, rfl⟩, hplace, held, t, Edit.eq_ok_of_result? hdelete, _,
      hcycle⟩
  · obtain ⟨s, hs, -, hid, h⟩ := exists_store 0
    obtain ⟨bin, hbin, hsys, hk⟩ := exists_bin hid h
    have hrun : (store 0).map (fun s => ((Store.delete "project-1" "desktop").result? s).map
        fun (_, t) => (t.listed "recycle-bin", decide ("project-1" ∈ t.listed "projects"))) =
        .ok (some (["project-1"], true)) := by
      decide +kernel
    rw [hs] at hrun
    obtain ⟨⟨held, t⟩, hdelete, hread⟩ := Option.map_eq_some_iff.mp (Except.ok.inj hrun)
    obtain ⟨hinBin, hinFolder⟩ : t.listed "recycle-bin" = _ ∧ "project-1" ∈ t.listed "projects" := by
      simpa using hread
    have hfolder := Store.mem_listed.mp hinFolder
    have htwice : ¬ Tidy t := by
      intro T
      have hsame := T.parent_unique hfolder
        (Store.mem_listed.mp (by simp [hinBin] : "project-1" ∈ t.listed "recycle-bin"))
      exact absurd hsame (by decide)
    exact ⟨s, bin, hs, forest_nodes h, hbin, hsys, hk, held, t, Edit.eq_ok_of_result? hdelete,
      htwice, hfolder⟩

end Desktop
end DeskShell

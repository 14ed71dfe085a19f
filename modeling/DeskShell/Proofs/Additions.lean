import DeskShell.Proofs.Copying
import DeskShell.Proofs.Cycles

/-!
# What is added to a store

A new entry has a fresh id and comes last in its folder. An entry of a container kind is made without
children, whatever the record says. An entry of another kind keeps the children that the record
names, which may be entries that are in a folder already, the new entry itself, or nothing at all.

* `Store.Gains`: a store with one entry more, at the end of a folder.
* `Store.Makes.gains`: what `add` makes is gained by the store.
* `Store.lists_insert_iff`, `Forest.below_insert_iff`: the edges and the ways down that an entry with
  children brings along.
* `Forest.adopt`, `Forest.make_iff`: when an entry with children leaves a forest.
* `Store.forest_add_iff`: when adding does.
-/
namespace DeskShell

open Relation (TransGen ReflTransGen)

variable {s t : Store}

namespace Store

/-- `t` is `s` with the entry `made` more, under a fresh id, at the end of the folder `parent`. -/
structure Gains (s t : Store) (made : Node) (parent : String) : Prop where
  frame : t = { s with nodes := t.nodes, counter := t.counter }
  fresh : s.has made.id = false
  folder : s.HasList parent
  nodes : t.nodes = (s.adjust parent (Node.pushChild made.id)).nodes ++ [made]

theorem Makes.gains {r : Record} {parent : String} {now : Int} {p made : Node}
    (h : s.Makes r parent now p made) (k : Nat) : Gains s
      (({ s with counter := k }.insert made).adjust parent (Node.pushChild made.id)) made parent := by
  have hfresh : s.has made.id = false := by
    rw [h.fields.1]
    exact s.has_idOf_freeNumber
  have hne : made.id ≠ parent := (ne_of_has (has_of_get? h.folder) hfresh).symm
  refine ⟨rfl, hfresh, ⟨p, h.folder, h.holds⟩, ?_⟩
  simp [insert, adjust, hne]

/-- The children of what is made are those of the record, unless it is a container. -/
theorem Makes.described {r : Record} {parent : String} {now : Int} {p made : Node}
    (h : s.Makes r parent now p made) : ∃ n, Node.ofRecord made.id r now = .ok n ∧
      made = { n with children := if n.isContainer then some [] else r.children } := by
  obtain ⟨n, hn, hmade⟩ := h.record
  obtain ⟨-, -, -, -, hchildren⟩ := fields_of_ofRecord hn
  refine ⟨n, h.fields.1.symm ▸ hn, ?_⟩
  split at hmade
  · next hcontainer => rw [hmade, if_pos hcontainer]
  · next hplain =>
    rw [if_neg hplain] at hchildren
    rw [hmade, if_neg hplain, ← hchildren]

theorem Makes.childless_iff {r : Record} {parent : String} {now : Int} {p made : Node}
    (h : s.Makes r parent now p made) : made.childIds = [] ↔ r.Bare := by
  refine ⟨fun hnone k hk hplain => ?_, h.childIds⟩
  obtain ⟨n, hn, hmade⟩ := h.described
  obtain ⟨-, -, hkind, -, -⟩ := fields_of_ofRecord hn
  obtain rfl : n.kind = k := by simpa [hkind, Except.toOption] using hk
  rw [hmade, if_neg (show ¬ n.isContainer = true by simp [Node.isContainer, hplain])] at hnone
  exact hnone

/-! ## An entry with children -/

theorem lists_insert_iff {n : Node} (hn : s.has n.id = false) (a b : String) :
    (s.insert n).Lists a b ↔ s.Lists a b ∨ a = n.id ∧ b ∈ n.childIds := by
  unfold Lists
  rw [get?_insert]
  by_cases h : n.id = a
  · subst h
    simp [get?_eq_none_iff.mpr hn]
  · simp [h, Ne.symm h]

end Store

namespace Forest

open Store

theorem has_of_reached (F : Forest s) {a b : String} (ha : s.has a = true)
    (h : ReflTransGen s.Lists a b) : s.has b = true := by
  cases h with
  | refl => exact ha
  | tail _ hl => exact F.stored _ _ hl

/-- A new entry has ways down to what its children have, and gives none to the entries of before. -/
theorem below_insert_iff (F : Forest s) {n : Node} (hn : s.has n.id = false)
    (hc : ∀ c ∈ n.childIds, s.has c = true) (a b : String) :
    (s.insert n).Below a b ↔
      s.Below a b ∨ a = n.id ∧ ∃ c ∈ n.childIds, ReflTransGen s.Lists c b := by
  have hl := lists_insert_iff hn
  constructor
  · intro h
    induction h with
    | single h =>
      rcases (hl _ _).mp h with h | ⟨ha, hb⟩
      · exact .inl (.single h)
      · exact .inr ⟨ha, _, hb, .refl⟩
    | tail _ hstep ih =>
      rcases (hl _ _).mp hstep with h | ⟨rfl, -⟩
      · exact ih.imp (·.tail h) fun ⟨ha, c, hcn, hway⟩ => ⟨ha, c, hcn, hway.tail h⟩
      · -- No way of before and none from a child leads to the new entry.
        rcases ih with hbelow | ⟨-, c, hcn, hway⟩
        · obtain ⟨q, -, hq⟩ := TransGen.tail'_iff.mp hbelow
          exact absurd rfl (ne_of_has (F.stored _ _ hq) hn)
        · exact absurd rfl (ne_of_has (F.has_of_reached (hc c hcn) hway) hn)
  · have hkept : ∀ x y, s.Lists x y → (s.insert n).Lists x y := fun x y h => (hl x y).mpr (.inl h)
    rintro (h | ⟨rfl, c, hcn, hway⟩)
    · exact TransGen.mono hkept a b h
    · exact .head' ((hl _ _).mpr (.inr ⟨rfl, hcn⟩)) (ReflTransGen.mono hkept c b hway)

/-- A new entry may have as children entries that nothing lists, each once. -/
theorem adopt (F : Forest s) {n : Node} (hn : s.has n.id = false) (hnodup : n.childIds.Nodup)
    (hfree : ∀ c ∈ n.childIds, s.Parentless c) : Forest (s.insert n) := by
  have hl := lists_insert_iff hn
  have hstored : ∀ c ∈ n.childIds, s.has c = true := fun c hc => (hfree c hc).1
  have hnone : ∀ c ∈ n.childIds, ∀ p, ¬ s.Lists p c :=
    fun c hc => (parent?_eq_none_iff F.distinct).mp (hfree c hc).2
  refine (Tidy.of_view (F.distinct.insert hn) (fun p c h => ?_) (fun p m hm => ?_)
    fun p q c hp hq => ?_).forest fun x hx => ?_
  · refine (has_insert n c).mpr (.inl ?_)
    rcases (hl p c).mp h with h | ⟨-, hc⟩
    · exact F.stored p c h
    · exact hstored c hc
  · rw [get?_insert] at hm
    rcases Option.or_eq_some_iff.mp hm with hm | ⟨-, hm⟩
    · exact F.nodup_childIds hm
    · split at hm
      · exact Option.some.inj hm ▸ hnodup
      · cases hm
  · rcases (hl p c).mp hp with hp | ⟨rfl, hpc⟩
    · rcases (hl q c).mp hq with hq | ⟨-, hqc⟩
      · exact F.parent_unique hp hq
      · exact absurd hp (hnone c hqc p)
    · rcases (hl q c).mp hq with hq | ⟨rfl, -⟩
      · exact absurd hq (hnone c hpc q)
      · rfl
  · rcases (F.below_insert_iff hn hstored x x).mp hx with hx | ⟨rfl, c, hc, hway⟩
    · exact F.acyclic x hx
    · exact ne_of_has (F.has_of_reached (hstored c hc) hway) hn rfl

/-- A new entry at the end of the folder `p` leaves a forest when its children are entries that
nothing has listed and from which no way leads to `p`, each of them once. -/
theorem make_iff (F : Forest s) {p : String} {folder n : Node} (hp : s.get? p = some folder)
    (hk : folder.children.isSome) (hn : s.has n.id = false) :
    Forest ((s.insert n).adjust p (Node.pushChild n.id)) ↔
      n.childIds.Nodup ∧ ∀ c ∈ n.childIds, s.Parentless c ∧ c ≠ p ∧ ¬ s.Below c p := by
  have hp' : (s.insert n).get? p = some folder := by rw [get?_insert, hp, Option.some_or]
  have hne : p ≠ n.id := ne_of_has (has_of_get? hp) hn
  have hold := lists_insert_iff hn
  have hl := lists_pushChild (c := n.id) hp' hk
  constructor
  · intro F'
    have hkept : ∀ a b, s.Lists a b →
        ((s.insert n).adjust p (Node.pushChild n.id)).Lists a b :=
      fun a b h => (hl a b).mpr (.inl ((hold a b).mpr (.inl h)))
    have hchild : ∀ c ∈ n.childIds,
        ((s.insert n).adjust p (Node.pushChild n.id)).Lists n.id c :=
      fun c hc => (hl _ c).mpr (.inl ((hold _ c).mpr (.inr ⟨rfl, hc⟩)))
    have hfolder : ((s.insert n).adjust p (Node.pushChild n.id)).Lists p n.id :=
      (hl p _).mpr (.inr ⟨rfl, rfl⟩)
    have hget : ((s.insert n).adjust p (Node.pushChild n.id)).get? n.id = some n := by
      rw [get?_adjust _ p _ (Node.id_pushChild n.id), if_neg hne.symm, get?_insert,
        get?_eq_none_iff.mpr hn]
      simp
    refine ⟨F'.nodup_childIds hget, fun c hc => ⟨⟨?_, ?_⟩, ?_, fun hbelow => ?_⟩⟩
    · have hstored := F'.stored _ _ (hchild c hc)
      rw [has_adjust (Node.id_pushChild n.id)] at hstored
      rcases (has_insert n c).mp hstored with h | rfl
      · exact h
      · exact absurd (.single (hchild _ hc)) (F'.acyclic _)
    · refine (parent?_eq_none_iff F.distinct).mpr fun q hq => ?_
      exact ne_of_has hq.has hn (F'.parent_unique (hkept q c hq) (hchild c hc))
    · rintro rfl
      exact F'.acyclic c (.head hfolder (.single (hchild c hc)))
    · exact F'.acyclic c ((TransGen.mono hkept c p hbelow).tail hfolder |>.tail (hchild c hc))
  · intro ⟨hnodup, hfree⟩
    have hstored : ∀ c ∈ n.childIds, s.has c = true := fun c hc => (hfree c hc).1.1
    refine (F.adopt hn hnodup fun c hc => (hfree c hc).1).hang hp' hk
      ((has_insert n n.id).mpr (.inr rfl)) (fun a h => ?_) hne fun hbelow => ?_
    · rcases (hold a n.id).mp h with h | ⟨-, h⟩
      · exact ne_of_has (F.stored a _ h) hn rfl
      · exact ne_of_has (hstored _ h) hn rfl
    · -- The ways down from the new entry begin at its children.
      rcases (F.below_insert_iff hn hstored n.id p).mp hbelow with h | ⟨-, c, hc, hway⟩
      · obtain ⟨_, h, -⟩ := TransGen.head'_iff.mp h
        exact ne_of_has h.has hn rfl
      · rcases Relation.reflTransGen_iff_eq_or_transGen.mp hway with heq | h
        · exact (hfree c hc).2.1 heq.symm
        · exact (hfree c hc).2.2 h

end Forest

/-! ## Adding -/

namespace Store

variable {r : Record} {parent id : String} {now : Int}

/-- An addition that is not refused gives the store one entry more and changes nothing else. The
entry is as the record describes it, but that only a container loses the children that the record
names; and so the store is a forest with an entry without children if and only if the record names no
children for an entry that is no container. -/
theorem forest_add_iff (F : Forest s) (h : add r parent now s = .ok id t) :
    ∃ made, made.id = id ∧ Gains s t made parent ∧
      (∃ n, Node.ofRecord id r now = .ok n ∧
        made = { n with children := if n.isContainer then some [] else r.children }) ∧
      (Forest t ↔ made.childIds.Nodup ∧
        ∀ c ∈ made.childIds, s.Parentless c ∧ c ≠ parent ∧ ¬ s.Below c parent) ∧
      (Forest t ∧ made.childIds = [] ↔ r.Bare) := by
  rcases add_cases r parent now s with ⟨f, hf⟩ | ⟨f, hf, -⟩ | ⟨p, made, hmakes, hok⟩
  · cases hf.symm.trans h
  · cases hf.symm.trans h
  · obtain ⟨rfl, rfl⟩ := EStateM.Result.ok.inj (hok.symm.trans h)
    have hgains := hmakes.gains (s.freeNumber + 1)
    have F' : Forest { s with counter := s.freeNumber + 1 } :=
      ⟨F.distinct, F.stored, F.once, F.acyclic⟩
    have hforest := F'.make_iff hmakes.folder hmakes.holds hgains.fresh
    refine ⟨made, rfl, hgains, hmakes.described, hforest, ?_⟩
    rw [← hmakes.childless_iff, and_iff_right_iff_imp]
    intro hnone
    exact hforest.mpr (by simp [hnone])

end Store

namespace Desktop

/-- A folder comes to the desktop, without the child that its record names. -/
theorem forest_add_folder : ∃ s id t made, store 0 = .ok s ∧ Forest s ∧
    Store.add (folder "Pages" ["about"] none) "desktop" 0 s = .ok id t ∧
    made.id = id ∧ Store.Gains s t made "desktop" ∧ Forest t ∧ made.childIds = [] := by
  obtain ⟨s, hs, -, -, h⟩ := exists_store 0
  have hrun : (store 0).map (fun s =>
      ((Store.add (folder "Pages" ["about"] none) "desktop" 0).result? s).isSome) = .ok true := by
    decide +kernel
  rw [hs] at hrun
  obtain ⟨⟨id, t⟩, hadd⟩ := Option.isSome_iff_exists.mp (Except.ok.inj hrun)
  have hadd := Edit.eq_ok_of_result? hadd
  have F := forest_nodes h
  obtain ⟨made, hid, hgains, -, -, hbare⟩ := Store.forest_add_iff F hadd
  obtain ⟨hforest, hnone⟩ := hbare.mpr (by decide)
  exact ⟨s, id, t, made, hs, F, hadd, hid, hgains, hforest, hnone⟩

/-- A system item comes to the desktop with a child that is on the desktop already. -/
theorem not_forest_add : ∃ s id t, store 0 = .ok s ∧ Forest s ∧
    Store.add (system "Pages" "pages" (some ["about"])) "desktop" 0 s = .ok id t ∧
    t.Lists "desktop" "about" ∧ t.Lists id "about" ∧ ¬ Forest t := by
  obtain ⟨s, hs, -, -, h⟩ := exists_store 0
  have hrun : (store 0).map (fun s =>
      ((Store.add (system "Pages" "pages" (some ["about"])) "desktop" 0).result? s).map
        fun (id, t) => (id, decide ("about" ∈ t.listed "desktop"), t.listed "file-1")) =
      .ok (some ("file-1", true, ["about"])) := by
    decide +kernel
  rw [hs] at hrun
  obtain ⟨⟨id, t⟩, hadd, hread⟩ := Option.map_eq_some_iff.mp (Except.ok.inj hrun)
  obtain ⟨rfl, hfolder, hmade⟩ : id = _ ∧ "about" ∈ t.listed "desktop" ∧ t.listed "file-1" = _ := by
    simpa using hread
  have hfolder := Store.mem_listed.mp hfolder
  have hmade : t.Lists "file-1" "about" := Store.mem_listed.mp (by simp [hmade])
  refine ⟨s, _, t, hs, forest_nodes h, Edit.eq_ok_of_result? hadd, hfolder, hmade, fun F => ?_⟩
  exact absurd (F.parent_unique hfolder hmade) (by decide)

end Desktop
end DeskShell

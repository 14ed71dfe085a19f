import DeskShell.Proofs.Moves

/-!
# Moves into oneself

A folder cannot come to a place below itself. `mv` leaves the refusal to the move in the store, which
asks two questions: whether the folder to go to is the entry itself, and then there is nothing to be
moved, and whether a walk from the entry meets that folder. The first one is no refusal, and the walk
does not look behind system items.

* `SelfMove`: a move of an entry to a place in or below itself that passes both questions.
* `Builtin.mv_itself_iff`: these are the ones that `mv` does not refuse.
-/
namespace DeskShell

open Relation (TransGen)

variable {C : Type} {s : Store} {σ τ : Session C}

/-- A move of `n` to the name `name` in the folder `folder`, which is `n` or lies below it, passes
all questions: it is `n`, and then `n` only gets the name at its old place, or it lies behind a
system item. -/
structure SelfMove (s : Store) (n : Node) (folder name : String) : Prop where
  movable : n.isSystem = false
  named : name ≠ ""
  passes : folder = n.id ∧ s.NameFree n.id name ∨
    folder ≠ n.id ∧ s.HasList folder ∧ ¬ TransGen s.Opens n.id folder ∧
      ((∃ m, s.childNamed folder n.name = some m ∧ m.id ≠ n.id) → s.NameFree n.id name)

/-- In a store in order such a move does no more than give the name: only an entry that is in no
folder has anything below it behind a system item. -/
theorem SelfMove.moved_eq {home : String} (S : s.Sound home) {n : Node} {folder name : String}
    (h : SelfMove s n folder name) (hn : s.get? n.id = some n)
    (hin : folder = n.id ∨ s.Below n.id folder) :
    (s.adjust n.id fun m => { m with name := name }).moved n.id folder =
      s.adjust n.id fun m => { m with name := name } := by
  unfold Store.moved
  rcases h.passes with ⟨heq, -⟩ | ⟨hne, -, hout, -⟩
  · rw [if_pos heq.symm]
  · rw [if_neg hne.symm, Store.parent_rename]
    cases hp : s.parent? n.id with
    | none => rfl
    | some p =>
      obtain ⟨hpg, hpc⟩ := S.parent?_eq_some_iff.mp hp
      exact absurd (S.opens_of_below hn (Node.kind_ne_system h.movable) ⟨p, hpg, hpc⟩
        (hin.resolve_left hne)) hout

namespace Builtin

open MovePlan (sourceOf ofPaths)

variable {args rest : List String} {source dest folder name : String} {n : Node}

theorem MovePlan.isOther_iff {found : Option Node} {id : String} :
    isOther found id = true ↔ ∃ m, found = some m ∧ m.id ≠ id := by
  cases found <;> simp [isOther]

/-- The plan of a move passes all questions. -/
theorem selfMove_iff (F : Forest σ.store) (hn : σ.store.get? n.id = some n)
    (hsys : n.isSystem = false) (hname : name ≠ "") :
    SelfMove σ.store n folder name ↔ σ.store.Receives n folder ∧
      (MovePlan.isOther (σ.store.childNamed folder n.name) n.id = true ∨ folder = n.id →
        σ.store.NameFree n.id name) := by
  rw [MovePlan.isOther_iff]
  unfold Store.Receives
  rw [Store.inside_iff F hn]
  constructor
  · rintro ⟨-, -, ⟨rfl, hfree⟩ | ⟨hne, hlist, hout, hfree⟩⟩
    · exact ⟨.inl rfl, fun _ => hfree⟩
    · exact ⟨.inr ⟨hlist, hout⟩, fun h => hfree (h.resolve_right hne)⟩
  · rintro ⟨hreceives, hfree⟩
    refine ⟨hsys, hname, ?_⟩
    by_cases heq : folder = n.id
    · exact .inl ⟨heq, hfree (.inr heq)⟩
    · obtain ⟨hlist, hout⟩ := hreceives.resolve_left (Ne.symm heq)
      exact .inr ⟨heq, hlist, hout, fun h => hfree (.inl h)⟩

section Itself

variable (F : Forest σ.store) (hargs : (Args.parse args).operands = source :: dest :: rest)
  {place : Session.Place} (hsource : σ.resolveNode (some source) = .ok (some (place, some n)))
  (hdest : σ.resolve (some dest) = .ok none)
  (hparent : σ.resolveParent dest = .ok (some folder, name))
  (hin : folder = n.id ∨ σ.store.Below n.id folder)

include F hsource hin in
theorem has_folder_itself : σ.store.has folder = true := by
  rcases hin with rfl | hin
  · exact Store.has_of_get? (Session.get?_of_resolveNode hsource)
  · obtain ⟨q, -, hq⟩ := TransGen.tail'_iff.mp hin
    exact F.stored q folder hq

include F hsource hdest hparent hin

/-- What is planned for an entry that can be moved and a path that has a last name. -/
theorem plan_itself (hsys : n.isSystem = false) (hname : name ≠ "") :
    sourceOf source σ = .ok n ∧ ofPaths n source dest σ =
      .ok (.place folder name (MovePlan.isOther (σ.store.childNamed folder n.name) n.id)) := by
  have hfound := MovePlan.sourceOf_of_resolveNode hsource
  rw [if_neg (by simp [hsys])] at hfound
  have hplace : ofPaths n source dest σ = MovePlan.placeFor n source dest σ :=
    MovePlan.ofPaths_eq_placeFor (by rw [Session.resolveNode, hdest]) fun d hd => by cases hd
  have hfolder := has_folder_itself F hsource hin
  have hnone := Session.childNamed_of_resolve_none (Store.linked_of_forest F) hdest hparent hname
    hfolder
  refine ⟨hfound, hplace.trans (MovePlan.placeFor_eq_place hparent hname ?_)⟩
  rw [hnone]
  rfl

include hargs

theorem mv_of_selfMove (h : SelfMove σ.store n folder name) : ∃ τ, mv args σ = .ok .done τ ∧
    τ.store = (σ.store.adjust n.id fun m => { m with name := name }).moved n.id folder := by
  obtain ⟨hfound, hplan⟩ := plan_itself F hsource hdest hparent hin h.movable h.named
  have hn := Session.get?_of_resolveNode hsource
  obtain ⟨τ, hact⟩ := (MovePlan.act_place_iff F.tidy hn h.movable
    (MovePlan.fits_of_ofPaths hplan)).mpr ((selfMove_iff F hn h.movable h.named).mp h)
  refine ⟨τ, ?_, (MovePlan.store_of_act F.distinct hn hact).2⟩
  rw [mv_of_plan hargs hfound hplan, MovePlan.perform_of_ok hact]

theorem exists_refusal_of_not_selfMove (h : ¬ SelfMove σ.store n folder name) :
    ∃ message τ, mv args σ = .ok (.failure message) τ := by
  cases hsys : n.isSystem with
  | true =>
    have hfound := MovePlan.sourceOf_of_resolveNode hsource
    rw [if_pos hsys] at hfound
    exact ⟨_, σ, mv_of_stop hargs (.inl hfound)⟩
  | false =>
    by_cases hname : name = ""
    · subst hname
      have hfound := MovePlan.sourceOf_of_resolveNode hsource
      rw [if_neg (by simp [hsys])] at hfound
      have hplan : ofPaths n source dest σ = _ :=
        (MovePlan.ofPaths_eq_placeFor (by rw [Session.resolveNode, hdest]) fun d hd => by
          cases hd).trans (MovePlan.placeFor_nameless hparent)
      exact ⟨_, σ, mv_of_stop hargs (.inr ⟨n, hfound, hplan⟩)⟩
    · obtain ⟨hfound, hplan⟩ := plan_itself F hsource hdest hparent hin hsys hname
      have hn := Session.get?_of_resolveNode hsource
      rw [mv_of_plan hargs hfound hplan]
      cases hact : (MovePlan.place folder name _).act n.id σ with
      | ok a τ =>
        exact absurd ((selfMove_iff F hn hsys hname).mpr ((MovePlan.act_place_iff F.tidy hn hsys
          (MovePlan.fits_of_ofPaths hplan)).mp ⟨τ, hact⟩)) h
      | error f τ => exact ⟨_, τ, MovePlan.perform_of_error hact⟩

/-- An `mv` to a new place in or below the entry itself ends with an exit code other than 0, unless
the move passes all questions. Then the entry has the new name, and it is moved like any other. -/
theorem mv_itself_iff : ∃ r τ, mv args σ = .ok r τ ∧
    (r.exitCode ≠ 0 ↔ ¬ SelfMove σ.store n folder name) ∧
    (SelfMove σ.store n folder name → τ.store =
      (σ.store.adjust n.id fun m => { m with name := name }).moved n.id folder) := by
  by_cases h : SelfMove σ.store n folder name
  · obtain ⟨τ, hmv, hstore⟩ := mv_of_selfMove F hargs hsource hdest hparent hin h
    exact ⟨.done, τ, hmv, iff_of_false (fun h => h rfl) fun hno => hno h, fun _ => hstore⟩
  · obtain ⟨message, τ, hmv⟩ :=
      exists_refusal_of_not_selfMove F hargs hsource hdest hparent hin h
    exact ⟨_, τ, hmv, iff_of_true (by decide : (1 : Int) ≠ 0) h, fun hyes => absurd hyes h⟩

end Itself

end Builtin

namespace Desktop

/-- A folder does not come into one of its folders. -/
theorem mv_itself_below : ∃ σ, session {} 0 (fun _ => .unset) = .ok σ ∧
    let τ := σ.play [⟨"mkdir a a/s", 1⟩]
    ∃ n r υ, τ.store.get? "file-1" = some n ∧ τ.store.Below n.id "file-2" ∧
      Builtin.mv ["a", "a/s/b"] τ = .ok r υ ∧ r.exitCode ≠ 0 ∧
      ¬ SelfMove τ.store n "file-2" "b" := by
  let ts : List Typed := [⟨"mkdir a a/s", 1⟩]
  have hrun : (session {} 0 fun _ => .unset).map (fun σ =>
      let τ := σ.play ts
      (τ.resolve (some "a"), τ.resolve (some "a/s/b"), τ.resolveParent "a/s/b")) =
      .ok (.ok (some ⟨"file-1", "C:\\Desktop\\a"⟩), .ok none, .ok (some "file-2", "b")) := by
    decide +kernel
  have hmove : (session {} 0 fun _ => .unset).map (fun σ =>
      let τ := σ.play ts
      ((τ.store.get? "file-1").map (·.childIds),
        ((Builtin.mv ["a", "a/s/b"]).result? τ).map (·.exitCode))) =
      .ok (some ["file-2"], some 1) := by
    decide +kernel
  obtain ⟨σ, hσ, S⟩ := exists_play ts
  refine ⟨σ, hσ, ?_⟩
  have hrun := eq_of_session hσ hrun
  have hmove := eq_of_session hσ hmove
  dsimp only at hrun hmove ⊢
  generalize σ.play ts = τ at S hrun hmove ⊢
  simp only [Prod.mk.injEq] at hrun hmove
  obtain ⟨hsource, hdest, hfolder⟩ := hrun
  obtain ⟨hids, hcode⟩ := hmove
  obtain ⟨n, hn, hids⟩ := Option.map_eq_some_iff.mp hids
  obtain ⟨r, hr, hcode⟩ := Option.map_eq_some_iff.mp hcode
  have hmv := Run.eq_ok_of_result? hr
  have hfound := Session.resolveNode_of_resolve hsource hn
  have hbelow : τ.store.Below n.id "file-2" := by
    rw [Store.id_of_get? hn]
    exact .single ⟨n, hn, by simp [hids]⟩
  have hargs : (Args.parse ["a", "a/s/b"]).operands = ["a", "a/s/b"] := rfl
  obtain ⟨r', υ, hmv', hiff, -⟩ :=
    Builtin.mv_itself_iff S.toForest hargs hfound hdest hfolder (.inr hbelow)
  obtain ⟨rfl, rfl⟩ := EStateM.Result.ok.inj (hmv.symm.trans hmv')
  have hne : r.exitCode ≠ 0 := by
    rw [hcode]
    decide
  exact ⟨n, r, _, hn, hbelow, hmv, hne, hiff.mp hne⟩

/-- A folder that is to come into itself is given the new name, and this counts as a success. -/
theorem mv_itself_renames : ∃ σ, session {} 0 (fun _ => .unset) = .ok σ ∧
    let τ := σ.play [⟨"mkdir a", 1⟩]
    Forest τ.store ∧ (∀ p, τ.store.Apart p) ∧ ∃ place n r υ,
      τ.resolveNode (some "a") = .ok (some (place, some n)) ∧
      τ.resolve (some "a/b") = .ok none ∧ τ.resolveParent "a/b" = .ok (some n.id, "b") ∧
      Builtin.mv ["a", "a/b"] τ = .ok r υ ∧ r.exitCode = 0 ∧
      n.name = "a" ∧ (υ.store.get? n.id).map (·.name) = some "b" := by
  let ts : List Typed := [⟨"mkdir a", 1⟩]
  have hrun : (session {} 0 fun _ => .unset).map (fun σ =>
      let τ := σ.play ts
      (τ.resolve (some "a"), τ.resolve (some "a/b"), τ.resolveParent "a/b")) =
      .ok (.ok (some ⟨"file-1", "C:\\Desktop\\a"⟩), .ok none, .ok (some "file-1", "b")) := by
    decide +kernel
  have hmove : (session {} 0 fun _ => .unset).map (fun σ =>
      let τ := σ.play ts
      let x := Builtin.mv ["a", "a/b"]
      (decide (τ.store.Apart τ.store.binId), (τ.store.get? "file-1").map (·.name),
        (x.result? τ).map (·.exitCode), ((x.after τ).store.get? "file-1").map (·.name))) =
      .ok (true, some "a", some 0, some "b") := by
    decide +kernel
  obtain ⟨σ, hσ, S⟩ := exists_play ts
  refine ⟨σ, hσ, ?_⟩
  have hrun := eq_of_session hσ hrun
  have hmove := eq_of_session hσ hmove
  dsimp only at hrun hmove ⊢
  generalize σ.play ts = τ at S hrun hmove ⊢
  simp only [Prod.mk.injEq] at hrun hmove
  obtain ⟨hsource, hdest, hfolder⟩ := hrun
  obtain ⟨hbin, hname, hcode, hafter⟩ := hmove
  obtain ⟨n, hn, hname⟩ := Option.map_eq_some_iff.mp hname
  obtain ⟨r, hr, hcode⟩ := Option.map_eq_some_iff.mp hcode
  have hid := Store.id_of_get? hn
  rw [← hid] at hfolder hafter
  exact ⟨S.toForest, S.apart (of_decide_eq_true hbin), _, n, r, _,
    Session.resolveNode_of_resolve hsource hn, hdest, hfolder, Run.eq_ok_of_result? hr, hcode, hname,
    hafter⟩

end Desktop
end DeskShell

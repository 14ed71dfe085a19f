import DeskShell.Proofs.Copying
import DeskShell.Proofs.Losses

/-!
# Lost copies

A copy that takes the place of a file takes that file out of the store first and is made after that.
Nothing brings the file back when the copy cannot be made then.

* `Run.add_copy_of_hasList`: when the copy of an entry is made in a folder.
* `LostCopy`: a copy of a file that cannot be made in the place of another one, because a second entry
  of that name is there.
* `Builtin.eq_or_lostCopy_of_fails`, `Builtin.cp_of_lostCopy`: a `cp` of a file that fails has changed
  nothing, or it is a lost copy and has lost the file.
* `LostCopy.recycled`: this happens in the recycle bin only, where deleted entries of one name meet.
* `Desktop.cp_failed_iff`: the same of all sessions on a fresh desktop.
-/
namespace DeskShell

variable {C : Type} {N : String → Prop} {s : Store} {σ τ : Session C}

/-! ## Making one entry -/

namespace Store

/-- A name that is taken is what an entry is refused for. -/
theorem add_of_nameTaken {r : Record} {parent name : String} {now : Int} {p m : Node}
    (hp : s.get? parent = some p) (hk : p.children.isSome) (hname : r.name = some name)
    (hm : s.childNamed parent name = some m) :
    add r parent now s = .error (.nameTaken name p.name) s := by
  unfold add
  simp only [bind, EStateM.bind, Edit.ask, Edit.check, require_eq_ok.mpr hp, hk, if_true, hname,
    Option.map_some, Option.getD_some, hm, Option.isNone_some, Bool.false_eq_true, if_false]

/-- What is taken out of the store leaves the entry that listed it with one child less. -/
theorem get?_unlisted {id x : String} {p : Node} (hp : s.parent? id = some p)
    (hpg : s.get? p.id = some p) (hx : x ≠ id) : ((s.unlisted id).erase id).get? x =
      if x = p.id then some (p.dropChild id) else s.get? x := by
  simp only [unlisted, hp]
  rw [get?_erase, if_neg hx, get?_adjust s p.id _ (Node.id_dropChild id)]
  refine ite_congr rfl (fun _ => ?_) fun _ => rfl
  rw [hpg]
  rfl

/-- When a leaf is taken out of the store, the other children of an entry keep their names. -/
theorem bears_unlisted (T : Tidy s) {id q c name : String} {n p : Node} (hn : s.get? id = some n)
    (hc : n.childIds = []) (hp : s.parent? id = some p) :
    ((s.unlisted id).erase id).Bears q c name ↔ s.Bears q c name ∧ c ≠ id := by
  have h : OnlyAt id s ((s.unlisted id).erase id) := by
    simp only [unlisted, hp]
    exact .of_drop T (T.parent?_eq_some_iff.mp hp).1 hn hc
  by_cases hid : c = id
  · refine iff_of_false ?_ fun h => h.2 hid
    rintro ⟨-, m, hm, -⟩
    rw [get?_erase, if_pos hid] at hm
    cases hm
  · rw [h.bears_iff hid, and_iff_left hid]

theorem childNamed_eq_none_iff_bears {p name : String} :
    s.childNamed p name = none ↔ ∀ c, ¬ s.Bears p c (Text.lower name) := by
  refine ⟨not_bears_of_childNamed, fun hno => ?_⟩
  cases hm : s.childNamed p name with
  | none => rfl
  | some m => exact absurd (bears_of_childNamed hm) (hno m.id)

end Store

namespace Run

open Builtin (copyRecord)

/-- In a folder a copy is made when no child of it has the name. -/
theorem add_copy_of_hasList (n : Node) (name : String) {parent : String} {p : Node}
    (hp : σ.store.get? parent = some p) (hk : p.children.isSome) :
    (σ.store.childNamed parent name = none → ∃ id τ, add (copyRecord n name) parent σ = .ok id τ) ∧
      (σ.store.childNamed parent name ≠ none →
        add (copyRecord n name) parent σ = .error (.nameTaken name p.name) σ) := by
  refine ⟨fun hfree => ?_, fun htaken => ?_⟩
  · obtain ⟨id, t, h⟩ := Store.exists_add (r := copyRecord n name) hp hk rfl hfree
      (Node.ofRecord_copyRecord n _ name σ.clock)
    obtain ⟨notes, h⟩ := add_of_ok h
    exact ⟨_, _, h⟩
  · obtain ⟨m, hm⟩ := Option.ne_none_iff_exists'.mp htaken
    exact add_of_error (Store.add_of_nameTaken hp hk rfl hm)

end Run

/-! ## Plans for files -/

namespace Builtin

open Store

/-- The copy of a file is one new entry. -/
theorem copyTree_of_file {n : Node} (hn : σ.store.get? n.id = some n) (hf : n.isDir = false)
    (parent name : String) : copyTree n.id parent name σ =
      Run.add (copyRecord n (if name = "" then n.name else name)) parent σ := by
  have hcont : n.isContainer = false := by
    rw [Node.isContainer, Node.kind_eq_file hf]
    rfl
  have hask : Run.ask (·.store.require n.id) σ = .ok n σ := by
    simp only [Run.ask, require_eq_ok.mpr hn]
  simp only [copyTree, copyFrom, bind, EStateM.bind, Run.get, hask, hcont, Bool.false_eq_true,
    if_false]
  cases Run.add (copyRecord n (if name = "" then n.name else name)) parent σ <;> rfl

namespace CopyPlan

variable {plan : CopyPlan} {source dest : String} {recursive : Bool} {n old : Node}

/-- The name that the copy gets. -/
def given (plan : CopyPlan) : String := if plan.name = "" then plan.source.name else plan.name

theorem source_of_placeFor (h : placeFor n dest σ = .ok plan) : plan.source = n := by
  rcases cases_of_placeFor h with
    ⟨_, _, -, -, -, rfl⟩ | ⟨_, _, -, -, rfl⟩ | ⟨_, _, _, -, -, -, -, rfl⟩ <;> rfl

/-- The source of a copy is what its path leads to, and no system item. -/
theorem of_sourceOf (h : sourceOf source recursive σ = .ok n) :
    ∃ place, σ.resolveNode (some source) = .ok (some (place, some n)) ∧ n.isSystem = false := by
  obtain ⟨⟨place, node⟩, hfound, h⟩ := Inquiry.bind_eq_ok h
  obtain ⟨hplace, rfl⟩ := Session.locate_eq_ok hfound
  dsimp only at h
  cases hm : σ.store.get? place.id with
  | none =>
    rw [hm] at h
    cases h
  | some m =>
    rw [hm] at h
    dsimp only at h
    split at h
    · cases h
    · next hsys =>
      split at h
      · cases h
      · obtain rfl := Except.ok.inj h
        exact ⟨place, Session.resolveNode_of_resolve hplace hm, by simpa using hsys⟩

/-- What is copied is the entry that the path leads to. -/
theorem source_of_ofPaths {place : Session.Place} (h : ofPaths source dest recursive σ = .ok plan)
    (hsource : σ.resolveNode (some source) = .ok (some (place, some n))) : plan.source = n := by
  obtain ⟨m, hm, hplan, -⟩ := of_ofPaths h
  obtain ⟨place', hfound, -⟩ := of_sourceOf hm
  obtain ⟨-, hnode⟩ := Prod.mk.inj (Option.some.inj (Except.ok.inj (hsource.symm.trans hfound)))
  rw [source_of_placeFor hplan, Option.some.inj hnode]

theorem source_ne_of_ofPaths (h : ofPaths source dest recursive σ = .ok plan)
    (hold : plan.existing = some old) : plan.source.id ≠ old.id := by
  obtain ⟨m, -, hplan, hne, -⟩ := of_ofPaths h
  rw [source_of_placeFor hplan]
  exact (hne old hold).1.symm

/-- A copy has the name of the file whose place it takes, if that has a name. -/
theorem lower_given (h : ofPaths source dest recursive σ = .ok plan)
    (hold : plan.existing = some old) (hname : old.name ≠ "") :
    Text.lower old.name = Text.lower plan.given := by
  obtain ⟨m, -, hplan, -⟩ := of_ofPaths h
  unfold given
  rcases cases_of_placeFor hplan with
    ⟨_, d, -, -, -, rfl⟩ | ⟨_, d, -, -, rfl⟩ | ⟨_, _, _, -, -, -, -, rfl⟩
  · simpa using (childNamed_eq_some hold).2.2
  · obtain rfl := Option.some.inj hold
    rw [if_neg hname]
  · cases hold

end CopyPlan

end Builtin

/-- A copy of a file that is to take the place of `old`, where another child of its folder has the
name that the copy gets. -/
structure LostCopy (σ : Session C) (args : List String) where
  source : String
  dest : String
  plan : Builtin.CopyPlan
  old : Node
  twin : String
  operands : ∃ rest, (Args.parse args).operands = source :: dest :: rest
  planned : Builtin.CopyPlan.ofPaths source dest
    ((Args.parse args).has ["r", "R", "recursive"]) σ = .ok plan
  replaces : plan.existing = some old
  other : twin ≠ old.id
  bears : σ.store.Bears plan.parent twin (Text.lower plan.given)

/-- The store without the file that was to be replaced. -/
def LostCopy.left {args : List String} (h : LostCopy σ args) : Store :=
  (σ.store.unlisted h.old.id).erase h.old.id

namespace Builtin

open Store
open CopyPlan (ofPaths)

namespace CopyPlan

variable {plan : CopyPlan} {source dest : String} {recursive : Bool} {old : Node}

/-- What is done before the copy is made. -/
def clear (plan : CopyPlan) : Run C Unit :=
  match plan.existing with
  | none => pure ()
  | some old => Run.purge old.id

theorem act_eq (plan : CopyPlan) : (plan.act : Run C Result) = do
    plan.clear
    let _ ← copyTree plan.source.id plan.parent plan.name
    return .done := by
  unfold act clear
  cases plan.existing <;> rfl

section Cleared

variable {υ : Session C} (hclear : plan.clear σ = .ok () υ)
  (hn : υ.store.get? plan.source.id = some plan.source) (hf : plan.source.isDir = false)

include hclear hn hf

theorem act_of_add_ok {id : String}
    (hadd : Run.add (copyRecord plan.source plan.given) plan.parent υ = .ok id τ) :
    plan.act σ = .ok .done τ := by
  simp only [act_eq, bind, EStateM.bind, hclear, copyTree_of_file hn hf]
  rw [given] at hadd
  rw [hadd]
  rfl

theorem act_of_add_error {f : Fault}
    (hadd : Run.add (copyRecord plan.source plan.given) plan.parent υ = .error f τ) :
    plan.act σ = .error f τ := by
  simp only [act_eq, bind, EStateM.bind, hclear, copyTree_of_file hn hf]
  rw [given] at hadd
  rw [hadd]

end Cleared

/-- With nothing to take the place of, a copy that cannot be made changes nothing. -/
theorem eq_of_fails_act (hexisting : plan.existing = none)
    (hn : σ.store.get? plan.source.id = some plan.source) (hf : plan.source.isDir = false)
    (h : plan.act.Fails σ τ) : τ = σ := by
  have hclear : plan.clear σ = .ok () σ := by
    unfold clear
    rw [hexisting]
    rfl
  unfold Run.Fails at h
  rcases Run.add_copy plan.source plan.given plan.parent σ with ⟨f, hadd⟩ | ⟨id, υ, hadd, -⟩
  · rw [act_of_add_error hclear hn hf hadd] at h
    exact h.symm
  · rw [act_of_add_ok hclear hn hf hadd] at h
    exact absurd rfl h.1

/-- The file `old` has been taken out of the folder `p`, and the copy can be made there. -/
structure Cleared (plan : CopyPlan) (old p : Node) (σ υ : Session C) : Prop where
  run : plan.clear σ = .ok () υ
  store : υ.store = (σ.store.unlisted old.id).erase old.id
  source : υ.store.get? plan.source.id = some plan.source
  folder : υ.store.get? plan.parent = some (p.dropChild old.id)
  holds : (p.dropChild old.id).children.isSome
  bears : ∀ c name, υ.store.Bears plan.parent c name ↔
    σ.store.Bears plan.parent c name ∧ c ≠ old.id

/-- The source of a copy and the folder of it outlive the file whose place it takes. -/
theorem exists_cleared (hσ : σ.InOrder N) (h : ofPaths source dest recursive σ = .ok plan)
    (hn : σ.store.get? plan.source.id = some plan.source) (hf : plan.source.isDir = false)
    (hold : plan.existing = some old) :
    ∃ p υ, σ.store.get? plan.parent = some p ∧ plan.Cleared old p σ υ := by
  have S := hσ.sound
  obtain ⟨hget, hfile, p, hp, hparent⟩ := parent_of_ofPaths hσ h hold
  obtain ⟨hpg, hpc⟩ := lists_of_parent? S.distinct hp
  obtain ⟨υ, hpurge, hstore, -⟩ := Session.safely_purge (Q := fun _ _ => True) S.reliable hget hfile
    trivial
  have hview := fun x => get?_unlisted (x := x) hp hpg
  rw [← hstore] at hview
  refine ⟨p, υ, hparent ▸ hpg, ?_, hstore, ?_, ?_, ?_, fun c name => ?_⟩
  · unfold clear
    rw [hold]
    exact hpurge
  · -- The source is another file, and it is not the folder.
    rw [hview _ (source_ne_of_ofPaths h hold), if_neg, hn]
    intro heq
    obtain rfl := Option.some.inj (hpg.symm.trans (heq ▸ hn))
    simp [S.reliable.childIds_of_file hn hf] at hpc
  · rw [← hparent, hview, if_pos rfl]
    intro heq
    exact S.acyclic old.id (.single ⟨p, heq ▸ hpg, hpc⟩)
  · simpa [Node.dropChild] using Node.isSome_children hpc
  · rw [hstore]
    exact bears_unlisted S.toForest.tidy hget (S.reliable.childIds_of_file hget hfile) hp

/-- A copy in the place of a file is made, unless another child of the folder has its name. Then the
file is lost. -/
theorem act_of_replaces (hσ : σ.InOrder N) (h : ofPaths source dest recursive σ = .ok plan)
    (hn : σ.store.get? plan.source.id = some plan.source) (hf : plan.source.isDir = false)
    (hold : plan.existing = some old) :
    ((∀ c, c ≠ old.id → ¬ σ.store.Bears plan.parent c (Text.lower plan.given)) →
      ∃ τ, plan.act σ = .ok .done τ) ∧
    ∀ c, c ≠ old.id → σ.store.Bears plan.parent c (Text.lower plan.given) →
      ∃ p τ, σ.store.get? plan.parent = some p ∧
        plan.act σ = .error (.nameTaken plan.given p.name) τ ∧
        τ.store = (σ.store.unlisted old.id).erase old.id := by
  obtain ⟨p, υ, hp, hclear⟩ := exists_cleared hσ h hn hf hold
  obtain ⟨hfree, htaken⟩ :=
    Run.add_copy_of_hasList plan.source plan.given hclear.folder hclear.holds
  refine ⟨fun hno => ?_, fun c hc htwin => ?_⟩
  · have hnone : υ.store.childNamed plan.parent plan.given = none := by
      refine childNamed_eq_none_iff_bears.mpr fun c hbears => ?_
      obtain ⟨hbears, hc⟩ := (hclear.bears c _).mp hbears
      exact hno c hc hbears
    obtain ⟨id, τ, hadd⟩ := hfree hnone
    exact ⟨τ, act_of_add_ok hclear.run hclear.source hf hadd⟩
  · have hsome : υ.store.childNamed plan.parent plan.given ≠ none := fun hnone =>
      childNamed_eq_none_iff_bears.mp hnone c ((hclear.bears c _).mpr ⟨htwin, hc⟩)
    exact ⟨p, υ, hp, act_of_add_error hclear.run hclear.source hf (htaken hsome), hclear.store⟩

end CopyPlan

variable {args rest : List String} {source : String} {place : Session.Place} {n : Node}

/-- A `cp` that fails has changed nothing, or it has come to carry out its plan. -/
theorem exists_plan_of_fails (hargs : (Args.parse args).operands = source :: rest)
    (h : (cp args).Fails σ τ) : τ = σ ∨ ∃ dest rest' plan, rest = dest :: rest' ∧
      ofPaths source dest ((Args.parse args).has ["r", "R", "recursive"]) σ = .ok plan ∧
        plan.act.Fails σ τ := by
  unfold cp at h
  dsimp only at h
  rw [hargs] at h
  cases rest with
  | nil => exact .inl h.2.symm
  | cons dest rest' =>
    refine (Run.cases_of_fails_andThen h).imp id ?_
    rintro ⟨plan, hplan, hact⟩
    exact ⟨dest, rest', plan, rfl, hplan, hact⟩

theorem cp_of_plan {dest : String} {plan : CopyPlan}
    (hargs : (Args.parse args).operands = source :: dest :: rest)
    (hplan : ofPaths source dest ((Args.parse args).has ["r", "R", "recursive"]) σ = .ok plan) :
    cp args σ = plan.act σ := by
  unfold cp
  rw [hargs]
  simp only [Inquiry.andThen, hplan]

end Builtin

namespace LostCopy

open Builtin Store

variable {args : List String} (h : LostCopy σ args)

include h

theorem stored : σ.store.get? h.old.id = some h.old :=
  (CopyPlan.file_of_ofPaths h.planned h.replaces).1

theorem gone : h.left.get? h.old.id = none := by
  unfold left
  rw [get?_erase, if_pos rfl]

/-- Two entries of one name are in the recycle bin. -/
theorem recycled (hσ : σ.InOrder N) (hname : h.old.name ≠ "") : h.plan.parent = σ.store.binId := by
  obtain ⟨hold, -, p, hp, hparent⟩ := CopyPlan.parent_of_ofPaths hσ h.planned h.replaces
  obtain ⟨hpg, hpc⟩ := lists_of_parent? hσ.sound.distinct hp
  have hgiven : Text.lower h.old.name = Text.lower h.plan.given :=
    CopyPlan.lower_given h.planned h.replaces hname
  by_contra hbin
  obtain ⟨hl, m, hm, hmn⟩ := h.bears
  exact h.other (hσ.sound.siblings h.plan.parent h.twin h.old.id m h.old hbin hl
    (hparent ▸ ⟨p, hpg, hpc⟩) hm hold (hmn.trans hgiven.symm))

end LostCopy

namespace Builtin

open Store
open CopyPlan (ofPaths)

section Failures

variable {args rest : List String} {source : String} {place : Session.Place} {n : Node}
  (hσ : σ.InOrder N) (hargs : (Args.parse args).operands = source :: rest)
  (hsource : σ.resolveNode (some source) = .ok (some (place, some n))) (hf : n.isDir = false)

include hσ hargs hsource hf

/-- A `cp` of a file that fails leaves the session as it was, or it loses the file whose place the
copy was to take. -/
theorem eq_or_lostCopy_of_fails (h : (cp args).Fails σ τ) :
    τ = σ ∨ ∃ lost : LostCopy σ args, τ.store = lost.left := by
  rcases exists_plan_of_fails hargs h with h | ⟨dest, rest', plan, rfl, hplan, hact⟩
  · exact .inl h
  · have hn := Session.get?_of_resolveNode hsource
    rw [← CopyPlan.source_of_ofPaths hplan hsource] at hn hf
    cases hold : plan.existing with
    | none => exact .inl (CopyPlan.eq_of_fails_act hold hn hf hact)
    | some old =>
      obtain ⟨hdone, hlost⟩ := CopyPlan.act_of_replaces hσ hplan hn hf hold
      unfold Run.Fails at hact
      by_cases htwin : ∃ c, c ≠ old.id ∧ σ.store.Bears plan.parent c (Text.lower plan.given)
      · obtain ⟨c, hc, hbears⟩ := htwin
        obtain ⟨p, υ, -, herror, hstore⟩ := hlost c hc hbears
        rw [herror] at hact
        exact .inr ⟨⟨source, dest, plan, old, c, ⟨rest', hargs⟩, hplan, hold, hc, hbears⟩,
          hact ▸ hstore⟩
      · push Not at htwin
        obtain ⟨υ, hυ⟩ := hdone htwin
        rw [hυ] at hact
        exact absurd rfl hact.1

theorem cp_of_lostCopy (lost : LostCopy σ args) : ∃ p τ,
    σ.store.get? lost.plan.parent = some p ∧
      cp args σ = .error (.nameTaken lost.plan.given p.name) τ ∧ τ.store = lost.left := by
  obtain ⟨rest', hargs'⟩ := lost.operands
  obtain ⟨rfl, -⟩ := List.cons.inj (hargs.symm.trans hargs')
  have hplan := lost.planned
  have hn := Session.get?_of_resolveNode hsource
  rw [← CopyPlan.source_of_ofPaths hplan hsource] at hn hf
  rw [cp_of_plan hargs' hplan]
  exact (CopyPlan.act_of_replaces hσ hplan hn hf lost.replaces).2 _ lost.other lost.bears

end Failures

end Builtin

namespace Desktop

/-- Whatever has been typed into a session on a fresh desktop, a `cp` of a file that ends with a
fault or with an exit code other than 0 leaves the store as it was, unless it loses the file whose
place it was to take. This happens if and only if another entry of that folder has the name of the
copy, and the folder is the recycle bin then. -/
theorem cp_failed_iff {o : Session.Options} {now : Int} {hooks : Signal → Hook}
    {σ : Session Builtin.Program} (hσ : session o now hooks = .ok σ)
    (hhome : σ.store.HasDir σ.home) (ts : List Typed) {args rest : List String} {source : String}
    {place : Session.Place} {n : Node} (hargs : (Args.parse args).operands = source :: rest)
    (hsource : (σ.play ts).resolveNode (some source) = .ok (some (place, some n)))
    (hf : n.isDir = false) :
    let τ := σ.play ts
    ((∀ υ, (Builtin.cp args).Fails τ υ → υ.store = τ.store) ↔ IsEmpty (LostCopy τ args)) ∧
      (∀ υ, (Builtin.cp args).Fails τ υ → υ = τ ∨ ∃ lost : LostCopy τ args, υ.store = lost.left) ∧
      ∀ lost : LostCopy τ args, (lost.old.name ≠ "" → lost.plan.parent = τ.store.binId) ∧
        τ.store.get? lost.old.id = some lost.old ∧ lost.left.get? lost.old.id = none ∧
        ∃ p υ, τ.store.get? lost.plan.parent = some p ∧
          Builtin.cp args τ = .error (.nameTaken lost.plan.given p.name) υ ∧
          υ.store = lost.left := by
  intro τ
  have hτ : τ.InOrder Path.Bare :=
    Session.inOrder_play Path.bare_splitParent (inOrder_of_session hσ hhome) ts
  have hcases := fun υ => Builtin.eq_or_lostCopy_of_fails (τ := υ) hτ hargs hsource hf
  have hlost := Builtin.cp_of_lostCopy hτ hargs hsource hf
  refine ⟨⟨fun h => ⟨fun lost => ?_⟩, fun hno υ hυ => ?_⟩, hcases, fun lost =>
    ⟨lost.recycled hτ, lost.stored, lost.gone, hlost lost⟩⟩
  · obtain ⟨p, υ, -, hcp, hstore⟩ := hlost lost
    have hsame := h υ (by rw [Run.Fails, hcp])
    cases lost.stored.symm.trans ((congrArg (·.get? lost.old.id) (hsame.symm.trans hstore)).trans
      lost.gone)
  · rcases hcases υ hυ with rfl | ⟨lost, -⟩
    · rfl
    · exact hno.elim lost

/-- A file is not copied onto itself, and stays. -/
theorem cp_failed_same : ∃ σ, session {} 0 (fun _ => .unset) = .ok σ ∧
    let τ := σ.play [⟨"echo one > a", 1⟩]
    (Builtin.cp ["a", "A"]).Fails τ τ ∧ IsEmpty (LostCopy τ ["a", "A"]) := by
  let ts : List Typed := [⟨"echo one > a", 1⟩]
  have hrun : (session {} 0 fun _ => .unset).map (fun σ =>
      let τ := σ.play ts
      let x := Builtin.cp ["a", "A"]
      (τ.resolve (some "a"), (τ.store.get? "file-1").map (·.isDir),
        (x.result? τ).map (·.exitCode), decide ((x.after τ).store = τ.store))) =
      .ok (.ok (some ⟨"file-1", "C:\\Desktop\\a"⟩), some false, some 1, true) := by
    decide +kernel
  obtain ⟨σ, hσ, hin, -⟩ := exists_session {} 0 fun _ => .unset
  have hrun := eq_of_session hσ hrun
  refine ⟨σ, hσ, ?_⟩
  dsimp only at hrun ⊢
  simp only [Prod.mk.injEq] at hrun
  obtain ⟨hsource, hfile, hcode, hstore⟩ := hrun
  obtain ⟨n, hn, hf⟩ := Option.map_eq_some_iff.mp hfile
  obtain ⟨r, hr, hcode⟩ := Option.map_eq_some_iff.mp hcode
  have hargs : (Args.parse ["a", "A"]).operands = ["a", "A"] := rfl
  obtain ⟨hiff, hcases, -⟩ := cp_failed_iff hσ hin.sound.home ts hargs
    (Session.resolveNode_of_resolve hsource hn) hf
  generalize σ.play ts = τ at hr hstore hiff hcases ⊢
  have hempty : IsEmpty (LostCopy τ ["a", "A"]) := by
    refine hiff.mp fun υ hυ => ?_
    rw [Run.eq_after_of_fails hυ]
    exact of_decide_eq_true hstore
  have hfails := Run.fails_of_result? hr (by rw [hcode]; decide)
  refine ⟨?_, hempty⟩
  rcases hcases _ hfails with h | ⟨lost, -⟩
  · rwa [h] at hfails
  · exact (hempty.false lost).elim

/-- Two files of one name meet in the recycle bin. A copy that is to take the place of one of them
removes it and cannot be made. -/
theorem cp_failed_loses : ∃ σ, session {} 0 (fun _ => .unset) = .ok σ ∧
    let τ := σ.play [⟨"echo one > a", 1⟩, ⟨"rm a", 2⟩, ⟨"echo two > a", 3⟩, ⟨"rm a", 4⟩]
    ∃ place n υ, τ.resolveNode (some "Contact.txt") = .ok (some (place, some n)) ∧ n.kind = .file ∧
      (Builtin.cp ["Contact.txt", "Recycle Bin/a"]).Fails τ υ ∧
      (τ.store.get? "file-1").map (·.text) = some "one" ∧ υ.store.get? "file-1" = none := by
  let ts : List Typed := [⟨"echo one > a", 1⟩, ⟨"rm a", 2⟩, ⟨"echo two > a", 3⟩, ⟨"rm a", 4⟩]
  have hrun : (session {} 0 fun _ => .unset).map (fun σ =>
      let τ := σ.play ts
      (τ.resolve (some "Contact.txt"), (τ.store.get? "contact").map (·.kind),
        (τ.store.get? "file-1").map (·.text))) =
      .ok (.ok (some ⟨"contact", "C:\\Desktop\\Contact.txt"⟩), some .file, some "one") := by
    decide +kernel
  have hplan : (session {} 0 fun _ => .unset).map (fun σ =>
      let τ := σ.play ts
      ((Builtin.CopyPlan.ofPaths "Contact.txt" "Recycle Bin/a" false τ).toOption.map fun plan =>
          (plan.parent, plan.existing.map (·.id), plan.given),
        (τ.store.get? "file-2").map (·.name), decide ("file-2" ∈ τ.store.listed "recycle-bin"))) =
      .ok (some ("recycle-bin", some "file-1", "a"), some "a", true) := by
    decide +kernel
  obtain ⟨σ, hσ, hin, -⟩ := exists_session {} 0 fun _ => .unset
  have hτ := Session.inOrder_play Path.bare_splitParent hin ts
  refine ⟨σ, hσ, ?_⟩
  have hrun := eq_of_session hσ hrun
  have hplan := eq_of_session hσ hplan
  dsimp only at hrun hplan ⊢
  generalize σ.play ts = τ at hτ hrun hplan ⊢
  simp only [Prod.mk.injEq] at hrun hplan
  obtain ⟨hsource, hkind, htext⟩ := hrun
  obtain ⟨hplan, hname, hlisted⟩ := hplan
  obtain ⟨n, hn, hkind⟩ := Option.map_eq_some_iff.mp hkind
  obtain ⟨twin, htwin, hname⟩ := Option.map_eq_some_iff.mp hname
  obtain ⟨plan, hofPaths, hplan⟩ := Option.map_eq_some_iff.mp hplan
  have hofPaths := Inquiry.eq_ok_of_toOption hofPaths
  simp only [Prod.mk.injEq] at hplan
  obtain ⟨hparent, hexisting, hgiven⟩ := hplan
  obtain ⟨old, hold, hid⟩ := Option.map_eq_some_iff.mp hexisting
  have hbears : τ.store.Bears plan.parent "file-2" (Text.lower plan.given) := by
    rw [hparent, hgiven]
    exact ⟨Store.mem_listed.mp (of_decide_eq_true hlisted), twin, htwin, by rw [hname]⟩
  let lost : LostCopy τ ["Contact.txt", "Recycle Bin/a"] :=
    { source := "Contact.txt", dest := "Recycle Bin/a", plan, old, twin := "file-2"
      operands := ⟨[], rfl⟩
      planned := hofPaths
      replaces := hold
      other := by simp [hid]
      bears := hbears }
  have hfound := Session.resolveNode_of_resolve hsource hn
  have hf : n.isDir = false := by
    rw [Node.isDir, hkind]
    rfl
  obtain ⟨p, υ, -, hcp, hstore⟩ := Builtin.cp_of_lostCopy hτ rfl hfound hf lost
  refine ⟨_, n, υ, hfound, hkind, by rw [Run.Fails, hcp], htext, ?_⟩
  rw [hstore, ← hid]
  exact lost.gone

end Desktop
end DeskShell

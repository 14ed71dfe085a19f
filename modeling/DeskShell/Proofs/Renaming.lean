import DeskShell.Proofs.Moves
import DeskShell.Proofs.Spellings

/-!
# New names in the same folder

`mv` with two bare names gives an entry of the working folder another name. The new name is looked up
first, without case. When it leads to nothing, or to the entry itself and that is a file, the entry is
renamed where it is. When it leads to the entry itself and that is a container, the entry is to come
into itself, and nothing happens.

* `Path.Plain.splitParent_eq`, `Session.resolve_plain`: how a bare name is read.
* `CaseOnly`: a container and another way to write its name.
* `Builtin.mv_in_place_iff`: what becomes of an entry that is given a free name.
-/
namespace DeskShell

variable {C : Type} {s : Store} {σ τ : Session C}

/-! ## Bare names -/

namespace Path.Plain

variable {name : String}

theorem normalize_eq (h : Plain name) : normalize name = name := normalize_eq_self h.slashless

theorem segments_eq (h : Plain name) : segments name = [name] := by
  have hne : name.toList ≠ [] := fun hnil => h.nonempty (String.toList_eq_nil_iff.mp hnil)
  have hsegs := segments_of_not_mem h.bare hne
  rwa [String.ofList_toList] at hsegs

theorem isAbsolute_eq (h : Plain name) : isAbsolute name = false := by
  have hnot : ∀ i : Nat, name.toList[i]? ≠ some sep := fun i hi => h.bare (List.mem_of_getElem? hi)
  rw [isAbsolute, h.normalize_eq, isAbsoluteList_eq]
  simp [hnot]

theorem splitParent_eq (h : Plain name) : splitParent name = (none, name) := by
  have hsplit := Path.splitParent_eq name
  dsimp only at hsplit
  obtain ⟨k, hk⟩ := dropTrailing_append name.toList
  obtain rfl : k = 0 := by
    by_contra hne
    refine h.bare ?_
    rw [hk]
    simp [hne]
  rw [List.replicate_zero, List.append_nil] at hk
  rw [h.normalize_eq, ← hk, ite_self] at hsplit
  rcases splitLast_cases name.toList with ⟨-, hlast⟩ | ⟨head, last, heq, -⟩
  · simpa only [hlast, String.ofList_toList] using hsplit
  · exact absurd (by rw [heq]; simp) h.bare

end Path.Plain

namespace Args

theorem shapeOf_operand {arg : String} (h : startsWithDash arg = false) :
    shapeOf arg = .operand := by
  unfold startsWithDash at h
  unfold shapeOf
  split
  · next hshape => simp [hshape] at h
  · next hshape => simp [hshape] at h
  · rfl

theorem readFrom_plain {args : List String} (h : ∀ arg ∈ args, startsWithDash arg = false)
    (a : Args) : readFrom a args = { a with operands := a.operands ++ args } := by
  induction args generalizing a with
  | nil => rw [readFrom, List.append_nil]
  | cons arg rest ih =>
    rw [readFrom, shapeOf_operand (h arg List.mem_cons_self)]
    dsimp only
    rw [ih fun b hb => h b (List.mem_cons_of_mem _ hb)]
    simp [pushOperand]

/-- Without dashes in front of them, all arguments are operands. -/
theorem parse_plain {args : List String} (h : ∀ arg ∈ args, startsWithDash arg = false) :
    parse args = { operands := args } :=
  readFrom_plain h {}

theorem operands_parse {args : List String} (h : ∀ arg ∈ args, startsWithDash arg = false) :
    (parse args).operands = args :=
  congrArg Args.operands (parse_plain h)

theorem operands_of_plain {a b : String} (ha : startsWithDash a = false)
    (hb : startsWithDash b = false) : (parse [a, b]).operands = [a, b] :=
  operands_parse (by simp [ha, hb])

end Args

namespace Session

variable {name : String}

/-- A bare name leads to the child of the working folder that has it. -/
theorem resolve_plain (h : Path.Plain name) : σ.resolve (some name) =
    .ok ((σ.store.childNamed σ.folder name).map fun child =>
      ⟨child.id, Path.display (Text.pieces Path.sep σ.shown ++ [child.name])⟩) := by
  rw [resolve_relative h.nonempty h.isAbsolute_eq, h.normalize_eq, h.segments_eq, followShown,
    if_neg h.ne_dot, if_neg h.ne_dots]
  cases σ.store.childNamed σ.folder name <;> rfl

theorem resolveParent_plain (h : Path.Plain name) :
    σ.resolveParent name = .ok (some σ.folder, name) := by
  simp only [resolveParent, h.splitParent_eq]

theorem resolveNode_plain (h : Path.Plain name) : σ.resolveNode (some name) =
    .ok ((σ.store.childNamed σ.folder name).map fun child =>
      (⟨child.id, Path.display (Text.pieces Path.sep σ.shown ++ [child.name])⟩, some child)) := by
  unfold resolveNode
  rw [resolve_plain h]
  cases hchild : σ.store.childNamed σ.folder name with
  | none => rfl
  | some child =>
    have hget := (Store.childNamed_eq_some hchild).2.1
    simp only [Option.map_some, hget]

end Session

/-! ## Names in one folder -/

namespace Store

/-- Where names tell siblings apart, a child is found by each name that it has and no other child
has. -/
theorem childNamed_of_apart (T : Tidy s) {p name : String} (happart : s.Apart p) {n : Node}
    (hn : s.get? n.id = some n) (hl : s.Lists p n.id) (hname : Text.lower n.name = Text.lower name) :
    s.childNamed p name = some n := by
  cases hc : s.childNamed p name with
  | none => exact absurd hname (childNamed_eq_none_iff.mp hc n.id n hl hn)
  | some m =>
    have hid := (apart_iff T).mp happart m.id n.id _ (bears_of_childNamed hc) ⟨hl, n, hn, hname⟩
    have hm := (childNamed_eq_some hc).2.1
    rw [hid, hn] at hm
    exact hm.symm

theorem moved_of_parent {id target : String} (h : (s.parent? id).map (·.id) = some target) :
    s.moved id target = s := by
  unfold moved
  rw [h]
  simp

end Store

/-- The container `n` and another way to write its name. -/
def CaseOnly (n : Node) (name : String) : Prop :=
  n.isContainer = true ∧ Text.lower n.name = Text.lower name ∧ name ≠ n.name

namespace Builtin

open MovePlan (sourceOf ofPaths)

/-- The plan to rename an entry where it is is carried out. -/
theorem exists_act_in_place (F : Forest σ.store) {n : Node} {w : String}
    (hn : σ.store.get? n.id = some n) (hl : σ.store.Lists σ.folder n.id)
    (hsys : n.isSystem = false)
    (hfits : (MovePlan.place σ.folder w false).Fits σ.store n) :
    ∃ τ, (MovePlan.place σ.folder w false).act n.id σ = .ok () τ ∧
      τ.store = σ.store.adjust n.id fun m => { m with name := w } := by
  have hne : σ.folder ≠ n.id := fun h => F.acyclic n.id (.single (h ▸ hl))
  obtain ⟨p, hp, hpc⟩ := id hl
  have hreceives : σ.store.Receives n σ.folder := by
    refine .inr ⟨⟨p, hp, Node.isSome_children hpc⟩, fun hin => ?_⟩
    exact F.acyclic n.id ((Store.below_of_opens ((Store.inside_iff F hn _).mp hin)).tail hl)
  obtain ⟨τ, hact⟩ := (MovePlan.act_place_iff F.tidy hn hsys hfits).mpr
    ⟨hreceives, fun h => absurd (h.resolve_left (by decide)) hne⟩
  refine ⟨τ, hact, (MovePlan.store_of_act F.distinct hn hact).2.trans (Store.moved_of_parent ?_)⟩
  rw [MovePlan.folder, Store.parent_rename, F.parent?_of_lists hp hpc, Option.map_some,
    Store.id_of_get? hp]

/-- An entry that is to come into itself stays where it is, as it is. -/
theorem act_into_itself {n : Node} (hn : σ.store.get? n.id = some n) (hsys : n.isSystem = false) :
    (MovePlan.into n.id).act n.id σ = .ok () σ := by
  obtain ⟨notes, hmove, hnotes⟩ := Run.move_of_ok (Store.move_self hn hsys)
  rw [hnotes rfl] at hmove
  exact hmove

section InPlace

variable (F : Forest σ.store) (happart : σ.store.Apart σ.folder) {n : Node} {w : String}
  (hn : σ.store.get? n.id = some n) (hl : σ.store.Lists σ.folder n.id) (hsys : n.isSystem = false)
  (hfree : ∀ m ∈ σ.store.contents σ.folder, Text.lower m.name = Text.lower w → m.id = n.id)
  (hname : Path.Plain n.name) (hw : Path.Plain w)

include F happart hn hl

theorem childNamed_own : σ.store.childNamed σ.folder n.name = some n :=
  Store.childNamed_of_apart F.tidy happart hn hl rfl

include hsys hname in
theorem sourceOf_in_place : sourceOf n.name σ = .ok n := by
  have hfound := Session.resolveNode_plain (σ := σ) hname
  rw [childNamed_own F happart hn hl] at hfound
  rw [MovePlan.sourceOf_of_resolveNode hfound, if_neg (by simp [hsys])]

include hw

theorem ofPaths_into_itself (hcont : n.isContainer = true)
    (hsame : Text.lower n.name = Text.lower w) : ofPaths n n.name w σ = .ok (.into n.id) := by
  have hfound := Session.resolveNode_plain (σ := σ) hw
  rw [Store.childNamed_of_apart F.tidy happart hn hl hsame] at hfound
  simp only [ofPaths, hfound, Inquiry.lift, bind, Except.bind, Option.map_some, Option.bind_some,
    hcont, if_true]
  rfl

include hfree

theorem ofPaths_in_place (hnot : ¬ (n.isContainer = true ∧ Text.lower n.name = Text.lower w)) :
    ofPaths n n.name w σ = .ok (.place σ.folder w false) := by
  have hchild : ∀ m, σ.store.childNamed σ.folder w = some m →
      m = n ∧ Text.lower n.name = Text.lower w := by
    intro m hm
    obtain ⟨-, hget, hmw⟩ := Store.childNamed_eq_some hm
    have hid := hfree m (List.mem_of_find?_eq_some hm) hmw
    rw [hid, hn] at hget
    obtain rfl := Option.some.inj hget
    exact ⟨rfl, hmw⟩
  have hplace : ofPaths n n.name w σ = MovePlan.placeFor n n.name w σ := by
    refine MovePlan.ofPaths_eq_placeFor (Session.resolveNode_plain hw) fun d hd => ?_
    cases hm : σ.store.childNamed σ.folder w with
    | none => simp [hm] at hd
    | some m =>
      obtain rfl : m = d := by simpa [hm] using hd
      obtain ⟨rfl, hsame⟩ := hchild m hm
      exact ⟨by simpa using fun hcont => hnot ⟨hcont, hsame⟩, rfl⟩
  have hother : MovePlan.isOther (σ.store.childNamed σ.folder w) n.id = false := by
    cases hm : σ.store.childNamed σ.folder w with
    | none => rfl
    | some m =>
      obtain ⟨rfl, -⟩ := hchild m hm
      simp [MovePlan.isOther]
  rw [hplace, MovePlan.placeFor_eq_place (Session.resolveParent_plain hw) hw.nonempty hother,
    childNamed_own F happart hn hl]
  simp [MovePlan.isOther]

include hsys hname

/-- An `mv` that gives an entry of the working folder a name which no other entry there has ends with
exit code 0. The entry then has exactly that name and nothing else is different, unless the entry is a
container and the name its own one in another case: then nothing happens. -/
theorem mv_in_place_iff (hdash : Args.startsWithDash n.name = false)
    (hwdash : Args.startsWithDash w = false) : ∃ τ, mv [n.name, w] σ = .ok .done τ ∧
      (τ.store = (σ.store.adjust n.id fun m => { m with name := w }) ↔ ¬ CaseOnly n w) ∧
      (CaseOnly n w → τ = σ) := by
  have hargs := Args.operands_of_plain hdash hwdash
  have hsource := sourceOf_in_place F happart hn hl hsys hname
  by_cases hself : n.isContainer = true ∧ Text.lower n.name = Text.lower w
  · have hplan := ofPaths_into_itself F happart hn hl hw hself.1 hself.2
    have hmv := (mv_of_plan hargs hsource hplan).trans
      (MovePlan.perform_of_ok (act_into_itself hn hsys))
    refine ⟨σ, hmv, ⟨fun hstore hcase => ?_, fun hcase => ?_⟩, fun _ => rfl⟩
    · have hget := Store.get?_rename (s := σ.store) n.id w n.id
      rw [← hstore, if_pos rfl, hn, Option.map_some] at hget
      exact hcase.2.2 (congrArg Node.name (Option.some.inj hget)).symm
    · have hsame : w = n.name := by
        by_contra hne
        exact hcase ⟨hself.1, hself.2, hne⟩
      rw [hsame, Store.adjust_name_self F.distinct hn]
  · have hplan := ofPaths_in_place F happart hn hl hfree hw hself
    obtain ⟨τ, hact, hstore⟩ :=
      exists_act_in_place F hn hl hsys (MovePlan.fits_of_ofPaths hplan)
    have hnot : ¬ CaseOnly n w := fun h => hself ⟨h.1, h.2.1⟩
    exact ⟨τ, (mv_of_plan hargs hsource hplan).trans (MovePlan.perform_of_ok hact),
      iff_of_true hstore hnot, fun h => absurd h hnot⟩

end InPlace

end Builtin

namespace Desktop

/-- A file is given its name in another case. -/
theorem mv_in_place_file : ∃ σ, session {} 0 (fun _ => .unset) = .ok σ ∧
    ∃ n τ, σ.store.get? "contact" = some n ∧ n.name = "Contact.txt" ∧
      Builtin.mv [n.name, "CONTACT.txt"] σ = .ok .done τ ∧
      τ.store = σ.store.adjust n.id fun m => { m with name := "CONTACT.txt" } := by
  have hrun : (session {} 0 fun _ => .unset).map (fun σ =>
      ((σ.store.get? "contact").map fun n => (n.name, n.kind),
        decide (σ.store.Apart σ.folder ∧ ∀ m ∈ σ.store.contents σ.folder,
          Text.lower m.name = Text.lower "CONTACT.txt" → m.id = "contact"),
        decide ("contact" ∈ σ.store.listed σ.folder))) =
      .ok (some ("Contact.txt", .file), true, true) := by
    decide +kernel
  obtain ⟨σ, hσ, S⟩ := exists_play []
  have hrun := eq_of_session hσ hrun
  simp only [Prod.mk.injEq] at hrun
  obtain ⟨hnode, hapart, hlisted⟩ := hrun
  obtain ⟨n, hn, hnode⟩ := Option.map_eq_some_iff.mp hnode
  obtain ⟨hname, hkind⟩ := Prod.mk.inj hnode
  obtain ⟨hapart, hfree⟩ := of_decide_eq_true hapart
  have hl := Store.mem_listed.mp (of_decide_eq_true hlisted)
  have hid := Store.id_of_get? hn
  rw [← hid] at hn hl hfree
  have hplain : Path.Plain n.name := by
    rw [hname]
    decide
  obtain ⟨τ, hmv, hiff, -⟩ := Builtin.mv_in_place_iff (w := "CONTACT.txt") S.toForest hapart hn hl
    (by rw [Node.isSystem, hkind]; rfl) hfree hplain (by decide) (by rw [hname]; rfl) rfl
  refine ⟨σ, hσ, n, τ, hid ▸ hn, hname, hmv, hiff.mpr ?_⟩
  rintro ⟨hcont, -⟩
  rw [Node.isContainer, hkind] at hcont
  cases hcont

/-- A folder keeps its name when it is to be written in another case, and this counts as a success. -/
theorem mv_in_place_keeps : ∃ σ, session {} 0 (fun _ => .unset) = .ok σ ∧
    let τ := σ.play [⟨"mkdir docs", 1⟩]
    Forest τ.store ∧ (∀ p, τ.store.Apart p) ∧ τ.store.HasDir τ.folder ∧
    ∃ n υ, τ.store.get? "file-1" = some n ∧ τ.store.Lists τ.folder "file-1" ∧ n.name = "docs" ∧
      n.isSystem = false ∧ (∀ m ∈ τ.store.contents τ.folder,
        Text.lower m.name = Text.lower "DOCS" → m.id = "file-1") ∧
      Builtin.mv ["docs", "DOCS"] τ = .ok .done υ ∧
      (υ.store.get? "file-1").map (·.name) = some "docs" := by
  let ts : List Typed := [⟨"mkdir docs", 1⟩]
  have hrun : (session {} 0 fun _ => .unset).map (fun σ =>
      let τ := σ.play ts
      ((τ.store.get? "file-1").map fun n => (n.name, n.isSystem),
        decide (τ.store.Apart τ.store.binId ∧ ∀ m ∈ τ.store.contents τ.folder,
          Text.lower m.name = Text.lower "DOCS" → m.id = "file-1"),
        decide ("file-1" ∈ τ.store.listed τ.folder))) =
      .ok (some ("docs", false), true, true) := by
    decide +kernel
  have hmove : (session {} 0 fun _ => .unset).map (fun σ =>
      let τ := σ.play ts
      let x := Builtin.mv ["docs", "DOCS"]
      (x.result? τ, ((x.after τ).store.get? "file-1").map (·.name))) =
      .ok (some .done, some "docs") := by
    decide +kernel
  obtain ⟨σ, hσ, S⟩ := exists_play ts
  refine ⟨σ, hσ, ?_⟩
  have hrun := eq_of_session hσ hrun
  have hmove := eq_of_session hσ hmove
  dsimp only at hrun hmove ⊢
  generalize σ.play ts = τ at S hrun hmove ⊢
  simp only [Prod.mk.injEq] at hrun hmove
  obtain ⟨hnode, hapart, hlisted⟩ := hrun
  obtain ⟨hr, hafter⟩ := hmove
  obtain ⟨n, hn, hnode⟩ := Option.map_eq_some_iff.mp hnode
  obtain ⟨hname, hsys⟩ := Prod.mk.inj hnode
  obtain ⟨hbin, hfree⟩ := of_decide_eq_true hapart
  have hl := Store.mem_listed.mp (of_decide_eq_true hlisted)
  exact ⟨S.toForest, S.apart hbin, S.hasDir_of_lists hl, n, _, hn, hl, hname, hsys, hfree,
    Run.eq_ok_of_result? hr, hafter⟩

end Desktop
end DeskShell

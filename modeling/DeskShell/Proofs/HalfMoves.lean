import DeskShell.Proofs.Outcomes
import DeskShell.Proofs.Refusals
import DeskShell.Proofs.Siblings
import DeskShell.Proofs.Widening

/-!
# Moves that stop half-way

A move to a new place under a new name is two changes, a rename and a move, and a refusal of the
second one comes too late to undo the first. When `mv` moves first, the rename after it is never
refused. When it renames first, because the new folder has another entry of the old name, the move
after it is refused for one reason only: the new folder lies below the entry that is to be moved.

* `Store.rename_cases`, `Store.move_cases`, `Store.exists_move`: when the two changes are made.
* `MovePlan.Fits`: what has been found out when a new place and name are planned.
* `MovePlan.eq_of_move_first`, `MovePlan.inside_of_rename_first`: what a fault leaves, in either
  order of the two changes.
* `HalfMove`: an entry that is renamed and then stays where it is.
* `Builtin.mv_failed_iff`: what a failed `mv` leaves.
-/
namespace DeskShell

variable {C : Type} {s t : Store} {σ τ υ : Session C} {f : Fault}

/-! ## Guards that are passed -/

namespace Edit

variable {α β : Type}

theorem ask_bind_of_ok {q : Store → Except Fault α} {a : α} (h : q s = .ok a) (g : α → Edit β) :
    (ask q >>= g) s = g a s := by
  simp only [bind, EStateM.bind, ask, h]

theorem ask_bind_ok (q : Store → α) (g : α → Edit β) :
    ((ask fun s => .ok (q s)) >>= g) s = g (q s) s := rfl

theorem check_bind_of_true {fault : Fault} {p : Store → Bool} (h : p s = true)
    (g : Unit → Edit β) : (check fault p >>= g) s = g () s := by
  simp only [bind, EStateM.bind, check, h, if_true]

theorem check_bind_of_false {fault : Fault} {p : Store → Bool} (h : p s = false)
    (g : Unit → Edit β) : (check fault p >>= g) s = .error fault s := by
  simp only [bind, EStateM.bind, check, h, Bool.false_eq_true, if_false]

end Edit

namespace Store

open Edit (ask_bind_ok ask_bind_of_ok check_bind_of_true check_bind_of_false)

/-! ## One change at a time -/

/-- No other entry of the folder that holds `id` has the name `name`. -/
def NameFree (s : Store) (id name : String) : Prop :=
  ∀ p m, s.parent? id = some p → s.childNamed p.id name = some m → m.id = id

/-- A walk from `n` meets the entry `target` below it. -/
def Inside (s : Store) (n : Node) (target : String) : Prop :=
  n.id ≠ target ∧ ∃ m ∈ s.walkFrom s.nodes.length n, m.id = target

theorem walk_eq_ok {id : String} {n : Node} (hn : s.get? id = some n) :
    s.walk id = .ok (s.walkFrom s.nodes.length n) := by
  simp only [walk, require_eq_ok.mpr hn]

theorem rename_eq_ok {id name : String} {n : Node} (hn : s.get? id = some n)
    (hsys : n.isSystem = false) (hfree : s.NameFree id name) :
    rename id name s = .ok n.name (s.adjust id fun n => { n with name := name }) := by
  unfold rename guardSystem
  rw [ask_bind_of_ok (require_eq_ok.mpr hn), check_bind_of_true (by simp [hsys]),
    ask_bind_ok]
  cases hp : s.parent? id with
  | none => rfl
  | some p =>
    refine check_bind_of_true ?_ _
    cases hm : s.childNamed p.id name with
    | none => rfl
    | some m => simpa using hfree p m hp hm

/-- A rename is refused, or the entry has the new name and all else is as before. -/
theorem rename_cases (id name : String) (s : Store) : (∃ f, rename id name s = .error f s) ∨
    ∃ n, s.get? id = some n ∧ s.NameFree id name ∧
      rename id name s = .ok n.name (s.adjust id fun n => { n with name := name }) := by
  let Q : EStateM.Result Fault Store String → Prop := fun result =>
    (∃ f, result = .error f s) ∨ ∃ n, s.get? id = some n ∧ s.NameFree id name ∧
      result = .ok n.name (s.adjust id fun n => { n with name := name })
  have hfault : ∀ f, Q (.error f s) := fun f => .inl ⟨f, rfl⟩
  change Q (rename id name s)
  unfold rename guardSystem
  refine Edit.ask_bind hfault fun n hn => Edit.check_bind (hfault _) fun _ => ?_
  rw [ask_bind_ok]
  cases hp : s.parent? id with
  | none =>
    refine .inr ⟨n, require_eq_ok.mp hn, fun p m hp' => ?_, rfl⟩
    rw [hp] at hp'
    cases hp'
  | some p =>
    refine Edit.check_bind (hfault _) fun hfree =>
      .inr ⟨n, require_eq_ok.mp hn, fun q m hq hm => ?_, rfl⟩
    obtain rfl := Option.some.inj (hp.symm.trans hq)
    simpa [hm] using hfree

/-- A move is refused, or has nothing to do, or takes the entry from its folder to another one. -/
theorem move_cases (id target : String) (s : Store) : (∃ f, move id target s = .error f s) ∨
    move id target s = .ok none s ∨
    ∃ n folder p, s.get? id = some n ∧ s.get? target = some folder ∧ folder.children.isSome ∧
      s.parent? id = some p ∧ p.id ≠ target ∧ move id target s = .ok (some p.id)
        ((s.adjust p.id (Node.dropChild id)).adjust target (Node.pushChild id)) := by
  let Q : EStateM.Result Fault Store (Option String) → Prop := fun result =>
    (∃ f, result = .error f s) ∨ result = .ok none s ∨
    ∃ n folder p, s.get? id = some n ∧ s.get? target = some folder ∧ folder.children.isSome ∧
      s.parent? id = some p ∧ p.id ≠ target ∧ result = .ok (some p.id)
        ((s.adjust p.id (Node.dropChild id)).adjust target (Node.pushChild id))
  have hfault : ∀ f, Q (.error f s) := fun f => .inl ⟨f, rfl⟩
  change Q (move id target s)
  unfold move guardSystem
  refine Edit.ask_bind hfault fun n hn => Edit.check_bind (hfault _) fun _ =>
    Edit.ask_bind hfault fun folder ht => ?_
  split
  · exact .inr (.inl rfl)
  · refine Edit.check_bind (hfault _) fun hk => Edit.ask_bind hfault fun below _ =>
      Edit.check_bind (hfault _) fun _ => ?_
    rw [ask_bind_ok]
    cases hp : s.parent? id with
    | none => exact .inr (.inl rfl)
    | some p =>
      dsimp only
      split
      · exact .inr (.inl rfl)
      · next hne =>
        refine Edit.check_bind (hfault _) fun _ => .inr (.inr ⟨n, folder, p, ?_⟩)
        exact ⟨require_eq_ok.mp hn, require_eq_ok.mp ht, hk, hp, hne, rfl⟩

section Move

variable {id target : String} {n folder : Node} (hn : s.get? id = some n)
  (hsys : n.isSystem = false) (ht : s.get? target = some folder) (hk : folder.children.isSome)

include hn hsys ht hk

theorem move_inside (h : s.Inside n target) :
    move id target s = .error (.insideItself n.name) s := by
  obtain ⟨hne, m, hm, hid⟩ := h
  rw [id_of_get? hn] at hne
  have hany : (s.walkFrom s.nodes.length n).any (·.id == target) = true :=
    List.any_eq_true.mpr ⟨m, hm, by simpa using hid⟩
  unfold move guardSystem
  rw [ask_bind_of_ok (require_eq_ok.mpr hn), check_bind_of_true (by simp [hsys]),
    ask_bind_of_ok (require_eq_ok.mpr ht), if_neg hne, check_bind_of_true hk,
    ask_bind_of_ok (walk_eq_ok hn)]
  exact check_bind_of_false (by simp [hany]) _

/-- A move is made unless it leads inside the entry or to a folder that has its name. -/
theorem exists_move (hout : ¬ s.Inside n target)
    (hfree : ∀ p, s.parent? id = some p → p.id ≠ target → s.childNamed target n.name = none) :
    ∃ left t, move id target s = .ok left t := by
  unfold move guardSystem
  rw [ask_bind_of_ok (require_eq_ok.mpr hn), check_bind_of_true (by simp [hsys]),
    ask_bind_of_ok (require_eq_ok.mpr ht)]
  by_cases hne : id = target
  · exact ⟨none, s, by rw [if_pos hne]; rfl⟩
  · have hany : (s.walkFrom s.nodes.length n).any (·.id == target) = false := by
      refine List.any_eq_false.mpr fun m hm => ?_
      simpa using fun hid => hout ⟨id_of_get? hn ▸ hne, m, hm, hid⟩
    rw [if_neg hne, check_bind_of_true hk, ask_bind_of_ok (walk_eq_ok hn),
      check_bind_of_true (by simp [hany]), ask_bind_ok]
    cases hp : s.parent? id with
    | none => exact ⟨none, s, rfl⟩
    | some p =>
      by_cases hpt : p.id = target
      · exact ⟨none, s, by simp only [if_pos hpt]; rfl⟩
      · have hnone : (s.childNamed target n.name).isNone = true := by simp [hfree p hp hpt]
        refine ⟨some p.id,
          (s.adjust p.id (Node.dropChild id)).adjust target (Node.pushChild id), ?_⟩
        simp only [if_neg hpt]
        rw [check_bind_of_true hnone]
        rfl

end Move

/-! ## One change after the other -/

/-- The entries below one are the same after a change of names. -/
theorem walkFrom_adjust {id : String} {f : Node → Node} (hf : ∀ n, (f n).id = n.id)
    (hc : ∀ n, (f n).childIds = n.childIds) (hk : ∀ n, (f n).isContainer = n.isContainer) :
    ∀ (fuel : Nat) (n : Node), (s.adjust id f).walkFrom fuel (if n.id = id then f n else n) =
      (s.walkFrom fuel n).map fun n => if n.id = id then f n else n
  | 0, n => rfl
  | fuel + 1, n => by
    have hid : (if n.id = id then f n else n).id = n.id := by split <;> simp [hf]
    have hcont : (if n.id = id then f n else n).isContainer = n.isContainer := by
      split <;> simp [hk]
    have hcontents : (s.adjust id f).contents n.id =
        (s.contents n.id).map fun n => if n.id = id then f n else n := by
      have hnew : (s.adjust id f).listed n.id = s.listed n.id ++ [] := by
        rw [listed_adjust hf hc, List.append_nil]
      rw [contents_adjust hf hnew, List.filterMap_nil, List.append_nil]
    rw [walkFrom, walkFrom, hid, hcont, hcontents, List.map_cons]
    congr 1
    split
    · rw [List.flatMap_map, List.map_flatMap]
      simp only [walkFrom_adjust hf hc hk fuel]
    · rfl

theorem inside_rename {n : Node} {name target : String} :
    (s.adjust n.id fun n => { n with name := name }).Inside { n with name := name } target ↔
      s.Inside n target := by
  let rename (m : Node) : Node := { m with name := name }
  have hwalk : (s.adjust n.id rename).walkFrom s.nodes.length (rename n) =
      (s.walkFrom s.nodes.length n).map fun m => if m.id = n.id then rename m else m := by
    have h := @walkFrom_adjust s n.id rename (fun _ => rfl) (fun _ => rfl) (fun _ => rfl)
      s.nodes.length n
    rwa [if_pos rfl] at h
  have hlength : (s.adjust n.id rename).nodes.length = s.nodes.length := List.length_map _
  change (s.adjust n.id rename).Inside (rename n) target ↔ _
  unfold Inside
  rw [hlength, hwalk]
  simp only [List.mem_map, exists_exists_and_eq_and]
  refine and_congr_right fun _ => exists_congr fun m => and_congr_right fun _ => ?_
  split <;> exact Iff.rfl

/-- After an entry has gone to a folder that has no child of some name, the name is free for it. -/
theorem nameFree_rehang (T : Tidy s) {id target name : String} {n folder p : Node}
    (hn : s.get? id = some n) (ht : s.get? target = some folder) (hk : folder.children.isSome)
    (hp : s.parent? id = some p) (hnone : s.childNamed target name = none) :
    ((s.adjust p.id (Node.dropChild id)).adjust target (Node.pushChild id)).NameFree id name := by
  obtain ⟨hpg, hpc⟩ := T.parent?_eq_some_iff.mp hp
  have honly : ∀ a, s.Lists a id → a = p.id := fun a h => T.parent_unique h ⟨p, hpg, hpc⟩
  have hT := T.rehang hn hpg ht hk honly
  have hat := OnlyAt.of_rehang (c := id) T hpg ht hk
  intro q m hq hm
  obtain ⟨hqg, hqc⟩ := hT.parent?_eq_some_iff.mp hq
  have hqt : q.id = target := by
    rcases (T.lists_rehang hpg ht hk q.id id).mp ⟨q, hqg, hqc⟩ with ⟨h, hne⟩ | ⟨h, -⟩
    · exact absurd ⟨honly _ h, rfl⟩ hne
    · exact h
  by_contra hne
  have hbears := bears_of_childNamed hm
  rw [hqt, hat.bears_iff hne] at hbears
  exact not_bears_of_childNamed hnone m.id hbears

/-- An entry that has gone to a folder without a child of some name is given that name. -/
theorem exists_rename_rehang (T : Tidy s) {id target name : String} {n folder p : Node}
    (hn : s.get? id = some n) (hsys : n.isSystem = false) (ht : s.get? target = some folder)
    (hk : folder.children.isSome) (hp : s.parent? id = some p)
    (hnone : s.childNamed target name = none) : ∃ old t, rename id name
      ((s.adjust p.id (Node.dropChild id)).adjust target (Node.pushChild id)) = .ok old t := by
  obtain ⟨m, hm, -, hkind, -⟩ := get?_of_look (look_rehang p.id target id id).symm hn
  have hmsys : m.isSystem = false := by
    unfold Node.isSystem at hsys ⊢
    rw [hkind, hsys]
  exact ⟨_, _, rename_eq_ok hm hmsys (nameFree_rehang T hn ht hk hp hnone)⟩

/-- An entry that has been given a name goes to a folder that has no other child of that name. -/
theorem childNamed_rename {id target name : String}
    (hl : ¬ s.Lists target id) (hnone : s.childNamed target name = none) :
    (s.adjust id fun n => { n with name := name }).childNamed target name = none := by
  let rename (m : Node) : Node := { m with name := name }
  have hlists : ∀ a b, (s.adjust id rename).Lists a b ↔ s.Lists a b :=
    lists_adjust_of_childIds (fun _ => rfl) fun _ => rfl
  have hat : OnlyAt id s (s.adjust id rename) := .of_adjust (fun _ => rfl) fun _ => rfl
  cases hm : (s.adjust id rename).childNamed target name with
  | none => rfl
  | some m =>
    have hbears := bears_of_childNamed hm
    have hne : m.id ≠ id := by
      rintro h
      exact hl ((hlists target id).mp (h ▸ hbears.1))
    exact absurd ((hat.bears_iff hne).mp hbears) (not_bears_of_childNamed hnone m.id)

end Store

/-! ## Plans -/

namespace Builtin.MovePlan

open Store

/-- What has been found out when a new place and name are planned for `n`: the folder has no other
child of the new name, and `renameFirst` says whether it has another one of the old name. -/
def Fits (s : Store) (n : Node) : MovePlan → Prop
  | into _ => True
  | place folder name renameFirst => isOther (s.childNamed folder name) n.id = false ∧
      isOther (s.childNamed folder n.name) n.id = renameFirst

theorem stored_of_sourceOf {source : String} {n : Node} (h : sourceOf source σ = .ok n) :
    σ.store.get? n.id = some n ∧ n.isSystem = false := by
  obtain ⟨⟨place, node⟩, hfound, h⟩ := Inquiry.bind_eq_ok h
  obtain ⟨-, rfl⟩ := Session.locate_eq_ok hfound
  dsimp only at h
  split at h
  · cases h
  · next m hm =>
    split at h
    · cases h
    · next hsys =>
      obtain rfl := Except.ok.inj h
      exact ⟨by rwa [id_of_get? hm], by simpa using hsys⟩

theorem fits_of_ofPaths {n : Node} {source dest : String} {plan : MovePlan}
    (h : ofPaths n source dest σ = .ok plan) : plan.Fits σ.store n := by
  rcases cases_of_ofPaths h with ⟨-, d, -, -, rfl⟩ | ⟨-, folder, name, -, -, hother, rfl⟩
  · trivial
  · exact ⟨hother, rfl⟩

/-- A folder that does not hold the entry and has no other child of a name has none of that name. -/
theorem childNamed_of_not_other {id folder name : String}
    (h : isOther (s.childNamed folder name) id = false) (hl : ¬ s.Lists folder id) :
    s.childNamed folder name = none := by
  cases hm : s.childNamed folder name with
  | none => rfl
  | some m =>
    rw [hm] at h
    have hid : m.id = id := by simpa [isOther] using h
    exact absurd (hid ▸ (childNamed_eq_some hm).1) hl

/-- A folder with another child is stored and has a list of children. -/
theorem exists_folder_of_other {id folder name : String}
    (h : isOther (s.childNamed folder name) id = true) :
    ∃ p, s.get? folder = some p ∧ p.children.isSome := by
  cases hm : s.childNamed folder name with
  | none =>
    rw [hm] at h
    cases h
  | some m =>
    obtain ⟨⟨p, hp, hc⟩, -⟩ := childNamed_eq_some hm
    exact ⟨p, hp, Node.isSome_children hc⟩

end Builtin.MovePlan

/-! ## In a session -/

/-- The session in which `n` has been given the name `name`. -/
def Session.renamed (σ : Session C) (n : Node) (name : String) : Session C :=
  { σ with
    store := σ.store.adjust n.id fun m => { m with name := name }
    notes := .renamed n.id n.name name :: σ.notes }

theorem Session.get?_renamed (σ : Session C) (n : Node) (name x : String) :
    (σ.renamed n name).store.get? x =
      if x = n.id then (σ.store.get? n.id).map fun m => { m with name := name }
      else σ.store.get? x :=
  Store.get?_adjust σ.store n.id (fun m => { m with name := name }) (fun _ => rfl) x

theorem Session.get?_renamed_self {n : Node} (hn : σ.store.get? n.id = some n) (name : String) :
    (σ.renamed n name).store.get? n.id = some { n with name := name } := by
  rw [get?_renamed, if_pos rfl, hn, Option.map_some]

namespace Run

theorem rename_of_ok {id name old : String} (h : Store.rename id name σ.store = .ok old t) :
    rename id name σ =
      .ok () { σ with store := t, notes := .renamed id old name :: σ.notes } := by
  simp only [rename, bind, EStateM.bind, edit, h]
  rfl

theorem rename_cases {n : Node} (hn : σ.store.get? n.id = some n) (name : String) :
    (∃ f, rename n.id name σ = .error f σ) ∨
      σ.store.NameFree n.id name ∧ rename n.id name σ = .ok () (σ.renamed n name) := by
  rcases Store.rename_cases n.id name σ.store with ⟨f, h⟩ | ⟨m, hm, hfree, h⟩
  · refine .inl ⟨f, ?_⟩
    simp only [rename, bind, EStateM.bind, edit, h]
  · obtain rfl := Option.some.inj (hn.symm.trans hm)
    exact .inr ⟨hfree, rename_of_ok h⟩

theorem move_of_error {id target : String} (h : Store.move id target σ.store = .error f t) :
    move id target σ = .error f { σ with store := t } := by
  simp only [move, bind, EStateM.bind, edit, h]

theorem move_of_ok {id target : String} {left : Option String}
    (h : Store.move id target σ.store = .ok left t) : ∃ notes,
      move id target σ = .ok () { σ with store := t, notes := notes } ∧
        (left = none → notes = σ.notes) := by
  cases left with
  | none =>
    refine ⟨σ.notes, ?_, fun _ => rfl⟩
    simp only [move, bind, EStateM.bind, edit, h]
    rfl
  | some source =>
    refine ⟨.moved id source target :: σ.notes, ?_, fun h => by cases h⟩
    simp only [move, bind, EStateM.bind, edit, h]
    rfl

/-- The command ends in `τ` with a fault or with an exit code other than 0. -/
def Fails (x : Run C Result) (σ τ : Session C) : Prop :=
  match x σ with
  | .ok r υ => r.exitCode ≠ 0 ∧ υ = τ
  | .error _ υ => υ = τ

theorem fails_of_result? {x : Run C Result} {r : Result} (h : x.result? σ = some r)
    (hcode : r.exitCode ≠ 0) : x.Fails σ (x.after σ) := by
  unfold Fails
  rw [eq_ok_of_result? h]
  exact ⟨hcode, rfl⟩

theorem eq_after_of_fails {x : Run C Result} (h : x.Fails σ τ) : τ = x.after σ := by
  unfold Fails at h
  unfold Run.after
  cases hx : x σ with
  | ok r υ =>
    rw [hx] at h
    exact h.2.symm
  | error f υ =>
    rw [hx] at h
    exact h.symm

theorem cases_of_fails_andThen {α : Type} {x : Session C → Inquiry α} {act : α → Run C Result}
    (h : (Inquiry.andThen x act).Fails σ τ) : τ = σ ∨ ∃ a, x σ = .ok a ∧ (act a).Fails σ τ := by
  unfold Fails Inquiry.andThen at h
  cases hx : x σ with
  | ok a =>
    rw [hx] at h
    exact .inr ⟨a, rfl, h⟩
  | error stop =>
    rw [hx] at h
    cases stop with
    | result r => exact .inl h.2.symm
    | fault f => exact .inl h.symm

end Run

namespace Builtin.MovePlan

open Store

section Act

variable {n : Node} {folder name : String}

/-- A rename after a move is never refused, unless nothing had to be moved. -/
theorem eq_of_move_first (T : Tidy σ.store) (hn : σ.store.get? n.id = some n)
    (hsys : n.isSystem = false) (hfits : (place folder name false).Fits σ.store n)
    (h : (place folder name false).act n.id σ = .error f τ) : τ = σ := by
  rcases Engine.bind_eq_error h with h | ⟨_, υ, hmove, hrename⟩
  · exact Run.clean_move _ _ σ f τ h
  · rcases Store.move_cases n.id folder σ.store with ⟨g, hg⟩ | hg |
      ⟨m, dir, p, hm, ht, hk, hp, hne, hg⟩
    · rw [Run.move_of_error hg] at hmove
      cases hmove
    · -- Nothing had to be moved.
      obtain ⟨notes, hg, hnotes⟩ := Run.move_of_ok hg
      rw [hmove] at hg
      obtain ⟨-, rfl⟩ := EStateM.Result.ok.inj hg
      rw [Run.clean_rename _ _ _ f τ hrename, hnotes rfl]
    · -- In the folder that the entry has gone to its new name is free.
      obtain rfl := Option.some.inj (hn.symm.trans hm)
      obtain ⟨hpg, hpc⟩ := T.parent?_eq_some_iff.mp hp
      have hl : ¬ σ.store.Lists folder n.id := fun h => hne (T.parent_unique ⟨p, hpg, hpc⟩ h)
      obtain ⟨old, u, hok⟩ := exists_rename_rehang T hn hsys ht hk hp
        (childNamed_of_not_other hfits.1 hl)
      obtain ⟨notes, hg, -⟩ := Run.move_of_ok hg
      rw [hmove] at hg
      obtain ⟨-, rfl⟩ := EStateM.Result.ok.inj hg
      cases hrename.symm.trans (Run.rename_of_ok hok)

/-- The folder of a plan to rename first is still there after the rename. -/
theorem exists_folder_renamed (hfits : (place folder name true).Fits σ.store n) :
    ∃ dir, (σ.renamed n name).store.get? folder = some dir ∧ dir.children.isSome := by
  obtain ⟨dir, hdir, hk⟩ := exists_folder_of_other hfits.2
  rw [Session.get?_renamed]
  split
  · next h => exact ⟨{ dir with name := name }, by rw [← h, hdir]; rfl, hk⟩
  · exact ⟨dir, hdir, hk⟩

/-- A rename stays made when the folder of the move after it lies inside the entry. -/
theorem act_inside (hn : σ.store.get? n.id = some n) (hsys : n.isSystem = false)
    (hfits : (place folder name true).Fits σ.store n) (hfree : σ.store.NameFree n.id name)
    (hin : σ.store.Inside n folder) : (place folder name true).act n.id σ =
      .error (.insideItself name) (σ.renamed n name) := by
  obtain ⟨dir, hdir, hk⟩ := exists_folder_renamed hfits
  have hmove := Run.move_of_error
    (Store.move_inside (Session.get?_renamed_self hn name) hsys hdir hk (inside_rename.mpr hin))
  have hrename : Run.rename n.id name σ = .ok () (σ.renamed n name) :=
    Run.rename_of_ok (Store.rename_eq_ok hn hsys hfree)
  simp only [act, bind, EStateM.bind, hrename, hmove]

/-- A move after a rename is made, unless the folder lies inside the entry. -/
theorem exists_move_renamed (T : Tidy σ.store) (hn : σ.store.get? n.id = some n)
    (hsys : n.isSystem = false) {dir : Node} (hdir : (σ.renamed n name).store.get? folder = some dir)
    (hk : dir.children.isSome) (hother : isOther (σ.store.childNamed folder name) n.id = false)
    (hout : ¬ σ.store.Inside n folder) :
    ∃ left t, Store.move n.id folder (σ.renamed n name).store = .ok left t := by
  have hlists := @lists_adjust_of_childIds σ.store n.id (fun m => { m with name := name })
    (fun _ => rfl) fun _ => rfl
  have hT : Tidy (σ.renamed n name).store := T.adjust (fun _ => rfl) fun _ => rfl
  refine Store.exists_move (Session.get?_renamed_self hn name) hsys hdir hk
    (fun h => hout (inside_rename.mp h)) fun p hp hne => ?_
  obtain ⟨hpg, hpc⟩ := hT.parent?_eq_some_iff.mp hp
  have hl : ¬ σ.store.Lists folder n.id := fun h =>
    hne (hT.parent_unique ⟨p, hpg, hpc⟩ ((hlists folder n.id).mpr h))
  exact childNamed_rename hl (childNamed_of_not_other hother hl)

/-- A move after a rename is refused only when the folder lies inside the entry. -/
theorem inside_of_rename_first (T : Tidy σ.store) (hn : σ.store.get? n.id = some n)
    (hsys : n.isSystem = false) (hfits : (place folder name true).Fits σ.store n)
    (h : (place folder name true).act n.id σ = .error f τ) :
    τ = σ ∨ σ.store.NameFree n.id name ∧ σ.store.Inside n folder := by
  rcases Engine.bind_eq_error h with h | ⟨_, υ, hrename, hmove⟩
  · exact .inl (Run.clean_rename _ _ σ f τ h)
  · rcases Run.rename_cases hn name with ⟨g, hg⟩ | ⟨hfree, hg⟩
    · rw [hg] at hrename
      cases hrename
    · refine .inr ⟨hfree, ?_⟩
      by_contra hout
      rw [hg] at hrename
      obtain ⟨-, rfl⟩ := EStateM.Result.ok.inj hrename
      obtain ⟨dir, hdir, hk⟩ := exists_folder_renamed hfits
      obtain ⟨left, u, hok⟩ := exists_move_renamed T hn hsys hdir hk hfits.1 hout
      obtain ⟨notes, hok, -⟩ := Run.move_of_ok hok
      rw [hok] at hmove
      cases hmove

/-- A plan is stopped before its first change, or after a rename whose folder lies inside the
entry. -/
theorem cases_of_act_error (T : Tidy σ.store) (hn : σ.store.get? n.id = some n)
    (hsys : n.isSystem = false) {plan : MovePlan} (hfits : plan.Fits σ.store n)
    (h : plan.act n.id σ = .error f τ) : τ = σ ∨ ∃ folder name,
      plan = .place folder name true ∧ σ.store.NameFree n.id name ∧ σ.store.Inside n folder := by
  cases plan with
  | into folder => exact .inl (Run.clean_move _ _ σ f τ h)
  | place folder name first =>
    cases first with
    | false => exact .inl (eq_of_move_first T hn hsys hfits h)
    | true =>
      refine (inside_of_rename_first T hn hsys hfits h).imp id ?_
      rintro ⟨hfree, hin⟩
      exact ⟨folder, name, rfl, hfree, hin⟩

end Act

end Builtin.MovePlan

/-! ## The command -/

/-- The arguments `args` make `mv` stop half-way: the entry is to come into a folder below it, under
a name that is free in both folders, and the new folder has another entry of the old name. -/
structure HalfMove (σ : Session C) (args : List String) where
  source : String
  dest : String
  entry : Node
  folder : String
  name : String
  operands : ∃ rest, (Args.parse args).operands = source :: dest :: rest
  found : Builtin.MovePlan.sourceOf source σ = .ok entry
  planned : Builtin.MovePlan.ofPaths entry source dest σ = .ok (.place folder name true)
  free : σ.store.NameFree entry.id name
  inside : σ.store.Inside entry folder

namespace Builtin

variable {args : List String}

/-- An `mv` of two paths that leads to a plan carries it out. -/
theorem mv_of_plan {rest : List String} {source dest : String} {n : Node} {plan : MovePlan}
    (hargs : (Args.parse args).operands = source :: dest :: rest)
    (hsource : MovePlan.sourceOf source σ = .ok n)
    (hplan : MovePlan.ofPaths n source dest σ = .ok plan) :
    mv args σ = plan.perform n.id source dest σ := by
  have hfound : (do
      let n ← MovePlan.sourceOf source σ
      return (n.id, ← MovePlan.ofPaths n source dest σ) : Inquiry (String × MovePlan)) =
      .ok (n.id, plan) := by
    simp only [hsource, hplan, bind, Except.bind]
    rfl
  unfold mv
  simp only [hargs, Inquiry.andThen, hfound]

theorem act_of_fails_perform {plan : MovePlan} {id source dest : String}
    (h : (plan.perform id source dest).Fails σ τ) : ∃ f, plan.act id σ = .error f τ := by
  simp only [Run.Fails, MovePlan.perform, bind, EStateM.bind, Run.attempt] at h
  cases hact : plan.act id σ with
  | ok a υ =>
    rw [hact] at h
    exact absurd rfl h.1
  | error f υ =>
    rw [hact] at h
    refine ⟨f, ?_⟩
    cases hf : f.isExpected with
    | true =>
      simp only [hf, if_true] at h
      rw [← h.2]
    | false =>
      simp only [hf, Bool.false_eq_true, if_false] at h
      rw [← (h : υ = τ)]

/-- A failed `mv` has changed nothing, or it has stopped in the middle of its plan. -/
theorem cases_of_fails_mv (h : (mv args).Fails σ τ) : τ = σ ∨
    ∃ source dest rest n plan f, (Args.parse args).operands = source :: dest :: rest ∧
      MovePlan.sourceOf source σ = .ok n ∧ MovePlan.ofPaths n source dest σ = .ok plan ∧
      plan.act n.id σ = .error f τ := by
  unfold mv at h
  split at h
  · next source dest rest hargs =>
    refine (Run.cases_of_fails_andThen h).imp id ?_
    rintro ⟨⟨id, plan⟩, hfound, h⟩
    obtain ⟨n, hsource, hfound⟩ := Inquiry.bind_eq_ok hfound
    obtain ⟨plan', hplan, hfound⟩ := Inquiry.bind_eq_ok hfound
    obtain ⟨rfl, rfl⟩ := Prod.mk.inj (Except.ok.inj hfound)
    obtain ⟨f, hact⟩ := act_of_fails_perform h
    exact ⟨source, dest, rest, n, plan', f, hargs, hsource, hplan, hact⟩
  · exact .inl h.2.symm

/-- A half move renames its entry and reports that it cannot be moved. -/
theorem mv_of_halfMove (h : HalfMove σ args) : mv args σ =
    .ok (.failure (MovePlan.refusal h.source h.dest (Fault.insideItself h.name).message))
      (σ.renamed h.entry h.name) := by
  obtain ⟨rest, hargs⟩ := h.operands
  obtain ⟨hn, hsys⟩ := MovePlan.stored_of_sourceOf h.found
  have hact := MovePlan.act_inside hn hsys (MovePlan.fits_of_ofPaths h.planned) h.free h.inside
  rw [mv_of_plan hargs h.found h.planned]
  simp only [MovePlan.perform, bind, EStateM.bind, Run.attempt, hact]
  rfl

/-- The new name of a half move is another one, so that the store is not what it was. -/
theorem store_of_halfMove (h : HalfMove σ args) :
    (σ.renamed h.entry h.name).store ≠ σ.store := by
  obtain ⟨hn, -⟩ := MovePlan.stored_of_sourceOf h.found
  intro hstore
  have hget := Session.get?_renamed_self hn h.name
  rw [hstore, hn] at hget
  have hname : h.entry.name = h.name := congrArg Node.name (Option.some.inj hget)
  -- One of the two names has another bearer in the folder, the other has none.
  obtain ⟨hnew, hold⟩ := MovePlan.fits_of_ofPaths h.planned
  rw [hname, hnew] at hold
  cases hold

/-- An `mv` that fails leaves the session as it was, or it is a half move. -/
theorem eq_or_halfMove_of_fails (T : Tidy σ.store) (h : (mv args).Fails σ τ) :
    τ = σ ∨ ∃ h : HalfMove σ args, τ = σ.renamed h.entry h.name := by
  rcases cases_of_fails_mv h with h |
    ⟨source, dest, rest, n, plan, f, hargs, hsource, hplan, hact⟩
  · exact .inl h
  · obtain ⟨hn, hsys⟩ := MovePlan.stored_of_sourceOf hsource
    have hfits := MovePlan.fits_of_ofPaths hplan
    refine (MovePlan.cases_of_act_error T hn hsys hfits hact).imp id ?_
    rintro ⟨folder, name, rfl, hfree, hin⟩
    rw [MovePlan.act_inside hn hsys hfits hfree hin] at hact
    obtain ⟨-, rfl⟩ := EStateM.Result.error.inj hact
    exact ⟨⟨source, dest, n, folder, name, ⟨rest, hargs⟩, hsource, hplan, hfree, hin⟩, rfl⟩

/-- What a failed `mv` leaves, whether it ends with an exit code other than 0 or with a fault: a
half move leaves the entry with its new name and all else in the store as it was, and any other
`mv` that fails leaves the session as it was. -/
theorem mv_failed_iff (T : Tidy σ.store) (args : List String) :
    ((∀ τ, (mv args).Fails σ τ → τ.store = σ.store) ↔ IsEmpty (HalfMove σ args)) ∧
      (∀ τ, (mv args).Fails σ τ → τ = σ ∨ ∃ h : HalfMove σ args, τ = σ.renamed h.entry h.name) ∧
      ∀ h : HalfMove σ args, mv args σ =
        .ok (.failure (MovePlan.refusal h.source h.dest (Fault.insideItself h.name).message))
          (σ.renamed h.entry h.name) := by
  refine ⟨⟨fun h => ⟨fun half => ?_⟩, fun h τ hfails => ?_⟩,
    fun τ => eq_or_halfMove_of_fails T, mv_of_halfMove⟩
  · refine store_of_halfMove half (h _ ?_)
    unfold Run.Fails
    rw [mv_of_halfMove half]
    exact ⟨(by decide : (1 : Int) ≠ 0), rfl⟩
  · rcases eq_or_halfMove_of_fails T hfails with rfl | ⟨half, -⟩
    · rfl
    · exact h.elim half

end Builtin

namespace Desktop

/-- Whatever is typed into a session on a fresh desktop, its store stays sound. -/
theorem exists_play (ts : List Typed) : ∃ σ, session {} 0 (fun _ => .unset) = .ok σ ∧
    (σ.play ts).store.Sound (σ.play ts).home := by
  obtain ⟨σ, hσ, hin, -⟩ := exists_session {} 0 fun _ => .unset
  exact ⟨σ, hσ, ((Session.chain_play ts σ).inOrder Path.bare_splitParent hin).1.sound⟩

/-- What can be computed of a session on a fresh desktop. -/
theorem eq_of_session {α : Type} {o : Session.Options} {now : Int} {hooks : Signal → Hook}
    {σ : Session Builtin.Program} {f : Session Builtin.Program → α} {a : α}
    (hσ : session o now hooks = .ok σ) (h : (session o now hooks).map f = .ok a) : f σ = a := by
  rw [hσ] at h
  exact Except.ok.inj h

/-- A file whose new name is taken in its old folder, and its old name in the new one, stays as it
is. -/
theorem mv_failed_blocked : ∃ σ, session {} 0 (fun _ => .unset) = .ok σ ∧
    let τ := σ.play [⟨"mkdir s", 1⟩, ⟨"touch s/a a b", 2⟩]
    (Builtin.mv ["a", "s/b"]).Fails τ τ ∧ IsEmpty (HalfMove τ ["a", "s/b"]) := by
  let ts : List Typed := [⟨"mkdir s", 1⟩, ⟨"touch s/a a b", 2⟩]
  have hrun : (session {} 0 fun _ => .unset).map (fun σ =>
      let x := Builtin.mv ["a", "s/b"]
      ((x.result? (σ.play ts)).map (·.exitCode),
        decide ((x.after (σ.play ts)).store = (σ.play ts).store))) = .ok (some 1, true) := by
    decide +kernel
  obtain ⟨σ, hσ, S⟩ := exists_play ts
  rw [hσ] at hrun
  obtain ⟨hcode, hstore⟩ := Prod.mk.inj (Except.ok.inj hrun)
  have hstore := of_decide_eq_true hstore
  refine ⟨σ, hσ, ?_⟩
  generalize σ.play ts = τ at S hcode hstore ⊢
  dsimp only at hcode hstore ⊢
  obtain ⟨r, hr, hcode⟩ := Option.map_eq_some_iff.mp hcode
  have hmv := Run.eq_ok_of_result? hr
  have hfails : (Builtin.mv ["a", "s/b"]).Fails τ ((Builtin.mv ["a", "s/b"]).after τ) := by
    unfold Run.Fails
    rw [hmv]
    exact ⟨by simp [hcode], rfl⟩
  obtain ⟨hiff, hcases, -⟩ := Builtin.mv_failed_iff S.toForest.tidy ["a", "s/b"]
  have hempty : IsEmpty (HalfMove τ ["a", "s/b"]) := by
    refine hiff.mp fun υ hυ => ?_
    unfold Run.Fails at hυ
    rw [hmv] at hυ
    rw [← hυ.2]
    exact hstore
  refine ⟨?_, hempty⟩
  rcases hcases _ hfails with h | ⟨half, -⟩
  · rwa [h] at hfails
  · exact (hempty.false half).elim

/-- A folder that is to come below itself under a new name keeps its place and has the new name,
when a folder of its old name is there. -/
theorem mv_failed_renames : ∃ σ, session {} 0 (fun _ => .unset) = .ok σ ∧
    let τ := σ.play [⟨"mkdir a a/sub a/sub/a", 1⟩]
    Forest τ.store ∧ (∀ p, τ.store.Apart p) ∧
      (∀ id n, τ.store.get? id = some n → n.kind = .file → n.children = none) ∧
      ∃ υ, (Builtin.mv ["a", "a/sub/b"]).Fails τ υ ∧
        (τ.store.get? "file-1").map (·.name) = some "a" ∧
        (υ.store.get? "file-1").map (·.name) = some "b" := by
  let ts : List Typed := [⟨"mkdir a a/sub a/sub/a", 1⟩]
  have hrun : (session {} 0 fun _ => .unset).map (fun σ =>
      let τ := σ.play ts
      let x := Builtin.mv ["a", "a/sub/b"]
      ((x.result? τ).map (·.exitCode), decide (τ.store.Apart τ.store.binId),
        (τ.store.get? "file-1").map (·.name), ((x.after τ).store.get? "file-1").map (·.name))) =
      .ok (some 1, true, some "a", some "b") := by
    decide +kernel
  obtain ⟨σ, hσ, S⟩ := exists_play ts
  rw [hσ] at hrun
  obtain ⟨hcode, hrun⟩ := Prod.mk.inj (Except.ok.inj hrun)
  obtain ⟨hbin, hrun⟩ := Prod.mk.inj hrun
  obtain ⟨hold, hnew⟩ := Prod.mk.inj hrun
  have hbin := of_decide_eq_true hbin
  refine ⟨σ, hσ, ?_⟩
  generalize σ.play ts = τ at S hcode hbin hold hnew ⊢
  dsimp only at hcode hbin hold hnew ⊢
  obtain ⟨r, hr, hcode⟩ := Option.map_eq_some_iff.mp hcode
  refine ⟨S.toForest, fun p => ?_, S.leaf, (Builtin.mv ["a", "a/sub/b"]).after τ, ?_, hold, hnew⟩
  · by_cases hp : p = τ.store.binId
    · rwa [hp]
    · rw [Store.apart_iff S.toForest.tidy]
      rintro c d name ⟨hc, m, hm, hmn⟩ ⟨hd, n, hn, hnn⟩
      exact S.siblings p c d m n hp hc hd hm hn (hmn.trans hnn.symm)
  · unfold Run.Fails
    rw [Run.eq_ok_of_result? hr]
    exact ⟨by simp [hcode], rfl⟩

end Desktop
end DeskShell

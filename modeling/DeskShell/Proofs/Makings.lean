import DeskShell.Proofs.Additions
import DeskShell.Proofs.FolderParts

/-!
# What `mkdir` and `touch` find and make

Both commands split a path into its folder part and its last name, and look for a child of that name
in that folder. They do not ask where the path as a whole leads. The two questions have one answer for
every path that ends in an ordinary name, and for every path that leads nowhere. A path that ends in a
dot or two, or that is another way to write the top of the tree, leads to an entry that is not looked
for.

* `Session.Stands`: what the commands look for.
* `Session.stands_of_resolve`: for which paths it is what the path leads to.
* `Making.planned_plan`: what the commands find out. `Making.cases_of_makeAll`: what they have done
  when they end with exit code 0.
* `Session.Occupied`, `Session.MakesAt`: what they should do for a path that leads somewhere, and for one
  that leads nowhere.
* `Desktop.touch_mkdir_of_resolve`: when they do.
-/
namespace DeskShell

variable {C : Type} {s : Store} {σ τ : Session C} {path : String}

/-! ## What is looked for -/

namespace Session

/-- In the folder part of the path, the entry `n` is found under the last name. -/
def Stands (σ : Session C) (path : String) (n : Node) : Prop :=
  ∃ folder name, σ.resolveParent path = .ok (some folder, name) ∧ name ≠ "" ∧
    σ.store.childNamed folder name = some n

/-- A path that ends in an ordinary name and leads below the top leads to the entry that is found
under that name in the folder part of it. -/
theorem stands_of_resolve {place : Place} (h : σ.resolve (some path) = .ok (some place))
    (hlast : (Path.splitParent path).2 ∉ ["", ".", ".."])
    (hroot : Path.isAbsolute path = true → place.id ≠ σ.store.rootId) :
    ∃ n, σ.Stands path n ∧ n.id = place.id := by
  obtain ⟨hname, hdot, hdots⟩ : _ ≠ "" ∧ _ ≠ "." ∧ _ ≠ ".." := by simpa using hlast
  have htop : ¬ NamesTop σ.store path := fun htop => hroot htop.1 (id_of_namesTop h htop)
  rcases hsplit : Path.splitParent path with ⟨_ | head, name⟩
  all_goals
    rw [hsplit] at hname hdot hdots
  · have hids := ids_resolve_bare hsplit hname ⟨hdot, hdots⟩ htop
    rw [h] at hids
    obtain ⟨n, hn, hid⟩ := Option.map_eq_some_iff.mp (Except.ok.inj hids).symm
    exact ⟨n, ⟨σ.folder, name, resolveParent_bare hsplit, hname, hn⟩, hid⟩
  · have hids := ids_resolve_folder hsplit hname ⟨hdot, hdots⟩ htop
    have hparent := resolveParent_folder hsplit (σ := σ)
    rw [h] at hids
    cases hhead : σ.resolve (some head) with
    | error f =>
      rw [hhead] at hids
      cases hids
    | ok found =>
      rw [hhead] at hids hparent
      obtain ⟨n, hn, hid⟩ := Option.map_eq_some_iff.mp (Except.ok.inj hids).symm
      obtain ⟨folder, hfolder, hn⟩ := Option.bind_eq_some_iff.mp hn
      refine ⟨n, ⟨folder, name, ?_, hname, hn⟩, hid⟩
      rw [hparent, ← hfolder]
      rfl

end Session

/-! ## What is made -/

namespace Builtin

open Session (Stands)

namespace Making

def kind : Making → Kind
  | folder => .folder
  | file => .file

theorem kindOf_record (m : Making) (name : String) : (m.record name).kindOf = .ok m.kind := by
  cases m <;> rfl

/-- There is nothing to be done as the file is there, or an entry is to be made under a free name. -/
inductive Planned (m : Making) (path : String) (σ : Session C) : Option (String × String) → Prop
  | stands {n : Node} (hm : m = .file) (h : σ.Stands path n) : Planned m path σ none
  | free {folder name : String} (hparent : σ.resolveParent path = .ok (some folder, name))
      (hname : name ≠ "") (hfree : σ.store.childNamed folder name = none) :
      Planned m path σ (some (folder, name))

theorem planned_plan (m : Making) (path : String) (σ : Session C) :
    (m.plan path σ).Yields (fun r => r.exitCode ≠ 0) (m.Planned path σ) := by
  have hfailed : ∀ message, (Result.failure message).exitCode ≠ 0 := fun _ =>
    (by decide : (1 : Int) ≠ 0)
  unfold plan
  cases hparent : σ.resolveParent path with
  | error f => exact .fault f
  | ok found =>
    obtain ⟨_ | folder, name⟩ := found
    · exact .ended (hfailed _)
    · simp only [Inquiry.lift, bind, Except.bind]
      split
      · exact .ended (hfailed _)
      · next hname =>
        split
        · cases hchild : σ.store.childNamed folder name with
          | none => exact .found (.free hparent hname hchild)
          | some n =>
            cases m with
            | file => exact .found (.stands rfl ⟨folder, name, hparent, hname, hchild⟩)
            | folder => exact .ended (hfailed _)
        · exact .ended (hfailed _)

/-- Where the entry stands, a file is touched without effect and a folder is not made. -/
theorem plan_of_stands {home : String} (S : σ.store.Sound home) {n : Node} (h : σ.Stands path n) :
    file.plan path σ = .ok none ∧
      ∃ message, folder.plan path σ = .error (.result (.failure message)) := by
  obtain ⟨p, name, hparent, hname, hchild⟩ := h
  obtain ⟨dir, hdir, hisDir⟩ := S.hasDir_of_lists (Store.childNamed_eq_some hchild).1
  constructor
  · simp [plan, hparent, Inquiry.lift, bind, Except.bind, hname, hdir, hisDir, hchild, pure,
      Except.pure]
  · simp [plan, hparent, Inquiry.lift, bind, Except.bind, hname, hdir, hisDir, hchild, Inquiry.fail]

/-- What has been made by one of the commands: `τ` is `σ` with one entry more, at the end of a folder. -/
theorem grows_of_add {m : Making} {folder name id : String}
    (h : Run.add (m.record name) folder σ = .ok id τ) : ∃ p made,
      σ.store.Makes (m.record name) folder σ.clock p made ∧ made.id = id ∧
      σ.Grows τ folder [made.id] [made] ∧ ∃ k notes, τ = { σ with
        store := ({ σ.store with counter := k }.insert made).adjust folder (Node.pushChild made.id)
        notes } := by
  rcases Store.add_cases (m.record name) folder σ.clock σ.store with
    ⟨f, hadd⟩ | ⟨f, hadd, -⟩ | ⟨p, made, hmakes, hadd⟩
  · cases (Run.add_of_error hadd).symm.trans h
  · cases (Run.add_of_error hadd).symm.trans h
  · obtain ⟨notes, hrun⟩ := Run.add_of_ok hadd
    obtain ⟨rfl, rfl⟩ := EStateM.Result.ok.inj (hrun.symm.trans h)
    have hgains := hmakes.gains (σ.store.freeNumber + 1)
    exact ⟨p, made, hmakes, rfl, ⟨rfl, hgains.nodes, by simpa using hgains.fresh, by simp⟩, _, notes,
      rfl⟩

/-- With exit code 0 nothing has been done for a file that stands, or one entry has been made. -/
theorem cases_of_makeAll {m : Making} {r : Result} (h : m.makeAll [path] σ = .ok r τ)
    (hcode : r.exitCode = 0) : (m = .file ∧ τ = σ ∧ ∃ n, σ.Stands path n) ∨
      ∃ folder name id, σ.resolveParent path = .ok (some folder, name) ∧ name ≠ "" ∧
        Run.add (m.record name) folder σ = .ok id τ := by
  obtain ⟨r', υ, hmake, hrest⟩ := Engine.bind_eq_ok h
  obtain ⟨hcode', rfl⟩ : r'.exitCode = 0 ∧ υ = τ := by
    by_cases hzero : r'.exitCode = 0
    · rw [if_pos hzero] at hrest
      exact ⟨hzero, (EStateM.Result.ok.inj hrest).2⟩
    · rw [if_neg hzero] at hrest
      obtain ⟨rfl, -⟩ := EStateM.Result.ok.inj hrest
      exact absurd hcode hzero
  have hplanned := m.planned_plan path σ
  unfold make Inquiry.andThen at hmake
  cases hplan : m.plan path σ with
  | error stop =>
    rw [hplan] at hmake hplanned
    cases hplanned with
    | ended hr =>
      obtain ⟨rfl, -⟩ := EStateM.Result.ok.inj hmake
      exact absurd hcode' hr
    | fault f => cases hmake
  | ok found =>
    rw [hplan] at hmake hplanned
    cases hplanned with
    | found hfound =>
      cases hfound with
      | stands hm hn =>
        obtain ⟨-, rfl⟩ := EStateM.Result.ok.inj hmake
        exact .inl ⟨hm, rfl, _, hn⟩
      | @free folder name hparent hname _ =>
        obtain ⟨id, υ', hadd, hdone⟩ := Engine.bind_eq_ok hmake
        obtain ⟨-, rfl⟩ := EStateM.Result.ok.inj hdone
        exact .inr ⟨folder, name, id, hparent, hname, hadd⟩

end Making

theorem touch_operand (h : Args.startsWithDash path = false) :
    (touch [path] : Run C Result) = Making.file.makeAll [path] := by
  have hargs : (Args.parse [path]).operands = [path] := Args.operands_parse (by simpa using h)
  simp only [touch, hargs]

theorem mkdir_operand (h : Args.startsWithDash path = false) :
    (mkdir [path] : Run C Result) = Making.folder.makeAll [path] := by
  have hargs : (Args.parse [path]).operands = [path] := Args.operands_parse (by simpa using h)
  simp only [mkdir, hargs]

end Builtin

/-! ## What should be done -/

namespace Session

open Builtin (Making touch mkdir touch_operand mkdir_operand)

/-- A file at the path counts as touched and a folder there as refused, and neither command changes
the store. -/
structure Occupied (σ : Session C) (path : String) : Prop where
  touched : ∃ r τ, touch [path] σ = .ok r τ ∧ r.exitCode = 0 ∧ τ.store = σ.store
  refused : ∃ r τ, mkdir [path] σ = .ok r τ ∧ r.exitCode ≠ 0 ∧ τ.store = σ.store

/-- Between `σ` and `τ` one entry has been made, without children, and the path leads to it. -/
def MakesAt (σ τ : Session C) (path : String) (k : Kind) : Prop :=
  ∃ folder made, σ.Grows τ folder [made.id] [made] ∧ made.kind = k ∧ made.childIds = [] ∧
    τ.LeadsTo path made.id

variable {home : String} (S : σ.store.Sound home)

include S

/-- The commands leave a path alone if they find an entry where they look for one. -/
theorem occupied_iff (hdash : Args.startsWithDash path = false) :
    σ.Occupied path ↔ ∃ n, σ.Stands path n := by
  constructor
  · rintro ⟨⟨r, τ, htouch, hcode, hstore⟩, -⟩
    rw [touch_operand hdash] at htouch
    rcases Making.cases_of_makeAll htouch hcode with
      ⟨-, -, hstands⟩ | ⟨folder, name, id, -, -, hadd⟩
    · exact hstands
    · -- The entry that has been made was not in the store.
      obtain ⟨p, made, -, -, hgrows, -⟩ := Making.grows_of_add hadd
      have hmade := hgrows.get?_of_mem (List.mem_singleton.mpr rfl)
      rw [hstore] at hmade
      exact absurd (Store.has_of_get? hmade)
        (by simp [hgrows.fresh made (List.mem_singleton.mpr rfl)])
  · rintro ⟨n, hn⟩
    obtain ⟨hfile, message, hfolder⟩ := Making.plan_of_stands S hn
    have htouch : touch [path] σ = .ok .done σ := by
      simp [touch_operand hdash, Making.makeAll, Making.make, Inquiry.andThen, hfile, bind,
        EStateM.bind, pure, EStateM.pure, Result.done]
    have hmkdir : mkdir [path] σ = .ok (.failure message) σ := by
      simp [mkdir_operand hdash, Making.makeAll, Making.make, Inquiry.andThen, hfolder, bind,
        EStateM.bind, pure, EStateM.pure, Result.failure]
    exact ⟨⟨_, σ, htouch, rfl, rfl⟩, _, σ, hmkdir, (by decide : (1 : Int) ≠ 0), rfl⟩

/-- A path that leads nowhere leads to what is made there. -/
theorem makesAt_of_makeAll {m : Making} {r : Result} (hr : σ.resolve (some path) = .ok none)
    (h : m.makeAll [path] σ = .ok r τ) (hcode : r.exitCode = 0) : σ.MakesAt τ path m.kind := by
  have L := Store.linked_of_forest S.toForest
  rcases Making.cases_of_makeAll h hcode with ⟨-, -, n, hn⟩ | ⟨folder, name, id, hparent, hname, hadd⟩
  · obtain ⟨p, name, hparent, hname, hchild⟩ := hn
    have hp := (Store.childNamed_eq_some hchild).1.has
    cases (childNamed_of_resolve_none L hr hparent hname hp).symm.trans hchild
  · obtain ⟨p, made, hmakes, -, hgrows, k, notes, rfl⟩ := Making.grows_of_add hadd
    obtain ⟨-, hmname, hkind, -⟩ := hmakes.fields
    rw [m.name_record] at hmname
    rw [m.kindOf_record] at hkind
    have hnone := hmakes.childIds (m.childless_record name).bare
    exact ⟨folder, made, hgrows, (Except.ok.inj hkind).symm, hnone,
      leadsTo_makes L hr hparent hname hmakes (Option.some.inj hmname).symm hnone rfl notes⟩

end Session

namespace Desktop

open Builtin (touch mkdir)

/-- Whatever has been typed into a session on a fresh desktop, at a path that leads nowhere `touch`
and `mkdir` make what the path leads to then, if they end with exit code 0. At a path that leads
somewhere they leave the store alone, the one with success and the other without, if and only if they
find an entry under the last name in the folder part of the path; and they find what the path leads
to, unless it ends in a dot or two or is another way to write the top. -/
theorem touch_mkdir_of_resolve {o : Session.Options} {now : Int} {hooks : Signal → Hook}
    {σ : Session Builtin.Program} (hσ : session o now hooks = .ok σ)
    (hhome : σ.store.HasDir σ.home) (ts : List Typed) {path : String}
    (hdash : Args.startsWithDash path = false) {found : Option Session.Place}
    (hr : (σ.play ts).resolve (some path) = .ok found) :
    let τ := σ.play ts
    (∀ place, found = some place → (τ.Occupied path ↔ ∃ n, τ.Stands path n) ∧
      ((Path.splitParent path).2 ∉ ["", ".", ".."] →
        (Path.isAbsolute path = true → place.id ≠ τ.store.rootId) →
        ∃ n, τ.Stands path n ∧ n.id = place.id)) ∧
    (found = none → ∀ r υ, r.exitCode = 0 →
      (touch [path] τ = .ok r υ → τ.MakesAt υ path .file) ∧
        (mkdir [path] τ = .ok r υ → τ.MakesAt υ path .folder)) := by
  intro τ
  have S : τ.store.Sound τ.home :=
    (Session.inOrder_play Path.bare_splitParent (inOrder_of_session hσ hhome) ts).sound
  constructor
  · rintro place rfl
    exact ⟨Session.occupied_iff S hdash, Session.stands_of_resolve hr⟩
  · rintro rfl r υ hcode
    rw [Builtin.touch_operand hdash, Builtin.mkdir_operand hdash]
    exact ⟨fun h => Session.makesAt_of_makeAll S hr h hcode,
      fun h => Session.makesAt_of_makeAll S hr h hcode⟩

/-- On a fresh desktop there is a file to be touched, and nothing where a folder is made. -/
theorem touch_contact_mkdir_docs : ∃ σ, session {} 0 (fun _ => .unset) = .ok σ ∧
    σ.LeadsTo "contact.TXT" "contact" ∧ σ.Occupied "contact.TXT" ∧
    ∃ υ, σ.resolve (some "My Projects/docs/") = .ok none ∧
      mkdir ["My Projects/docs/"] σ = .ok .done υ ∧ σ.MakesAt υ "My Projects/docs/" .folder := by
  have hrun : (session {} 0 fun _ => .unset).map (fun σ =>
      (σ.resolve (some "contact.TXT"), σ.resolve (some "My Projects/docs/"),
        (mkdir ["My Projects/docs/"]).result? σ)) =
      .ok (.ok (some ⟨"contact", "C:\\Desktop\\Contact.txt"⟩), .ok none, some .done) := by
    decide +kernel
  obtain ⟨σ, hσ, hin, -⟩ := exists_session {} 0 fun _ => .unset
  have hrun := eq_of_session hσ hrun
  simp only [Prod.mk.injEq] at hrun
  obtain ⟨hcontact, hdocs, hmkdir⟩ := hrun
  have hmkdir := Run.eq_ok_of_result? hmkdir
  obtain ⟨hsome, -⟩ := touch_mkdir_of_resolve hσ hin.sound.home [] rfl hcontact
  obtain ⟨-, hnone⟩ := touch_mkdir_of_resolve hσ hin.sound.home [] rfl hdocs
  obtain ⟨hiff, hstands⟩ := hsome _ rfl
  obtain ⟨n, hn, -⟩ := hstands (by decide) fun h => by cases h
  exact ⟨σ, hσ, ⟨_, hcontact, rfl⟩, hiff.mpr ⟨n, hn⟩, _, hdocs, hmkdir,
    (hnone rfl _ _ rfl).2 hmkdir⟩

/-- Two dots lead from the desktop to the desktop, which is the top. They are not left alone: a file
comes to the desktop that has them for its name. -/
theorem not_occupied_dots : ∃ σ, session {} 0 (fun _ => .unset) = .ok σ ∧
    σ.LeadsTo ".." "desktop" ∧ ¬ σ.Occupied ".." ∧
    ∃ τ n, touch [".."] σ = .ok .done τ ∧ σ.store.get? "file-1" = none ∧
      τ.store.get? "file-1" = some n ∧ n.name = ".." := by
  have hrun : (session {} 0 fun _ => .unset).map (fun σ =>
      let x := touch [".."]
      (σ.resolve (some ".."), x.result? σ, σ.store.has "file-1",
        ((x.after σ).store.get? "file-1").map (·.name))) =
      .ok (.ok (some ⟨"desktop", "C:\\Desktop"⟩), some .done, false, some "..") := by
    decide +kernel
  obtain ⟨σ, hσ, -⟩ := exists_session {} 0 fun _ => .unset
  have hrun := eq_of_session hσ hrun
  simp only [Prod.mk.injEq] at hrun
  obtain ⟨hdots, htouch, hfresh, hname⟩ := hrun
  have htouch := Run.eq_ok_of_result? htouch
  obtain ⟨n, hn, hname⟩ := Option.map_eq_some_iff.mp hname
  have hnone := Store.get?_eq_none_iff.mpr hfresh
  refine ⟨σ, hσ, ⟨_, hdots, rfl⟩, fun hocc => ?_, _, n, htouch, hnone, hn, hname⟩
  obtain ⟨r, τ, htouch', -, hstore⟩ := hocc.touched
  obtain ⟨-, rfl⟩ := EStateM.Result.ok.inj (htouch.symm.trans htouch')
  rw [hstore, hnone] at hn
  cases hn

end Desktop
end DeskShell

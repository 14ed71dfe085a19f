import DeskShell.Proofs.Places
import DeskShell.Builtin.Program
import DeskShell.Shell.Engine

/-!
# Walking through the built-in commands

What a command keeps, put together from what the changes of the store that it makes keep. The
relation that is kept is a parameter: a frame as in `Session.Frame`. Of a change is known here what
the command has looked up before it makes it.

* `Builtin.keeps_mkdir`, `Builtin.keeps_cp` and their like: one result for each command that acts.
* `Redirect.keeps_write`: redirected output.
* `Builtin.Program.keeps_run`: a command from what it does.
* `Session.WideFrame`: frames kept by all changes but those that lose something;
  `Session.WideFrame.keeps_run` is one result for all commands but `cp`.
* `Session.FullFrame`: frames kept by all changes; `Session.FullFrame.keeps_runCommand` is one
  result for all commands with all redirects.
* `Engine.keeps_settle`, `Engine.keeps_report`: what becomes of its result.
* `Engine.after_runCommand`: a command of a line is one after the other;
  `Engine.keeps_runCommand`: so it keeps what they keep.
-/
namespace DeskShell

open Session (Frame)
open Run (Keeps)
open Inquiry (bind_eq_ok lift_eq_ok)

variable {C : Type} {R : Session C → Session C → Prop} {N : String → Prop} {σ : Session C}

namespace Builtin

/-! ## Making entries -/

theorem Making.childless_record (m : Making) (name : String) : (m.record name).Childless := by
  intro k hk hc
  cases m with
  | file => rfl
  | folder =>
    obtain rfl := Except.ok.inj hk
    cases hc

theorem Making.name_record (m : Making) (name : String) : (m.record name).name = some name := by
  cases m <;> rfl

theorem Making.name_of_plan {m : Making} {path parent name : String}
    (h : m.plan path σ = .ok (some (parent, name))) : name = (Path.splitParent path).2 := by
  obtain ⟨found, hfound, h⟩ := bind_eq_ok h
  have hfound := lift_eq_ok hfound
  split at h
  · cases h
  · next parent' name' =>
    split at h
    · cases h
    · split at h
      · split at h
        · obtain ⟨-, rfl⟩ := Prod.mk.inj (Option.some.inj (Except.ok.inj h))
          exact Session.name_of_resolveParent hfound
        · split at h <;> cases h
      · cases h

theorem Making.keeps_make (F : Frame R) {m : Making}
    (hadd : ∀ path parent, (Run.add (m.record (Path.splitParent path).2) parent).Keeps R)
    (path : String) : (m.make path).Keeps R := by
  refine fun σ => F.andThen_at fun found hplan => ?_
  cases found with
  | none => exact F.pure _ σ
  | some entry =>
    obtain ⟨parent, name⟩ := entry
    dsimp only
    rw [name_of_plan hplan]
    exact F.bind (hadd path parent) (fun _ => F.pure _) σ

theorem Making.keeps_makeAll (F : Frame R) {m : Making}
    (hadd : ∀ path parent, (Run.add (m.record (Path.splitParent path).2) parent).Keeps R) :
    ∀ paths, (m.makeAll paths).Keeps R
  | [] => F.pure _
  | path :: rest => by
    refine F.bind (keeps_make F hadd path) fun r => ?_
    split
    · exact keeps_makeAll F hadd rest
    · exact F.pure r

theorem keeps_mkdir (F : Frame R) (hadd : ∀ path parent,
    (Run.add (Making.folder.record (Path.splitParent path).2) parent).Keeps R)
    (args : List String) : (mkdir args).Keeps R := by
  unfold mkdir
  split
  · exact F.pure _
  · exact Making.keeps_makeAll F hadd _

theorem keeps_touch (F : Frame R) (hadd : ∀ path parent,
    (Run.add (Making.file.record (Path.splitParent path).2) parent).Keeps R)
    (args : List String) : (touch args).Keeps R := by
  unfold touch
  split
  · exact F.pure _
  · exact Making.keeps_makeAll F hadd _

/-! ## Copying -/

theorem childless_copyRecord (n : Node) (name : String) : (copyRecord n name).Childless := by
  intro k hk hc
  unfold copyRecord
  by_cases hn : n.isContainer = true
  · -- A container is copied as one.
    have hkind : (if n.kind = .systemFolder then Kind.folder else n.kind) = k := by
      simpa [copyRecord, Record.kindOf, Kind.ofWord?_word] using hk
    unfold Node.isContainer at hn
    subst hkind
    cases hkn : n.kind <;> simp_all [Kind.isContainer]
  · simp [hn]

theorem keeps_copyAll (F : Frame R) {copyOne : String → Run C String}
    (h : ∀ id, (copyOne id).Keeps R) : ∀ ns, (copyAll copyOne ns).Keeps R
  | [] => F.pure ()
  | n :: rest => F.bind (h n.id) fun _ => keeps_copyAll F h rest

/-- A copy of an entry has a name that is given for it, in `N`, or the name of the entry. -/
theorem keeps_copyFrom (F : Frame R) (hadd : ∀ σ n name parent, n ∈ σ.store.nodes →
    (name = n.name ∨ N name) → R σ ((Run.add (copyRecord n name) parent).after σ)) :
    ∀ (fuel : Nat) (id parent name : String), (name ≠ "" → N name) →
      (copyFrom fuel id parent name).Keeps R
  | 0, _, _, _, _ => F.fault _
  | fuel + 1, id, parent, name, hname => by
    refine fun σ => F.ask_at fun n hn => ?_
    have hn := Store.mem_nodes_of_get? (Store.require_eq_ok.mp hn)
    refine F.bind_at (hadd σ n _ parent hn ?_) fun made τ _ => ?_
    · split
      · exact .inl rfl
      · next h => exact .inr (hname h)
    · split
      · refine F.bind (F.ask _) (fun inside => F.bind (keeps_copyAll F (fun child => ?_) inside)
          fun _ => F.pure made) τ
        exact keeps_copyFrom F hadd fuel child made "" fun h => absurd rfl h
      · exact F.pure made τ

theorem keeps_copyTree (F : Frame R) (hadd : ∀ σ n name parent, n ∈ σ.store.nodes →
    (name = n.name ∨ N name) → R σ ((Run.add (copyRecord n name) parent).after σ))
    {name : String} (hname : N name) (id parent : String) : (copyTree id parent name).Keeps R :=
  F.bind F.get fun _ => keeps_copyFrom F hadd _ _ _ _ fun _ => hname

theorem CopyPlan.stored_of_sourceOf {source : String} {recursive : Bool} {n : Node}
    (h : sourceOf source recursive σ = .ok n) : σ.store.get? n.id = some n := by
  obtain ⟨⟨place, node⟩, hfound, h⟩ := bind_eq_ok h
  obtain ⟨-, rfl⟩ := Session.locate_eq_ok hfound
  dsimp only at h
  split at h
  · cases h
  · next m hm =>
    split at h
    · cases h
    · split at h
      · cases h
      · obtain rfl := Except.ok.inj h
        rwa [Store.id_of_get? hm]

/-- A copy is planned in the directory that the path `dest` leads to, in the place of the file that
it leads to, or under a new name. -/
theorem CopyPlan.cases_of_placeFor {n : Node} {dest : String} {plan : CopyPlan}
    (h : placeFor n dest σ = .ok plan) :
    (∃ place d, σ.resolveNode (some dest) = .ok (some (place, some d)) ∧ d.isDir = true ∧
      d.isSystem = false ∧ plan = ⟨n, d.id, n.name, σ.store.childNamed d.id n.name⟩) ∨
    (∃ place d, σ.resolveNode (some dest) = .ok (some (place, some d)) ∧ d.isDir = false ∧
      plan = ⟨n, ((σ.store.parent? d.id).map (·.id)).getD σ.folder, d.name, some d⟩) ∨
    ∃ found parent name, σ.resolveNode (some dest) = .ok found ∧ found.bind (·.2) = none ∧
      σ.resolveParent dest = .ok (some parent, name) ∧ name ≠ "" ∧
      plan = ⟨n, parent, name, none⟩ := by
  obtain ⟨found, hfound, h⟩ := bind_eq_ok h
  rw [lift_eq_ok hfound]
  split at h
  · next d hd =>
    obtain ⟨⟨place, node⟩, rfl, rfl⟩ := Option.bind_eq_some_iff.mp hd
    split at h
    · next hdir =>
      split at h
      · cases h
      · next hsys =>
        exact .inl ⟨place, d, rfl, hdir, by simpa using hsys, (Except.ok.inj h).symm⟩
    · next hdir => exact .inr (.inl ⟨place, d, rfl, by simpa using hdir, (Except.ok.inj h).symm⟩)
  · next hnone =>
    obtain ⟨⟨parent, name⟩, hparent, h⟩ := bind_eq_ok h
    split at h
    · cases h
    · next parent' name' heq =>
      obtain ⟨rfl, rfl⟩ := Prod.mk.inj heq
      split at h
      · cases h
      · next hname =>
        exact .inr (.inr ⟨found, _, _, rfl, hnone, lift_eq_ok hparent, hname,
          (Except.ok.inj h).symm⟩)

/-- A plan has an entry that may be copied and a place for it. It takes the place of no directory and
not that of the entry itself, and a container does not come into itself. -/
theorem CopyPlan.of_ofPaths {source dest : String} {recursive : Bool} {plan : CopyPlan}
    (h : ofPaths source dest recursive σ = .ok plan) : ∃ n, sourceOf source recursive σ = .ok n ∧
      placeFor n dest σ = .ok plan ∧
      (∀ old, plan.existing = some old → old.id ≠ n.id ∧ old.isDir = false) ∧
      (n.isContainer = true → σ.store.isWithin plan.parent n.id = false) := by
  obtain ⟨n, hn, h⟩ := bind_eq_ok h
  obtain ⟨plan', hplan, h⟩ := bind_eq_ok h
  split at h
  · cases h
  · next hne =>
    split at h
    · cases h
    · next hwithin =>
      split at h
      · cases h
      · next hdir =>
        obtain rfl := Except.ok.inj h
        refine ⟨n, hn, hplan, fun old hold => ?_, fun hcont => by simpa [hcont] using hwithin⟩
        rw [hold] at hne hdir
        exact ⟨fun h => hne (congrArg some h), by simpa using hdir⟩

/-- What is replaced by a copy is a stored file. It is in a folder of the store, or it is what a path
leads to. -/
theorem CopyPlan.file_of_ofPaths {source dest : String} {recursive : Bool} {plan : CopyPlan}
    (h : ofPaths source dest recursive σ = .ok plan) {old : Node}
    (hold : plan.existing = some old) :
    σ.store.get? old.id = some old ∧ old.isDir = false ∧ ((∃ p, σ.store.Lists p old.id) ∨
      ∃ path place, σ.resolve path = .ok (some place) ∧ place.id = old.id) := by
  obtain ⟨n, -, hplan, hfile, -⟩ := of_ofPaths h
  refine ⟨?_, (hfile old hold).2, ?_⟩ <;>
  rcases cases_of_placeFor hplan with
    ⟨place, d, hd, -, -, rfl⟩ | ⟨place, d, hd, -, rfl⟩ | ⟨_, _, _, -, -, -, -, rfl⟩
  · exact (Store.childNamed_eq_some hold).2.1
  · obtain rfl := Option.some.inj hold
    obtain ⟨-, hnode⟩ := Session.resolveNode_eq_ok hd
    rw [Store.id_of_get? hnode.symm, hnode]
  · cases hold
  · exact .inl ⟨_, (Store.childNamed_eq_some hold).1⟩
  · obtain rfl := Option.some.inj hold
    obtain ⟨hplace, hnode⟩ := Session.resolveNode_eq_ok hd
    exact .inr ⟨_, place, hplace, (Store.id_of_get? hnode.symm).symm⟩
  · cases hold

theorem keeps_cp (F : Frame R) (hact : ∀ σ source dest recursive plan,
    CopyPlan.ofPaths source dest recursive σ = .ok plan → R σ (plan.act.after σ))
    (args : List String) : (cp args).Keeps R := by
  unfold cp
  dsimp only
  split
  · exact fun σ => F.andThen_at fun plan hplan => hact σ _ _ _ plan hplan
  · exact F.pure _

/-! ## Moving and renaming -/

/-- A new name that a plan of `mv` gives is in `N`. -/
def MovePlan.Named (N : String → Prop) : MovePlan → Prop
  | into _ => True
  | place _ name _ => N name

theorem MovePlan.eq_of_placeFor {n : Node} {source dest : String} {plan : MovePlan}
    (h : placeFor n source dest σ = .ok plan) : ∃ folder name,
      σ.resolveParent dest = .ok (some folder, name) ∧ name ≠ "" ∧
        isOther (σ.store.childNamed folder name) n.id = false ∧
        plan = .place folder name (isOther (σ.store.childNamed folder n.name) n.id) := by
  obtain ⟨⟨parent, name⟩, hparent, h⟩ := bind_eq_ok h
  split at h
  · cases h
  · next folder name' heq =>
    obtain ⟨rfl, rfl⟩ := Prod.mk.inj heq
    split at h
    · cases h
    · next hname =>
      split at h
      · cases h
      · next hother =>
        exact ⟨folder, name, lift_eq_ok hparent, hname, by simpa using hother,
          (Except.ok.inj h).symm⟩

/-- What is planned is a move into the container that the path `dest` leads to, or a new place and
name at a path that leads to no container. -/
theorem MovePlan.cases_of_ofPaths {n : Node} {source dest : String} {plan : MovePlan}
    (h : ofPaths n source dest σ = .ok plan) :
    (∃ place d, σ.resolveNode (some dest) = .ok (some (place, some d)) ∧ d.isContainer = true ∧
      plan = .into d.id) ∨
    (∀ place d, σ.resolveNode (some dest) = .ok (some (place, some d)) → d.isContainer = false) ∧
      ∃ folder name, σ.resolveParent dest = .ok (some folder, name) ∧ name ≠ "" ∧
        isOther (σ.store.childNamed folder name) n.id = false ∧
        plan = .place folder name (isOther (σ.store.childNamed folder n.name) n.id) := by
  obtain ⟨found, hfound, h⟩ := bind_eq_ok h
  rw [lift_eq_ok hfound]
  cases hd : found.bind (·.2) with
  | none =>
    rw [hd] at h
    refine .inr ⟨fun place d hplace => ?_, eq_of_placeFor h⟩
    obtain rfl := Except.ok.inj hplace
    cases hd
  | some d =>
    rw [hd] at h
    obtain ⟨⟨place, node⟩, rfl, rfl⟩ := Option.bind_eq_some_iff.mp hd
    dsimp only at h
    split at h
    · next hcont => exact .inl ⟨place, d, rfl, hcont, (Except.ok.inj h).symm⟩
    · next hcont =>
      split at h
      · cases h
      · refine .inr ⟨fun place' d' hplace => ?_, eq_of_placeFor h⟩
        obtain ⟨-, hnode⟩ := Prod.mk.inj (Option.some.inj (Except.ok.inj hplace))
        obtain rfl := Option.some.inj hnode
        simpa using hcont

theorem MovePlan.named_ofPaths (hN : ∀ path, N (Path.splitParent path).2) {n : Node}
    {source dest : String} {plan : MovePlan} (h : ofPaths n source dest σ = .ok plan) :
    plan.Named N := by
  rcases cases_of_ofPaths h with ⟨-, d, -, -, rfl⟩ | ⟨-, folder, name, hparent, -, -, rfl⟩
  · trivial
  · unfold Named
    rw [Session.name_of_resolveParent hparent]
    exact hN dest

theorem MovePlan.keeps_act (F : Frame R) (hmove : ∀ id target, (Run.move id target).Keeps R)
    {plan : MovePlan} (h : plan.Named fun name => ∀ id, (Run.rename id name).Keeps R)
    (id : String) : (plan.act id).Keeps R := by
  cases plan with
  | into folder => exact hmove id folder
  | place folder name first =>
    cases first with
    | true => exact F.bind (h id) fun _ => hmove id folder
    | false => exact F.bind (hmove id folder) fun _ => h id

theorem keeps_mv (F : Frame R) (hmove : ∀ id target, (Run.move id target).Keeps R)
    (hrename : ∀ path id, (Run.rename id (Path.splitParent path).2).Keeps R) (args : List String) :
    (mv args).Keeps R := by
  unfold mv
  split
  · refine fun σ => F.andThen_at fun found hfound => ?_
    obtain ⟨n, -, hfound⟩ := bind_eq_ok hfound
    obtain ⟨plan, hplan, hfound⟩ := bind_eq_ok hfound
    obtain rfl := Except.ok.inj hfound
    have hact := MovePlan.keeps_act F hmove (MovePlan.named_ofPaths hrename hplan) n.id
    refine F.bind (Frame.attempt hact) (fun outcome => ?_) σ
    split
    · exact F.pure _
    · split
      · exact F.pure _
      · exact F.fault _
  · exact F.pure _

/-! ## Removing -/

theorem Removal.parent?_of_plan {force recursive : Bool} {path id parent : String}
    (h : plan force recursive path σ = .ok (some (id, parent))) :
    ∃ p, σ.store.parent? id = some p ∧ parent = p.id := by
  obtain ⟨found, -, h⟩ := bind_eq_ok h
  split at h
  · split at h <;> cases h
  · split at h
    · next n p hp =>
      split at h
      · cases h
      · split at h
        · cases h
        · obtain ⟨rfl, rfl⟩ := Prod.mk.inj (Option.some.inj (Except.ok.inj h))
          exact ⟨p, hp, rfl⟩
    · cases h

theorem Removal.keeps_removeAll (F : Frame R) (hdelete : ∀ σ id p, σ.store.parent? id = some p →
    R σ ((Run.delete id p.id).after σ)) (force recursive : Bool) :
    ∀ paths, (removeAll force recursive paths).Keeps R
  | [] => F.pure _
  | path :: rest => by
    refine F.bind (fun σ => F.andThen_at fun found hplan => ?_) fun r => ?_
    · cases found with
      | none => exact F.pure _ σ
      | some entry =>
        obtain ⟨id, parent⟩ := entry
        obtain ⟨p, hp, rfl⟩ := parent?_of_plan hplan
        exact F.bind_at (hdelete σ id p hp) fun _ τ _ => F.pure _ τ
    · split
      · exact keeps_removeAll F hdelete force recursive rest
      · exact F.pure r

theorem keeps_rm (F : Frame R) (hdelete : ∀ σ id p, σ.store.parent? id = some p →
    R σ ((Run.delete id p.id).after σ)) (args : List String) : (rm args).Keeps R := by
  unfold rm
  split
  · exact F.pure _
  · dsimp only
    split
    · exact F.pure _
    · exact Removal.keeps_removeAll F hdelete _ _ _

theorem keeps_color (F : Frame R) (args : List String) : (color args).Keeps R := by
  unfold color
  split
  · exact F.pure _
  · next hex h => exact F.bind (F.fire ⟨_, h⟩) fun _ => F.pure _

theorem keeps_cd (F : Frame R) (henter : ∀ σ id shown, R σ { σ with folder := id, shown := shown })
    (args : List String) : (cd args).Keeps R :=
  fun _ => F.andThen_at fun place _ => henter _ place.id place.shown

theorem Program.keeps_run (F : Frame R) {p : Program} {args : List String}
    (hact : (p.act args).Keeps R) (stdin : String) : (p.run args stdin).Keeps R := by
  unfold Program.run
  split
  · exact F.bind (F.toRun _) fun _ => F.pure _
  · exact F.bind hact fun _ => F.pure _

end Builtin

/-! ## All commands but `cp` -/

/-- A frame that is kept when folders are entered and entries are made, renamed, moved and put into
the recycle bin. -/
structure Session.WideFrame (R : Session C → Session C → Prop) : Prop extends Frame R where
  enter : ∀ σ id shown, R σ { σ with folder := id, shown := shown }
  add : ∀ {r : Record}, r.Childless → ∀ parent, (Run.add r parent).Keeps R
  rename : ∀ id name, (Run.rename id name).Keeps R
  move : ∀ id target, (Run.move id target).Keeps R
  delete : ∀ {σ id p}, σ.store.parent? id = some p → R σ ((Run.delete id p.id).after σ)

namespace Session.WideFrame

open Builtin (Program)

variable (W : WideFrame R)

include W

theorem keeps_act {p : Program} (hp : p ≠ .cp) (args : List String) : (p.act args).Keeps R := by
  cases p with
  | color => exact Builtin.keeps_color W.toFrame args
  | cd => exact Builtin.keeps_cd W.toFrame W.enter args
  | mkdir =>
    exact Builtin.keeps_mkdir W.toFrame (fun _ => W.add (Builtin.Making.childless_record _ _)) args
  | touch =>
    exact Builtin.keeps_touch W.toFrame (fun _ => W.add (Builtin.Making.childless_record _ _)) args
  | cp => exact absurd rfl hp
  | mv => exact Builtin.keeps_mv W.toFrame W.move (fun _ id => W.rename id _) args
  | rm => exact Builtin.keeps_rm W.toFrame (fun _ _ _ h => W.delete h) args
  | _ => exact W.toFrame.pure _

theorem keeps_run {p : Program} (hp : p ≠ .cp) (args : List String) (stdin : String) :
    (p.run args stdin).Keeps R :=
  Program.keeps_run W.toFrame (W.keeps_act hp args) stdin

theorem keeps_copyTree (id parent name : String) : (Builtin.copyTree id parent name).Keeps R :=
  Builtin.keeps_copyTree (N := fun _ => True) W.toFrame
    (fun _ n given _ _ _ => W.add (Builtin.childless_copyRecord n given) _ _) trivial id parent

end Session.WideFrame

/-! ## Redirects -/

theorem Sink.name_of_ofRedirect {r : Redirect} {text parent name : String}
    (h : Sink.ofRedirect r text σ = .ok (.create parent name)) :
    name = (Path.splitParent r.file).2 := by
  obtain ⟨found, -, h⟩ := bind_eq_ok h
  split at h
  · split at h
    · cases h
    · split at h
      · cases h
      · cases Except.ok.inj h
  · obtain ⟨⟨parent', name'⟩, hparent, h⟩ := bind_eq_ok h
    have hname := Session.name_of_resolveParent (lift_eq_ok hparent)
    split at h
    · cases h
    · next heq =>
      obtain ⟨rfl, rfl⟩ := Prod.mk.inj heq
      split at h
      · cases h
      · obtain ⟨rfl, rfl⟩ := Sink.create.inj (Except.ok.inj h)
        exact hname

theorem Sink.keeps_write (F : Frame R) {sink : Sink} {file text : String}
    (hupdate : ∀ id content, sink = .replace id content → (Run.update id content).Keeps R)
    (hadd : ∀ parent name, sink = .create parent name →
      (Run.add (Sink.record name text) parent).Keeps R) : (sink.write file text).Keeps R := by
  cases sink with
  | replace id content => exact F.bind (hupdate id content rfl) fun _ => F.pure _
  | create parent name =>
    refine F.bind (Frame.attempt (hadd parent name rfl)) fun outcome => ?_
    split
    · exact F.pure _
    · split
      · exact F.pure _
      · exact F.fault _

theorem Redirect.keeps_write (F : Frame R) (hupdate : ∀ id content, (Run.update id content).Keeps R)
    (hadd : ∀ path parent text,
      (Run.add (Sink.record (Path.splitParent path).2 text) parent).Keeps R)
    (r : Redirect) (text : String) : (r.write text).Keeps R := by
  refine fun σ => F.andThen_at fun sink hsink => ?_
  refine Sink.keeps_write F (fun id content _ => hupdate id content) (fun parent name h => ?_) σ
  subst h
  rw [Sink.name_of_ofRedirect hsink]
  exact hadd r.file parent text

/-! ## Results -/

namespace Engine

theorem keeps_signal (F : Frame R) {effect : Effect} {s : Signal} (h : effect.signal? = some s) :
    (signal effect s).Keeps R :=
  F.bind F.get fun _ => F.bind (F.noted _) fun _ => F.fire (Effect.given_of_signal? h)

theorem keeps_settle (F : Frame R) {redirect : Option Redirect}
    (hwrite : ∀ r text, redirect = some r → (r.write text).Keeps R) (r : Result) :
    (settle redirect r).Keeps R := by
  unfold settle
  split
  · next s h => exact F.bind (keeps_signal F h) fun _ => F.pure _
  · refine F.bind F.get fun τ => ?_
    dsimp only
    split
    · exact F.pure _
    · split
      · exact F.pure _
      · exact hwrite _ _ rfl

theorem keeps_report (F : Frame R) (key : String) (f : Fault) : (report key f).Keeps R := by
  unfold report
  split
  · exact F.pure _
  · exact F.bind (F.noted _) fun _ => F.pure _

/-- A command is refused, or it runs, and then its result is settled or its fault reported. -/
theorem after_runCommand (run : C → List String → String → Run C Reply) (c : Command)
    (stdin : String) (σ : Session C) :
    (runCommand run c stdin).after σ = σ ∨
    ∃ p, σ.commands.get? (Text.lower c.name) = some p ∧
      let τ := (run p c.args stdin).after
        { σ with notes := .dispatch (Text.lower c.name) c.args.length :: σ.notes }
      (∃ reply, (runCommand run c stdin).after σ =
        (settle c.redirect (Reply.toResult reply)).after τ) ∨
      ∃ f, (runCommand run c stdin).after σ = (report (Text.lower c.name) f).after τ := by
  unfold runCommand
  rw [Run.after_bind]
  simp only [Run.get]
  cases σ.commands.get? (Text.lower c.name) with
  | none => exact .inl rfl
  | some p =>
    dsimp only
    split
    · exact .inl rfl
    · refine .inr ⟨p, rfl, ?_⟩
      rw [Run.after_bind]
      simp only [Run.note]
      rw [Run.after_attempt_bind]
      cases run p c.args stdin _ with
      | ok reply τ => exact .inl ⟨reply, rfl⟩
      | error f τ => exact .inr ⟨f, rfl⟩

/-- What a command of a line keeps, from what the entry of the table does and what the redirect
does. -/
theorem keeps_runCommand {run : C → List String → String → Run C Reply} (F : Frame R) {c : Command}
    {σ : Session C} {stdin : String}
    (hrun : ∀ p, σ.commands.get? (Text.lower c.name) = some p → (run p c.args stdin).Keeps R)
    (hwrite : ∀ r text, c.redirect = some r → (r.write text).Keeps R) :
    R σ ((runCommand run c stdin).after σ) := by
  rcases after_runCommand run c stdin σ with hτ | ⟨p, hp, hτ⟩
  · rw [hτ]
    exact F.refl σ
  · have hafter := F.trans (F.note σ (.dispatch (Text.lower c.name) c.args.length)) (hrun p hp _)
    rcases hτ with ⟨reply, hτ⟩ | ⟨f, hτ⟩
    · rw [hτ]
      exact F.trans hafter (keeps_settle F hwrite _ _)
    · rw [hτ]
      exact F.trans hafter (keeps_report F _ f _)

end Engine

/-- A frame that is kept also when a file gets new content or goes out of the store. -/
structure Session.FullFrame (R : Session C → Session C → Prop) : Prop extends WideFrame R where
  update : ∀ id content, (Run.update id content).Keeps R
  purge : ∀ {σ id n}, σ.store.get? id = some n → n.isDir = false → R σ ((Run.purge id).after σ)

namespace Session.FullFrame

open Builtin (Program CopyPlan)

variable (W : FullFrame R)

include W

theorem keeps_copy {source dest : String} {recursive : Bool} {plan : CopyPlan}
    (h : CopyPlan.ofPaths source dest recursive σ = .ok plan) : R σ (plan.act.after σ) := by
  have hcopy : (Builtin.copyTree plan.source.id plan.parent plan.name >>= fun _ =>
      pure Result.done).Keeps R :=
    W.toFrame.bind (W.keeps_copyTree _ _ _) fun _ => W.toFrame.pure _
  unfold CopyPlan.act
  cases hex : plan.existing with
  | none => exact hcopy σ
  | some old =>
    obtain ⟨hold, hfile, -⟩ := CopyPlan.file_of_ofPaths h hex
    exact W.toFrame.bind_at (W.purge hold hfile) fun _ τ _ => hcopy τ

theorem keeps_run (p : Program) (args : List String) (stdin : String) :
    (p.run args stdin).Keeps R := by
  by_cases hp : p = .cp
  · subst hp
    have hcp : (Program.act args .cp).Keeps R :=
      Builtin.keeps_cp W.toFrame (fun _ _ _ _ _ h => W.keeps_copy h) args
    exact Program.keeps_run W.toFrame hcp stdin
  · exact W.toWideFrame.keeps_run hp args stdin

theorem keeps_write (r : Redirect) (text : String) : (r.write text).Keeps R :=
  r.keeps_write W.toFrame W.update (fun _ parent _ => W.add (fun _ _ _ => rfl) parent) text

end Session.FullFrame

theorem Session.FullFrame.keeps_runCommand
    {R : Session Builtin.Program → Session Builtin.Program → Prop} (W : FullFrame R) (c : Command)
    (stdin : String) : (Engine.runCommand Builtin.Program.run c stdin).Keeps R := fun _ =>
  Engine.keeps_runCommand W.toFrame (fun p _ => W.keeps_run p c.args stdin)
    fun r text _ => W.keeps_write r text

end DeskShell

import DeskShell.Proofs.LastExit

/-!
# Accounts are written and never read

What a session has told its host and what it has noted for the log are accounts of the past. No
program looks at them: with older accounts behind those of its session it comes to the same, and
they stay behind what it enters. So the lines of one long session come to the same when the accounts
are taken away before each of them.

* `Session.behind`: a session with older accounts behind its own.
* `Run.Heedless`: programs that do not look at accounts, with a rule for each way to build one.
* `Session.Unseen`: readings that do not.
* `Builtin.Program.heedless_run`: the built-in commands are such programs.
* `Engine.heedless_execute`: typed lines are, when the commands are.
-/
namespace DeskShell

open Builtin (Program)

variable {C α β : Type}

namespace Session

/-- The session with older accounts behind its own. -/
def behind (σ : Session C) (signals : List Signal) (notes : List Note) : Session C :=
  { σ with signals := σ.signals ++ signals, notes := σ.notes ++ notes }

/-- The session without accounts. -/
def forget (σ : Session C) : Session C := { σ with signals := [], notes := [] }

/-- A reading of a session that does not look at its accounts. -/
def Unseen (f : Session C → α) : Prop :=
  ∀ σ signals notes, f (σ.behind signals notes) = f σ

section

variable {σ : Session C} {signals : List Signal} {notes : List Note}

theorem forget_behind (σ : Session C) : σ.forget.behind σ.signals σ.notes = σ := rfl

theorem shown_eq_of_forget {τ : Session C} (h : σ.forget = τ.forget) : σ.shown = τ.shown := by
  have hshown : σ.forget.shown = τ.forget.shown := congrArg shown h
  exact hshown

@[simp]
theorem store_behind : (σ.behind signals notes).store = σ.store := rfl

@[simp]
theorem folder_behind : (σ.behind signals notes).folder = σ.folder := rfl

@[simp]
theorem hooks_behind : (σ.behind signals notes).hooks = σ.hooks := rfl

@[simp]
theorem resolveNode_behind (path : Option String) :
    (σ.behind signals notes).resolveNode path = σ.resolveNode path := rfl

@[simp]
theorem resolveParent_behind (path : String) :
    (σ.behind signals notes).resolveParent path = σ.resolveParent path := by
  unfold resolveParent
  rcases Path.splitParent path with ⟨folder | folder, name⟩ <;> rfl

@[simp]
theorem locate_behind (path : Option String) (missing : String) :
    (σ.behind signals notes).locate path missing = σ.locate path missing := rfl

end

end Session

open Session (Unseen)

/-- A program that does not read the accounts of its session: whatever was there before stays
behind what it enters, and it comes to the same. -/
def Run.Heedless (x : Run C α) : Prop :=
  ∀ σ signals notes, x (σ.behind signals notes) =
    match x σ with
    | .ok a τ => .ok a (τ.behind signals notes)
    | .error f τ => .error f (τ.behind signals notes)

namespace Run

theorem heedless_pure (a : α) : Heedless (pure a : Run C α) := fun _ _ _ => rfl

theorem heedless_throw (f : Fault) : Heedless (throw f : Run C α) := fun _ _ _ => rfl

theorem heedless_note (n : Note) : Heedless (note n : Run C Unit) := fun _ _ _ => rfl

theorem Heedless.bind {x : Run C β} (hx : x.Heedless) {f : β → Run C α}
    (hf : ∀ b, (f b).Heedless) : Heedless (x >>= f) := by
  intro σ signals notes
  simp only [Bind.bind, EStateM.bind]
  rw [hx σ signals notes]
  cases x σ with
  | ok b τ => exact hf b τ signals notes
  | error f τ => rfl

theorem heedless_get {f : Session C → Run C α} (hread : Unseen f)
    (hf : ∀ σ, (f σ).Heedless) : Heedless (get >>= f) := by
  intro σ signals notes
  simp only [Bind.bind, EStateM.bind, get]
  rw [hread σ signals notes]
  exact hf σ σ signals notes

theorem heedless_ask {f : Session C → Except Fault α} (hread : Unseen f) :
    Heedless (ask f) := by
  intro σ signals notes
  unfold ask
  rw [hread σ signals notes]
  cases f σ <;> rfl

theorem Heedless.attempt {x : Run C α} (hx : x.Heedless) : (Run.attempt x).Heedless := by
  intro σ signals notes
  unfold Run.attempt
  rw [hx σ signals notes]
  cases x σ <;> rfl

theorem heedless_edit (e : Edit α) : Heedless (edit e : Run C α) := by
  intro σ signals notes
  unfold edit
  rw [Session.store_behind]
  cases e σ.store <;> rfl

theorem heedless_set {f : Session C → Session C}
    (hf : ∀ σ signals notes, f (σ.behind signals notes) = (f σ).behind signals notes) :
    Heedless (set f : Run C Unit) :=
  fun σ signals notes => congrArg (EStateM.Result.ok ()) (hf σ signals notes)

theorem Heedless.ite {p : Prop} [Decidable p] {x y : Run C α} (hx : x.Heedless)
    (hy : y.Heedless) : Heedless (if p then x else y) := by
  split
  · exact hx
  · exact hy

theorem heedless_fire (s : Signal) : Heedless (fire s : Run C Unit) := by
  intro σ signals notes
  unfold fire
  rw [Session.hooks_behind]
  cases σ.hooks s <;> rfl

theorem heedless_toRun {x : Session C → Inquiry Result} (hread : Unseen x) :
    Heedless (Inquiry.toRun x) := by
  intro σ signals notes
  unfold Inquiry.toRun
  rw [hread σ signals notes]
  cases x σ with
  | ok r => rfl
  | error stop => cases stop <;> rfl

theorem heedless_andThen {x : Session C → Inquiry α} (hread : Unseen x)
    {act : α → Run C Result} (hact : ∀ a, (act a).Heedless) : Heedless (Inquiry.andThen x act) := by
  intro σ signals notes
  unfold Inquiry.andThen
  rw [hread σ signals notes]
  cases x σ with
  | ok a => exact hact a σ signals notes
  | error stop => cases stop <;> rfl

/-! ## Changes of the store -/

theorem heedless_add (r : Record) (parent : String) : Heedless (add r parent : Run C String) := by
  refine heedless_get (fun _ _ _ => rfl) fun σ => (heedless_edit _).bind fun id => ?_
  refine heedless_get (fun _ _ _ => rfl) fun τ => ?_
  split
  · exact heedless_pure id
  · exact (heedless_note _).bind fun _ => heedless_pure id

theorem heedless_update (id content : String) : Heedless (update id content : Run C Unit) :=
  heedless_get (fun _ _ _ => rfl) fun _ => (heedless_edit _).bind fun _ => heedless_note _

theorem heedless_rename (id name : String) : Heedless (rename id name : Run C Unit) :=
  (heedless_edit _).bind fun _ => heedless_note _

theorem heedless_move (id target : String) : Heedless (move id target : Run C Unit) := by
  refine (heedless_edit _).bind fun left => ?_
  cases left with
  | none => exact heedless_pure ()
  | some source => exact heedless_note _

theorem heedless_delete (id parent : String) : Heedless (delete id parent : Run C Unit) := by
  refine (heedless_edit _).bind fun held => ?_
  split
  · exact heedless_note _
  · exact heedless_pure ()

theorem heedless_purge (id : String) : Heedless (purge id : Run C Unit) :=
  (heedless_edit _).bind fun _ => heedless_note _

end Run

/-! ## Commands -/

namespace Builtin

open Run

theorem Making.unseen_plan (m : Making) (path : String) :
    Unseen (m.plan path : Session C → Inquiry (Option (String × String))) := by
  intro σ signals notes
  unfold plan
  simp only [Session.resolveParent_behind, Session.store_behind]
  rfl

theorem Making.heedless_make (m : Making) (path : String) :
    (m.make path : Run C Result).Heedless := by
  refine heedless_andThen (m.unseen_plan path) fun found => ?_
  cases found with
  | none => exact heedless_pure _
  | some entry => exact (heedless_add _ _).bind fun _ => heedless_pure _

theorem Making.heedless_makeAll (m : Making) :
    ∀ paths, (m.makeAll paths : Run C Result).Heedless
  | [] => heedless_pure _
  | path :: rest => (m.heedless_make path).bind fun _ =>
      .ite (m.heedless_makeAll rest) (heedless_pure _)

theorem heedless_mkdir (args : List String) : (mkdir args : Run C Result).Heedless := by
  unfold mkdir
  split
  · exact heedless_pure _
  · exact Making.folder.heedless_makeAll _

theorem heedless_touch (args : List String) : (touch args : Run C Result).Heedless := by
  unfold touch
  split
  · exact heedless_pure _
  · exact Making.file.heedless_makeAll _

theorem heedless_copyAll {copyOne : String → Run C String} (h : ∀ id, (copyOne id).Heedless) :
    ∀ ns, (copyAll copyOne ns).Heedless
  | [] => heedless_pure ()
  | n :: rest => (h n.id).bind fun _ => heedless_copyAll h rest

theorem heedless_copyFrom : ∀ (fuel : Nat) (id parent name : String),
    (copyFrom fuel id parent name : Run C String).Heedless
  | 0, _, _, _ => heedless_throw _
  | fuel + 1, id, parent, name => by
    refine (heedless_ask fun _ _ _ => rfl).bind fun n => (heedless_add _ _).bind fun made => ?_
    split
    · refine (heedless_ask fun _ _ _ => rfl).bind fun inside => ?_
      exact (heedless_copyAll (fun child => heedless_copyFrom fuel child made "") inside).bind
        fun _ => heedless_pure made
    · exact heedless_pure made

theorem CopyPlan.unseen_ofPaths (source dest : String) (recursive : Bool) :
    Unseen (ofPaths source dest recursive : Session C → Inquiry CopyPlan) := by
  intro σ signals notes
  unfold ofPaths placeFor sourceOf
  simp only [Session.resolveParent_behind, Session.resolveNode_behind, Session.locate_behind,
    Session.store_behind, Session.folder_behind]
  rfl

theorem CopyPlan.heedless_act (plan : CopyPlan) : (plan.act : Run C Result).Heedless := by
  have hcopy : Run.Heedless
      (copyTree plan.source.id plan.parent plan.name >>= fun _ => pure .done : Run C Result) :=
    (heedless_get (fun _ _ _ => rfl) fun _ => heedless_copyFrom _ _ _ _).bind
      fun _ => heedless_pure _
  unfold CopyPlan.act
  split
  · exact hcopy
  · exact (heedless_purge _).bind fun _ => hcopy

theorem heedless_cp (args : List String) : (cp args : Run C Result).Heedless := by
  unfold cp
  dsimp only
  split
  · exact heedless_andThen (CopyPlan.unseen_ofPaths _ _ _) CopyPlan.heedless_act
  · exact heedless_pure _

theorem MovePlan.heedless_act (plan : MovePlan) (id : String) :
    (plan.act id : Run C Unit).Heedless := by
  cases plan with
  | into folder => exact heedless_move id folder
  | place folder name first =>
    cases first with
    | true => exact (heedless_rename id name).bind fun _ => heedless_move id folder
    | false => exact (heedless_move id folder).bind fun _ => heedless_rename id name

theorem heedless_mv (args : List String) : (mv args : Run C Result).Heedless := by
  unfold mv
  split
  · refine heedless_andThen (fun σ signals notes => ?_) fun ⟨id, plan⟩ => ?_
    · unfold MovePlan.sourceOf MovePlan.ofPaths MovePlan.placeFor
      simp only [Session.resolveParent_behind, Session.resolveNode_behind, Session.locate_behind,
        Session.store_behind]
      rfl
    · refine (plan.heedless_act id).attempt.bind fun outcome => ?_
      cases outcome with
      | ok => exact heedless_pure _
      | error f => exact .ite (heedless_pure _) (heedless_throw _)
  · exact heedless_pure _

theorem Removal.heedless_remove (force recursive : Bool) (path : String) :
    (remove force recursive path : Run C Result).Heedless := by
  refine heedless_andThen (fun _ _ _ => rfl) fun found => ?_
  cases found with
  | none => exact heedless_pure _
  | some entry => exact (heedless_delete _ _).bind fun _ => heedless_pure _

theorem Removal.heedless_removeAll (force recursive : Bool) :
    ∀ paths, (removeAll force recursive paths : Run C Result).Heedless
  | [] => heedless_pure _
  | path :: rest => (heedless_remove force recursive path).bind fun _ =>
      .ite (heedless_removeAll force recursive rest) (heedless_pure _)

theorem heedless_rm (args : List String) : (rm args : Run C Result).Heedless := by
  unfold rm
  split
  · exact heedless_pure _
  · dsimp only
    split
    · exact heedless_pure _
    · exact Removal.heedless_removeAll _ _ _

theorem heedless_color (args : List String) : (color args : Run C Result).Heedless := by
  unfold color
  split
  · exact heedless_pure _
  · exact (heedless_fire _).bind fun _ => heedless_pure _

theorem heedless_cd (args : List String) : (cd args : Run C Result).Heedless :=
  heedless_andThen (fun _ _ _ => rfl) fun _ =>
    (heedless_set fun _ _ _ => rfl).bind fun _ => heedless_pure _

namespace Program

theorem unseen_inquiry {p : Program} {args : List String} {stdin : String}
    {found : Session C → Inquiry Result} (h : p.inquiry? args stdin = some found) :
    Unseen found := by
  cases p <;> cases h <;> exact fun _ _ _ => rfl

theorem heedless_act (p : Program) (args : List String) : (p.act args : Run C Result).Heedless := by
  cases p with
  | color => exact heedless_color args
  | cd => exact heedless_cd args
  | mkdir => exact heedless_mkdir args
  | touch => exact heedless_touch args
  | cp => exact heedless_cp args
  | mv => exact heedless_mv args
  | rm => exact heedless_rm args
  | _ => exact heedless_pure _

/-- The built-in commands do not look at accounts. -/
theorem heedless_run (p : Program) (args : List String) (stdin : String) :
    (p.run args stdin : Run C Reply).Heedless := by
  unfold Program.run
  split
  · next found h => exact (heedless_toRun (unseen_inquiry h)).bind fun _ => heedless_pure _
  · exact (p.heedless_act args).bind fun _ => heedless_pure _

end Program
end Builtin

/-! ## Lines -/

namespace Engine

open Run

theorem heedless_sinkWrite (sink : Sink) (file text : String) :
    (sink.write file text : Run C Result).Heedless := by
  cases sink with
  | replace id content => exact (heedless_update _ _).bind fun _ => heedless_pure _
  | create parent name =>
    refine (heedless_add _ _).attempt.bind fun outcome => ?_
    cases outcome with
    | ok => exact heedless_pure _
    | error f => exact .ite (heedless_pure _) (heedless_throw _)

theorem heedless_write (r : Redirect) (text : String) : (r.write text : Run C Result).Heedless := by
  refine heedless_andThen (fun σ signals notes => ?_) fun sink => heedless_sinkWrite sink _ _
  unfold Sink.ofRedirect Sink.standing
  simp only [Session.resolveParent_behind, Session.resolveNode_behind]

theorem heedless_signal (effect : Effect) (s : Signal) : (signal effect s : Run C Unit).Heedless :=
  heedless_get (fun _ _ _ => rfl) fun _ => (heedless_note _).bind fun _ => heedless_fire s

theorem heedless_settle (redirect : Option Redirect) (r : Result) :
    (settle redirect r : Run C Result).Heedless := by
  unfold settle
  split
  · exact (heedless_signal _ _).bind fun _ => heedless_pure _
  · refine heedless_get (fun _ _ _ => rfl) fun σ => ?_
    dsimp only
    split
    · exact heedless_pure _
    · exact .ite (heedless_pure _) (heedless_write _ _)

theorem heedless_report (key : String) (f : Fault) : (report key f : Run C Result).Heedless :=
  .ite (heedless_pure _) ((heedless_note _).bind fun _ => heedless_pure _)

variable {run : C → List String → String → Run C Reply}
  (hrun : ∀ p args stdin, (run p args stdin).Heedless)

include hrun

theorem heedless_runCommand (c : Command) (stdin : String) :
    (runCommand run c stdin).Heedless := by
  refine heedless_get (fun _ _ _ => rfl) fun σ => ?_
  dsimp only
  split
  · exact heedless_pure _
  · refine .ite (heedless_pure _) ((heedless_note _).bind fun _ => ?_)
    refine (hrun _ _ _).attempt.bind fun outcome => ?_
    cases outcome with
    | ok reply => exact heedless_settle _ _
    | error f => exact heedless_report _ f

theorem heedless_runCommands : ∀ (p : List Command) (stdin : String),
    (runCommands run stdin p).Heedless
  | [], _ => heedless_pure _
  | c :: rest, stdin => (heedless_runCommand hrun c stdin).bind fun r =>
      (heedless_runCommands rest r.stdout).bind fun _ => heedless_pure _

theorem heedless_runPipeline (p : Pipeline) (stdin : String) :
    (runPipeline run p stdin).Heedless :=
  (heedless_runCommands hrun p stdin).bind fun _ => heedless_pure _

theorem heedless_runLinks (stdin : String) : ∀ (links : List (String × Pipeline)) (exitCode : Int),
    (runLinks run stdin exitCode links).Heedless
  | [], _ => heedless_pure _
  | (_, p) :: rest, _ =>
    .ite ((heedless_note _).bind fun _ => heedless_pure _)
      ((heedless_runPipeline hrun p stdin).bind fun r =>
        (heedless_runLinks stdin rest r.exitCode).bind fun _ => heedless_pure _)

theorem heedless_runLinePipelines (stdin : String) (l : Line) :
    (runLinePipelines run stdin l).Heedless := by
  cases l with
  | empty => exact heedless_pure _
  | chain first rest =>
    exact (heedless_runPipeline hrun first stdin).bind fun r =>
      (heedless_runLinks hrun stdin rest r.exitCode).bind fun _ => heedless_pure _

/-- A typed line does not look at accounts when no command does. -/
theorem heedless_execute (text : String) : (execute run text).Heedless := by
  have hline : (runLine run (Line.ofText (Text.trim text)) "").Heedless :=
    (heedless_runLinePipelines hrun "" _).bind fun _ =>
      (heedless_set fun _ _ _ => rfl).bind fun _ => heedless_pure _
  unfold execute
  refine .ite (heedless_pure _) (hline.attempt.bind fun outcome => ?_)
  cases outcome with
  | ok r => exact heedless_pure r
  | error f => exact (heedless_note _).bind fun _ => heedless_pure _

/-- What a line comes to without accounts, it comes to with them; they stay behind its own. -/
theorem execute_of_forget {text : String} {σ τ : Session C} {r : Result}
    (h : execute run text σ.forget = .ok r τ) :
    execute run text σ = .ok r (τ.behind σ.signals σ.notes) := by
  have hbehind := heedless_execute hrun text σ.forget σ.signals σ.notes
  rwa [Session.forget_behind, h] at hbehind

end Engine
end DeskShell

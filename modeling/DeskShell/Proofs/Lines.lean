import DeskShell.Proofs.Commands

/-!
# Sessions from command to command

A session that is typed into carries out commands one after the other. Between them it only keeps
its accounts: notes, exit codes, the time.

* `Deed`: a command that was carried out, with the sessions before and after it.
* `Session.play`: the session after any number of typed lines; `Session.deeds`: the commands carried
  out on the way.
* `Engine.Chain`: deeds in a row, each of which starts where the one before it ended.
* `Session.chain_play`: the deeds of a session are such a row, and `Engine.Chain.invariant` takes
  what each of them keeps from the start of the row to its end.
* `Session.inOrder_play`: a session stays in order.
-/
namespace DeskShell

open Builtin (Program)
open Session (InOrder Evolves Advances)
open Run (Evolving)

variable {C α β : Type} {N : String → Prop} {σ τ ρ : Session C}

/-- Sessions that differ in their accounts at most. -/
structure Session.Alike (σ τ : Session C) : Prop where
  store : τ.store = σ.store
  home : τ.home = σ.home
  folder : τ.folder = σ.folder
  shown : τ.shown = σ.shown
  commands : τ.commands = σ.commands

theorem Session.Alike.refl (σ : Session C) : σ.Alike σ := ⟨rfl, rfl, rfl, rfl, rfl⟩

theorem Session.Alike.inOrder (h : σ.Alike τ) (hσ : σ.InOrder N) : τ.InOrder N where
  sound := by
    rw [h.store, h.home]
    exact hσ.sound
  folder := by
    rw [h.store, h.folder]
    exact hσ.folder
  named := by
    rw [h.store]
    exact hσ.named

/-- A command that was carried out. -/
structure Deed (C : Type) where
  command : Command
  before : Session C
  after : Session C

/-- What stands in the table under the name of the command. -/
def Deed.entry? (d : Deed C) : Option C := d.before.commands.get? (Text.lower d.command.name)

namespace Engine

variable (run : C → List String → String → Run C Reply)

/-! ## The commands of a line -/

/-- The commands of what follows a program, which are none when it stops with a fault. -/
def further (x : Run C α) (next : α → Session C → List (Deed C)) (σ : Session C) :
    List (Deed C) :=
  match x σ with
  | .ok a τ => next a τ
  | .error _ _ => []

def commandDeeds (stdin : String) : List Command → Session C → List (Deed C)
  | [], _ => []
  | c :: rest, σ =>
    ⟨c, σ, (runCommand run c stdin).after σ⟩ ::
      further (runCommand run c stdin) (fun r τ => commandDeeds r.stdout rest τ) σ

def linkDeeds (stdin : String) (exitCode : Int) :
    List (String × Pipeline) → Session C → List (Deed C)
  | [], _ => []
  | (operator, p) :: rest, σ =>
    if operator = "&&" ∧ exitCode ≠ 0 then []
    else
      commandDeeds run stdin p σ ++
        further (runPipeline run p stdin) (fun r τ => linkDeeds stdin r.exitCode rest τ) σ

def lineDeeds (stdin : String) (l : Line) (σ : Session C) : List (Deed C) :=
  match l with
  | .empty => []
  | .chain first rest =>
    commandDeeds run stdin first σ ++
      further (runPipeline run first stdin) (fun r τ => linkDeeds run stdin r.exitCode rest τ) σ

/-- The commands that a typed line carries out. -/
def textDeeds (text : String) (σ : Session C) : List (Deed C) :=
  if Text.trim text = "" then [] else lineDeeds run "" (Line.ofText (Text.trim text)) σ

/-! ## Rows of commands -/

/-- Commands carried out one after the other from `σ` to `τ`. -/
inductive Chain : Session C → List (Deed C) → Session C → Prop
  | nil {σ τ : Session C} (h : σ.Alike τ) : Chain σ [] τ
  | cons {σ τ : Session C} {d : Deed C} {ds : List (Deed C)} (h : σ.Alike d.before)
      (stdin : String) (hd : d.after = (runCommand run d.command stdin).after d.before)
      (hds : Chain d.after ds τ) : Chain σ (d :: ds) τ

namespace Chain

variable {run} {ds es : List (Deed C)}

theorem refl (σ : Session C) : Chain run σ [] σ := .nil (.refl σ)

theorem of_alike (h : σ.Alike τ) (hτ : Chain run τ ds ρ) : Chain run σ ds ρ := by
  have htrans : ∀ {υ : Session C}, τ.Alike υ → σ.Alike υ := fun h' =>
    ⟨h'.store.trans h.store, h'.home.trans h.home, h'.folder.trans h.folder,
      h'.shown.trans h.shown, h'.commands.trans h.commands⟩
  cases hτ with
  | nil h' => exact .nil (htrans h')
  | cons h' stdin hd hds => exact .cons (htrans h') stdin hd hds

theorem append (hσ : Chain run σ ds τ) (hτ : Chain run τ es ρ) : Chain run σ (ds ++ es) ρ := by
  induction hσ with
  | nil h => exact of_alike h hτ
  | cons h stdin hd _ ih => exact .cons h stdin hd (ih hτ)

/-- The commands that follow one of a row are a row again. -/
theorem of_append {d : Deed C} (h : Chain run σ (ds ++ d :: es) τ) : Chain run d.after es τ := by
  induction ds generalizing σ with
  | nil =>
    cases h with
    | cons _ _ _ hes => exact hes
  | cons _ ds ih =>
    cases h with
    | cons _ _ _ hds => exact ih hds

/-- What holds at the start, is no matter of the accounts and is kept by every command, holds before
every command and at the end. -/
theorem invariant (h : Chain run σ ds τ) {I : Session C → Prop}
    (halike : ∀ σ τ, σ.Alike τ → I σ → I τ) (hkeep : ∀ d ∈ ds, I d.before → I d.after) (hσ : I σ) :
    I τ ∧ ∀ d ∈ ds, I d.before := by
  induction h with
  | nil h => exact ⟨halike _ _ h hσ, by simp⟩
  | @cons σ τ d ds h _ hd _ ih =>
    have hbefore := halike _ _ h hσ
    obtain ⟨hτ, hds⟩ := ih (fun e he => hkeep e (List.mem_cons_of_mem d he))
      (hkeep d List.mem_cons_self hbefore)
    exact ⟨hτ, List.forall_mem_cons.mpr ⟨hbefore, hds⟩⟩

theorem exists_stdin (h : Chain run σ ds τ) :
    ∀ d ∈ ds, ∃ stdin, d.after = (runCommand run d.command stdin).after d.before := by
  induction h with
  | nil => simp
  | cons _ stdin hd _ ih => exact List.forall_mem_cons.mpr ⟨⟨stdin, hd⟩, ih⟩

/-- The commands of a program, then those of what follows it, if it does not stop with a fault. -/
theorem bind {x : Run C α} {f : α → Run C β} {next : α → Session C → List (Deed C)}
    (hx : Chain run σ ds (x.after σ))
    (hf : ∀ a τ, x σ = .ok a τ → Chain run τ (next a τ) ((f a).after τ)) :
    Chain run σ (ds ++ further x next σ) (Run.after (x >>= f) σ) := by
  rw [Run.after_bind]
  unfold further
  unfold Run.after at hx
  cases h : x σ with
  | ok a τ =>
    rw [h] at hx
    exact hx.append (hf a τ h)
  | error e τ =>
    rw [h] at hx
    exact hx.append (.refl τ)

/-- What follows a program and only keeps accounts carries out no command. -/
theorem bind_alike {x : Run C α} {f : α → Run C β} (hx : Chain run σ ds (x.after σ))
    (hf : ∀ a (τ : Session C), τ.Alike ((f a).after τ)) :
    Chain run σ ds (Run.after (x >>= f) σ) := by
  have h : Chain run σ (ds ++ further x (fun _ _ => []) σ) (Run.after (x >>= f) σ) :=
    hx.bind fun a τ _ => .nil (hf a τ)
  have hnone : further x (fun _ _ => []) σ = ([] : List (Deed C)) := by
    unfold further
    cases x σ <;> rfl
  rwa [hnone, List.append_nil] at h

end Chain

/-! ## Typed lines -/

theorem chain_runCommands : ∀ (p : List Command) (stdin : String) (σ : Session C),
    Chain run σ (commandDeeds run stdin p σ) ((runCommands run stdin p).after σ)
  | [], _, σ => .refl σ
  | c :: rest, stdin, σ => by
    have hc : Chain run σ [⟨c, σ, (runCommand run c stdin).after σ⟩]
        ((runCommand run c stdin).after σ) :=
      .cons ⟨rfl, rfl, rfl, rfl, rfl⟩ stdin rfl (.refl _)
    refine hc.bind fun r τ _ => ?_
    rw [Run.after_bind_pure]
    exact chain_runCommands rest r.stdout τ

theorem chain_runPipeline (p : Pipeline) (stdin : String) (σ : Session C) :
    Chain run σ (commandDeeds run stdin p σ) ((runPipeline run p stdin).after σ) := by
  unfold runPipeline
  rw [Run.after_bind_pure]
  exact chain_runCommands run p stdin σ

theorem chain_runLinks (stdin : String) : ∀ (links : List (String × Pipeline)) (exitCode : Int)
    (σ : Session C),
    Chain run σ (linkDeeds run stdin exitCode links σ) ((runLinks run stdin exitCode links).after σ)
  | [], _, σ => .refl σ
  | (operator, p) :: rest, exitCode, σ => by
    unfold linkDeeds runLinks
    split
    · rw [Run.after_bind_pure]
      exact .nil ⟨rfl, rfl, rfl, rfl, rfl⟩
    · refine (chain_runPipeline run p stdin σ).bind fun r τ _ => ?_
      rw [Run.after_bind_pure]
      exact chain_runLinks stdin rest r.exitCode τ

theorem chain_runLinePipelines (stdin : String) (l : Line) (σ : Session C) :
    Chain run σ (lineDeeds run stdin l σ) ((runLinePipelines run stdin l).after σ) := by
  cases l with
  | empty => exact .refl σ
  | chain first rest =>
    refine (chain_runPipeline run first stdin σ).bind fun r τ _ => ?_
    rw [Run.after_bind_pure]
    exact chain_runLinks run stdin rest r.exitCode τ

theorem chain_runLine (stdin : String) (l : Line) (σ : Session C) :
    Chain run σ (lineDeeds run stdin l σ) ((runLine run l stdin).after σ) :=
  (chain_runLinePipelines run stdin l σ).bind_alike fun _ _ => ⟨rfl, rfl, rfl, rfl, rfl⟩

theorem chain_execute (text : String) (σ : Session C) :
    Chain run σ (textDeeds run text σ) ((execute run text).after σ) := by
  unfold textDeeds execute
  dsimp only
  split
  · exact .refl σ
  · refine Chain.bind_alike ?_ fun outcome τ => ?_
    · rw [Run.after_attempt]
      exact chain_runLine run "" _ σ
    · cases outcome <;> exact ⟨rfl, rfl, rfl, rfl, rfl⟩

end Engine

/-! ## Any number of lines -/

namespace Session

open Engine (Chain)

/-- The session when the lines have been typed into it. -/
def play : List Typed → Session Program → Session Program
  | [], σ => σ
  | t :: rest, σ =>
    play rest ((Engine.execute Program.run t.line).after { σ with clock := t.clock })

/-- The commands that the lines carry out. -/
def deeds : List Typed → Session Program → List (Deed Program)
  | [], _ => []
  | t :: rest, σ =>
    Engine.textDeeds Program.run t.line { σ with clock := t.clock } ++
      deeds rest ((Engine.execute Program.run t.line).after { σ with clock := t.clock })

theorem chain_play : ∀ (ts : List Typed) (σ : Session Program),
    Chain Program.run σ (σ.deeds ts) (σ.play ts)
  | [], σ => .refl σ
  | t :: rest, σ => by
    have hclock : σ.Alike { σ with clock := t.clock } := ⟨rfl, rfl, rfl, rfl, rfl⟩
    have hline := Engine.chain_execute Program.run t.line { σ with clock := t.clock }
    unfold deeds play
    exact (Chain.of_alike hclock hline).append (chain_play rest _)

end Session

/-! ## Commands in order -/

namespace Engine

theorem evolving_settle (hN : ∀ path, N (Path.splitParent path).2) (redirect : Option Redirect)
    (r : Result) : Evolving N Change.Quiet (settle redirect r : Run C Result) :=
  keeps_settle Evolves.frame (fun r text _ => r.evolving_write hN text) r

theorem evolving_report (key : String) (f : Fault) {K : Change → Prop} :
    Evolving N K (report key f : Run C Result) :=
  keeps_report Evolves.frame key f

theorem advances_runCommand (hN : ∀ path, N (Path.splitParent path).2) {σ : Session Program}
    (hσ : σ.InOrder N) (c : Command) (stdin : String) :
    σ.Advances N (σ.commands.get? (Text.lower c.name))
      ((runCommand Program.run c stdin).after σ) := by
  rcases after_runCommand Program.run c stdin σ with h | ⟨p, hp, h⟩
  · rw [h]
    exact .quiet (.refl σ)
  · have hnote : Evolves N Change.Quiet σ
        { σ with notes := .dispatch (Text.lower c.name) c.args.length :: σ.notes } :=
      Evolves.frame.note σ _ hσ
    have hrun := Session.Advances.prepend hnote (p.advances_run hN (hnote.inOrder hσ) c.args stdin)
    have hτ := hrun.inOrder hσ
    rw [hp]
    rcases h with ⟨reply, h⟩ | ⟨f, h⟩
    · rw [h]
      exact hrun.append (evolving_settle hN c.redirect _ _ hτ)
    · rw [h]
      exact hrun.append (evolving_report _ f _ hτ)

/-- Every command of a row starts in order and goes on as its kind allows. -/
theorem Chain.inOrder (hN : ∀ path, N (Path.splitParent path).2) {σ τ : Session Program}
    {ds : List (Deed Program)} (h : Chain Program.run σ ds τ) (hσ : σ.InOrder N) :
    τ.InOrder N ∧ ∀ d ∈ ds, d.before.InOrder N ∧ d.before.Advances N d.entry? d.after := by
  have hadvances : ∀ d ∈ ds, d.before.InOrder N → d.before.Advances N d.entry? d.after := by
    intro d hd hbefore
    obtain ⟨stdin, hafter⟩ := h.exists_stdin d hd
    rw [hafter]
    exact advances_runCommand hN hbefore d.command stdin
  obtain ⟨hτ, hds⟩ := h.invariant (I := InOrder N) (fun σ τ ha hσ => ha.inOrder hσ)
    (fun d hd hbefore => (hadvances d hd hbefore).inOrder hbefore) hσ
  exact ⟨hτ, fun d hd => ⟨hds d hd, hadvances d hd (hds d hd)⟩⟩

end Engine

theorem Session.inOrder_play (hN : ∀ path, N (Path.splitParent path).2) {σ : Session Program}
    (hσ : σ.InOrder N) (ts : List Typed) : (σ.play ts).InOrder N :=
  ((Session.chain_play ts σ).inOrder hN hσ).1

end DeskShell

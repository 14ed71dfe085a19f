import DeskShell.Proofs.Stages
import DeskShell.Proofs.Untouched
import Mathlib.Data.List.TakeWhile

/-!
# The last exit code

A session remembers an exit code from line to line. A line that comes to its end leaves there the
exit code of its result. A fault that escapes from a line is reported as a failure too, but then the
session goes on remembering what it did when the fault escaped.

* `Engine.Stops`: the two ways in which a fault escapes after a command has answered, and
  `Engine.settle_eq_error_iff`: there are no others.
* `Engine.exists_stops`: every fault that stops a line escapes from one of its commands that way.
* `Engine.execute_of_ok`, `Engine.execute_of_error`: what a typed line comes to.
* `Engine.lastExit_execute_iff`: when the session remembers the exit code of the result;
  `Engine.lastExit_execute_builtin`: with the built-in commands.
* `Desktop.lastExit_ne_exit`: a line after which it does not.
-/
namespace DeskShell

open Builtin (Program)
open Run (Keeps)

variable {C : Type}

/-! ## Lines with something on them -/

theorem Text.trim_eq_empty_iff {text : String} :
    trim text = "" ↔ ∀ c ∈ text.toList, isBlank c = true := by
  have hsplit := List.takeWhile_append_dropWhile (p := isBlank) (l := text.toList)
  have hempty : trim text = "" ↔ ∀ c ∈ text.toList.dropWhile isBlank, isBlank c = true := by
    simp [trim, trimRight, trimLeft, List.dropWhile_eq_nil_iff]
  rw [hempty]
  constructor
  · intro h c hc
    rw [← hsplit, List.mem_append] at hc
    rcases hc with hc | hc
    · exact List.mem_takeWhile_imp hc
    · exact h c hc
  · intro h c hc
    exact h c (List.dropWhile_sublist isBlank |>.mem hc)

/-- A line with a character on it that is no blank is not trimmed away. -/
theorem Text.trim_ne_empty {text : String} (h : ∃ c ∈ text.toList, isBlank c = false) :
    trim text ≠ "" := by
  obtain ⟨c, hc, hblank⟩ := h
  intro hempty
  rw [trim_eq_empty_iff.mp hempty c hc] at hblank
  cases hblank

namespace Run

variable {α : Type} {x : Run C α} {σ τ : Session C} {f : Fault}

theorem after_of_error (h : x σ = .error f τ) : x.after σ = τ := by
  unfold Run.after
  rw [h]

end Run

/-- Programs that leave the last exit code alone. -/
theorem Session.blind_lastExit :
    BlindFrame fun σ τ : Session C => τ.lastExit = σ.lastExit where
  refl _ := rfl
  trans h h' := h'.trans h
  note _ _ := rfl
  signal _ _ _ := rfl
  store _ _ := rfl

/-- The built-in commands leave the last exit code alone. -/
theorem Session.keeps_lastExit (p : Program) (args : List String) (stdin : String) :
    (p.run args stdin : Run C Reply).Keeps fun σ τ => τ.lastExit = σ.lastExit :=
  blind_lastExit.keeps_runAll (fun _ _ _ => rfl) p args stdin

namespace Engine

variable {run : C → List String → String → Run C Reply} {σ τ ρ υ : Session C} {f : Fault}
  {c : Command} {r : Result} {stdin text : String}

/-! ## Where faults come from -/

theorem attempt_bind_eq_error {α β : Type} {x : Run C α} {g : Except Fault α → Run C β}
    (h : (Run.attempt x >>= g) σ = .error f υ) :
    (∃ a τ, x σ = .ok a τ ∧ g (.ok a) τ = .error f υ) ∨ ∃ e τ, g (.error e) τ = .error f υ := by
  simp only [bind, EStateM.bind, Run.attempt] at h
  cases hx : x σ with
  | ok a τ =>
    rw [hx] at h
    exact .inl ⟨a, τ, rfl, h⟩
  | error e τ =>
    rw [hx] at h
    exact .inr ⟨e, τ, h⟩

theorem report_ne_error (key : String) (e : Fault) : report key e σ ≠ .error f υ := by
  intro h
  unfold report at h
  split at h
  · cases h
  · rcases bind_eq_error h with h | ⟨_, _, _, h⟩ <;> cases h

/-! ## How faults escape -/

/-- After a command has answered with the result `r` in the session `ρ`, the fault `f` stops the
line: the host fails to take the signal of an effect, or the output cannot be redirected. -/
inductive Stops (redirect : Option Redirect) (r : Result) (ρ : Session C) (f : Fault) : Prop
  | host {s : Signal} (heffect : r.effect.signal? = some s) (h : ρ.hooks s = .raises f)
  | output {target : Redirect} {υ : Session C} (heffect : r.effect.signal? = none)
      (htarget : redirect = some target) (hout : (r.limited ρ.limit).stdout ≠ "")
      (h : target.write (r.limited ρ.limit).stdout ρ = .error f υ)

theorem signal_eq_error_iff (effect : Effect) {s : Signal} :
    (∃ υ, signal effect s ρ = .error f υ) ↔ ρ.hooks s = .raises f := by
  simp only [signal, bind, EStateM.bind, Run.get, Run.note, Run.fire]
  cases ρ.hooks s <;> simp

theorem settle_eq_error_iff {redirect : Option Redirect} :
    (∃ υ, settle redirect r ρ = .error f υ) ↔ Stops redirect r ρ f := by
  constructor
  · rintro ⟨υ, h⟩
    unfold settle at h
    cases heffect : r.effect.signal? with
    | some s =>
      rw [heffect] at h
      rcases bind_eq_error h with h | ⟨_, _, _, h⟩
      · exact .host heffect ((signal_eq_error_iff _).mp ⟨υ, h⟩)
      · cases h
    | none =>
      rw [heffect] at h
      simp only [bind, EStateM.bind, Run.get] at h
      cases redirect with
      | none => cases h
      | some target =>
        dsimp only at h
        split at h
        · cases h
        · next hout => exact .output heffect rfl hout h
  · intro h
    cases h with
    | host heffect hraises =>
      obtain ⟨υ, hsignal⟩ := (signal_eq_error_iff r.effect).mpr hraises
      refine ⟨υ, ?_⟩
      unfold settle
      rw [heffect]
      simp only [bind, EStateM.bind, hsignal]
    | @output target υ heffect htarget hout hwrite =>
      refine ⟨υ, ?_⟩
      subst htarget
      unfold settle
      rw [heffect]
      simp only [bind, EStateM.bind, Run.get, if_neg hout, hwrite]

/-- A fault that escapes from a command of a line does so after the command has answered. -/
theorem runCommand_eq_error (h : runCommand run c stdin σ = .error f υ) :
    ∃ p reply before ρ, run p c.args stdin before = .ok reply ρ ∧
      settle c.redirect reply.toResult ρ = .error f υ := by
  unfold runCommand at h
  simp only [bind, EStateM.bind, Run.get] at h
  cases hp : σ.commands.get? (Text.lower c.name) with
  | none =>
    rw [hp] at h
    cases h
  | some p =>
    rw [hp] at h
    dsimp only at h
    split at h
    · cases h
    · rcases bind_eq_error h with h | ⟨_, before, _, h⟩
      · cases h
      · rcases attempt_bind_eq_error h with ⟨reply, ρ, hreply, h⟩ | ⟨e, ρ, h⟩
        · exact ⟨p, reply, before, ρ, hreply, h⟩
        · exact absurd h (report_ne_error _ e)

theorem lastExit_settle (h : settle c.redirect r ρ = .error f υ) : υ.lastExit = ρ.lastExit := by
  have hkeeps : (settle c.redirect r).Keeps fun σ τ : Session C => τ.lastExit = σ.lastExit :=
    keeps_settle Session.blind_lastExit.toFrame
      (fun target text _ => Session.blind_lastExit.keeps_write target text) r
  have hafter := hkeeps ρ
  rwa [Run.after_of_error h] at hafter

theorem runLine_eq_error {l : Line} (h : runLine run l stdin σ = .error f υ) :
    runLinePipelines run stdin l σ = .error f υ := by
  cases hline : runLinePipelines run stdin l σ with
  | ok rs τ =>
    rw [runLine_of_ok hline] at h
    cases h
  | error e τ =>
    rw [runLine_of_error hline] at h
    cases h
    rfl

/-- Every fault that stops a line escapes from one of its commands after the command has answered,
and leaves the last exit code that the command left. -/
theorem exists_stops {l : Line} (h : runLine run l stdin σ = .error f υ) :
    ∃ c ∈ l.pipelines.flatten, ∃ p stdin before reply ρ,
      run p c.args stdin before = .ok reply ρ ∧ Stops c.redirect reply.toResult ρ f ∧
      υ.lastExit = ρ.lastExit := by
  obtain ⟨i, _, τ, p, _, _, hp, hpipeline⟩ := runLinePipelines_eq_error (runLine_eq_error h)
  obtain ⟨_, c, _, _, _, hc, hcommand⟩ := runCommands_eq_error (bind_pure_eq_error hpipeline)
  obtain ⟨q, reply, before, ρ, hrun, hsettle⟩ := runCommand_eq_error hcommand
  have hmem : c ∈ l.pipelines.flatten :=
    List.mem_flatten.mpr ⟨p, List.mem_of_getElem? hp, List.mem_of_getElem? hc⟩
  exact ⟨c, hmem, q, _, before, reply, ρ, hrun, settle_eq_error_iff.mp ⟨υ, hsettle⟩,
    lastExit_settle hsettle⟩

/-! ## What a typed line comes to -/

theorem execute_of_ok (htext : Text.trim text ≠ "")
    (h : runLine run (Line.ofText (Text.trim text)) "" σ = .ok r τ) :
    execute run text σ = .ok r τ := by
  unfold execute
  simp only [if_neg htext, bind, EStateM.bind, Run.attempt, h]
  rfl

theorem execute_of_error (htext : Text.trim text ≠ "")
    (h : runLine run (Line.ofText (Text.trim text)) "" σ = .error f υ) :
    execute run text σ = .ok (.failure s!"Error: {f.message}")
      { υ with notes := .lineFailed (Text.trim text) :: υ.notes } := by
  unfold execute
  simp only [if_neg htext, bind, EStateM.bind, Run.attempt, h, Run.note]
  rfl

/-- A typed line always comes to a result. -/
theorem exists_execute (run : C → List String → String → Run C Reply) (text : String)
    (σ : Session C) : ∃ r τ, execute run text σ = .ok r τ := by
  by_cases htext : Text.trim text = ""
  · refine ⟨.done, σ, ?_⟩
    unfold execute
    rw [htext]
    rfl
  · cases hline : runLine run (Line.ofText (Text.trim text)) "" σ with
    | ok r τ => exact ⟨r, τ, execute_of_ok htext hline⟩
    | error f υ => exact ⟨_, _, execute_of_error htext hline⟩

theorem lastExit_runLine {l : Line} (h : runLine run l stdin σ = .ok r τ) :
    τ.lastExit = r.exitCode := by
  cases hline : runLinePipelines run stdin l σ with
  | ok rs υ =>
    rw [runLine_of_ok hline] at h
    cases h
    rfl
  | error f υ =>
    rw [runLine_of_error hline] at h
    cases h

/-- Commands that leave the last exit code alone leave it so when a fault stops the line. -/
theorem lastExit_of_runLine_error {l : Line}
    (hrun : ∀ p args stdin, (run p args stdin).Keeps fun σ τ => τ.lastExit = σ.lastExit)
    (h : runLine run l stdin σ = .error f υ) : υ.lastExit = σ.lastExit := by
  have B := Session.blind_lastExit (C := C)
  have hkeeps : (runLinePipelines run stdin l).Keeps fun σ τ => τ.lastExit = σ.lastExit :=
    keeps_runLinePipelines B.toFrame stdin fun _ _ c _ stdin _ =>
      keeps_runCommand B.toFrame (fun p _ => hrun p c.args stdin) fun target text _ =>
        B.keeps_write target text
  have hafter := hkeeps σ
  rwa [Run.after_of_error (runLine_eq_error h)] at hafter

theorem lastExit_execute (run : C → List String → String → Run C Reply)
    (htext : Text.trim text ≠ "") (σ : Session C) :
    let l := Line.ofText (Text.trim text)
    ∃ r τ, execute run text σ = .ok r τ ∧
      (τ.lastExit = r.exitCode ↔ ∀ f υ, runLine run l "" σ = .error f υ → υ.lastExit = 1) ∧
      ∀ f υ, runLine run l "" σ = .error f υ →
        r = .failure s!"Error: {f.message}" ∧ τ.lastExit = υ.lastExit := by
  intro l
  cases hline : runLine run l "" σ with
  | ok r τ =>
    refine ⟨r, τ, execute_of_ok htext hline, ?_, fun f υ h => by cases h⟩
    exact iff_of_true (lastExit_runLine hline) fun f υ h => by cases h
  | error f υ =>
    refine ⟨_, _, execute_of_error htext hline, ⟨fun h e ρ hρ => ?_, fun h => h f υ rfl⟩, ?_⟩
    · cases hρ
      exact h
    · intro e ρ hρ
      cases hρ
      exact ⟨rfl, rfl⟩

/-- When the commands leave the last exit code alone, the faults that escape from a line leave 1 if
and only if none does or the session remembered 1 before the line. -/
theorem faults_leave_one_iff {l : Line}
    (hrun : ∀ p args stdin, (run p args stdin).Keeps fun σ τ => τ.lastExit = σ.lastExit) :
    (∀ f υ, runLine run l stdin σ = .error f υ → υ.lastExit = 1) ↔
      (∃ r τ, runLine run l stdin σ = .ok r τ) ∨ σ.lastExit = 1 := by
  cases hline : runLine run l stdin σ with
  | ok r τ => exact iff_of_true (fun f υ h => by cases h) (.inl ⟨r, τ, rfl⟩)
  | error f υ =>
    have hkept := lastExit_of_runLine_error hrun hline
    constructor
    · intro h
      exact .inr (hkept.symm.trans (h f υ rfl))
    · rintro (⟨_, _, h⟩ | h) e ρ hρ
      · cases h
      · cases hρ
        exact hkept.trans h

/-- After a line with something on it, the session remembers the exit code of the result if and only
if no fault escaped from the line, or one escaped while the session remembered 1. A fault escapes
only from a command that has answered, when the host fails to take the signal of its effect or its
output cannot be redirected, and then the session goes on remembering what it did when the command
had answered. With commands that leave the last exit code alone, that is what it did before the
line. The host takes a signal or fails, as in `Hook`; one that sets the last exit code of the
session itself while it takes a signal is not considered. -/
theorem lastExit_execute_iff (run : C → List String → String → Run C Reply) (σ : Session C)
    (htext : ∃ c ∈ text.toList, Text.isBlank c = false) :
    let l := Line.ofText (Text.trim text)
    ∃ r τ, execute run text σ = .ok r τ ∧
      (τ.lastExit = r.exitCode ↔ ∀ f υ, runLine run l "" σ = .error f υ → υ.lastExit = 1) ∧
      (∀ f υ, runLine run l "" σ = .error f υ → r = .failure s!"Error: {f.message}" ∧
        ∃ c ∈ l.pipelines.flatten, ∃ p stdin before reply ρ,
          run p c.args stdin before = .ok reply ρ ∧ Stops c.redirect reply.toResult ρ f ∧
          υ.lastExit = ρ.lastExit ∧ τ.lastExit = ρ.lastExit) ∧
      ((∀ p args stdin, (run p args stdin).Keeps fun σ τ => τ.lastExit = σ.lastExit) →
        (τ.lastExit = r.exitCode ↔
          (∃ r' τ', runLine run l "" σ = .ok r' τ') ∨ σ.lastExit = 1)) := by
  intro l
  obtain ⟨r, τ, hrun, hiff, hfault⟩ := lastExit_execute run (Text.trim_ne_empty htext) σ
  refine ⟨r, τ, hrun, hiff, fun f υ h => ?_, fun hkeeps => ?_⟩
  · obtain ⟨hr, hτ⟩ := hfault f υ h
    obtain ⟨c, hc, p, stdin, before, reply, ρ, hreply, hstops, hρ⟩ := exists_stops h
    exact ⟨hr, c, hc, p, stdin, before, reply, ρ, hreply, hstops, hρ, hτ.trans hρ⟩
  · exact hiff.trans (faults_leave_one_iff hkeeps)

theorem lastExit_execute_builtin (htext : Text.trim text ≠ "") (σ : Session Program) :
    ∃ r τ, execute Program.run text σ = .ok r τ ∧
      (τ.lastExit = r.exitCode ↔
        (∃ r' τ', runLine Program.run (Line.ofText (Text.trim text)) "" σ = .ok r' τ') ∨
          σ.lastExit = 1) := by
  obtain ⟨r, τ, hrun, hiff, -⟩ := lastExit_execute Program.run htext σ
  exact ⟨r, τ, hrun, hiff.trans (faults_leave_one_iff Session.keeps_lastExit)⟩

end Engine

/-! ## The delivered desktop -/

namespace Desktop

/-- A line that fails without a fault. The last exit code was another before. -/
theorem lastExit_execute_cat : ∃ σ, session {} 0 (fun _ => .unset) = .ok σ ∧
    (∃ c ∈ "cat missing.txt".toList, Text.isBlank c = false) ∧ σ.lastExit ≠ 1 ∧
    ∃ r τ, Engine.execute Program.run "cat missing.txt" σ = .ok r τ ∧ τ.lastExit = r.exitCode := by
  obtain ⟨σ, hσ, -⟩ := exists_session {} 0 fun _ => .unset
  have htext : ∃ c ∈ "cat missing.txt".toList, Text.isBlank c = false := ⟨'c', by decide, by decide⟩
  have hbefore : (session {} 0 fun _ => .unset).map (·.lastExit) = .ok 0 := by decide +kernel
  rw [hσ] at hbefore
  have hzero : σ.lastExit = 0 := Except.ok.inj hbefore
  have hends : (session {} 0 fun _ => .unset).map (fun σ =>
      match Engine.runLine Program.run (Line.ofText (Text.trim "cat missing.txt")) "" σ with
      | .ok _ _ => true
      | .error _ _ => false) = .ok true := by
    decide +kernel
  rw [hσ] at hends
  have hends := Except.ok.inj hends
  dsimp only at hends
  obtain ⟨r, τ, hrun, -, -, hiff⟩ := Engine.lastExit_execute_iff Program.run σ htext
  refine ⟨σ, hσ, htext, by omega, r, τ, hrun, (hiff Session.keeps_lastExit).mpr (.inl ?_)⟩
  split at hends
  · next r' τ' h => exact ⟨r', τ', h⟩
  · cases hends

/-- A host that fails to take the signal of `exit`: the line fails, and the session goes on
remembering a success. -/
theorem lastExit_ne_exit : ∃ σ, session {} 0 (fun _ => .raises (.callbackFailed "exit")) = .ok σ ∧
    (∃ c ∈ "exit".toList, Text.isBlank c = false) ∧
    ∃ r τ, Engine.execute Program.run "exit" σ = .ok r τ ∧ r.exitCode = 1 ∧ τ.lastExit = 0 := by
  have hrun : (session {} 0 fun _ => .raises (.callbackFailed "exit")).map (fun σ =>
      match Engine.execute Program.run "exit" σ with
      | .ok r τ => some (r.exitCode, τ.lastExit)
      | .error _ _ => none) = .ok (some (1, 0)) := by
    decide +kernel
  obtain ⟨σ, hσ, -⟩ := exists_session {} 0 fun _ => .raises (.callbackFailed "exit")
  rw [hσ] at hrun
  have hcodes := Except.ok.inj hrun
  dsimp only at hcodes
  refine ⟨σ, hσ, ⟨'e', by decide, by decide⟩, ?_⟩
  split at hcodes
  · next r τ h =>
    obtain ⟨hcode, hlast⟩ := Prod.mk.inj (Option.some.inj hcodes)
    exact ⟨r, τ, h, hcode, hlast⟩
  · cases hcodes

end Desktop
end DeskShell

import DeskShell.Proofs.Accounts
import DeskShell.Proofs.Answers
import DeskShell.Proofs.HalfMoves
import DeskShell.Proofs.Leads
import DeskShell.Proofs.Stages
import DeskShell.Proofs.Trails

/-!
# Filters at work

A filter works on the file that its first operand names, or on what the command before it in a
pipeline has written. It leaves the session as it was, so in a pipeline of filters each of them
finds the files that were there at the start.

* `Text.lines_unlines_of_subset`: lines that one filter has kept are the lines that the next finds.
* `Session.Holds`: a path leads to a file with this text; `Session.Feeds`: what a filter works on.
* `Session.Serves`: a built-in command stands in the table and may be run.
* `Engine.runCommand_of_found`: a command that only asks answers with what it has found out.
* `Engine.runPipeline_pair`: a second one reads what the first has written.
-/
namespace DeskShell

open Builtin (Program)

variable {C : Type} {σ τ : Session C}

/-! ## What is read -/

namespace Text

theorem lines_ne_nil (s : String) : lines s ≠ [] := pieces_ne_nil '\n' s

/-- Some of the lines of a text are the lines of the text that they make. -/
theorem lines_unlines_of_subset {parts : List String} {s : String} (hne : parts ≠ [])
    (h : parts ⊆ lines s) : lines (unlines parts) = parts :=
  pieces_glue hne fun _ hp => notMem_of_mem_pieces (h hp)

end Text

namespace Session

variable {path stdin text : String} {operands : List String}

/-- The path leads to a stored file with this text. -/
def Holds (σ : Session C) (path text : String) : Prop :=
  ∃ id n, σ.LeadsTo path id ∧ σ.store.get? id = some n ∧ n.kind = .file ∧ n.text = text

/-- The text that a filter with these operands works on. -/
def Feeds (σ : Session C) (operands : List String) (stdin text : String) : Prop :=
  match operands.head? with
  | none => stdin = text
  | some path => σ.Holds path text

theorem readFile_of_holds (h : σ.Holds path text) (command : String) :
    σ.readFile command path = .ok text := by
  obtain ⟨id, n, ⟨place, hplace, rfl⟩, hn, hkind, rfl⟩ := h
  have hdir : n.isDir = false := by simp [Node.isDir, Kind.isDir, hkind]
  simp only [readFile, locate_of_resolve hplace, hn, bind, Except.bind, pure, Except.pure, hdir,
    Bool.false_eq_true, ↓reduceIte]

theorem readOperand_of_feeds (h : σ.Feeds operands stdin text) (command : String) :
    σ.readOperand command operands.head? stdin = .ok text := by
  unfold Feeds at h
  unfold readOperand
  cases hfirst : operands.head? with
  | none =>
    rw [hfirst] at h
    exact congrArg Except.ok h
  | some path =>
    rw [hfirst] at h
    exact readFile_of_holds h command

/-- The session with the note that the engine makes when it runs a command. -/
def noted (σ : Session C) (c : Command) : Session C :=
  { σ with notes := .dispatch (Text.lower c.name) c.args.length :: σ.notes }

theorem Unseen.noted {α : Type} {f : Session C → α} (h : Unseen f) (σ : Session C) (c : Command) :
    f (σ.noted c) = f σ := by
  have hforget : (σ.noted c).forget = σ.forget := rfl
  calc
    f (σ.noted c) = f ((σ.noted c).forget.behind (σ.noted c).signals (σ.noted c).notes) := rfl
    _ = f σ.forget := by rw [h, hforget]
    _ = f (σ.forget.behind σ.signals σ.notes) := (h _ _ _).symm

/-! ## Commands in the table -/

/-- The built-in command stands under this name in the table and is not disabled; `run` says what
the entries of the table do. -/
def Serves (run : C → List String → String → Run C Reply) (σ : Session C) (name : String)
    (p : Program) : Prop :=
  ∃ command, σ.Offers name command ∧ ∀ args stdin, run command args stdin = p.run args stdin

end Session

namespace Engine

variable {run : C → List String → String → Run C Reply} {c d : Command} {p q : Program}
  {stdin text : String} {r : Result} {found next : Session C → Inquiry Result}

/-- A command that only asks answers with what it has found out. -/
theorem runCommand_of_found (hserves : σ.Serves run c.name p) (hplain : c.redirect = none)
    (hlimit : σ.limit = none) (hfound : p.inquiry? c.args stdin = some found)
    (hr : found σ = .ok r) (heffect : r.effect = .none) :
    runCommand run c stdin σ = .ok r (σ.noted c) := by
  obtain ⟨command, hoffers, hcommand⟩ := hserves
  have hasked : found (σ.noted c) = .ok r :=
    ((Program.unseen_inquiry hfound).noted σ c).trans hr
  have hrun : run command c.args stdin (σ.noted c) = .ok (.result r) (σ.noted c) := by
    rw [hcommand]
    simp only [Program.run, hfound, Inquiry.toRun, hasked, bind, EStateM.bind, pure, EStateM.pure]
  have hsigns : r.effect.signal? = none := by rw [heffect, Effect.signal?]
  have hunlimited : (σ.noted c).limit = none := hlimit
  rw [runCommand_of_offers hoffers hrun, hplain]
  simp only [settle, Reply.toResult, hsigns, bind, EStateM.bind, Run.get, Result.limited,
    hunlimited, pure, EStateM.pure]

theorem Stages.runPipeline {cs : Pipeline} {rs : List Result} (h : Stages run stdin cs rs σ τ) :
    runPipeline run cs stdin σ = .ok (.ofPipeline rs) τ := by
  simp only [Engine.runPipeline, bind, EStateM.bind, stages_iff.mp h]
  rfl

/-- Two commands that only ask: the second reads what the first has written, and the answer is its
own. -/
theorem runPipeline_pair (hlimit : σ.limit = none) (hc : σ.Serves run c.name p)
    (hcplain : c.redirect = none) (hd : σ.Serves run d.name q) (hdplain : d.redirect = none)
    (hfound : p.inquiry? c.args stdin = some found) (htext : found σ = .ok (.out text))
    (hnext : q.inquiry? d.args text = some next) (hr : next σ = .ok r)
    (heffect : r.effect = .none) :
    runPipeline run [c, d] stdin σ = .ok r ((σ.noted c).noted d) := by
  have hfirst := runCommand_of_found hc hcplain hlimit hfound htext rfl
  have hagain : next (σ.noted c) = .ok r := ((Program.unseen_inquiry hnext).noted σ c).trans hr
  have hsecond : runCommand run d (Result.out text).stdout (σ.noted c) =
      .ok r ((σ.noted c).noted d) :=
    runCommand_of_found hd hdplain hlimit hnext hagain heffect
  have hjoined : Result.ofPipeline [.out text, r] = r := by
    have herrors : Result.join ["", r.stderr] = r.stderr := by simp [Result.join_pair]
    cases r
    simp_all [Result.ofPipeline, Result.out]
  rw [Stages.runPipeline (.cons hfirst (.cons hsecond (.nil _ _))), hjoined]

end Engine

namespace Desktop

/-- On a fresh desktop, when a file with four lines has been written, all commands may be run,
without a limit on their output. -/
theorem exists_written : ∃ σ, session {} 0 (fun _ => .unset) = .ok σ ∧
    let τ := σ.play [⟨"echo \"b\na\n\nb\" > f", 1⟩]
    τ.Holds "f" "b\na\n\nb" ∧ τ.limit = none ∧ ∀ p : Program, τ.Serves Program.run p.entry.name p := by
  have hfile : (session {} 0 fun _ => .unset).map (fun σ =>
      let τ := σ.play [⟨"echo \"b\na\n\nb\" > f", 1⟩]
      (τ.resolve (some "f"), (τ.store.get? "file-1").map fun n => (n.kind, n.text))) =
      .ok (.ok (some ⟨"file-1", "C:\\Desktop\\f"⟩), some (.file, "b\na\n\nb")) := by
    decide +kernel
  have htable : (session {} 0 fun _ => .unset).map (fun σ =>
      let τ := σ.play [⟨"echo \"b\na\n\nb\" > f", 1⟩]
      (τ.limit, τ.allowed, Program.all.all fun p =>
        τ.commands.get? (Text.lower p.entry.name) == some p)) = .ok (none, none, true) := by
    decide +kernel
  obtain ⟨σ, hσ, -⟩ := exists_session {} 0 fun _ => .unset
  have hfile := eq_of_session hσ hfile
  have htable := eq_of_session hσ htable
  obtain ⟨hplace, hnode⟩ := Prod.mk.inj hfile
  obtain ⟨hlimit, htable⟩ := Prod.mk.inj htable
  obtain ⟨hallowed, hentries⟩ := Prod.mk.inj htable
  obtain ⟨n, hn, hkind⟩ := Option.map_eq_some_iff.mp hnode
  obtain ⟨hfile, htext⟩ := Prod.mk.inj hkind
  refine ⟨σ, hσ, ⟨"file-1", n, ⟨_, hplace, rfl⟩, hn, hfile, htext⟩, hlimit, fun p => ?_⟩
  refine ⟨p, ⟨?_, fun names hnames => ?_⟩, fun _ _ => rfl⟩
  · simpa using List.all_eq_true.mp hentries p p.mem_all
  · rw [hallowed] at hnames
    cases hnames

end Desktop
end DeskShell

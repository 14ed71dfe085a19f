import DeskShell.Proofs.Filtering
import DeskShell.Proofs.Seams

/-!
# From a file or through a pipe

A filter whose arguments name no file works on its input. With the name of a file behind the same
arguments it works on the file, and answers what it would answer if the file came through a pipe: its
output, its complaints about a flag or a pattern, and its exit code. The name must not be taken by a
flag in front of it.

* `Args.switch_parse_concat`: one operand more at the end is one operand more at the end when a
  switch has given back what it took.
* `Builtin.Awaits`: a filter with arguments that name no file.
* `Builtin.Awaits.exists_alike`: what it finds out about a file is what it finds out about its input.
* `Inquiry.reported`: what the engine makes of what a command has found out;
  `Engine.runCommand_of_asked`.
* `Engine.file_or_pipe`: the command and the pipeline.
-/
namespace DeskShell

open Builtin (Program)

variable {C : Type} {σ : Session C} {args : List String} {path text stdin : String}

/-! ## One operand more -/

namespace Args

variable {a : Args} {name p : String} {xs : List String}

theorem seam_of_last (h : ∀ last ∈ xs.getLast?, last ≠ "-n" ∧ last ≠ "-c") (ys : List String) :
    Seam takesText xs ys := by
  intro last hlast c hshape hc
  have hletter := (takes_iff last).mp ⟨c, hshape, hc⟩
  exact absurd hletter (not_or.mpr (h last hlast))

/-- An argument without a dash is read as one more operand when no flag takes it. -/
theorem parse_concat (h : ∀ last ∈ xs.getLast?, last ≠ "-n" ∧ last ≠ "-c")
    (hp : startsWithDash p = false) : parse (xs ++ [p]) = (parse xs).pushOperand p := by
  rw [parse_eq, parse_eq, parseWith, parseWith, piecesOf_append (seam_of_last h [p]),
    piecesOf_operand (shapeOf_operand hp), List.foldl_append]
  rfl

/-- What a flag took stood among the operands or behind them. -/
theorem slot_le {l : Char} {slot : Nat}
    (h : (parse xs).slots.get? (String.singleton l) = some slot) :
    slot ≤ (parse xs).operands.length := by
  rw [parse_eq, parseWith] at h ⊢
  rcases exists_last (Piece.takenBy l) (piecesOf takesText xs) with
    hnone | ⟨before, piece, after, v, hpieces, hpiece, hafter⟩
  · rw [slot_foldl (List.filterMap_eq_nil_iff.mpr hnone)] at h
    cases h
  · obtain rfl := eq_taken hpiece
    rw [hpieces, slot_of_last (List.filterMap_eq_nil_iff.mpr hafter)] at h
    obtain rfl := Option.some.inj h
    rw [hpieces, operands_foldl, List.filterMap_append, List.length_append, List.length_append]
    omega

/-- What a switch gives back comes before an operand at the end. -/
theorem switch_pushOperand (h : ∀ slot, a.slots.get? name = some slot → slot ≤ a.operands.length)
    (p : String) :
    (a.pushOperand p).switch name = ((a.switch name).1, (a.switch name).2.pushOperand p) := by
  have hflag : (a.pushOperand p).get? name = a.get? name := rfl
  have hslot : (a.pushOperand p).slots = a.slots := rfl
  unfold switch
  rw [hflag, hslot]
  split
  · next value slot _ hfound =>
    have hle := h slot hfound
    simp only [pushOperand, List.take_append_of_le_length hle, List.drop_append_of_le_length hle,
      List.append_assoc, List.cons_append]
  · rfl
  · rfl

theorem switch_parse_concat (h : ∀ last ∈ xs.getLast?, last ≠ "-n" ∧ last ≠ "-c")
    (hp : startsWithDash p = false) {l : Char} (hname : String.singleton l = name) :
    (parse (xs ++ [p])).switch name =
      (((parse xs).switch name).1, ((parse xs).switch name).2.pushOperand p) := by
  subst hname
  rw [parse_concat h hp, switch_pushOperand fun _ => slot_le]

end Args

/-! ## The filters -/

namespace Builtin

/-- A filter with arguments of which, when it has taken its own switch, no operand is left, or for
`grep` the pattern alone. -/
inductive Awaits : Program → List String → Prop
  | head {args : List String} (h : (Args.parse args).operands = []) : Awaits .head args
  | tail {args : List String} (h : (Args.parse args).operands = []) : Awaits .tail args
  | wc {args : List String} (h : ((Args.parse args).switch "c").2.operands = []) : Awaits .wc args
  | sort {args : List String} (h : ((Args.parse args).switch "n").2.operands = []) :
    Awaits .sort args
  | uniq {args : List String} (h : ((Args.parse args).switch "c").2.operands = []) :
    Awaits .uniq args
  | grep {args : List String} {pattern : String}
    (h : ((Args.parse args).switch "n").2.operands = [pattern]) : Awaits .grep args

theorem readOperand_pushOperand {a : Args} (h : a.operands = []) (hholds : σ.Holds path text)
    (command stdin : String) :
    σ.readOperand command (a.pushOperand path).operands.head? stdin =
      σ.readOperand command a.operands.head? text := by
  rw [Args.pushOperand, h]
  exact Session.readFile_of_holds hholds command

section

variable (hlast : ∀ last ∈ args.getLast?, last ≠ "-n" ∧ last ≠ "-c")
  (hdash : Args.startsWithDash path = false) (hholds : σ.Holds path text) (stdin : String)

include hlast hdash hholds

theorem excerpt_concat (h : (Args.parse args).operands = []) (command : String)
    (part : Extent → String → String) :
    excerpt command part (args ++ [path]) stdin σ = excerpt command part args text σ := by
  unfold excerpt
  rw [Args.parse_concat hlast hdash]
  simp only [readOperand_pushOperand h hholds command stdin]
  rfl

theorem wc_concat (h : ((Args.parse args).switch "c").2.operands = []) :
    wc (args ++ [path]) stdin σ = wc args text σ := by
  have hswitch : (Args.parse (args ++ [path])).switch "c" = _ :=
    Args.switch_parse_concat (l := 'c') hlast hdash rfl
  unfold wc
  rw [hswitch]
  dsimp only
  rw [readOperand_pushOperand h hholds "wc" stdin]
  rfl

theorem sort_concat (h : ((Args.parse args).switch "n").2.operands = []) :
    sort (args ++ [path]) stdin σ = sort args text σ := by
  have hswitch : (Args.parse (args ++ [path])).switch "n" = _ :=
    Args.switch_parse_concat (l := 'n') hlast hdash rfl
  unfold sort
  rw [hswitch]
  dsimp only
  rw [readOperand_pushOperand h hholds "sort" stdin]
  rfl

theorem uniq_concat (h : ((Args.parse args).switch "c").2.operands = []) :
    uniq (args ++ [path]) stdin σ = uniq args text σ := by
  have hswitch : (Args.parse (args ++ [path])).switch "c" = _ :=
    Args.switch_parse_concat (l := 'c') hlast hdash rfl
  unfold uniq
  rw [hswitch]
  dsimp only
  rw [readOperand_pushOperand h hholds "uniq" stdin]

theorem grep_concat {pattern : String}
    (h : ((Args.parse args).switch "n").2.operands = [pattern]) :
    grep (args ++ [path]) stdin σ = grep args text σ := by
  have hswitch : (Args.parse (args ++ [path])).switch "n" = _ :=
    Args.switch_parse_concat (l := 'n') hlast hdash rfl
  have hoperands : (((Args.parse args).switch "n").2.pushOperand path).operands =
      [pattern, path] := by
    rw [Args.pushOperand, h]
    rfl
  have hsources : sourcesOf [path] stdin σ = .ok [(path, text)] := by
    simp only [sourcesOf, List.mapM_cons, List.mapM_nil, Session.readFile_of_holds hholds]
    rfl
  unfold grep
  rw [hswitch]
  simp only [h, hoperands, hsources]
  -- One text is shown without the path that it comes from.
  rfl

/-- What a filter finds out about a file is what it finds out about its input. -/
theorem Awaits.exists_alike {p : Program} (h : Awaits p args) :
    ∃ found next : Session C → Inquiry Result, p.inquiry? (args ++ [path]) stdin = some found ∧
      p.inquiry? args text = some next ∧ found σ = next σ := by
  cases h with
  | head h => exact ⟨_, _, rfl, rfl, excerpt_concat hlast hdash hholds stdin h "head" firstOf⟩
  | tail h => exact ⟨_, _, rfl, rfl, excerpt_concat hlast hdash hholds stdin h "tail" lastOf⟩
  | wc h => exact ⟨_, _, rfl, rfl, wc_concat hlast hdash hholds stdin h⟩
  | sort h => exact ⟨_, _, rfl, rfl, sort_concat hlast hdash hholds stdin h⟩
  | uniq h => exact ⟨_, _, rfl, rfl, uniq_concat hlast hdash hholds stdin h⟩
  | grep h => exact ⟨_, _, rfl, rfl, grep_concat hlast hdash hholds stdin h⟩

end

theorem cat_of_holds (hdash : Args.startsWithDash path = false) (hholds : σ.Holds path text)
    (stdin : String) : cat [path] stdin σ = .ok (.out text) := by
  have hparse : Args.parse [path] = { operands := [path] } :=
    Args.parse_plain (by simpa using hdash)
  have htext : String.join [text] = text := by simp [String.join]
  simp only [cat, hparse, List.isEmpty_cons, Bool.false_eq_true, ↓reduceIte, List.mapM_cons,
    List.mapM_nil, Session.readFile_of_holds hholds, bind, Except.bind, pure, Except.pure, htext]

/-- Filters ask nothing of the screen. -/
theorem Awaits.silent {p : Program} (h : Awaits p args) {found : Session C → Inquiry Result}
    (hfound : p.inquiry? args stdin = some found) (σ : Session C) :
    (found σ).Yields (·.effect = .none) (·.effect = .none) := by
  have hfailed (message : String) : (Result.failure message).effect = .none := rfl
  have hprinted (text : String) : (Result.out text).effect = .none := rfl
  cases h with
  | head | tail => cases hfound; exact yields_excerpt hfailed hprinted _ _ args stdin
  | wc => cases hfound; exact yields_wc hfailed hprinted args stdin
  | sort => cases hfound; exact yields_sort hfailed hprinted args stdin
  | uniq => cases hfound; exact yields_uniq hfailed hprinted args stdin
  | grep => cases hfound; exact yields_grep hfailed hprinted args stdin

end Builtin

/-! ## The engine -/

/-- What the engine makes of what a command has found out: its result, or a report of the fault that
it has stopped with. -/
def Inquiry.reported (key : String) : Inquiry Result → Result
  | .ok r => r
  | .error (.result r) => r
  | .error (.fault f) =>
    if f.isExpected then .failure s!"{key}: {f.message}" else .failure s!"Error: {f.message}"

namespace Engine

variable {run : C → List String → String → Run C Reply} {c : Command} {p : Program}
  {found : Session C → Inquiry Result}

theorem settle_plain {r : Result} {ρ : Session C} (heffect : r.effect = .none)
    (hlimit : ρ.limit = none) : settle none r ρ = .ok r ρ := by
  simp only [settle, heffect, Effect.signal?, bind, EStateM.bind, Run.get, Result.limited, hlimit]
  rfl

theorem report_eq_ok (key : String) (f : Fault) (ρ : Session C) : ∃ τ,
    report key f ρ = .ok (Inquiry.reported key (.error (.fault f))) τ ∧ τ.forget = ρ.forget := by
  by_cases hexpected : f.isExpected = true
  · refine ⟨ρ, ?_, rfl⟩
    simp only [report, Inquiry.reported, if_pos hexpected]
    rfl
  · refine ⟨{ ρ with notes := .commandFailed key :: ρ.notes }, ?_, rfl⟩
    simp only [report, Inquiry.reported, if_neg hexpected]
    rfl

/-- A command that only asks, and nothing of the screen, leaves the session as it was but for notes,
and the engine with what it has found out. -/
theorem runCommand_of_asked (hserves : σ.Serves run c.name p) (hplain : c.redirect = none)
    (hlimit : σ.limit = none) (hfound : p.inquiry? c.args stdin = some found)
    (hsilent : (found σ).Yields (·.effect = .none) (·.effect = .none)) :
    ∃ τ, runCommand run c stdin σ = .ok ((found σ).reported (Text.lower c.name)) τ ∧
      τ.forget = σ.forget := by
  obtain ⟨command, hoffers, hcommand⟩ := hserves
  have hasked : found (σ.noted c) = found σ := (Program.unseen_inquiry hfound).noted σ c
  have hlimit : (σ.noted c).limit = none := hlimit
  have hanswer {r : Result} (hr : found σ = .ok r ∨ found σ = .error (.result r))
      (heffect : r.effect = .none) : runCommand run c stdin σ = .ok r (σ.noted c) := by
    have hrun : run command c.args stdin (σ.noted c) = .ok (.result r) (σ.noted c) := by
      rw [hcommand]
      rcases hr with hr | hr <;>
        simp only [Program.run, hfound, Inquiry.toRun, hasked, hr, bind, EStateM.bind, pure,
          EStateM.pure]
    rw [runCommand_of_offers hoffers hrun, hplain]
    exact settle_plain heffect hlimit
  cases hx : found σ with
  | ok r =>
    rw [hx] at hsilent
    cases hsilent with
    | found heffect => exact ⟨_, hanswer (.inl hx) heffect, rfl⟩
  | error stop =>
    rw [hx] at hsilent
    cases hsilent with
    | ended heffect => exact ⟨_, hanswer (.inr hx) heffect, rfl⟩
    | fault f =>
      have hrun : run command c.args stdin (σ.noted c) = .error f (σ.noted c) := by
        rw [hcommand]
        simp only [Program.run, hfound, Inquiry.toRun, hasked, hx, bind, EStateM.bind]
      obtain ⟨τ, hreport, hforget⟩ := report_eq_ok (Text.lower c.name) f (σ.noted c)
      unfold Session.noted at hrun
      refine ⟨τ, ?_, hforget⟩
      rw [runCommand_eq hoffers, hrun]
      exact hreport

/-- Output that another command reads is no part of the result of a pipeline. -/
theorem ofPipeline_out (text : String) (r : Result) :
    Result.ofPipeline [.out text, r] = Result.ofPipeline [r] := by
  have herrors : Result.join ["", r.stderr] = Result.join [r.stderr] := by
    by_cases hempty : r.stderr = "" <;> simp [Result.join, hempty]
  simp [Result.ofPipeline, Result.out, herrors]

/-- Let the arguments of `head`, `tail`, `wc`, `sort`, `uniq` or `grep` leave no operand, for `grep`
none but the pattern, and not end with a flag that would take what follows. With a file behind them
the command comes to the same result as with the file through a pipe from `cat`, and neither way
changes the session, notes apart. -/
theorem file_or_pipe {name printer : String} (hlimit : σ.limit = none)
    (hserves : σ.Serves run name p) (hcat : σ.Serves run printer .cat)
    (hawaits : Builtin.Awaits p args) (hlast : ∀ last ∈ args.getLast?, last ≠ "-n" ∧ last ≠ "-c")
    (hdash : Args.startsWithDash path = false) (hholds : σ.Holds path text)
    (stdin stdin' : String) : ∃ r τ υ,
      runPipeline run [⟨name, args ++ [path], none⟩] stdin σ = .ok r τ ∧
      runPipeline run [⟨printer, [path], none⟩, ⟨name, args, none⟩] stdin' σ = .ok r υ ∧
      τ.forget = σ.forget ∧ υ.forget = σ.forget := by
  obtain ⟨found, next, hfound, hnext, halike⟩ := hawaits.exists_alike hlast hdash hholds stdin
  have hsilent := hawaits.silent hnext σ
  obtain ⟨τ, hfile, hτ⟩ := runCommand_of_asked (c := ⟨name, args ++ [path], none⟩) hserves rfl
    hlimit hfound (halike ▸ hsilent)
  have hprinted : runCommand run ⟨printer, [path], none⟩ stdin' σ = .ok (.out text) _ :=
    runCommand_of_found hcat rfl hlimit rfl (Builtin.cat_of_holds hdash hholds stdin') rfl
  have hsame : next (σ.noted ⟨printer, [path], none⟩) = next σ :=
    (Program.unseen_inquiry hnext).noted σ _
  obtain ⟨υ, hpiped, hυ⟩ := runCommand_of_asked (c := ⟨name, args, none⟩)
    (σ := σ.noted ⟨printer, [path], none⟩) hserves rfl hlimit hnext (hsame ▸ hsilent)
  rw [hsame, ← halike] at hpiped
  refine ⟨_, τ, υ, Stages.runPipeline (.cons hfile (.nil _ _)), ?_, hτ, hυ⟩
  rw [Stages.runPipeline (.cons hprinted (.cons hpiped (.nil _ _))), ofPipeline_out]

end Engine

namespace Desktop

open Builtin (Awaits)

/-- The first lines of a file, a count that is no number, and a pattern that stands where a count
would. -/
theorem file_or_pipe_written : ∃ σ, session {} 0 (fun _ => .unset) = .ok σ ∧
    let τ := σ.play [⟨"echo \"b\na\n\nb\" > f", 1⟩]
    let cat : Command := ⟨"cat", ["f"], none⟩
    (Awaits .head ["-n", "2"] ∧ ∃ υ,
      Engine.runPipeline Program.run [cat, ⟨"head", ["-n", "2"], none⟩] "" τ =
        .ok (.out "b\na") υ) ∧
    (Awaits .head ["-n", "x"] ∧ ∃ υ,
      Engine.runPipeline Program.run [cat, ⟨"head", ["-n", "x"], none⟩] "" τ =
        .ok (.failure "head: invalid number: 'x'") υ) ∧
    Awaits .grep ["-n", "b"] ∧ ∃ r υ ρ,
      Engine.runPipeline Program.run [⟨"grep", ["-n", "b", "f"], none⟩] "" τ = .ok r υ ∧
      Engine.runPipeline Program.run [cat, ⟨"grep", ["-n", "b"], none⟩] "" τ = .ok r ρ := by
  have hrun : (session {} 0 fun _ => .unset).map (fun σ =>
      let τ := σ.play [⟨"echo \"b\na\n\nb\" > f", 1⟩]
      ((Engine.runPipeline Program.run [⟨"head", ["-n", "2", "f"], none⟩] "").result? τ,
        (Engine.runPipeline Program.run [⟨"head", ["-n", "x", "f"], none⟩] "").result? τ)) =
      .ok (some (.out "b\na"), some (.failure "head: invalid number: 'x'")) := by
    decide +kernel
  obtain ⟨σ, hσ, hholds, hlimit, hserves⟩ := exists_written
  have hrun := eq_of_session hσ hrun
  refine ⟨σ, hσ, ?_⟩
  dsimp only at hholds hlimit hserves hrun ⊢
  generalize σ.play [⟨"echo \"b\na\n\nb\" > f", 1⟩] = τ at hholds hlimit hserves hrun ⊢
  obtain ⟨htwo, hx⟩ := Prod.mk.inj hrun
  have hhead (word : String) (hword : Awaits .head ["-n", word])
      (hne : word ≠ "-n" ∧ word ≠ "-c") := Engine.file_or_pipe hlimit (hserves .head) (hserves .cat)
    hword (by simpa using hne) (rfl : Args.startsWithDash "f" = false) hholds "" ""
  have htwoAwaits : Awaits .head ["-n", "2"] := .head rfl
  have hxAwaits : Awaits .head ["-n", "x"] := .head rfl
  have hbAwaits : Awaits .grep ["-n", "b"] := .grep rfl
  obtain ⟨r, υ, ρ, hfile, hpiped, -⟩ := hhead "2" htwoAwaits (by decide)
  obtain ⟨q, κ, μ, hfile', hpiped', -⟩ := hhead "x" hxAwaits (by decide)
  obtain ⟨g, θ, ξ, hgrep, hgrep', -⟩ := Engine.file_or_pipe hlimit (hserves .grep) (hserves .cat)
    hbAwaits (by decide) (rfl : Args.startsWithDash "f" = false) hholds "" ""
  obtain ⟨rfl, -⟩ := EStateM.Result.ok.inj (hfile.symm.trans (Run.eq_ok_of_result? htwo))
  obtain ⟨rfl, -⟩ := EStateM.Result.ok.inj (hfile'.symm.trans (Run.eq_ok_of_result? hx))
  exact ⟨⟨htwoAwaits, ρ, hpiped⟩, ⟨hxAwaits, μ, hpiped'⟩, hbAwaits, g, θ, ξ, hgrep, hgrep'⟩

end Desktop
end DeskShell

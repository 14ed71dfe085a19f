import DeskShell.Proofs.Outcomes

/-!
# The stages of a pipeline

Each command of a pipeline runs once, in order, whatever the exit codes before it, and reads what
the one before it wrote. So a pipeline may be cut anywhere: its second part is a pipeline of its own
that reads the output of the first, in the session that the first has left.

* `Result.join_append`: texts joined part by part, with the empty ones left out.
* `Engine.Stages`: commands that run one after the other; `Engine.stages_iff`.
* `Engine.runCommands_append`: the commands of two parts; `Engine.runCommands_eq_error`: where a
  fault comes from.
* `Engine.runPipeline_append`: a pipeline in two parts.
-/
namespace DeskShell

/-! ## Joined texts -/

theorem Text.unlines_ne_empty {texts : List String} (hne : texts ≠ []) (h : ∀ t ∈ texts, t ≠ "") :
    unlines texts ≠ "" := by
  obtain ⟨t, rest, rfl⟩ := List.exists_cons_of_ne_nil hne
  have ht := h t List.mem_cons_self
  by_cases hrest : rest = []
  · rwa [hrest, unlines_singleton]
  · rw [← List.singleton_append, unlines_append (List.cons_ne_nil t []) hrest, unlines_singleton]
    simp [ht]

namespace Result

theorem join_eq_empty_iff (texts : List String) :
    join texts = "" ↔ texts.filter (· != "") = [] := by
  unfold join
  constructor
  · intro h
    by_contra hne
    exact Text.unlines_ne_empty hne (fun t ht => by simpa using (List.mem_filter.mp ht).2) h
  · intro h
    rw [h]
    rfl

theorem join_pair (s t : String) : join [s, t] =
    if s = "" then t else if t = "" then s else s ++ "\n" ++ t := by
  unfold join
  by_cases hs : s = ""
  · have hkept : [s, t].filter (· != "") = [t].filter (· != "") := by simp [hs]
    rw [if_pos hs, hkept]
    by_cases ht : t = ""
    · rw [ht]
      rfl
    · simp [ht, Text.unlines_singleton]
  · by_cases ht : t = ""
    · simp [hs, ht, Text.unlines_singleton]
    · have hkept : [s, t].filter (· != "") = [s] ++ [t] := by simp [hs, ht]
      rw [if_neg hs, if_neg ht, hkept,
        Text.unlines_append (List.cons_ne_nil s []) (List.cons_ne_nil t []),
        Text.unlines_singleton, Text.unlines_singleton]

/-- Texts may be joined in two parts, also when there is nothing in one of them. -/
theorem join_append (xs ys : List String) : join (xs ++ ys) = join [join xs, join ys] := by
  have hsplit : join (xs ++ ys) =
      Text.unlines (xs.filter (· != "") ++ ys.filter (· != "")) := by
    rw [join, List.filter_append]
  rw [hsplit, join_pair]
  by_cases hx : join xs = ""
  · rw [if_pos hx, (join_eq_empty_iff xs).mp hx, List.nil_append, join]
  · have hxs := mt (join_eq_empty_iff xs).mpr hx
    by_cases hy : join ys = ""
    · rw [if_neg hx, if_pos hy, (join_eq_empty_iff ys).mp hy, List.append_nil, join]
    · rw [if_neg hx, if_neg hy]
      exact Text.unlines_append hxs (mt (join_eq_empty_iff ys).mpr hy)

end Result

namespace Engine

variable {C : Type} (run : C → List String → String → Run C Reply)

/-! ## Commands one after the other -/

/-- Commands that run one after the other, each on the output of the one before it and the first on
`stdin`, with their results. -/
inductive Stages : String → List Command → List Result → Session C → Session C → Prop
  | nil (stdin : String) (σ : Session C) : Stages stdin [] [] σ σ
  | cons {stdin : String} {c : Command} {p : List Command} {r : Result} {rs : List Result}
      {σ τ ρ : Session C} (hc : runCommand run c stdin σ = .ok r τ)
      (hp : Stages r.stdout p rs τ ρ) : Stages stdin (c :: p) (r :: rs) σ ρ

variable {run} {a b p : Pipeline} {stdin : String} {σ τ : Session C} {rs : List Result}

theorem Stages.length_eq (h : Stages run stdin p rs σ τ) : rs.length = p.length := by
  induction h with
  | nil => rfl
  | cons _ _ ih => rw [List.length_cons, List.length_cons, ih]

theorem Stages.ne_nil (h : Stages run stdin p rs σ τ) (hp : p ≠ []) : rs ≠ [] := by
  cases h with
  | nil => exact absurd rfl hp
  | cons => exact List.cons_ne_nil _ _

theorem stages_iff : ∀ {p : Pipeline} {stdin : String} {σ : Session C} {rs : List Result},
    Stages run stdin p rs σ τ ↔ runCommands run stdin p σ = .ok rs τ
  | [], stdin, σ, rs => by
    constructor
    · intro h
      cases h
      rfl
    · intro h
      cases h
      exact .nil _ _
  | c :: p, stdin, σ, rs => by
    constructor
    · intro h
      cases h with
      | cons hc hp =>
        have hp := stages_iff.mp hp
        simp only [runCommands, bind, EStateM.bind, hc, hp]
        rfl
    · intro h
      obtain ⟨r, υ, hc, h⟩ := bind_eq_ok h
      obtain ⟨rs, ρ, hp, h⟩ := bind_eq_ok h
      cases h
      exact .cons hc (stages_iff.mpr hp)

/-- What is read behind stages with these results. -/
def outputOf (stdin : String) (rs : List Result) : String := (rs.getLast?.map (·.stdout)).getD stdin

theorem outputOf_cons (stdin : String) (r : Result) (rs : List Result) :
    outputOf stdin (r :: rs) = outputOf r.stdout rs := by
  cases hlast : rs.getLast? <;> simp [outputOf, List.getLast?_cons, hlast]

theorem runCommands_append (run : C → List String → String → Run C Reply) (b : Pipeline) :
    ∀ (a : Pipeline) (stdin : String), runCommands run stdin (a ++ b) = (do
      let ra ← runCommands run stdin a
      let rb ← runCommands run (outputOf stdin ra) b
      return ra ++ rb)
  | [], stdin => by simp [runCommands, outputOf]
  | c :: a, stdin => by
    simp only [List.cons_append, runCommands, runCommands_append run b a, bind_assoc, pure_bind,
      outputOf_cons]

/-- A fault comes from one of the commands, behind others that have run. -/
theorem runCommands_eq_error {f : Fault} : ∀ {p : Pipeline} {stdin : String} {σ : Session C},
    runCommands run stdin p σ = .error f τ →
    ∃ i c rs υ, Stages run stdin (p.take i) rs σ υ ∧ p[i]? = some c ∧
      runCommand run c (outputOf stdin rs) υ = .error f τ
  | [], stdin, σ, h => by cases h
  | c :: p, stdin, σ, h => by
    unfold runCommands at h
    rcases bind_eq_error h with h | ⟨r, υ, hc, h⟩
    · exact ⟨0, c, [], σ, .nil _ _, rfl, h⟩
    · obtain ⟨i, d, rs, ρ, hstages, hd, hfault⟩ := runCommands_eq_error (bind_pure_eq_error h)
      exact ⟨i + 1, d, r :: rs, ρ, .cons hc hstages, hd, by rwa [outputOf_cons]⟩

/-! ## A pipeline in two parts -/

theorem stdout_ofPipeline (stdin : String) (hne : rs ≠ []) :
    (Result.ofPipeline rs).stdout = outputOf stdin rs := by
  simp [Result.ofPipeline, outputOf, List.getLast?_eq_some_getLast hne]

/-- The result of two parts comes from the results of each. -/
theorem ofPipeline_append {ra rb : List Result} (hb : rb ≠ []) :
    Result.ofPipeline (ra ++ rb) =
      { stdout := (Result.ofPipeline rb).stdout
        stderr := Result.join [(Result.ofPipeline ra).stderr, (Result.ofPipeline rb).stderr]
        exitCode := (Result.ofPipeline rb).exitCode } := by
  simp [Result.ofPipeline, List.getLast?_eq_some_getLast hb, Result.join_append]

/-- Programs with equal results of the first part go on alike. -/
theorem bind_congr_of_ok {α β : Type} {x : Run C α} {f g : α → Run C β}
    (h : ∀ v υ, x σ = .ok v υ → f v υ = g v υ) : (x >>= f) σ = (x >>= g) σ := by
  simp only [bind, EStateM.bind]
  cases hx : x σ with
  | ok v υ => exact h v υ hx
  | error e υ => rfl

/-- A pipeline of two parts comes to the same, from every session, as its first part and then its
second on the output of the first: the same session, output and exit code, with the errors of both,
and the same fault where a command raises one. All its commands run, in order, each once and on the
output of the one before it, unless one of them stops with a fault; exit codes play no part. -/
theorem runPipeline_append (run : C → List String → String → Run C Reply) {a b : Pipeline}
    (ha : a ≠ []) (hb : b ≠ []) (stdin : String) :
    runPipeline run (a ++ b) stdin = (do
      let ra ← runPipeline run a stdin
      let rb ← runPipeline run b ra.stdout
      return {
        stdout := rb.stdout
        stderr := Text.unlines ([ra.stderr, rb.stderr].filter (· != ""))
        exitCode := rb.exitCode }) ∧
    ∀ σ : Session C,
      (∃ rs τ, Stages run stdin (a ++ b) rs σ τ ∧ rs.length = a.length + b.length ∧
        runPipeline run (a ++ b) stdin σ = .ok (.ofPipeline rs) τ) ∨
      ∃ i c rs υ f τ, Stages run stdin ((a ++ b).take i) rs σ υ ∧ (a ++ b)[i]? = some c ∧
        runCommand run c (outputOf stdin rs) υ = .error f τ ∧
        runPipeline run (a ++ b) stdin σ = .error f τ := by
  constructor
  · funext σ
    simp only [runPipeline, runCommands_append, bind_assoc, pure_bind]
    refine bind_congr_of_ok fun ra υ hra => ?_
    rw [stdout_ofPipeline stdin ((stages_iff.mpr hra).ne_nil ha)]
    refine bind_congr_of_ok fun rb τ hrb => ?_
    rw [ofPipeline_append ((stages_iff.mpr hrb).ne_nil hb)]
    rfl
  · intro σ
    cases h : runCommands run stdin (a ++ b) σ with
    | ok rs τ =>
      have hstages := stages_iff.mpr h
      refine .inl ⟨rs, τ, hstages, by rw [hstages.length_eq, List.length_append], ?_⟩
      simp only [runPipeline, bind, EStateM.bind, h]
      rfl
    | error f τ =>
      obtain ⟨i, c, rs, υ, hstages, hc, hfault⟩ := runCommands_eq_error h
      refine .inr ⟨i, c, rs, υ, f, τ, hstages, hc, hfault, ?_⟩
      simp only [runPipeline, bind, EStateM.bind, h]

end Engine

namespace Desktop

open Builtin (Program)

/-- The first two commands of `cat a.txt | echo b | cat` and the third: a failure at the start, and
the last reads the output of the second. -/
theorem runPipeline_append_failure : ∃ σ, session {} 0 (fun _ => .unset) = .ok σ ∧
    let a : Pipeline := [⟨"cat", ["a.txt"], none⟩, ⟨"echo", ["b"], none⟩]
    let b : Pipeline := [⟨"cat", [], none⟩]
    a ≠ [] ∧ b ≠ [] ∧ ∃ ra υ rb τ, Engine.runPipeline Program.run a "" σ = .ok ra υ ∧
      Engine.runPipeline Program.run b ra.stdout υ = .ok rb τ ∧
      Engine.runPipeline Program.run (a ++ b) "" σ =
        .ok { stdout := "b", stderr := "cat: a.txt: No such file or directory" } τ := by
  let a : Pipeline := [⟨"cat", ["a.txt"], none⟩, ⟨"echo", ["b"], none⟩]
  let b : Pipeline := [⟨"cat", [], none⟩]
  have hrun : (session {} 0 fun _ => .unset).map (fun σ =>
      ((Engine.runPipeline Program.run a "").result? σ,
        (Engine.runPipeline Program.run b "b").result?
          ((Engine.runPipeline Program.run a "").after σ))) =
      .ok (some { stdout := "b", stderr := "cat: a.txt: No such file or directory" },
        some (.out "b")) := by
    decide +kernel
  obtain ⟨σ, hσ, -⟩ := exists_session {} 0 fun _ => .unset
  rw [hσ] at hrun
  have hrun := Except.ok.inj hrun
  simp only [Prod.mk.injEq] at hrun
  have hfirst := Run.eq_ok_of_result? hrun.1
  have hsecond := Run.eq_ok_of_result? hrun.2
  have happend := congrFun
    (Engine.runPipeline_append Program.run (a := a) (b := b) (by decide) (by decide) "").1 σ
  simp only [bind, EStateM.bind, hfirst, hsecond] at happend
  exact ⟨σ, hσ, by decide, by decide, _, _, _, _, hfirst, hsecond, happend⟩

end Desktop
end DeskShell

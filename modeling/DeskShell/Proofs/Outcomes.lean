import DeskShell.Proofs.Sequences

/-!
# What a line comes to

A line runs its first pipelines, up to the first `&&` after a failure, and leaves the output and the
errors of exactly these and the exit code of the last of them. A fault can only come from one of
these pipelines, and it stops the line.

* `Engine.Breaks`, `Engine.EndsAt`: where a line ends.
* `Engine.runLinks_eq_error`, `Engine.runLinePipelines_eq_error`: where a fault comes from.
* `Engine.runLine_outcome`: the result of a line and the session that it leaves, or the fault.
-/
namespace DeskShell.Engine

variable {C : Type} {run : C → List String → String → Run C Reply} {stdin : String}
  {σ τ : Session C} {rs : List Result} {f : Fault}

/-- After its first `i` pipelines, with these results, a line breaks off: an `&&` comes next and the
last of them failed. -/
def Breaks (operators : List String) (rs : List Result) (i : Nat) : Prop :=
  1 ≤ i ∧ operators[i - 1]? = some "&&" ∧ ∃ r, rs[i - 1]? = some r ∧ r.exitCode ≠ 0

/-- The first place where a line breaks off is after `k` pipelines, or it has no more than that and
breaks off nowhere. -/
structure EndsAt (l : Line) (rs : List Result) (k : Nat) : Prop where
  least : ∀ i < k, ¬ Breaks l.operators rs i
  last : Breaks l.operators rs k ∨ k = l.pipelines.length

theorem Row.length_eq {ps : List Pipeline} (h : Row run stdin ps rs σ τ) :
    rs.length = ps.length := by
  induction h with
  | nil => rfl
  | cons _ _ ih => rw [List.length_cons, List.length_cons, ih]

/-- When the first `&&` after a failure is the one after the last result, the line ends there. -/
theorem endsAt_length {l : Line} (hle : rs.length ≤ l.pipelines.length)
    (hiff : ∀ i < l.pipelines.length, i < rs.length ↔
      ∀ j < i, l.operators[j]? = some "&&" → ∀ r, rs[j]? = some r → r.exitCode = 0) :
    EndsAt l rs rs.length := by
  have hleast : ∀ i < rs.length, ¬ Breaks l.operators rs i := by
    rintro i hi ⟨hpos, hop, r, hr, hcode⟩
    exact hcode ((hiff i (by omega)).mp hi (i - 1) (by omega) hop r hr)
  refine ⟨hleast, ?_⟩
  rcases Nat.lt_or_eq_of_le hle with hlt | heq
  · -- The next pipeline does not run, so there is a break among the first ones, and it is the last.
    have hstop := mt (hiff rs.length hlt).mpr (Nat.lt_irrefl _)
    push Not at hstop
    obtain ⟨j, hj, hop, r, hr, hcode⟩ := hstop
    have hbreaks : Breaks l.operators rs (j + 1) := ⟨by omega, hop, r, hr, hcode⟩
    rcases Nat.lt_or_eq_of_le (show j + 1 ≤ rs.length from hj) with hlt' | heq
    · exact absurd hbreaks (hleast _ hlt')
    · exact .inl (heq ▸ hbreaks)
  · exact .inr heq

/-! ## Faults -/

theorem bind_eq_error {α β : Type} {x : Run C α} {g : α → Run C β}
    (h : (x >>= g) σ = .error f τ) :
    x σ = .error f τ ∨ ∃ a υ, x σ = .ok a υ ∧ g a υ = .error f τ := by
  simp only [bind, EStateM.bind] at h
  cases hx : x σ with
  | ok a υ =>
    rw [hx] at h
    exact .inr ⟨a, υ, rfl, h⟩
  | error e υ =>
    rw [hx] at h
    cases h
    exact .inl rfl

theorem bind_pure_eq_error {α β : Type} {x : Run C α} {g : α → β}
    (h : (x >>= fun a => pure (g a)) σ = .error f τ) : x σ = .error f τ :=
  (bind_eq_error h).resolve_right fun ⟨_, _, _, h⟩ => by cases h

/-- A fault of a pipeline or of what runs after it. -/
theorem runPipeline_bind_eq_error {p : Pipeline} {g : Result → Run C (List Result)}
    (h : (runPipeline run p stdin >>= fun r => g r >>= fun rs => pure (r :: rs)) σ = .error f τ) :
    runPipeline run p stdin σ = .error f τ ∨
      ∃ r υ, runPipeline run p stdin σ = .ok r υ ∧ g r υ = .error f τ := by
  rcases bind_eq_error h with h | ⟨r, υ, hr, h⟩
  · exact .inl h
  · rcases bind_eq_error h with h | ⟨rs, ρ, -, h⟩
    · exact .inr ⟨r, υ, hr, h⟩
    · cases h

/-- A fault in the further pipelines of a line is one of a pipeline that comes to run. -/
theorem runLinks_eq_error : ∀ {links : List (String × Pipeline)} {exitCode : Int} {σ : Session C},
    runLinks run stdin exitCode links σ = .error f τ →
    ∃ i rs υ p, Row run stdin ((links.map (·.2)).take i) rs σ υ ∧
      (∀ j ≤ i, (links.map (·.1))[j]? = some "&&" →
        ∀ c, (exitCode :: rs.map (·.exitCode))[j]? = some c → c = 0) ∧
      (links.map (·.2))[i]? = some p ∧ runPipeline run p stdin υ = .error f τ
  | [], exitCode, σ, h => by cases h
  | (operator, p) :: rest, exitCode, σ, h => by
    unfold runLinks at h
    split at h
    · rcases bind_eq_error h with h | ⟨_, υ, -, h⟩ <;> cases h
    · next hgo =>
      have hfirst : operator = "&&" → exitCode = 0 := fun ho => by
        by_contra hc
        exact hgo ⟨ho, hc⟩
      rcases runPipeline_bind_eq_error h with h | ⟨r, υ, hr, h⟩
      · refine ⟨0, [], σ, p, .nil σ, fun j hj ho c hc => ?_, rfl, h⟩
        obtain rfl := Nat.le_zero.mp hj
        obtain rfl : exitCode = c := by simpa using hc
        exact hfirst (by simpa using ho)
      · obtain ⟨i, rs, ρ, q, hrow, hall, hq, hfault⟩ := runLinks_eq_error h
        refine ⟨i + 1, r :: rs, ρ, q, .cons hr hrow, fun j hj ho c hc => ?_, hq, hfault⟩
        cases j with
        | zero =>
          obtain rfl : exitCode = c := by simpa using hc
          exact hfirst (by simpa using ho)
        | succ j => exact hall j (by omega) (by simpa using ho) c (by simpa using hc)

theorem runLinePipelines_eq_error {l : Line} (h : runLinePipelines run stdin l σ = .error f τ) :
    ∃ i rs υ p, Row run stdin (l.pipelines.take i) rs σ υ ∧ (∀ j ≤ i, ¬ Breaks l.operators rs j) ∧
      l.pipelines[i]? = some p ∧ runPipeline run p stdin υ = .error f τ := by
  cases l with
  | empty => cases h
  | chain first rest =>
    rcases runPipeline_bind_eq_error h with h | ⟨r, υ, hr, h⟩
    · refine ⟨0, [], σ, first, .nil σ, fun j hj hb => ?_, rfl, h⟩
      exact absurd hb.1 (by omega)
    · obtain ⟨i, rs, ρ, p, hrow, hall, hp, hfault⟩ := runLinks_eq_error h
      refine ⟨i + 1, r :: rs, ρ, p, .cons hr hrow, ?_, hp, hfault⟩
      rintro j hj ⟨hpos, hop, q, hq, hcode⟩
      refine hcode (hall (j - 1) (by omega) hop q.exitCode ?_)
      rw [← List.map_cons, List.getElem?_map, hq, Option.map_some]

/-! ## Outcomes -/

theorem runLine_of_ok {l : Line} (h : runLinePipelines run stdin l σ = .ok rs τ) :
    runLine run l stdin σ =
      .ok (.ofLine rs) { τ with lastExit := (Result.ofLine rs).exitCode } := by
  simp only [runLine, bind, EStateM.bind, h]
  rfl

theorem runLine_of_error {l : Line} (h : runLinePipelines run stdin l σ = .error f τ) :
    runLine run l stdin σ = .error f τ := by
  simp only [runLine, bind, EStateM.bind, h]

/-- A line runs its pipelines in order, each from the session that the one before it left and all on
the same input, up to the first `&&` after a failure. It leaves the output and the errors of exactly
these pipelines, each text that is not empty on lines of its own, and the exit code of the last, 0
if there is none; this is also the last exit code of the session. Otherwise one of the pipelines
that come to run stops with a fault, and the line stops there with it. -/
theorem runLine_outcome (run : C → List String → String → Run C Reply) (l : Line) (stdin : String)
    (σ : Session C) :
    (∃ k rs ρ τ, EndsAt l rs k ∧ Row run stdin (l.pipelines.take k) rs σ ρ ∧
      (τ = ρ ∨ ∃ c, τ = { ρ with notes := .shortCircuit c :: ρ.notes }) ∧
      let exitCode := (rs[k - 1]?.map (·.exitCode)).getD 0
      runLine run l stdin σ = .ok
        { stdout := Text.unlines ((rs.map (·.stdout)).filter (· != ""))
          stderr := Text.unlines ((rs.map (·.stderr)).filter (· != "")), exitCode }
        { τ with lastExit := exitCode }) ∨
    ∃ i rs υ p f τ, (∀ j ≤ i, ¬ Breaks l.operators rs j) ∧
      Row run stdin (l.pipelines.take i) rs σ υ ∧ l.pipelines[i]? = some p ∧
      runPipeline run p stdin υ = .error f τ ∧ runLine run l stdin σ = .error f τ := by
  cases h : runLinePipelines run stdin l σ with
  | ok rs τ =>
    obtain ⟨⟨ρ, hrow, hτ⟩, hiff⟩ := runLinePipelines_eq_ok h
    have hle : rs.length ≤ l.pipelines.length := by
      have := hrow.length_eq
      rw [List.length_take] at this
      omega
    refine .inl ⟨rs.length, rs, ρ, τ, endsAt_length hle hiff, hrow, hτ, ?_⟩
    rw [← List.getLast?_eq_getElem?]
    exact runLine_of_ok h
  | error f τ =>
    obtain ⟨i, rs, υ, p, hrow, hall, hp, hfault⟩ := runLinePipelines_eq_error h
    exact .inr ⟨i, rs, υ, p, f, τ, hall, hrow, hp, hfault, runLine_of_error h⟩

end DeskShell.Engine

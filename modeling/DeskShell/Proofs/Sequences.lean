import DeskShell.Proofs.WorkingFolder

/-!
# Which pipelines of a line run

A line runs its pipelines in order and ends at the first `&&` after a failure. What comes after that
`&&` does not run, also when a later pipeline follows a `;`.

* `Engine.Row`: pipelines carried out one after the other.
* `Engine.runLinks_eq_ok`, `Engine.runLinePipelines_eq_ok`: what the further pipelines of a line,
  and all of them, come to.
* `Engine.runs_iff`: which pipelines of a line run.
* `Desktop.not_runs_semicolon`: a pipeline after a `;` that does not run.
-/
namespace DeskShell.Engine

open Builtin (Program)

variable {C : Type} (run : C → List String → String → Run C Reply)

/-- Pipelines that run one after the other, all on the same input, with their results. -/
inductive Row (stdin : String) : List Pipeline → List Result → Session C → Session C → Prop
  | nil (σ : Session C) : Row stdin [] [] σ σ
  | cons {σ τ ρ : Session C} {p : Pipeline} {ps : List Pipeline} {r : Result} {rs : List Result}
      (hp : runPipeline run p stdin σ = .ok r τ) (hps : Row stdin ps rs τ ρ) :
      Row stdin (p :: ps) (r :: rs) σ ρ

variable {run} {stdin : String} {σ τ : Session C} {rs : List Result}

theorem bind_eq_ok {α β : Type} {x : Run C α} {f : α → Run C β} {b : β}
    (h : (x >>= f) σ = .ok b τ) : ∃ a υ, x σ = .ok a υ ∧ f a υ = .ok b τ := by
  simp only [bind, EStateM.bind] at h
  cases hx : x σ with
  | ok a υ =>
    rw [hx] at h
    exact ⟨a, υ, rfl, h⟩
  | error e υ =>
    rw [hx] at h
    cases h

/-- A pipeline and what runs after it. -/
theorem runPipeline_bind_eq_ok {p : Pipeline} {f : Result → Run C (List Result)}
    (h : (runPipeline run p stdin >>= fun r => f r >>= fun rs => pure (r :: rs)) σ = .ok rs τ) :
    ∃ r υ rs', runPipeline run p stdin σ = .ok r υ ∧ f r υ = .ok rs' τ ∧ rs = r :: rs' := by
  obtain ⟨r, υ, hr, h⟩ := bind_eq_ok h
  obtain ⟨rs', υ', hrs, h⟩ := bind_eq_ok h
  cases h
  exact ⟨r, υ, rs', hr, hrs, rfl⟩

/-- The further pipelines run in order, as long as there is no `&&` after a failure. -/
theorem runLinks_eq_ok : ∀ {links : List (String × Pipeline)} {exitCode : Int} {σ : Session C}
    {rs : List Result}, runLinks run stdin exitCode links σ = .ok rs τ →
    (∃ ρ, Row run stdin ((links.map (·.2)).take rs.length) rs σ ρ ∧
      (τ = ρ ∨ ∃ c, τ = { ρ with notes := .shortCircuit c :: ρ.notes })) ∧
    ∀ i < links.length, i < rs.length ↔ ∀ j ≤ i, (links.map (·.1))[j]? = some "&&" →
      ∀ c, (exitCode :: rs.map (·.exitCode))[j]? = some c → c = 0
  | [], exitCode, σ, rs, h => by
    cases h
    exact ⟨⟨_, .nil _, .inl rfl⟩, by simp⟩
  | (operator, p) :: rest, exitCode, σ, rs, h => by
    unfold runLinks at h
    split at h
    · next hstop =>
      cases h
      refine ⟨⟨σ, .nil σ, .inr ⟨exitCode, rfl⟩⟩, fun i _ => iff_of_false (by simp) fun hall => ?_⟩
      exact hstop.2 (hall 0 (Nat.zero_le i) (by simp [hstop.1]) exitCode rfl)
    · next hgo =>
      obtain ⟨r, υ, rs', hr, hrs, rfl⟩ := runPipeline_bind_eq_ok h
      obtain ⟨⟨ρ, hrow, hτ⟩, hiff⟩ := runLinks_eq_ok hrs
      refine ⟨⟨ρ, .cons hr hrow, hτ⟩, fun i hi => ?_⟩
      have hfirst : operator = "&&" → exitCode = 0 := fun ho => by
        by_contra hc
        exact hgo ⟨ho, hc⟩
      cases i with
      | zero =>
        refine iff_of_true (by simp) fun j hj ho c hc => ?_
        obtain rfl := Nat.le_zero.mp hj
        obtain rfl : exitCode = c := by simpa using hc
        exact hfirst (by simpa using ho)
      | succ i =>
        have hi' : i < rest.length := by simpa using hi
        rw [List.length_cons, Nat.succ_lt_succ_iff, hiff i hi']
        constructor
        · intro hall j hj ho c hc
          cases j with
          | zero =>
            obtain rfl : exitCode = c := by simpa using hc
            exact hfirst (by simpa using ho)
          | succ j => exact hall j (by omega) (by simpa using ho) c (by simpa using hc)
        · intro hall j hj ho c hc
          exact hall (j + 1) (by omega) (by simpa using ho) c (by simpa using hc)

/-- The pipelines of a line run in order, as long as there is no `&&` after a failure. -/
theorem runLinePipelines_eq_ok {l : Line} (h : runLinePipelines run stdin l σ = .ok rs τ) :
    (∃ ρ, Row run stdin (l.pipelines.take rs.length) rs σ ρ ∧
      (τ = ρ ∨ ∃ c, τ = { ρ with notes := .shortCircuit c :: ρ.notes })) ∧
    ∀ i < l.pipelines.length, i < rs.length ↔
      ∀ j < i, l.operators[j]? = some "&&" → ∀ r, rs[j]? = some r → r.exitCode = 0 := by
  cases l with
  | empty =>
    cases h
    exact ⟨⟨_, .nil _, .inl rfl⟩, by simp [Line.pipelines]⟩
  | chain first rest =>
    obtain ⟨r, υ, rs', hr, hrs, rfl⟩ := runPipeline_bind_eq_ok h
    obtain ⟨⟨ρ, hrow, hτ⟩, hiff⟩ := runLinks_eq_ok hrs
    refine ⟨⟨ρ, .cons hr hrow, hτ⟩, fun i hi => ?_⟩
    cases i with
    | zero => exact iff_of_true (by simp) fun j hj => absurd hj (Nat.not_lt_zero j)
    | succ i =>
      have hi' : i < rest.length := by simpa [Line.pipelines] using hi
      rw [List.length_cons, Nat.succ_lt_succ_iff, hiff i hi', ← List.map_cons]
      constructor
      · intro hall j hj ho q hq
        exact hall j (by omega) ho q.exitCode (by rw [List.getElem?_map, hq, Option.map_some])
      · intro hall j hj ho c hc
        rw [List.getElem?_map] at hc
        obtain ⟨q, hq, rfl⟩ := Option.map_eq_some_iff.mp hc
        exact hall j (by omega) ho q hq

/-- The pipelines of a line that run are its first ones, in order, each from the session that the
one before it left. One runs if and only if all pipelines before it that end at an `&&` succeed. So
one that comes after a `;` runs if and only if the one before it does. -/
theorem runs_iff {l : Line} (h : runLinePipelines run stdin l σ = .ok rs τ) :
    (∃ ρ, Row run stdin (l.pipelines.take rs.length) rs σ ρ ∧
      (τ = ρ ∨ ∃ c, τ = { ρ with notes := .shortCircuit c :: ρ.notes })) ∧
    (∀ i < l.pipelines.length, i < rs.length ↔
      ∀ j < i, l.operators[j]? = some "&&" → ∀ r, rs[j]? = some r → r.exitCode = 0) ∧
    ∀ i, l.operators[i]? = some ";" → (i + 1 < rs.length ↔ i < rs.length) := by
  obtain ⟨hrow, hiff⟩ := runLinePipelines_eq_ok h
  refine ⟨hrow, hiff, fun i hi => ?_⟩
  have hlt : i + 1 < l.pipelines.length := by
    have hlen := l.length_operators
    have := (List.getElem?_eq_some_iff.mp hi).1
    omega
  rw [hiff (i + 1) hlt, hiff i (by omega)]
  constructor
  · intro hall j hj
    exact hall j (by omega)
  · intro hall j hj ho
    rcases Nat.lt_succ_iff_lt_or_eq.mp hj with hj | rfl
    · exact hall j hj ho
    · rw [hi] at ho
      simp at ho

end DeskShell.Engine

namespace DeskShell.Desktop

open Builtin (Program)

/-- How many pipelines of a line run on a fresh desktop, when no fault stops them. -/
def countRuns (l : Line) : Except Fault (Option Nat) :=
  (session {} 0 fun _ => .unset).map fun σ =>
    match Engine.runLinePipelines Program.run "" l σ with
    | .ok rs _ => some rs.length
    | .error _ _ => none

theorem exists_runs {l : Line} {n : Nat} (h : countRuns l = .ok (some n)) :
    ∃ σ, session {} 0 (fun _ => .unset) = .ok σ ∧
      ∃ rs τ, Engine.runLinePipelines Program.run "" l σ = .ok rs τ ∧ rs.length = n := by
  obtain ⟨σ, hσ, -⟩ := exists_session {} 0 fun _ => .unset
  unfold countRuns at h
  rw [hσ] at h
  have h := Except.ok.inj h
  dsimp only at h
  refine ⟨σ, hσ, ?_⟩
  cases hrun : Engine.runLinePipelines Program.run "" l σ with
  | ok rs τ =>
    rw [hrun] at h
    exact ⟨rs, τ, rfl, Option.some.inj h⟩
  | error f τ =>
    rw [hrun] at h
    cases h

/-- On a fresh desktop the second pipeline of this line runs because the first one does, which
fails. -/
theorem runs_after_failure : ∃ σ, session {} 0 (fun _ => .unset) = .ok σ ∧ ∃ rs τ,
    Engine.runLinePipelines Program.run "" (Line.ofText "cat missing.txt ; echo a") σ = .ok rs τ ∧
      1 < rs.length := by
  have hrun : countRuns (Line.ofText "cat missing.txt ; echo a") = .ok (some 2) := by
    decide +kernel
  have hsemicolon : (Line.ofText "cat missing.txt ; echo a").operators[0]? = some ";" := by
    decide +kernel
  obtain ⟨σ, hσ, rs, τ, h, hlen⟩ := exists_runs hrun
  exact ⟨σ, hσ, rs, τ, h, ((Engine.runs_iff h).2.2 0 hsemicolon).mpr (by omega)⟩

/-- On a fresh desktop the third pipeline of this line comes after a `;` and does not run. -/
theorem not_runs_semicolon :
    let l := Line.ofText "cat missing.txt && echo a ; echo b"
    l.operators[1]? = some ";" ∧ 2 < l.pipelines.length ∧
      ∃ σ, session {} 0 (fun _ => .unset) = .ok σ ∧
        ∃ rs τ, Engine.runLinePipelines Program.run "" l σ = .ok rs τ ∧ ¬ 2 < rs.length := by
  intro l
  have hl : l.operators[1]? = some ";" ∧ 2 < l.pipelines.length := by decide +kernel
  have hrun : countRuns l = .ok (some 1) := by decide +kernel
  obtain ⟨σ, hσ, rs, τ, h, hlen⟩ := exists_runs hrun
  exact ⟨hl.1, hl.2, σ, hσ, rs, τ, h, by omega⟩

end DeskShell.Desktop

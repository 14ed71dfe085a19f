import DeskShell.Builtin.Filters
import Mathlib.Algebra.Ring.Nat
import Mathlib.Data.List.Chain
import Mathlib.Data.List.Nodup

/-!
# Runs of equal lines

The runs of a list of lines say what the lines are: each line stands there as often as its run
counts, and neighbouring runs are of different lines. In an ordered list equal lines are neighbours,
so that there is one run for each line.

* `Builtin.spread`: the lines that runs count; `Builtin.spread_runs`: the runs of a list count it.
* `Builtin.counts_runs`: no run is empty; `Builtin.chain_runs`: neighbours differ.
* `Builtin.lt_runs`: the lines of the runs of an ordered list ascend strictly;
  `Builtin.count_of_mem_runs`: and each run counts all that are equal to its line.
-/
namespace DeskShell.Builtin

variable {L : List String} {r : String × Nat} {rs : List (String × Nat)} {line : String}

/-- The lines that runs count. -/
def spread (rs : List (String × Nat)) : List String := rs.flatMap fun r => List.replicate r.2 r.1

theorem spread_cons (r : String × Nat) (rs : List (String × Nat)) :
    spread (r :: rs) = List.replicate r.2 r.1 ++ spread rs :=
  List.flatMap_cons

/-- The runs of a list begin with the line that the list begins with, and it is counted there. -/
theorem runs_cons (line : String) (rest : List String) :
    (∃ count others, runs rest = (line, count) :: others ∧
      runs (line :: rest) = (line, count + 1) :: others) ∨
    (∀ r ∈ (runs rest).head?, line ≠ r.1) ∧ runs (line :: rest) = (line, 1) :: runs rest := by
  cases h : runs rest with
  | nil => exact .inr ⟨by simp, by simp only [runs, h]⟩
  | cons r others =>
    obtain ⟨next, count⟩ := r
    by_cases hline : line = next
    · subst hline
      exact .inl ⟨count, others, rfl, by simp only [runs, h, ↓reduceIte]⟩
    · exact .inr ⟨by simpa using hline, by simp only [runs, h, if_neg hline]⟩

theorem spread_runs (L : List String) : spread (runs L) = L := by
  induction L with
  | nil => rfl
  | cons line rest ih =>
    rcases runs_cons line rest with ⟨count, others, hrest, hruns⟩ | ⟨-, hruns⟩
    · rw [hrest, spread_cons] at ih
      rw [hruns, spread_cons, List.replicate_succ, List.cons_append, ih]
    · rw [hruns, spread_cons, ih]
      rfl

theorem counts_runs (L : List String) : ∀ r ∈ runs L, 1 ≤ r.2 := by
  induction L with
  | nil => simp [runs]
  | cons line rest ih =>
    rcases runs_cons line rest with ⟨count, others, hrest, hruns⟩ | ⟨-, hruns⟩
    · rw [hrest] at ih
      rw [hruns]
      exact List.forall_mem_cons.mpr ⟨Nat.le_add_left 1 count, (List.forall_mem_cons.mp ih).2⟩
    · rw [hruns]
      exact List.forall_mem_cons.mpr ⟨Nat.le_refl 1, ih⟩

theorem chain_runs (L : List String) : ((runs L).map (·.1)).IsChain (· ≠ ·) := by
  induction L with
  | nil => exact .nil
  | cons line rest ih =>
    rcases runs_cons line rest with ⟨count, others, hrest, hruns⟩ | ⟨hne, hruns⟩
    · rw [hrest] at ih
      rw [hruns]
      exact ih
    · rw [hruns, List.map_cons]
      refine List.isChain_cons.mpr ⟨fun next hnext => ?_, ih⟩
      rw [List.head?_map] at hnext
      obtain ⟨r, hr, rfl⟩ := Option.map_eq_some_iff.mp hnext
      exact hne r hr

theorem sublist_spread (h : ∀ r ∈ rs, 1 ≤ r.2) : (rs.map (·.1)).Sublist (spread rs) := by
  induction rs with
  | nil => exact .slnil
  | cons r rs ih =>
    obtain ⟨hr, hrs⟩ := List.forall_mem_cons.mp h
    rw [List.map_cons, spread_cons, ← List.singleton_append]
    exact (List.singleton_sublist.mpr (by simp [List.mem_replicate]; omega)).append (ih hrs)

theorem sublist_runs (L : List String) : ((runs L).map (·.1)).Sublist L := by
  have h := sublist_spread (counts_runs L)
  rwa [spread_runs] at h

theorem mem_runs_iff (L : List String) (line : String) :
    line ∈ (runs L).map (·.1) ↔ line ∈ L := by
  refine ⟨fun h => (sublist_runs L).subset h, fun h => ?_⟩
  rw [← spread_runs L, spread] at h
  obtain ⟨r, hr, hline⟩ := List.mem_flatMap.mp h
  exact List.mem_map.mpr ⟨r, hr, (List.eq_of_mem_replicate hline).symm⟩

/-- In an ordered list equal lines are neighbours. -/
theorem lt_runs (h : L.Pairwise (· ≤ ·)) : ((runs L).map (·.1)).Pairwise (· < ·) := by
  have hle : ((runs L).map (·.1)).IsChain (· ≤ ·) := (h.sublist (sublist_runs L)).isChain
  rw [← List.isChain_iff_pairwise, List.isChain_iff_getElem]
  exact fun i hi => Std.lt_of_le_of_ne (hle.getElem i hi) ((chain_runs L).getElem i hi)

theorem count_spread (hrs : (rs.map (·.1)).Nodup) (hr : r ∈ rs) : (spread rs).count r.1 = r.2 := by
  induction rs with
  | nil => cases hr
  | cons s rs ih =>
    obtain ⟨hs, hrs⟩ := List.nodup_cons.mp hrs
    rw [spread_cons, List.count_append, List.count_replicate]
    rcases List.mem_cons.mp hr with rfl | hr
    · have hnone : (spread rs).count r.1 = 0 := by
        refine List.count_eq_zero.mpr fun hmem => hs ?_
        obtain ⟨t, ht, hline⟩ := List.mem_flatMap.mp hmem
        exact List.mem_map.mpr ⟨t, ht, (List.eq_of_mem_replicate hline).symm⟩
      simp [hnone]
    · have hne : s.1 ≠ r.1 := fun he => hs (List.mem_map.mpr ⟨r, hr, he.symm⟩)
      simp [hne, ih hrs hr]

theorem count_of_mem_runs (h : L.Pairwise (· ≤ ·)) (hr : r ∈ runs L) : L.count r.1 = r.2 := by
  have hnodup : ((runs L).map (·.1)).Nodup := (lt_runs h).imp Std.ne_of_lt
  have hcount := count_spread hnodup hr
  rwa [spread_runs] at hcount

theorem sum_counts_runs (L : List String) : ((runs L).map (·.2)).sum = L.length := by
  have h := congrArg List.length (spread_runs L)
  rw [spread, List.length_flatMap] at h
  simpa using h

end DeskShell.Builtin

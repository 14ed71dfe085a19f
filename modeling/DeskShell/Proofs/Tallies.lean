import DeskShell.Proofs.Filtering
import DeskShell.Proofs.Renaming
import DeskShell.Proofs.Runs
import Mathlib.Data.List.Sort

/-!
# Lines ordered and counted

`uniq` sees only equal lines that are neighbours. `sort` brings all equal lines together, so that
`uniq` behind it has each line of a text once, and counts all that are equal to it.

* `Builtin.sort_of_feeds`, `Builtin.uniq_of_feeds`: what the two commands answer.
* `Builtin.lines_ordered`: the lines of a text still stand apart when they have been ordered.
* `Builtin.map_countedLine`: how often a line of an ordered text stands there.
* `Engine.tallies`: each line with its number, in order.
-/
namespace DeskShell

open Builtin (Program)

variable {C : Type} {σ : Session C} {L : List String} {args : List String}
  {stdin content path : String}

namespace Builtin

/-! ## The two commands -/

theorem sort_of_feeds (hfeeds : σ.Feeds ((Args.parse args).switch "n").2.operands stdin content) :
    sort args stdin σ =
      let (numeric, parsed) := (Args.parse args).switch "n"
      let lines := Text.lines content
      let sorted := if numeric then orderedByNumber lines else ordered lines
      .ok (.out (Text.unlines (if parsed.has ["r"] then sorted.reverse else sorted))) := by
  simp only [sort, Session.readOperand_of_feeds hfeeds, bind, Except.bind]
  split <;> rfl

theorem uniq_of_feeds (hfeeds : σ.Feeds ((Args.parse args).switch "c").2.operands stdin content) :
    uniq args stdin σ = .ok (.out (Text.unlines ((runs (Text.lines content)).map
      (if ((Args.parse args).switch "c").1 then countedLine else (·.1))))) := by
  simp only [uniq, Session.readOperand_of_feeds hfeeds, bind, Except.bind]
  split <;> rfl

/-- A file whose name is the only argument. -/
theorem sort_of_holds (hdash : Args.startsWithDash path = false) (h : σ.Holds path content) :
    sort [path] stdin σ = .ok (.out (Text.unlines (ordered (Text.lines content)))) := by
  have hparse : Args.parse [path] = { operands := [path] } :=
    Args.parse_plain (by simpa using hdash)
  have hswitch : (Args.parse [path]).switch "n" = (false, { operands := [path] }) := by
    rw [hparse]
    rfl
  have hfeeds : σ.Feeds ((Args.parse [path]).switch "n").2.operands stdin content := by
    rw [hswitch]
    exact h
  rw [sort_of_feeds hfeeds, hswitch]
  rfl

theorem uniq_stdin (σ : Session C) (content : String) : uniq [] content σ =
    .ok (.out (Text.unlines ((runs (Text.lines content)).map (·.1)))) :=
  uniq_of_feeds rfl

theorem uniq_counted_stdin (σ : Session C) (content : String) : uniq ["-c"] content σ =
    .ok (.out (Text.unlines ((runs (Text.lines content)).map countedLine))) :=
  uniq_of_feeds rfl

/-! ## Order -/

theorem ordered_perm (L : List String) : (ordered L).Perm L := List.mergeSort_perm L _

theorem pairwise_ordered (L : List String) : (ordered L).Pairwise (· ≤ ·) :=
  List.pairwise_mergeSort' (· ≤ ·) L

theorem lines_ordered (content : String) :
    Text.lines (Text.unlines (ordered (Text.lines content))) = ordered (Text.lines content) := by
  have hperm := ordered_perm (Text.lines content)
  refine Text.lines_unlines_of_subset (fun hnil => ?_) hperm.subset
  rw [hnil] at hperm
  exact Text.lines_ne_nil content hperm.nil_eq.symm

/-! ## Numbers -/

/-- A run of the ordered lines counts all lines that are equal to its own. -/
theorem count_eq_of_mem_runs {r : String × Nat} (hr : r ∈ runs (ordered L)) :
    L.count r.1 = r.2 := by
  rw [← (ordered_perm L).count_eq, count_of_mem_runs (pairwise_ordered L) hr]

theorem map_countedLine (L : List String) : (runs (ordered L)).map countedLine =
    ((runs (ordered L)).map (·.1)).map fun line =>
      Text.padLeft 4 (toString (L.count line)) ++ " " ++ line := by
  rw [List.map_map]
  refine List.map_congr_left fun r hr => ?_
  simp only [Function.comp_apply, count_eq_of_mem_runs hr]
  rfl

theorem sum_count_runs (L : List String) :
    (((runs (ordered L)).map (·.1)).map fun line => L.count line).sum = L.length := by
  have hcounts : ((runs (ordered L)).map (·.1)).map (fun line => L.count line) =
      (runs (ordered L)).map (·.2) := by
    rw [List.map_map]
    exact List.map_congr_left fun r hr => count_eq_of_mem_runs hr
  rw [hcounts, sum_counts_runs, (ordered_perm L).length_eq]

end Builtin

namespace Engine

variable {run : C → List String → String → Run C Reply}

/-- `sort` and `uniq -c` behind it write each line of a file once, in strict order, and before it
how often it stands in the file; the numbers make up the number of the lines. `uniq` without the
flag writes just these lines. -/
theorem tallies (hlimit : σ.limit = none) (hsort : σ.Serves run "sort" .sort)
    (huniq : σ.Serves run "uniq" .uniq) (hdash : Args.startsWithDash path = false)
    (hholds : σ.Holds path content) (stdin : String) :
    let L := Text.lines content
    ∃ distinct : List String, distinct.Pairwise (· < ·) ∧ (∀ line, line ∈ distinct ↔ line ∈ L) ∧
      (distinct.map fun line => L.count line).sum = L.length ∧
      (∃ τ, runPipeline run [⟨"sort", [path], none⟩, ⟨"uniq", ["-c"], none⟩] stdin σ =
        .ok (.out (Text.unlines (distinct.map fun line =>
          Text.padLeft 4 (toString (L.count line)) ++ " " ++ line))) τ) ∧
      ∃ τ, runPipeline run [⟨"sort", [path], none⟩, ⟨"uniq", [], none⟩] stdin σ =
        .ok (.out (Text.unlines distinct)) τ := by
  intro L
  have hlines : (Builtin.sort [path] stdin σ) = .ok (.out (Text.unlines (Builtin.ordered L))) :=
    Builtin.sort_of_holds hdash hholds
  have hcounted := Builtin.uniq_counted_stdin σ (Text.unlines (Builtin.ordered L))
  have hbare := Builtin.uniq_stdin σ (Text.unlines (Builtin.ordered L))
  rw [Builtin.lines_ordered] at hcounted hbare
  rw [Builtin.map_countedLine] at hcounted
  refine ⟨(Builtin.runs (Builtin.ordered L)).map (·.1),
    Builtin.lt_runs (Builtin.pairwise_ordered L), fun line => ?_, Builtin.sum_count_runs L,
    ⟨_, runPipeline_pair hlimit hsort rfl huniq rfl rfl hlines rfl hcounted rfl⟩,
    ⟨_, runPipeline_pair hlimit hsort rfl huniq rfl rfl hlines rfl hbare rfl⟩⟩
  rw [Builtin.mem_runs_iff, (Builtin.ordered_perm L).mem_iff]

end Engine

namespace Desktop

/-- A file with the lines `b`, `a`, nothing and `b`. -/
theorem tallies_written : ∃ σ, session {} 0 (fun _ => .unset) = .ok σ ∧
    let τ := σ.play [⟨"echo \"b\na\n\nb\" > f", 1⟩]
    (∃ υ, Engine.runPipeline Program.run [⟨"sort", ["f"], none⟩, ⟨"uniq", ["-c"], none⟩] "" τ =
      .ok (.out "   1 \n   1 a\n   2 b") υ) ∧
    ∃ υ, Engine.runPipeline Program.run [⟨"sort", ["f"], none⟩, ⟨"uniq", [], none⟩] "" τ =
      .ok (.out "\na\nb") υ := by
  obtain ⟨σ, hσ, hholds, hlimit, hserves⟩ := exists_written
  obtain ⟨distinct, hlt, hmem, -, hcounted, hbare⟩ :=
    Engine.tallies hlimit (hserves .sort) (hserves .uniq) (by decide) hholds ""
  have hlines : Text.lines "b\na\n\nb" = ["b", "a", "", "b"] := by decide
  have hdistinct : distinct = ["", "a", "b"] := by
    refine hlt.eq_of_mem_iff (by decide) fun line => ?_
    rw [hmem, hlines]
    simp only [List.mem_cons, List.not_mem_nil, or_false]
    tauto
  rw [hlines, hdistinct] at hcounted
  rw [hdistinct] at hbare
  exact ⟨σ, hσ, hcounted, hbare⟩

end Desktop
end DeskShell

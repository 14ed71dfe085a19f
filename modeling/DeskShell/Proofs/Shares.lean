import DeskShell.Proofs.Filtering

/-!
# The lines that match and the others

`grep` and `grep -v` share the lines of their operands among themselves. With numbers on, each line
is printed with its number in its own text, and with the path of the text when there are several.

* `Filter.Placed`: a line with the place where it stands; `Filter.allPlaced`: all of them in order.
* `Filter.mem_allPlaced_iff`, `Filter.pairwise_allPlaced`: each place is met, once and in order.
* `Filter.pickAll_eq`: what is printed are the places whose lines the test tells to print.
* `Filter.Shows`: the outcome of a run that prints certain places.
* `Builtin.grep_shares`: the two shares, for any test, and the runs that print them.
-/
namespace DeskShell

variable {C : Type} {σ : Session C}

/-- The paths lead to files with these texts; without a path the input is the only text. -/
def Session.Reads (σ : Session C) (paths : List String) (stdin : String)
    (sources : List (String × String)) : Prop :=
  match paths with
  | [] => sources = [("", stdin)]
  | paths => List.Forall₂ (fun path source => source.1 = path ∧ σ.Holds path source.2) paths sources

namespace Builtin

variable {sources : List (String × String)} {accepts : String → Bool}

namespace Filter

/-! ## Places -/

/-- A line of one of several texts: which text it is, from 0 on, the path of the text, the number of
the line in it, from 1 on, and the line itself. -/
structure Placed where
  source : Nat
  path : String
  number : Nat
  line : String
  deriving Repr, DecidableEq

namespace Placed

/-- The line stands at this place of the texts. -/
def Of (sources : List (String × String)) (p : Placed) : Prop :=
  ∃ text, sources[p.source]? = some (p.path, text) ∧
    1 ≤ p.number ∧ (Text.lines text)[p.number - 1]? = some p.line

/-- Earlier in the same text, or in an earlier one. -/
def Before (p q : Placed) : Prop :=
  p.source < q.source ∨ p.source = q.source ∧ p.number < q.number

theorem Before.ne {p q : Placed} (h : p.Before q) : p ≠ q := by
  rintro rfl
  rcases h with h | ⟨-, h⟩
  · exact Nat.lt_irrefl _ h
  · exact Nat.lt_irrefl _ h

/-- The line as it is printed, behind the path if there are several texts. -/
def shown (several : Bool) (p : Placed) : String :=
  (if several then p.path ++ ":" else "") ++ s!"{p.number}:" ++ p.line

end Placed

/-- The lines of one text in order. -/
def placed (source : (String × String) × Nat) : List Placed :=
  ((Text.lines source.1.2).zipIdx 1).map fun line => ⟨source.2, source.1.1, line.2, line.1⟩

/-- The lines of all texts in order. -/
def allPlaced (sources : List (String × String)) : List Placed := sources.zipIdx.flatMap placed

theorem mem_placed_iff {source : (String × String) × Nat} {p : Placed} : p ∈ placed source ↔
    p.source = source.2 ∧ p.path = source.1.1 ∧
      1 ≤ p.number ∧ (Text.lines source.1.2)[p.number - 1]? = some p.line := by
  unfold placed
  rw [List.mem_map]
  constructor
  · rintro ⟨⟨line, number⟩, hline, rfl⟩
    exact ⟨rfl, rfl, List.mk_mem_zipIdx_iff_le_and_getElem?_sub.mp hline⟩
  · rintro ⟨hsource, hpath, hline⟩
    refine ⟨(p.line, p.number), List.mk_mem_zipIdx_iff_le_and_getElem?_sub.mpr hline, ?_⟩
    rw [← hsource, ← hpath]

theorem mem_allPlaced_iff {p : Placed} : p ∈ allPlaced sources ↔ p.Of sources := by
  unfold allPlaced
  rw [List.mem_flatMap]
  constructor
  · rintro ⟨⟨⟨path, text⟩, i⟩, hsource, hp⟩
    obtain ⟨rfl, rfl, hline⟩ := mem_placed_iff.mp hp
    exact ⟨text, List.mk_mem_zipIdx_iff_getElem?.mp hsource, hline⟩
  · rintro ⟨text, hsource, hline⟩
    exact ⟨((p.path, text), p.source), List.mk_mem_zipIdx_iff_getElem?.mpr hsource,
      mem_placed_iff.mpr ⟨rfl, rfl, hline⟩⟩

/-- Numbers that are given in order ascend. -/
theorem pairwise_zipIdx {α : Type} (l : List α) (start : Nat) :
    (l.zipIdx start).Pairwise fun a b => a.2 < b.2 := by
  rw [← List.pairwise_map, List.zipIdx_map_snd]
  exact List.pairwise_lt_range'

theorem pairwise_allPlaced (sources : List (String × String)) :
    (allPlaced sources).Pairwise Placed.Before := by
  unfold allPlaced
  rw [List.pairwise_flatMap]
  constructor
  · intro source _
    unfold placed
    rw [List.pairwise_map]
    exact (pairwise_zipIdx _ 1).imp fun h => .inr ⟨rfl, h⟩
  · refine (pairwise_zipIdx sources 0).imp fun h p hp q hq => ?_
    obtain ⟨hp, -⟩ := mem_placed_iff.mp hp
    obtain ⟨hq, -⟩ := mem_placed_iff.mp hq
    rw [← hp, ← hq] at h
    exact .inl h

theorem allPlaced_ne_nil (h : sources ≠ []) : allPlaced sources ≠ [] := by
  obtain ⟨source, rest, rfl⟩ := List.exists_cons_of_ne_nil h
  obtain ⟨line, others, hlines⟩ := List.exists_cons_of_ne_nil (Text.lines_ne_nil source.2)
  refine List.ne_nil_of_mem (a := ⟨0, source.1, 1, line⟩) (mem_allPlaced_iff.mpr ?_)
  exact ⟨source.2, rfl, Nat.le_refl 1, by rw [hlines]; rfl⟩

/-! ## Choosing -/

variable {o : Filter}

/-- The lines of one text that are printed. -/
theorem pick_eq (h : o.numbered = true) (label : String) (lines : List String) : ∀ number,
    o.pick accepts label number lines =
      ((lines.zipIdx number).filter fun line => accepts line.1 != o.invert).map
        fun line => label ++ s!"{line.2}:" ++ line.1 := by
  induction lines with
  | nil => exact fun _ => rfl
  | cons line rest ih =>
    intro number
    rw [pick, ih, List.zipIdx_cons, List.filter_cons, h, if_pos rfl]
    cases haccepts : accepts line == o.invert with
    | true => simp [bne, haccepts]
    | false => simp [bne, haccepts]

theorem pickAll_eq (h : o.numbered = true) (sources : List (String × String)) :
    o.pickAll accepts sources =
      ((allPlaced sources).filter fun p => accepts p.line != o.invert).map
        (Placed.shown (1 < sources.length)) := by
  have hone (source : (String × String) × Nat) :
      o.pick accepts (if 1 < sources.length then source.1.1 ++ ":" else "") 1
          (Text.lines source.1.2) =
        ((placed source).filter fun p => accepts p.line != o.invert).map
          (Placed.shown (1 < sources.length)) := by
    rw [pick_eq h, placed, List.filter_map, List.map_map]
    simp [Function.comp_def, Placed.shown]
  calc
    o.pickAll accepts sources = sources.zipIdx.flatMap fun source =>
        o.pick accepts (if 1 < sources.length then source.1.1 ++ ":" else "") 1
          (Text.lines source.1.2) := by
      conv_lhs => rw [pickAll, ← List.zipIdx_map_fst 0 sources, List.flatMap_map]
      simp
    _ = _ := by
      rw [allPlaced, List.filter_flatMap, List.map_flatMap]
      exact congrArg (List.flatMap · _) (funext hone)

/-- The outcome of a run that prints these places: it fails, without a word, if there are none. -/
structure Shows (several : Bool) (share : List Placed) (r : Result) : Prop where
  stdout : r.stdout = Text.unlines (share.map (Placed.shown several))
  stderr : r.stderr = ""
  exitCode : r.exitCode = if share = [] then 1 else 0
  effect : r.effect = .none

theorem shows_report (h : o.numbered = true) (accepts : String → Bool)
    (sources : List (String × String)) : Shows (1 < sources.length)
    ((allPlaced sources).filter fun p => accepts p.line != o.invert)
    (o.report accepts sources) := by
  unfold report
  rw [pickAll_eq h]
  cases (allPlaced sources).filter fun p => accepts p.line != o.invert with
  | nil => exact ⟨rfl, rfl, rfl, rfl⟩
  | cons p rest => exact ⟨rfl, rfl, rfl, rfl⟩

end Filter

/-! ## Running -/

/-- The arguments ask for a pattern in these operands, with numbers. -/
structure Seeks (args : List String) (pattern : String) (paths : List String)
    (ignoreCase invert : Bool) : Prop where
  numbered : ((Args.parse args).switch "n").1 = true
  operands : ((Args.parse args).switch "n").2.operands = pattern :: paths
  ignoreCase : ((Args.parse args).switch "n").2.has ["i", "ignore-case"] = ignoreCase
  invert : ((Args.parse args).switch "n").2.has ["v", "invert-match"] = invert

variable {paths args : List String} {stdin pattern : String} {ignoreCase invert : Bool}

theorem mapM_readFile_of_holds (h : List.Forall₂
    (fun path source => source.1 = path ∧ σ.Holds path source.2) paths sources) :
    (paths.mapM fun path => do return (path, ← σ.readFile "grep" path)) = Except.ok sources := by
  induction h with
  | nil => rfl
  | @cons path source _ _ hsource _ ih =>
    obtain ⟨rfl, hholds⟩ := hsource
    rw [List.mapM_cons, Session.readFile_of_holds hholds, ih]
    rfl

theorem sourcesOf_of_reads (h : σ.Reads paths stdin sources) :
    sourcesOf paths stdin σ = .ok sources := by
  cases paths with
  | nil => exact congrArg Except.ok h.symm
  | cons path rest => exact mapM_readFile_of_holds h

theorem grep_of_seeks {compiled : Pattern.Compiled} (h : Seeks args pattern paths ignoreCase invert)
    (hcompiled : compilePattern pattern ignoreCase = .ok compiled)
    (hreads : σ.Reads paths stdin sources) :
    grep args stdin σ = .ok (Filter.report ⟨invert, true⟩ compiled.accepts sources) := by
  unfold grep
  simp only [h.operands, h.ignoreCase, h.invert, h.numbered, hcompiled,
    sourcesOf_of_reads hreads, bind, Except.bind, pure, Except.pure]

open DeskShell.Builtin.Filter

/-- For any test of lines, the lines of the texts, each with its place, are shared out: those that
pass the test are printed by a run without the flag that turns it round, the others by a run with
it, each in the order of the texts. No line is left out, and none is printed twice. A run whose
share is empty fails without a word; the other one succeeds. -/
theorem grep_shares (accepts : String → Bool) (sources : List (String × String))
    (hne : sources ≠ []) :
    ∃ passed others : List Placed,
      passed.Pairwise Placed.Before ∧ others.Pairwise Placed.Before ∧
      (passed ++ others).Nodup ∧ (∀ p, p ∈ passed ++ others ↔ p.Of sources) ∧
      (∀ p ∈ passed, accepts p.line = true) ∧ (∀ p ∈ others, accepts p.line = false) ∧
      (passed ≠ [] ∨ others ≠ []) ∧
      Shows (1 < sources.length) passed (report ⟨false, true⟩ accepts sources) ∧
      Shows (1 < sources.length) others (report ⟨true, true⟩ accepts sources) ∧
      ∀ (C : Type) (σ : Session C) (paths : List String) (stdin pattern : String)
        (ignoreCase : Bool) (compiled : Pattern.Compiled) (args inverted : List String),
        σ.Reads paths stdin sources → compilePattern pattern ignoreCase = .ok compiled →
        compiled.accepts = accepts → Seeks args pattern paths ignoreCase false →
        Seeks inverted pattern paths ignoreCase true →
          grep args stdin σ = .ok (report ⟨false, true⟩ accepts sources) ∧
          grep inverted stdin σ = .ok (report ⟨true, true⟩ accepts sources) := by
  have hpassed := shows_report (o := ⟨false, true⟩) rfl accepts sources
  have hothers := shows_report (o := ⟨true, true⟩) rfl accepts sources
  have hmem (p : Placed) :
      p ∈ (allPlaced sources).filter (accepts ·.line) ++
        (allPlaced sources).filter (!accepts ·.line) ↔ p.Of sources := by
    rw [(List.filter_append_perm _ _).mem_iff, mem_allPlaced_iff]
  simp only [Bool.bne_false, Bool.bne_true] at hpassed hothers
  refine ⟨_, _, (pairwise_allPlaced sources).filter _, (pairwise_allPlaced sources).filter _,
    ?_, hmem, ?_, ?_, ?_, hpassed, hothers, ?_⟩
  · rw [(List.filter_append_perm _ _).nodup_iff]
    exact (pairwise_allPlaced sources).imp Placed.Before.ne
  · intro p hp
    exact (List.mem_filter.mp hp).2
  · intro p hp
    simpa using (List.mem_filter.mp hp).2
  · obtain ⟨p, hp⟩ := List.exists_mem_of_ne_nil _ (allPlaced_ne_nil hne)
    rcases List.mem_append.mp ((hmem p).mpr (mem_allPlaced_iff.mp hp)) with hp | hp
    · exact .inl (List.ne_nil_of_mem hp)
    · exact .inr (List.ne_nil_of_mem hp)
  · rintro C σ paths stdin pattern ignoreCase compiled args inverted hreads hcompiled rfl hargs
      hinverted
    exact ⟨grep_of_seeks hargs hcompiled hreads, grep_of_seeks hinverted hcompiled hreads⟩

end Builtin

namespace Desktop

open Builtin (compilePattern)
open Builtin.Filter (report)

/-- A file with the lines `b`, `a`, none and `b`, named twice: each of its lines is printed by one
of the two runs, for each time that it is named. -/
theorem grep_shares_twice : ∃ σ, session {} 0 (fun _ => .unset) = .ok σ ∧
    let τ := σ.play [⟨"echo \"b\na\n\nb\" > f", 1⟩]
    Builtin.grep ["-n", "b", "f", "f"] "" τ = .ok (.out "f:1:b\nf:4:b\nf:1:b\nf:4:b") ∧
      Builtin.grep ["-v", "-n", "b", "f", "f"] "" τ = .ok (.out "f:2:a\nf:3:\nf:2:a\nf:3:") := by
  have hreports : (compilePattern "b" false).map (fun compiled =>
      let sources := [("f", "b\na\n\nb"), ("f", "b\na\n\nb")]
      (report ⟨false, true⟩ compiled.accepts sources,
        report ⟨true, true⟩ compiled.accepts sources)) =
      .ok (.out "f:1:b\nf:4:b\nf:1:b\nf:4:b", .out "f:2:a\nf:3:\nf:2:a\nf:3:") := by
    decide +kernel
  obtain ⟨σ, hσ, hholds, -⟩ := exists_written
  refine ⟨σ, hσ, ?_⟩
  dsimp only at hholds ⊢
  generalize σ.play [⟨"echo \"b\na\n\nb\" > f", 1⟩] = τ at hholds ⊢
  cases hcompiled : compilePattern "b" false with
  | error _ =>
    rw [hcompiled] at hreports
    cases hreports
  | ok compiled =>
    rw [hcompiled] at hreports
    obtain ⟨hpassed, hothers⟩ := Prod.mk.inj (Except.ok.inj hreports)
    obtain ⟨-, -, -, -, -, -, -, -, -, -, -, hruns⟩ := Builtin.grep_shares compiled.accepts
      [("f", "b\na\n\nb"), ("f", "b\na\n\nb")] (List.cons_ne_nil _ _)
    obtain ⟨hgrep, hinverted⟩ := hruns _ τ ["f", "f"] "" "b" false compiled ["-n", "b", "f", "f"]
      ["-v", "-n", "b", "f", "f"] (.cons ⟨rfl, hholds⟩ (.cons ⟨rfl, hholds⟩ .nil)) hcompiled rfl
      ⟨by decide, by decide, by decide, by decide⟩ ⟨by decide, by decide, by decide, by decide⟩
    rw [hgrep, hinverted, hpassed, hothers]
    exact ⟨rfl, rfl⟩

end Desktop
end DeskShell

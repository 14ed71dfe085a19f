import DeskShell.Proofs.Numerals
import DeskShell.Proofs.Tallies

/-!
# Texts and their runs

The runs of a text are a code for it that loses nothing. There is only one way to write lines as runs
that are not empty and differ from their neighbours, so that runs may be collected from either end of
the lines, and collapsing lines that have been collapsed changes nothing. As `uniq -c` prints them,
with the count in front, they still say which text they come from.

* `Builtin.Maximal`: runs as they may stand for lines; `Builtin.maximal_runs`.
* `Builtin.Maximal.runs_spread`: they are the only such runs of the lines that they count.
* `Builtin.collect`: takes one more line into the runs of those before it; `Builtin.foldl_collect`.
* `Builtin.countedLine_inj`: a printed run is read in one way only.
* `Builtin.uniq_encodes`: what the runs of a text are, and what `uniq` makes of it.
-/
namespace DeskShell

variable {C : Type}

/-! ## Numbers in columns -/

namespace Text

/-- A number in a column ends where the text behind it begins with a blank. -/
theorem padLeft_toString_inj {m n : Nat} {s t : List Char} (width : Nat)
    (h : (padLeft width (toString m)).toList ++ ' ' :: s =
      (padLeft width (toString n)).toList ++ ' ' :: t) : m = n ∧ s = t := by
  have hcolumn (k : Nat) (u : List Char) :
      ((padLeft width (toString k)).toList ++ ' ' :: u).dropWhile (· == ' ') =
        (toString k).toList ++ ' ' :: u := by
    obtain ⟨c, cs, hdigits⟩ := List.exists_cons_of_ne_nil (toString_ne_empty k)
    have hc : c.isDigit = true := isDigit_of_mem_toString (hdigits ▸ List.mem_cons_self)
    have hblank : (c == ' ') = false := by
      rw [beq_eq_false_iff_ne]
      rintro rfl
      cases hc
    rw [padLeft, String.toList_append, String.toList_ofList, List.append_assoc,
      List.dropWhile_append_of_pos (by simp), hdigits, List.cons_append,
      List.dropWhile_cons_of_neg (by simp [hblank])]
  have hdigits := congrArg (List.dropWhile (· == ' ')) h
  rw [hcolumn, hcolumn] at hdigits
  have hnumber (k : Nat) (u : List Char) :
      ((toString k).toList ++ ' ' :: u).takeWhile Char.isDigit = (toString k).toList := by
    rw [List.takeWhile_append_of_pos fun c hc => isDigit_of_mem_toString hc]
    simp
  have hsame := congrArg (List.takeWhile Char.isDigit) hdigits
  rw [hnumber, hnumber] at hsame
  rw [hsame] at hdigits
  exact ⟨toString_inj (String.toList_inj.mp hsame),
    (List.cons.inj (List.append_cancel_left hdigits)).2⟩

end Text

namespace Builtin

variable {L : List String} {r : String × Nat} {rs : List (String × Nat)} {line : String}

/-! ## The only runs -/

/-- Runs as they may stand for lines: none of them is empty, and neighbours differ. -/
structure Maximal (rs : List (String × Nat)) : Prop where
  counts : ∀ r ∈ rs, 1 ≤ r.2
  neighbours : (rs.map (·.1)).IsChain (· ≠ ·)

theorem maximal_runs (L : List String) : Maximal (runs L) := ⟨counts_runs L, chain_runs L⟩

theorem Maximal.tail (h : Maximal (r :: rs)) : Maximal rs :=
  ⟨(List.forall_mem_cons.mp h.counts).2, (List.isChain_cons.mp h.neighbours).2⟩

theorem Maximal.head_ne (h : Maximal (r :: rs)) : ∀ next ∈ rs.head?, r.1 ≠ next.1 :=
  fun next hnext => (List.isChain_cons.mp h.neighbours).1 next.1 (by
    rw [List.head?_map, Option.mem_def.mp hnext]
    rfl)

/-- Equal lines in front of lines that begin with another are a run of their own. -/
theorem runs_replicate_append (h : ∀ next ∈ (runs L).head?, line ≠ next.1) (k : Nat) :
    runs (List.replicate (k + 1) line ++ L) = (line, k + 1) :: runs L := by
  induction k with
  | zero =>
    rcases runs_cons line L with ⟨count, others, hL, -⟩ | ⟨-, hruns⟩
    · exact absurd rfl (h (line, count) (by rw [hL]; rfl))
    · exact hruns
  | succ k ih =>
    rw [List.replicate_succ, List.cons_append]
    rcases runs_cons line (List.replicate (k + 1) line ++ L) with
      ⟨count, others, hrest, hruns⟩ | ⟨hne, -⟩
    · rw [ih] at hrest
      obtain ⟨hrun, rfl⟩ := List.cons.inj hrest
      obtain ⟨-, rfl⟩ := Prod.mk.inj hrun
      exact hruns
    · exact absurd rfl (hne (line, k + 1) (by rw [ih]; rfl))

/-- Lines are written as runs in one way only. -/
theorem Maximal.runs_spread (h : Maximal rs) : runs (spread rs) = rs := by
  induction rs with
  | nil => rfl
  | cons r rs ih =>
    have hcount := (List.forall_mem_cons.mp h.counts).1
    obtain ⟨k, hk⟩ := Nat.exists_eq_add_of_le' hcount
    have hrest := ih h.tail
    rw [spread_cons, hk, runs_replicate_append (by rw [hrest]; exact h.head_ne), hrest, ← hk]

theorem Maximal.eq_runs (h : Maximal rs) (hspread : spread rs = L) : rs = runs L := by
  rw [← hspread, h.runs_spread]

theorem runs_of_chain (h : L.IsChain (· ≠ ·)) : runs L = L.map (·, 1) := by
  have hlines : (L.map (·, 1)).map Prod.fst = L := by simp [Function.comp_def]
  refine (Maximal.eq_runs ⟨by simp, hlines.symm ▸ h⟩ ?_).symm
  simp [spread, List.flatMap_map]

/-- Lines that have been collapsed are collapsed. -/
theorem collapse_collapse (L : List String) :
    (runs ((runs L).map (·.1))).map (·.1) = (runs L).map (·.1) := by
  rw [runs_of_chain (chain_runs L), List.map_map]
  simp

/-! ## Collecting from the front -/

/-- Takes one more line into the runs of the lines before it: into the last of them when it is of
this line, or else as a run of its own behind it. -/
def collect (rs : List (String × Nat)) (line : String) : List (String × Nat) :=
  match rs.getLast? with
  | none => [(line, 1)]
  | some (last, count) =>
    if last = line then rs.dropLast ++ [(last, count + 1)] else rs ++ [(line, 1)]

theorem spread_append (rs qs : List (String × Nat)) : spread (rs ++ qs) = spread rs ++ spread qs :=
  List.flatMap_append

theorem spread_collect (rs : List (String × Nat)) (line : String) :
    spread (collect rs line) = spread rs ++ [line] := by
  rcases List.eq_nil_or_concat' rs with rfl | ⟨rs, ⟨last, count⟩, rfl⟩
  · rfl
  · simp only [collect, List.getLast?_concat, List.dropLast_concat]
    split
    · next hlast =>
      subst hlast
      simp [spread, List.replicate_succ']
    · rw [spread_append]
      rfl

theorem Maximal.collect (h : Maximal rs) (line : String) : Maximal (collect rs line) := by
  rcases List.eq_nil_or_concat' rs with rfl | ⟨rs, ⟨last, count⟩, rfl⟩
  · exact ⟨by simp [Builtin.collect], List.isChain_singleton line⟩
  · obtain ⟨hcounts, hchain⟩ := h
    simp only [Builtin.collect, List.getLast?_concat, List.dropLast_concat]
    split
    · refine ⟨fun r hr => ?_, by simpa using hchain⟩
      rcases List.mem_append.mp hr with hr | hr
      · exact hcounts r (List.mem_append_left _ hr)
      · obtain rfl := List.mem_singleton.mp hr
        exact Nat.le_add_left 1 count
    · next hlast =>
      refine ⟨fun r hr => ?_, ?_⟩
      · rcases List.mem_append.mp hr with hr | hr
        · exact hcounts r hr
        · obtain rfl := List.mem_singleton.mp hr
          exact Nat.le_refl 1
      · rw [List.map_append, List.isChain_append]
        refine ⟨hchain, List.isChain_singleton line, ?_⟩
        simpa using hlast

/-- The runs of lines are what comes of collecting the lines in order. -/
theorem foldl_collect (L : List String) : L.foldl collect [] = runs L := by
  have hstep : ∀ (L : List String) (rs : List (String × Nat)), Maximal rs →
      Maximal (L.foldl collect rs) ∧ spread (L.foldl collect rs) = spread rs ++ L := by
    intro L
    induction L with
    | nil => exact fun rs h => ⟨h, (List.append_nil _).symm⟩
    | cons line L ih =>
      intro rs h
      obtain ⟨hmaximal, hspread⟩ := ih (collect rs line) (h.collect line)
      refine ⟨hmaximal, ?_⟩
      rw [List.foldl_cons, hspread, spread_collect, List.append_assoc, List.singleton_append]
  obtain ⟨hmaximal, hspread⟩ := hstep L [] ⟨by simp, .nil⟩
  exact hmaximal.eq_runs hspread

/-! ## Printed runs -/

theorem toList_countedLine (r : String × Nat) : (countedLine r).toList =
    (Text.padLeft 4 (toString r.2)).toList ++ ' ' :: r.1.toList := by
  have hline : countedLine r = Text.padLeft 4 (toString r.2) ++ " " ++ r.1 := rfl
  rw [hline, String.toList_append, String.toList_append, List.append_assoc]
  rfl

theorem countedLine_inj {r q : String × Nat} (h : countedLine r = countedLine q) : r = q := by
  have hchars := congrArg String.toList h
  rw [toList_countedLine, toList_countedLine] at hchars
  obtain ⟨hcount, hline⟩ := Text.padLeft_toString_inj 4 hchars
  exact Prod.ext (String.toList_inj.mp hline) hcount

theorem newline_not_mem_countedLine (h : '\n' ∉ r.1.toList) : '\n' ∉ (countedLine r).toList := by
  have hdigits : '\n' ∉ (toString r.2).toList := by
    intro hmem
    cases Text.isDigit_of_mem_toString hmem
  rw [toList_countedLine, Text.padLeft, String.toList_append, String.toList_ofList]
  simp only [List.mem_append, List.mem_cons, List.mem_replicate, not_or]
  exact ⟨⟨fun hpad => absurd hpad.2 (by decide), hdigits⟩, by decide, h⟩

/-- What `uniq -c` prints has a line for each run. -/
theorem lines_counted (content : String) :
    Text.lines (Text.unlines ((runs (Text.lines content)).map countedLine)) =
      (runs (Text.lines content)).map countedLine := by
  refine Text.pieces_glue (fun hnil => ?_) fun p hp => ?_
  · have hspread := spread_runs (Text.lines content)
    rw [List.map_eq_nil_iff.mp hnil] at hspread
    exact Text.lines_ne_nil content hspread.symm
  · obtain ⟨r, hr, rfl⟩ := List.mem_map.mp hp
    have hline : r.1 ∈ Text.lines content := (mem_runs_iff _ _).mp (List.mem_map_of_mem hr)
    exact newline_not_mem_countedLine (Text.notMem_of_mem_pieces hline)

/-- What `uniq` prints has the line of each run. -/
theorem lines_collapsed (content : String) :
    Text.lines (Text.unlines ((runs (Text.lines content)).map (·.1))) =
      (runs (Text.lines content)).map (·.1) := by
  refine Text.lines_unlines_of_subset (fun hnil => ?_) (sublist_runs _).subset
  have hspread := spread_runs (Text.lines content)
  rw [List.map_eq_nil_iff.mp hnil] at hspread
  exact Text.lines_ne_nil content hspread.symm

/-- The runs of a text count at least one line each, neighbours are of different lines, and writing
each line as often as its run counts gives the text back. No other such runs count its lines, so
collecting the lines in order comes to the same runs, and two texts for which `uniq -c` prints the
same are the same. `uniq` prints the runs with their counts or, without the flag, their lines alone;
what it has printed without counts it prints again. -/
theorem uniq_encodes (content : String) :
    Text.unlines (spread (runs (Text.lines content))) = content ∧
    let L := Text.lines content
    Maximal (runs L) ∧ (∀ rs, Maximal rs → spread rs = L → rs = runs L) ∧
    L.foldl collect [] = runs L ∧
    (∀ other, Text.unlines ((runs (Text.lines other)).map countedLine) =
      Text.unlines ((runs L).map countedLine) → other = content) ∧
    ∀ (C : Type) (σ : Session C) (args : List String) (stdin : String),
      σ.Feeds ((Args.parse args).switch "c").2.operands stdin content →
      (((Args.parse args).switch "c").1 = true →
        uniq args stdin σ = .ok (.out (Text.unlines ((runs L).map countedLine)))) ∧
      (((Args.parse args).switch "c").1 = false →
        let text := Text.unlines ((runs L).map (·.1))
        uniq args stdin σ = .ok (.out text) ∧
          ∀ (τ : Session C) (again : List String) (stdin : String),
            τ.Feeds ((Args.parse again).switch "c").2.operands stdin text →
            ((Args.parse again).switch "c").1 = false →
              uniq again stdin τ = .ok (.out text)) := by
  refine ⟨by rw [spread_runs, Text.unlines_lines], ?_⟩
  intro L
  refine ⟨maximal_runs L, fun rs hrs hspread => hrs.eq_runs hspread, foldl_collect L,
    fun other h => ?_, fun C σ args stdin hfeeds => ⟨fun hcounted => ?_, fun hbare => ⟨?_, ?_⟩⟩⟩
  · -- The text that is printed has a line for each run, and each of these says which run it is.
    have hprinted := congrArg Text.lines h
    rw [lines_counted, lines_counted] at hprinted
    have hruns := List.map_injective_iff.mpr (fun _ _ => countedLine_inj) hprinted
    have hlines := congrArg spread hruns
    rw [spread_runs, spread_runs] at hlines
    rw [← Text.unlines_lines other, hlines, Text.unlines_lines]
  · rw [uniq_of_feeds hfeeds, hcounted]
    rfl
  · rw [uniq_of_feeds hfeeds, hbare]
    rfl
  · intro τ again stdin hagain hbare
    rw [uniq_of_feeds hagain, hbare, lines_collapsed]
    simp only [Bool.false_eq_true, ↓reduceIte, collapse_collapse, L]

end Builtin

namespace Desktop

open Builtin (Program)

/-- Two equal lines, two empty ones that are not neighbours, and a file that is named behind the
flag. -/
theorem uniq_encodes_repeated : ∃ σ, session {} 0 (fun _ => .unset) = .ok σ ∧
    let τ := σ.play [⟨"echo \"b\na\n\nb\" > f", 1⟩]
    Builtin.runs (Text.lines "b\nb\n\nb\n") = [("b", 2), ("", 1), ("b", 1), ("", 1)] ∧
      Builtin.uniq ["-c"] "b\nb\n\nb\n" τ = .ok (.out "   2 b\n   1 \n   1 b\n   1 ") ∧
      Builtin.uniq [] "b\nb\n\nb\n" τ = .ok (.out "b\n\nb\n") ∧
      Builtin.uniq [] "b\n\nb\n" τ = .ok (.out "b\n\nb\n") ∧
      Builtin.uniq ["-c", "f"] "" τ = .ok (.out "   1 b\n   1 a\n   1 \n   1 b") := by
  obtain ⟨σ, hσ, hholds, -⟩ := exists_written
  refine ⟨σ, hσ, ?_⟩
  dsimp only at hholds ⊢
  generalize σ.play [⟨"echo \"b\na\n\nb\" > f", 1⟩] = τ at hholds ⊢
  obtain ⟨-, -, -, -, -, hprints⟩ := Builtin.uniq_encodes "b\nb\n\nb\n"
  obtain ⟨-, -, -, -, -, hfile⟩ := Builtin.uniq_encodes "b\na\n\nb"
  have hcounted := (hprints _ τ ["-c"] _ rfl).1 rfl
  obtain ⟨hbare, hagain⟩ := (hprints _ τ [] _ rfl).2 rfl
  have hagain := hagain τ [] _ rfl rfl
  have hfile := (hfile _ τ ["-c", "f"] "" hholds).1 rfl
  have hruns : Builtin.runs (Text.lines "b\nb\n\nb\n") =
      [("b", 2), ("", 1), ("b", 1), ("", 1)] := by decide
  have hfour : Builtin.runs (Text.lines "b\na\n\nb") =
      [("b", 1), ("a", 1), ("", 1), ("b", 1)] := by decide
  rw [hruns] at hcounted hbare hagain
  rw [hfour] at hfile
  exact ⟨hruns, hcounted, hbare, hagain, hfile⟩

end Desktop
end DeskShell

import DeskShell.Glob
import Mathlib.Data.List.Forall2

/-!
# What wildcards stand for

A name matches a pattern if it is a row of pieces, one for each character of the pattern: any text
for `*`, any one character for `?`, and the character itself for all others. Newlines are in no
piece for a wildcard.

* `Glob.StandsFor`: the pieces that one character of a pattern allows.
* `Glob.Spells`: a text that is such a row; `Glob.spells_cons_iff` takes the first piece off.
* `Glob.fitsList_iff`: the match by characters decides it.
* `Glob.Named`: the text is such a row, or is one with a newline behind; `Glob.fits_iff`.
-/
namespace DeskShell.Glob

variable {p : Char} {pattern piece text : List Char}

/-- The piece is one that the character `p` of a pattern allows. -/
def StandsFor (p : Char) (piece : List Char) : Prop :=
  if p = '*' then '\n' ∉ piece
  else if p = '?' then ∃ c, c ≠ '\n' ∧ piece = [c]
  else piece = [p]

/-- The text is a row of pieces that the characters of the pattern allow, in order. -/
def Spells (pattern text : List Char) : Prop :=
  ∃ pieces, List.Forall₂ StandsFor pattern pieces ∧ pieces.flatten = text

/-- The text, or the text less one newline at its end, is such a row. -/
def Named (pattern text : List Char) : Prop :=
  Spells pattern text ∨ ∃ front, text = front ++ ['\n'] ∧ Spells pattern front

/-! ## One character of a pattern -/

theorem standsFor_star : StandsFor '*' piece ↔ '\n' ∉ piece := by
  simp [StandsFor]

theorem standsFor_mark : StandsFor '?' piece ↔ ∃ c, c ≠ '\n' ∧ piece = [c] := by
  simp [StandsFor]

theorem standsFor_plain (hstar : p ≠ '*') (hmark : p ≠ '?') : StandsFor p piece ↔ piece = [p] := by
  simp [StandsFor, hstar, hmark]

theorem spells_nil_iff : Spells [] text ↔ text = [] := by
  constructor
  · rintro ⟨pieces, hpieces, rfl⟩
    rw [List.forall₂_nil_left_iff.mp hpieces, List.flatten_nil]
  · rintro rfl
    exact ⟨[], .nil, rfl⟩

/-- The first piece, and the rest of the row. -/
theorem spells_cons_iff : Spells (p :: pattern) text ↔
    ∃ piece rest, StandsFor p piece ∧ text = piece ++ rest ∧ Spells pattern rest := by
  constructor
  · rintro ⟨pieces, hpieces, rfl⟩
    obtain ⟨piece, others, hpiece, hothers, rfl⟩ := List.forall₂_cons_left_iff.mp hpieces
    exact ⟨piece, others.flatten, hpiece, List.flatten_cons, others, hothers, rfl⟩
  · rintro ⟨piece, rest, hpiece, rfl, pieces, hpieces, rfl⟩
    exact ⟨piece :: pieces, .cons hpiece hpieces, List.flatten_cons⟩

theorem spells_plain_iff (hstar : p ≠ '*') (hmark : p ≠ '?') : Spells (p :: pattern) text ↔
    ∃ rest, text = p :: rest ∧ Spells pattern rest := by
  rw [spells_cons_iff]
  constructor
  · rintro ⟨piece, rest, hpiece, htext, hrest⟩
    obtain rfl := (standsFor_plain hstar hmark).mp hpiece
    exact ⟨rest, htext, hrest⟩
  · rintro ⟨rest, htext, hrest⟩
    exact ⟨[p], rest, (standsFor_plain hstar hmark).mpr rfl, htext, hrest⟩

theorem spells_mark_iff : Spells ('?' :: pattern) text ↔
    ∃ c rest, c ≠ '\n' ∧ text = c :: rest ∧ Spells pattern rest := by
  rw [spells_cons_iff]
  constructor
  · rintro ⟨piece, rest, hpiece, htext, hrest⟩
    obtain ⟨c, hc, rfl⟩ := standsFor_mark.mp hpiece
    exact ⟨c, rest, hc, htext, hrest⟩
  · rintro ⟨c, rest, hc, htext, hrest⟩
    exact ⟨[c], rest, standsFor_mark.mpr ⟨c, hc, rfl⟩, htext, hrest⟩

/-- A star stands for nothing, or takes one more character in. -/
theorem spells_star_iff : Spells ('*' :: pattern) text ↔
    Spells pattern text ∨ ∃ c rest, c ≠ '\n' ∧ text = c :: rest ∧ Spells ('*' :: pattern) rest := by
  constructor
  · intro h
    obtain ⟨piece, rest, hpiece, rfl, hrest⟩ := spells_cons_iff.mp h
    rw [standsFor_star] at hpiece
    cases piece with
    | nil => exact .inl hrest
    | cons c piece =>
      rw [List.mem_cons, not_or] at hpiece
      refine .inr ⟨c, piece ++ rest, Ne.symm hpiece.1, rfl, spells_cons_iff.mpr ?_⟩
      exact ⟨piece, rest, standsFor_star.mpr hpiece.2, rfl, hrest⟩
  · rintro (h | ⟨c, rest, hc, rfl, h⟩)
    · exact spells_cons_iff.mpr ⟨[], text, standsFor_star.mpr List.not_mem_nil, rfl, h⟩
    · obtain ⟨piece, tail, hpiece, rfl, htail⟩ := spells_cons_iff.mp h
      refine spells_cons_iff.mpr ⟨c :: piece, tail, ?_, rfl, htail⟩
      rw [standsFor_star] at hpiece ⊢
      rw [List.mem_cons, not_or]
      exact ⟨Ne.symm hc, hpiece⟩

/-! ## A newline at the end -/

/-- Without newlines a name matches as a whole. -/
theorem named_iff (h : '\n' ∉ text) : Named pattern text ↔ Spells pattern text := by
  unfold Named
  refine or_iff_left ?_
  rintro ⟨front, rfl, -⟩
  exact h (List.mem_append_right front List.mem_cons_self)

theorem named_nil_iff : Named [] text ↔ text = [] ∨ text = ['\n'] := by
  simp [Named, spells_nil_iff]

/-- What is behind the first piece matches the rest of the pattern. -/
theorem named_cons_iff : Named (p :: pattern) text ↔
    ∃ piece, StandsFor p piece ∧ piece <+: text ∧ Named pattern (text.drop piece.length) := by
  constructor
  · rintro (h | ⟨front, rfl, h⟩)
    · obtain ⟨piece, others, hpiece, rfl, hothers⟩ := spells_cons_iff.mp h
      refine ⟨piece, hpiece, List.prefix_append piece others, ?_⟩
      rw [List.drop_left]
      exact .inl hothers
    · obtain ⟨piece, others, hpiece, rfl, hothers⟩ := spells_cons_iff.mp h
      rw [List.append_assoc]
      refine ⟨piece, hpiece, List.prefix_append piece _, ?_⟩
      rw [List.drop_left]
      exact .inr ⟨others, rfl, hothers⟩
  · rintro ⟨piece, hpiece, ⟨others, rfl⟩, h⟩
    rw [List.drop_left] at h
    rcases h with h | ⟨front, rfl, h⟩
    · exact .inl (spells_cons_iff.mpr ⟨piece, others, hpiece, rfl, h⟩)
    · refine .inr ⟨piece ++ front, (List.append_assoc _ _ _).symm, ?_⟩
      exact spells_cons_iff.mpr ⟨piece, front, hpiece, rfl, h⟩

/-! ## The match by characters -/

theorem fitsList_iff (pattern text : List Char) :
    fitsList pattern text = true ↔ Spells pattern text := by
  fun_induction fitsList pattern text with
  | case1 text => rw [spells_nil_iff, List.isEmpty_iff]
  | case2 pattern ih =>
    rw [ih, spells_star_iff]
    simp
  | case3 pattern c name ih₁ ih₂ =>
    rw [spells_star_iff, Bool.or_eq_true, Bool.and_eq_true, ih₁, ih₂]
    simp
  | case4 pattern c name ih =>
    rw [spells_mark_iff, Bool.and_eq_true, ih]
    simp
  | case5 p pattern c name hstar hmark ih =>
    rw [spells_plain_iff hstar hmark, Bool.and_eq_true, beq_iff_eq, ih, eq_comm]
    simp
  | case6 p pattern hstar =>
    have hnone : ¬ Spells (p :: pattern) [] := by
      by_cases hmark : p = '?'
      · subst hmark
        simp [spells_mark_iff]
      · simp [spells_plain_iff hstar hmark]
    simp [hnone]

/-- A name with a newline at its end matches as a whole or without it. -/
theorem fits_iff (pattern name : String) :
    fits pattern name = true ↔ Named pattern.toList name.toList := by
  unfold fits Named
  rw [Bool.or_eq_true, Bool.and_eq_true, beq_iff_eq, fitsList_iff, fitsList_iff]
  refine or_congr_right ⟨?_, ?_⟩
  · rintro ⟨hlast, hspells⟩
    exact ⟨_, (List.dropLast_append_getLast? '\n' hlast).symm, hspells⟩
  · rintro ⟨front, hname, hspells⟩
    rw [hname, List.getLast?_concat, List.dropLast_concat]
    exact ⟨rfl, hspells⟩

end DeskShell.Glob

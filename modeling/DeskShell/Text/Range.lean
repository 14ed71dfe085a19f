/-!
# Ranges of code points

Tables of the character classes are lists of closed ranges.

* `inRanges`: the code point lies in one of them.
-/
namespace DeskShell.Text

def inRanges (ranges : List (Nat × Nat)) (n : Nat) : Bool :=
  ranges.any fun r => r.1 ≤ n && n ≤ r.2

theorem inRanges_iff {ranges : List (Nat × Nat)} {n : Nat} :
    inRanges ranges n = true ↔ ∃ r ∈ ranges, r.1 ≤ n ∧ n ≤ r.2 := by
  simp [inRanges]

end DeskShell.Text

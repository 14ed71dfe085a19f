import DeskShell.Text.Range

/-!
# Blanks

The characters that separate words: the white space of Unicode together with the four information
separators U+001C to U+001F.

* `isBlank`: the class; `isBlank_of_isWhitespace` says that the white space of `Char` is in it.
* `trim`: a text without the blanks at its two ends.
* `words`: the maximal blank-free pieces of a text, in order.
-/
namespace DeskShell.Text

def blankRanges : List (Nat × Nat) := [
    (0x09, 0x0d), (0x1c, 0x20), (0x85, 0x85), (0xa0, 0xa0), (0x1680, 0x1680), (0x2000, 0x200a),
    (0x2028, 0x2029), (0x202f, 0x202f), (0x205f, 0x205f), (0x3000, 0x3000)]

def isBlank (c : Char) : Bool := inRanges blankRanges c.toNat

theorem isBlank_of_isWhitespace (c : Char) (h : c.isWhitespace = true) : isBlank c = true := by
  simp only [Char.isWhitespace, Bool.or_eq_true, decide_eq_true_eq] at h
  rcases h with ((h | h) | h) | h <;> subst h <;> decide

/-! ## Trimming -/

def trimLeft (s : List Char) : List Char := s.dropWhile isBlank

def trimRight (s : List Char) : List Char := (s.reverse.dropWhile isBlank).reverse

def trim (s : String) : String := String.ofList (trimRight (trimLeft s.toList))

/-! ## Words -/

def words (s : String) : List String :=
  ((s.toList.splitOnP isBlank).filter (· ≠ [])).map String.ofList

end DeskShell.Text

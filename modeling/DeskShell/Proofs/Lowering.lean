import DeskShell.Text.Case
import Mathlib.Tactic.Common

/-!
# What stays in lower case

A sign of the first 128 characters is the lower case form of itself and of nothing else, so the
lower case form of a text has it if and only if the text has it. Of the letters from beyond the
first 128 characters, two come down to one of them, an `i` and a `k`.

* `Text.mem_lower`: the lower case form of a character of a text is in that of the text.
* `Text.mem_lower_iff`: the case of a sign.
-/
namespace DeskShell.Text

variable {c d : Char}

/-! ## Characters -/

/-- One of the first 128 characters, neither a letter nor the null character. -/
def IsSign (c : Char) : Prop :=
  0 < c.toNat ∧ c.toNat < 128 ∧ ¬ (65 ≤ c.toNat ∧ c.toNat ≤ 90) ∧ ¬ (97 ≤ c.toNat ∧ c.toNat ≤ 122)

instance (c : Char) : Decidable (IsSign c) := inferInstanceAs (Decidable (_ ∧ _))

theorem applyRuns_lowerRuns {n : Nat} (h : 128 ≤ n) : 128 ≤ applyRuns lowerRuns n ∨
    applyRuns lowerRuns n = 0x69 ∨ applyRuns lowerRuns n = 0x6b := by
  have hall : ∀ r ∈ lowerRuns, r.last < 128 ∨ 128 ≤ (r.first : Int) + r.shift ∨
      r.first = r.last ∧ ((r.first : Int) + r.shift = 0x69 ∨ (r.first : Int) + r.shift = 0x6b) := by
    decide +kernel
  unfold applyRuns
  split
  · next r hr =>
    have hcovers := List.find?_some hr
    simp only [CaseRun.covers, Bool.and_eq_true, decide_eq_true_eq] at hcovers
    rcases hall r (List.mem_of_find?_eq_some hr) with hlast | himage | ⟨hone, himage⟩ <;> omega
  · exact .inl h

theorem lowerPoint_eq_iff (hd : IsSign d) (n : Nat) : lowerPoint n = d.toNat ↔ n = d.toNat := by
  obtain ⟨-, hlt, hupper, hlower⟩ := hd
  unfold lowerPoint
  split
  · split <;> omega
  · have := applyRuns_lowerRuns (n := n) (by omega)
    omega

theorem ofNat_eq_iff (hd : IsSign d) (n : Nat) : Char.ofNat n = d ↔ n = d.toNat := by
  constructor
  · rintro rfl
    by_cases hvalid : n.isValidChar
    · rw [Char.ofNat, dif_pos hvalid]
      rfl
    · have hpos := hd.1
      rw [Char.ofNat, dif_neg hvalid] at hpos
      exact absurd hpos (by decide)
  · rintro rfl
    exact Char.ofNat_toNat d

theorem mem_lowerChar_iff (hd : IsSign d) : d ∈ lowerChar c ↔ c = d := by
  unfold lowerChar
  split
  · next hc =>
    obtain ⟨-, hlt, -, hlower⟩ := hd
    have hi : d ≠ 'i' := by
      rintro rfl
      exact hlower (by decide)
    have hdot : d ≠ Char.ofNat 0x307 := by
      rintro rfl
      exact absurd hlt (by decide)
    have hne : c ≠ d := by
      rintro rfl
      omega
    simp [hi, hdot, hne]
  · rw [List.mem_singleton, eq_comm, ofNat_eq_iff hd, lowerPoint_eq_iff hd, Char.toNat_inj]

/-! ## Texts -/

theorem mem_lowerFrom {s : List Char} (hc : c ∈ s) (hsigma : c.toNat ≠ 0x3a3)
    (hd : d ∈ lowerChar c) (before : List Char) : d ∈ lowerFrom before s := by
  induction s generalizing before with
  | nil => cases hc
  | cons e after ih =>
    unfold lowerFrom
    dsimp only
    rw [List.mem_append]
    rcases List.mem_cons.mp hc with rfl | hc
    · rw [if_neg hsigma]
      exact .inl hd
    · exact .inr (ih hc _)

theorem mem_of_mem_lowerFrom (hd : IsSign d) {s before : List Char} (h : d ∈ lowerFrom before s) :
    d ∈ s := by
  induction s generalizing before with
  | nil => cases h
  | cons e after ih =>
    unfold lowerFrom at h
    dsimp only at h
    rw [List.mem_append] at h
    rcases h with h | h
    · split at h
      · -- Neither form of a small sigma is a sign.
        obtain rfl := List.mem_singleton.mp h
        unfold lowerSigma at hd
        split at hd <;> exact absurd hd (by decide)
      · rw [mem_lowerChar_iff hd] at h
        exact h ▸ List.mem_cons_self
    · exact List.mem_cons_of_mem e (ih h)

theorem mem_lower {s : String} (hc : c ∈ s.toList) (hsigma : c.toNat ≠ 0x3a3)
    (hd : d ∈ lowerChar c) : d ∈ (lower s).toList := by
  unfold lower lowerList
  rw [String.toList_ofList]
  exact mem_lowerFrom hc hsigma hd []

/-- The lower case form of a text has the signs of the text and no others. -/
theorem mem_lower_iff (hd : IsSign d) (s : String) : d ∈ (lower s).toList ↔ d ∈ s.toList := by
  constructor
  · intro h
    unfold lower lowerList at h
    rw [String.toList_ofList] at h
    exact mem_of_mem_lowerFrom hd h
  · intro h
    have hsigma : d.toNat ≠ 0x3a3 := by
      have := hd.2.1
      omega
    exact mem_lower h hsigma ((mem_lowerChar_iff hd).mpr rfl)

end DeskShell.Text

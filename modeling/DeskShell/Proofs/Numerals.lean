import DeskShell.Text.Integer
import Mathlib.Data.Nat.Digits.Defs

/-!
# Numbers as they are written

A whole number in decimal digits is read back, as long as it has no more digits than are read.

* `Text.digitRow?_of_isDigit`: a row of digits is read digit by digit.
* `Text.readInteger?_signed`: a number whose distance from zero is below ten to the power of
  `maxDigits` is read back, behind a sign or not.
* `Text.toString_inj`: different numbers are written differently, however long they are.
-/
namespace DeskShell.Text

variable {c : Char} {cs : List Char}

theorem toNat_of_isDigit (h : c.isDigit = true) : 48 ≤ c.toNat ∧ c.toNat ≤ 57 :=
  Char.isDigit_iff_toNat.mp h

theorem digitValue?_of_isDigit (h : c.isDigit = true) : digitValue? c = some (c.toNat - 48) := by
  obtain ⟨hlow, hhigh⟩ := toNat_of_isDigit h
  have hfirst : digitRanges.find? (fun r => r.1 ≤ c.toNat && c.toNat ≤ r.2) = some (48, 57) :=
    List.find?_cons_of_pos (by simp [hlow, hhigh])
  have hsmall : (c.toNat - 48) % 10 = c.toNat - 48 := Nat.mod_eq_of_lt (by omega)
  simp [digitValue?, hfirst, hsmall]

theorem isNumberBlank_of_isDigit (h : c.isDigit = true) : isNumberBlank c = false := by
  obtain ⟨hlow, hhigh⟩ := toNat_of_isDigit h
  have hblank : isBlank c = false := by
    rw [← Bool.not_eq_true, isBlank, inRanges_iff]
    simp only [blankRanges, List.mem_cons, List.not_mem_nil, or_false, not_exists, not_and]
    rintro r (rfl | rfl | rfl | rfl | rfl | rfl | rfl | rfl | rfl | rfl) <;> dsimp only <;> omega
  simp [isNumberBlank, hblank]

theorem digitRow?_cons {d : Char} {ds : List Char} {v : Nat} {vs : List Nat} (hd : d ≠ '_')
    (hv : digitValue? c = some v) (hvs : digitRow? (d :: ds) = some vs) :
    digitRow? (c :: d :: ds) = some (v :: vs) := by
  rw [digitRow?, hv, hvs]
  · simp
  · rintro rest he
    exact hd (List.cons.inj he).1

theorem digitRow?_of_isDigit (hne : cs ≠ []) (h : ∀ c ∈ cs, c.isDigit = true) :
    digitRow? cs = some (cs.map fun c => c.toNat - 48) := by
  induction cs with
  | nil => exact absurd rfl hne
  | cons c cs ih =>
    obtain ⟨hc, hcs⟩ := List.forall_mem_cons.mp h
    cases cs with
    | nil => simp [digitRow?, digitValue?_of_isDigit hc]
    | cons d ds =>
      have hd : d ≠ '_' := by
        rintro rfl
        cases hcs '_' List.mem_cons_self
      exact digitRow?_cons hd (digitValue?_of_isDigit hc) (ih (List.cons_ne_nil d ds) hcs)

theorem dropWhile_isNumberBlank (h : ∀ c ∈ cs, isNumberBlank c = false) :
    cs.dropWhile isNumberBlank = cs := by
  cases cs with
  | nil => rfl
  | cons c cs => exact List.dropWhile_cons_of_neg (by simp [h c List.mem_cons_self])

theorem takeSign_of_isDigit (h : ∀ c ∈ cs, c.isDigit = true) : takeSign cs = (false, cs) := by
  unfold takeSign
  split
  · cases h '-' List.mem_cons_self
  · cases h '+' List.mem_cons_self
  · rfl

theorem number_digits (cs : List Char) :
    number (cs.map fun c => c.toNat - 48) = Nat.ofDigitChars 10 cs 0 := by
  rw [number, List.foldl_map]
  rfl

theorem isDigit_of_mem_toString {k : Nat} (h : c ∈ (toString k).toList) : c.isDigit = true := by
  rw [Nat.toString_eq_ofList_toDigits, String.toList_ofList] at h
  exact Nat.isDigit_of_mem_toDigits (by decide) (by decide) h

theorem toString_inj {m n : Nat} (h : toString m = toString n) : m = n := by
  rw [Nat.toString_eq_ofList_toDigits, Nat.toString_eq_ofList_toDigits, String.ofList_inj] at h
  rw [← Nat.ofDigitChars_ten_toDigits (n := m), h, Nat.ofDigitChars_ten_toDigits]

theorem toString_ne_empty (n : Nat) : (toString n).toList ≠ [] := by
  rw [Nat.toString_eq_ofList_toDigits, String.toList_ofList]
  exact Nat.toDigits_ne_nil

theorem lt_of_lt_ten {k : Nat} (h : k < 10) : k < 10 ^ maxDigits :=
  Nat.lt_of_lt_of_le h (Nat.le_self_pow (by decide) 10)

section

variable {k : Nat} (hk : k < 10 ^ maxDigits)

include hk

/-- A number is read from its sign, if any, and its decimal digits, when they are no more than are
read. -/
theorem readInteger?_signed (sign : List Char) {negative : Bool}
    (hsolid : ∀ c ∈ sign, isNumberBlank c = false)
    (hsign : takeSign (sign ++ Nat.toDigits 10 k) = (negative, Nat.toDigits 10 k)) :
    readInteger? (String.ofList (sign ++ Nat.toDigits 10 k)) =
      some (if negative then -(k : Int) else k) := by
  have hdigits : ∀ c ∈ Nat.toDigits 10 k, c.isDigit = true := fun c hc =>
    Nat.isDigit_of_mem_toDigits (by decide) (by decide) hc
  have hall : ∀ c ∈ sign ++ Nat.toDigits 10 k, isNumberBlank c = false := fun c hc =>
    (List.mem_append.mp hc).elim (hsolid c) fun hc => isNumberBlank_of_isDigit (hdigits c hc)
  have hback : ∀ c ∈ (sign ++ Nat.toDigits 10 k).reverse, isNumberBlank c = false := fun c hc =>
    hall c (List.mem_reverse.mp hc)
  have hfits : ¬ ((Nat.toDigits 10 k).map fun c => c.toNat - 48).length > maxDigits := by
    have hlength := Nat.toDigits_length 10 k maxDigits (by decide) hk
    rw [List.length_map]
    omega
  simp only [readInteger?, String.toList_ofList, dropWhile_isNumberBlank hall,
    dropWhile_isNumberBlank hback, List.reverse_reverse, hsign,
    digitRow?_of_isDigit Nat.toDigits_ne_nil hdigits, if_neg hfits, number_digits,
    Nat.ofDigitChars_ten_toDigits]

theorem readInteger?_toString : readInteger? (toString k) = some (k : Int) := by
  have hsign : takeSign (Nat.toDigits 10 k) = (false, Nat.toDigits 10 k) :=
    takeSign_of_isDigit fun c hc => Nat.isDigit_of_mem_toDigits (by decide) (by decide) hc
  rw [Nat.toString_eq_ofList_toDigits]
  exact readInteger?_signed hk [] (List.forall_mem_nil _) hsign

theorem readInteger?_neg_toString : readInteger? ("-" ++ toString k) = some (-k : Int) := by
  have htext : "-" ++ toString k = String.ofList (['-'] ++ Nat.toDigits 10 k) := by
    rw [Nat.toString_eq_ofList_toDigits]
    exact String.toList_inj.mp (by simp)
  rw [htext]
  have hsolid : ∀ c ∈ ['-'], isNumberBlank c = false := List.forall_mem_singleton.mpr (by decide)
  exact readInteger?_signed hk ['-'] hsolid rfl

end

end DeskShell.Text

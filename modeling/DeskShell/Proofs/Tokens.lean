import DeskShell.Command.Token

/-!
# Tokens in writing

A row of tokens is written with its words in quotes and blanks between the tokens. Reading it gives
the tokens back, whatever the words hold.

* `Quote.enclose`: a word in quotes.
* `Layout`: the quotes and the blanks that a row of tokens is written with.
* `Token.tokensOf_enclose`, `Token.tokensOf_operator`: reading a word and an operator.
* `Token.tokensOf_writeAll`: reading a row.
-/
namespace DeskShell

/-! ## Words in quotes -/

inductive Quote
  | single
  | double
  deriving Repr, DecidableEq

namespace Quote

def mark : Quote → Char
  | single => '\''
  | double => '"'

/-- A character as it stands between quotes. -/
def escapeChar (q : Quote) (c : Char) : List Char :=
  if c = '\\' ∨ c = q.mark then ['\\', c] else [c]

def enclose (q : Quote) (w : List Char) : List Char :=
  q.mark :: (w.flatMap q.escapeChar ++ [q.mark])

end Quote

/-- How a row of tokens is written: the quotes of each word and the blanks after each token. -/
structure Layout where
  quote : Nat → Quote
  gap : Nat → List Char
  gap_ne_nil : ∀ i, gap i ≠ []
  isBlank_gap : ∀ i, ∀ c ∈ gap i, Text.isBlank c = true

/-- Double quotes, and one space after each token. -/
def Layout.plain : Layout where
  quote _ := .double
  gap _ := [' ']
  gap_ne_nil _ := by simp
  isBlank_gap _ c hc := by
    obtain rfl := List.mem_singleton.mp hc
    rfl

namespace Token

open Text (isBlank)

theorem readQuoted_mark (q : Quote) (rest : List Char) :
    readQuoted q.mark (q.mark :: rest) = ([], rest) := by
  cases q <;> simp [readQuoted, Quote.mark]

theorem readQuoted_escapeChar (q : Quote) (c : Char) (rest : List Char) :
    readQuoted q.mark (q.escapeChar c ++ rest) =
      (c :: (readQuoted q.mark rest).1, (readQuoted q.mark rest).2) := by
  unfold Quote.escapeChar
  by_cases hc : c = '\\' ∨ c = q.mark
  · rw [if_pos hc]
    simp [readQuoted]
  · rw [if_neg hc]
    obtain ⟨hslash, hmark⟩ := not_or.mp hc
    rw [List.singleton_append, readQuoted, if_neg hmark]
    rintro d tail rfl
    exact absurd rfl hslash

theorem readQuoted_enclosed (q : Quote) (w rest : List Char) :
    readQuoted q.mark (w.flatMap q.escapeChar ++ q.mark :: rest) = (w, rest) := by
  induction w with
  | nil => exact readQuoted_mark q rest
  | cons c w ih =>
    rw [List.flatMap_cons, List.append_assoc, readQuoted_escapeChar, ih]

/-- One step of the reader, without the proofs that it gets on. -/
theorem tokensOf_cons (c : Char) (rest : List Char) :
    tokensOf (c :: rest) =
      if isBlank c then tokensOf rest
      else
        match readOperator? (c :: rest) with
        | some (t, tail) => t :: tokensOf tail
        | none =>
          if c = '\'' ∨ c = '"' then
            word (String.ofList (readQuoted c rest).1) :: tokensOf (readQuoted c rest).2
          else if breaksWord c then tokensOf rest
          else
            word (String.ofList (readBare (c :: rest)).1) :: tokensOf (readBare (c :: rest)).2 := by
  rw [tokensOf]
  by_cases hb : isBlank c = true
  · simp only [hb, ↓reduceDIte, ↓reduceIte]
  · simp only [hb, ↓reduceDIte, ↓reduceIte, Bool.false_eq_true]
    split
    · next t tail h => simp only [h]
    · next h => simp only [h, dite_eq_ite]

theorem tokensOf_enclose (q : Quote) (w rest : List Char) :
    tokensOf (q.enclose w ++ rest) = word (String.ofList w) :: tokensOf rest := by
  have hblank : isBlank q.mark = false := by cases q <;> decide
  have hop : ∀ s, readOperator? (q.mark :: s) = none := by
    intro s
    cases q <;> rfl
  have hquote : q.mark = '\'' ∨ q.mark = '"' := by cases q <;> simp [Quote.mark]
  unfold Quote.enclose
  rw [List.cons_append, List.append_assoc, List.singleton_append, tokensOf_cons]
  simp only [hblank, hop, hquote, Bool.false_eq_true, ↓reduceIte, readQuoted_enclosed]

/-! ## Operators -/

def pipe : Token := ⟨.pipe, "|"⟩
def redirect : Token := ⟨.redirect, ">"⟩
def append : Token := ⟨.append, ">>"⟩
def and : Token := ⟨.and, "&&"⟩
def semicolon : Token := ⟨.semicolon, ";"⟩

def operators : List Token := [pipe, redirect, append, and, semicolon]

/-- Tokens that can be written: words and operators. -/
def Proper (t : Token) : Prop := t.kind = .word ∨ t ∈ operators

theorem readOperator_written {t : Token} (ht : t ∈ operators) {rest : List Char}
    (hrest : ∀ c ∈ rest.head?, isBlank c = true) :
    ∃ c s, t.text.toList ++ rest = c :: s ∧ isBlank c = false ∧
      readOperator? (c :: s) = some (t, rest) := by
  simp only [operators, List.mem_cons, List.not_mem_nil, or_false] at ht
  rcases ht with rfl | rfl | rfl | rfl | rfl
  · exact ⟨'|', rest, rfl, by decide, rfl⟩
  · refine ⟨'>', rest, rfl, by decide, ?_⟩
    cases rest with
    | nil => rfl
    | cons c s =>
      -- Another such sign would make a different operator, but it is no blank.
      have hc : c ≠ '>' := by
        rintro rfl
        exact absurd (hrest '>' rfl) (by decide)
      simp [readOperator?, hc, redirect]
  · exact ⟨'>', '>' :: rest, rfl, by decide, rfl⟩
  · exact ⟨'&', '&' :: rest, rfl, by decide, rfl⟩
  · exact ⟨';', rest, rfl, by decide, rfl⟩

/-- An operator is read where a blank or nothing follows it. -/
theorem tokensOf_operator {t : Token} (ht : t ∈ operators) {rest : List Char}
    (hrest : ∀ c ∈ rest.head?, isBlank c = true) :
    tokensOf (t.text.toList ++ rest) = t :: tokensOf rest := by
  obtain ⟨c, s, hs, hc, hread⟩ := readOperator_written ht hrest
  rw [hs, tokensOf_cons, hread]
  simp [hc]

/-! ## Rows of tokens -/

def write (q : Quote) (t : Token) : List Char :=
  if t.kind = .word then q.enclose t.text.toList else t.text.toList

/-- A row of tokens, of which the first has the number `i` in the layout. -/
def writeAll (L : Layout) : Nat → List Token → List Char
  | _, [] => []
  | i, t :: rest =>
    t.write (L.quote i) ++ if rest.isEmpty then [] else L.gap i ++ writeAll L (i + 1) rest

theorem tokensOf_blanks {gap : List Char} (h : ∀ c ∈ gap, isBlank c = true) (rest : List Char) :
    tokensOf (gap ++ rest) = tokensOf rest := by
  induction gap with
  | nil => rfl
  | cons c gap ih =>
    rw [List.cons_append, tokensOf_cons, if_pos (h c List.mem_cons_self)]
    exact ih fun d hd => h d (List.mem_cons_of_mem c hd)

theorem tokensOf_write {t : Token} (ht : t.Proper) (q : Quote) {rest : List Char}
    (hrest : ∀ c ∈ rest.head?, isBlank c = true) :
    tokensOf (t.write q ++ rest) = t :: tokensOf rest := by
  unfold write
  rcases ht with hk | ht
  · rw [if_pos hk, tokensOf_enclose, String.ofList_toList]
    obtain ⟨kind, text⟩ := t
    rw [show kind = .word from hk]
    rfl
  · have hk : t.kind ≠ .word := by
      intro hk
      revert t
      decide
    rw [if_neg hk]
    exact tokensOf_operator ht hrest

theorem tokensOf_nil : tokensOf [] = [] := by rw [tokensOf]

theorem tokensOf_writeAll (L : Layout) : ∀ (ts : List Token) (i : Nat), (∀ t ∈ ts, t.Proper) →
    tokensOf (writeAll L i ts) = ts
  | [], _, _ => tokensOf_nil
  | t :: rest, i, h => by
    have ht := h t List.mem_cons_self
    have ih := tokensOf_writeAll L rest (i + 1) fun u hu => h u (List.mem_cons_of_mem t hu)
    unfold writeAll
    cases rest with
    | nil =>
      rw [if_pos List.isEmpty_nil, tokensOf_write ht _ (by simp), tokensOf_nil]
    | cons u rest =>
      have hgap : ∀ c ∈ (L.gap i ++ writeAll L (i + 1) (u :: rest)).head?, isBlank c = true := by
        intro c hc
        obtain ⟨b, gap, hb⟩ := List.exists_cons_of_ne_nil (L.gap_ne_nil i)
        rw [hb, List.cons_append, List.head?_cons, Option.mem_some_iff] at hc
        exact L.isBlank_gap i c (by rw [hb, hc]; exact List.mem_cons_self)
      rw [if_neg (by simp), tokensOf_write ht _ hgap, tokensOf_blanks (L.isBlank_gap i), ih]

end Token
end DeskShell

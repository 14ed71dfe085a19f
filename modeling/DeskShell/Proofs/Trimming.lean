import DeskShell.Proofs.LastExit
import DeskShell.Proofs.Tokens

/-!
# Blanks at the ends of a line

A typed line is trimmed before it is cut into tokens. Blanks in front of a line never matter. Blanks
behind it matter exactly where the line ends inside quotes or right after a backslash: there the
first of them belongs to the last word.

* `Spot`: where in a text a reader stands, followed in one pass; `Spot.after` is the end of a text.
* `Token.Cut`: what blanks behind a word do to it, for both kinds of words.
* `Token.tokensOf_append_iff`: the blanks behind a text that make no difference.
* `Token.tokenize_trim_iff`: the lines whose tokens do not change by trimming.
* `Engine.execute_agrees`: such a line comes to the same whether it is typed or cut into tokens as
  it is.
* `Desktop.execute_ne_runLine`: another line does not.
-/
namespace DeskShell

open Text (isBlank)

/-! ## Where a text ends -/

/-- Where the next character stands: between words, in a bare or in a quoted word, or right after a
backslash in one of these. -/
inductive Spot
  | between
  | bare
  | escaped
  | quoted (quote : Char)
  | quotedEscaped (quote : Char)
  deriving Repr, DecidableEq

namespace Spot

def next : Spot → Char → Spot
  | between, c =>
    if isBlank c || Token.breaksWord c then between
    else if c = '\'' ∨ c = '"' then quoted c
    else if c = '\\' then escaped
    else bare
  | bare, c =>
    if isBlank c || Token.breaksWord c then between
    else if c = '\\' then escaped
    else bare
  | escaped, _ => bare
  | quoted q, c =>
    if c = '\\' then quotedEscaped q
    else if c = q then between
    else quoted q
  | quotedEscaped q, _ => quoted q

/-- Inside quotes or right after a backslash. -/
def isOpen : Spot → Bool
  | between | bare => false
  | escaped | quoted _ | quotedEscaped _ => true

/-- The spot that is reached from here along a text. -/
def along (p : Spot) (s : List Char) : Spot := s.foldl next p

/-- The spot behind a text. -/
def after (s : List Char) : Spot := between.along s

@[simp]
theorem along_nil (p : Spot) : p.along [] = p := rfl

@[simp]
theorem along_cons (p : Spot) (c : Char) (s : List Char) : p.along (c :: s) = (p.next c).along s :=
  rfl

end Spot

namespace Token

/-! ## The end of a word -/

theorem ne_of_isBlank {b c : Char} (hb : isBlank b = true) (hc : isBlank c = false) : b ≠ c := by
  rintro rfl
  rw [hb] at hc
  cases hc

theorem isBlank_backslash : isBlank '\\' = false := by decide

/-- What blanks behind a text do to a word at its start, which is read from the spot `p`: the word
has an end, and they are left over, or it has none, and they change it. -/
inductive Cut (read : List Char → List Char × List Char) (p : Spot) (s : List Char) : Prop
  | closed (hspot : (p.along s).isOpen = (Spot.after (read s).2).isOpen)
      (hrest : ∀ w, (∀ c ∈ w, isBlank c = true) → read (s ++ w) = ((read s).1, (read s).2 ++ w))
  | ragged (hspot : (p.along s).isOpen = true)
      (hword : ∀ w, (∀ c ∈ w, isBlank c = true) → w ≠ [] → (read (s ++ w)).1 ≠ (read s).1)

/-- A reader that takes the first characters of a text for one of the word. -/
theorem Cut.cons {read : List Char → List Char × List Char} {p p' : Spot} {s : List Char}
    {c : Char} (taken : List Char) (hspot : p'.along taken = p)
    (hread : ∀ t, read (taken ++ t) = (c :: (read t).1, (read t).2)) (h : Cut read p s) :
    Cut read p' (taken ++ s) := by
  have halong : p'.along (taken ++ s) = p.along s := by
    rw [Spot.along, List.foldl_append]
    exact congrArg (Spot.along · s) hspot
  cases h with
  | closed hopen hrest =>
    refine .closed (by rw [halong, hread]; exact hopen) fun w hw => ?_
    rw [List.append_assoc, hread, hread, hrest w hw]
  | ragged hopen hword =>
    refine .ragged (by rw [halong]; exact hopen) fun w hw hne => ?_
    rw [List.append_assoc, hread, hread]
    exact fun h => hword w hw hne (List.cons.inj h).2

/-- A backslash at the end is a character of the word, but not when a blank follows. -/
theorem Cut.backslash {read : List Char → List Char × List Char} {p : Spot}
    (hspot : (p.next '\\').isOpen = true) (hlast : read ['\\'] = (['\\'], []))
    (hread : ∀ c t, read ('\\' :: c :: t) = (c :: (read t).1, (read t).2)) : Cut read p ['\\'] := by
  refine .ragged hspot fun w hw hne => ?_
  obtain ⟨b, w, rfl⟩ := List.exists_cons_of_ne_nil hne
  rw [List.singleton_append, hread, hlast]
  exact fun h => ne_of_isBlank (hw b List.mem_cons_self) isBlank_backslash (List.cons.inj h).1

/-! ## Bare words -/

theorem readBare_escape (c : Char) (t : List Char) :
    readBare ('\\' :: c :: t) = (c :: (readBare t).1, (readBare t).2) := rfl

theorem readBare_stop {c : Char} (h : (isBlank c || breaksWord c) = true) (t : List Char) :
    readBare (c :: t) = ([], c :: t) := by
  unfold readBare
  split
  · next heq => cases heq
  · next heq =>
    obtain ⟨rfl, -⟩ := List.cons.inj heq
    exact absurd h (by decide)
  · next heq =>
    obtain ⟨rfl, rfl⟩ := List.cons.inj heq
    exact if_pos h

theorem readBare_go {c : Char} (h : (isBlank c || breaksWord c) = false) (hslash : c ≠ '\\')
    (t : List Char) : readBare (c :: t) = (c :: (readBare t).1, (readBare t).2) := by
  rw [readBare]
  · simp [h]
  · exact fun d u heq _ => hslash heq

theorem readBare_blanks {w : List Char} (hw : ∀ c ∈ w, isBlank c = true) :
    readBare w = ([], w) := by
  cases w with
  | nil => rfl
  | cons c w => exact readBare_stop (by rw [hw c List.mem_cons_self, Bool.true_or]) w

theorem cut_bare (s : List Char) : Cut readBare .bare s := by
  induction s using readBare.induct with
  | case1 => exact .closed rfl fun w hw => readBare_blanks hw
  | case2 c rest _ _ _ ih => exact .cons ['\\', c] rfl (readBare_escape c) ih
  | case3 c rest _ hstop =>
    refine .closed ?_ fun w hw => ?_
    · rw [readBare_stop hstop]
      simp [Spot.after, Spot.next, hstop]
    · rw [List.cons_append, readBare_stop hstop, readBare_stop hstop, List.cons_append]
  | case4 c rest hlast hgo _ _ _ ih =>
    rw [Bool.not_eq_true] at hgo
    by_cases hslash : c = '\\'
    · subst hslash
      cases rest with
      | nil => exact .backslash rfl rfl readBare_escape
      | cons d t => exact absurd rfl (hlast d t rfl)
    · refine Cut.cons [c] ?_ (readBare_go hgo hslash) ih
      simp [Spot.next, hgo, hslash]

/-! ## Quoted words -/

theorem readQuoted_escape (q c : Char) (t : List Char) :
    readQuoted q ('\\' :: c :: t) = (c :: (readQuoted q t).1, (readQuoted q t).2) := rfl

theorem readQuoted_go {q c : Char} (hq : c ≠ q) (hslash : c ≠ '\\') (t : List Char) :
    readQuoted q (c :: t) = (c :: (readQuoted q t).1, (readQuoted q t).2) := by
  rw [readQuoted]
  · simp [hq]
  · exact fun d u heq _ => hslash heq

theorem cut_quoted {q : Char} (hq : q = '\'' ∨ q = '"') (s : List Char) :
    Cut (readQuoted q) (.quoted q) s := by
  have hblank : isBlank q = false := by rcases hq with rfl | rfl <;> decide
  have hslash : q ≠ '\\' := by rcases hq with rfl | rfl <;> decide
  induction s using (readQuoted.induct q) with
  | case1 =>
    refine .ragged rfl fun w hw hne => ?_
    obtain ⟨b, w, rfl⟩ := List.exists_cons_of_ne_nil hne
    have hb := hw b List.mem_cons_self
    rw [List.nil_append, readQuoted_go (ne_of_isBlank hb hblank)
      (ne_of_isBlank hb isBlank_backslash)]
    exact List.cons_ne_nil _ _
  | case2 c rest _ _ _ ih => exact .cons ['\\', c] rfl (readQuoted_escape q c) ih
  | case3 rest =>
    have hread (t : List Char) : readQuoted q (q :: t) = ([], t) := by
      rw [readQuoted, if_pos rfl]
      exact fun d u heq _ => hslash heq
    refine .closed ?_ fun w hw => ?_
    · rw [hread]
      simp [Spot.after, Spot.next, hslash]
    · rw [List.cons_append, hread, hread]
  | case4 c rest hlast hgo _ _ _ ih =>
    by_cases hc : c = '\\'
    · subst hc
      cases rest with
      | nil => exact .backslash rfl (by simp [readQuoted, hgo]) (readQuoted_escape q)
      | cons d t => exact absurd rfl (hlast d t rfl)
    · refine .cons [c] ?_ (readQuoted_go hgo hc) ih
      simp [Spot.next, hgo, hc]

/-! ## Rows of tokens -/

theorem readOperator_cons_cons (c d : Char) (t w : List Char) :
    readOperator? (c :: d :: t ++ w) =
      (readOperator? (c :: d :: t)).map fun r => (r.1, r.2 ++ w) := by
  by_cases h₁ : c = '>'
  · by_cases h₂ : d = '>' <;> simp [readOperator?, h₁, h₂]
  · by_cases h₃ : c = '&'
    · by_cases h₂ : d = '&' <;> simp [readOperator?, h₃, h₂]
    · unfold readOperator?
      split <;> simp_all

/-- An operator goes on behind its first character only with another such character. -/
theorem readOperator_cons_blanks (c : Char) {w : List Char} (hw : ∀ b ∈ w, isBlank b = true) :
    readOperator? (c :: w) = (readOperator? [c]).map fun r => (r.1, r.2 ++ w) := by
  have hgreater : ∀ t, w ≠ '>' :: t := fun t h =>
    ne_of_isBlank (hw '>' (h ▸ List.mem_cons_self)) (by decide) rfl
  have hampersand : ∀ t, w ≠ '&' :: t := fun t h =>
    ne_of_isBlank (hw '&' (h ▸ List.mem_cons_self)) (by decide) rfl
  unfold readOperator?
  split <;> simp_all

theorem readOperator_append (c : Char) (rest : List Char) {w : List Char}
    (hw : ∀ b ∈ w, isBlank b = true) :
    readOperator? (c :: (rest ++ w)) =
      (readOperator? (c :: rest)).map fun r => (r.1, r.2 ++ w) := by
  cases rest with
  | nil => exact readOperator_cons_blanks c hw
  | cons d t => exact readOperator_cons_cons c d t w

theorem after_of_readOperator {s tail : List Char} {t : Token}
    (h : readOperator? s = some (t, tail)) : Spot.after s = Spot.after tail := by
  unfold readOperator? at h
  split at h <;> first | cases h; rfl | cases h

/-- A word and what follows it, when blanks stand behind the text. -/
theorem Cut.cons_tokensOf_iff {read : List Char → List Char × List Char} {p : Spot}
    {s w : List Char} (h : Cut read p s) (hw : ∀ c ∈ w, isBlank c = true)
    (ih : tokensOf ((read s).2 ++ w) = tokensOf (read s).2 ↔
      w = [] ∨ (Spot.after (read s).2).isOpen = false) :
    word (String.ofList (read (s ++ w)).1) :: tokensOf (read (s ++ w)).2 =
      word (String.ofList (read s).1) :: tokensOf (read s).2 ↔
      w = [] ∨ (p.along s).isOpen = false := by
  cases h with
  | closed hspot hrest =>
    rw [hrest w hw, hspot, ← ih]
    simp
  | ragged hspot hword =>
    by_cases hne : w = []
    · subst hne
      simp
    · have hdiffer : word (String.ofList (read (s ++ w)).1) ≠ word (String.ofList (read s).1) :=
        fun he => hword w hw hne (String.ofList_injective (congrArg Token.text he))
      simp [hdiffer, hne, hspot]

/-- Blanks behind a text make no difference to its tokens if and only if there are none or the text
does not end inside quotes or right after a backslash. -/
theorem tokensOf_append_iff {w : List Char} (hw : ∀ c ∈ w, isBlank c = true) (s : List Char) :
    tokensOf (s ++ w) = tokensOf s ↔ w = [] ∨ (Spot.after s).isOpen = false := by
  induction s using tokensOf.induct with
  | case1 =>
    rw [List.nil_append, ← List.append_nil w, tokensOf_blanks hw]
    exact iff_of_true rfl (.inr rfl)
  | case2 c rest hb ih =>
    have hafter : Spot.after (c :: rest) = Spot.after rest := by
      simp [Spot.after, Spot.next, hb]
    rw [List.cons_append, tokensOf_cons, tokensOf_cons, if_pos hb, if_pos hb, hafter]
    exact ih
  | case3 c rest hb t tail hop _ ih =>
    have hop' := readOperator_append c rest hw
    rw [hop, Option.map_some] at hop'
    rw [List.cons_append, tokensOf_cons, tokensOf_cons, if_neg hb, if_neg hb, hop, hop',
      after_of_readOperator hop]
    simpa using ih
  | case4 c rest hb hop hq _ ih =>
    have hop' := readOperator_append c rest hw
    rw [hop, Option.map_none] at hop'
    have hafter : Spot.after (c :: rest) = (Spot.quoted c).along rest := by
      rcases hq with rfl | rfl <;> rfl
    rw [List.cons_append, tokensOf_cons, tokensOf_cons, if_neg hb, if_neg hb, hop, hop', hafter]
    simp only [if_pos hq]
    exact (cut_quoted hq rest).cons_tokensOf_iff hw ih
  | case5 c rest hb hop hq hbreak ih =>
    have hop' := readOperator_append c rest hw
    rw [hop, Option.map_none] at hop'
    have hafter : Spot.after (c :: rest) = Spot.after rest := by
      simp [Spot.after, Spot.next, hbreak]
    rw [List.cons_append, tokensOf_cons, tokensOf_cons, if_neg hb, if_neg hb, hop, hop', hafter]
    simp only [if_neg hq, if_pos hbreak]
    exact ih
  | case6 c rest hb hop hq hbreak _ ih =>
    have hop' := readOperator_append c rest hw
    rw [hop, Option.map_none] at hop'
    have hafter : Spot.after (c :: rest) = Spot.bare.along (c :: rest) := by
      simp [Spot.after, Spot.next, hb, hq, hbreak]
    rw [List.cons_append, tokensOf_cons, tokensOf_cons, if_neg hb, if_neg hb, hop, hop', hafter]
    simp only [if_neg hq, if_neg hbreak]
    exact (cut_bare (c :: rest)).cons_tokensOf_iff hw ih

end Token

/-! ## Trimming -/

namespace Text

theorem trimRight_append (s : List Char) :
    ∃ post, s = trimRight s ++ post ∧ ∀ c ∈ post, isBlank c = true := by
  refine ⟨(s.reverse.takeWhile isBlank).reverse, ?_, fun c hc => ?_⟩
  · rw [trimRight, ← List.reverse_append, List.takeWhile_append_dropWhile, List.reverse_reverse]
  · exact List.mem_takeWhile_imp (List.mem_reverse.mp hc)

/-- A text is its trimmed form between blanks. -/
theorem exists_trim (text : String) : ∃ pre post,
    text.toList = pre ++ ((trim text).toList ++ post) ∧ (∀ c ∈ pre, isBlank c = true) ∧
      ∀ c ∈ post, isBlank c = true := by
  obtain ⟨post, hpost, hblank⟩ := trimRight_append (trimLeft text.toList)
  refine ⟨text.toList.takeWhile isBlank, post, ?_, fun c hc => List.mem_takeWhile_imp hc, hblank⟩
  rw [trim, String.toList_ofList, ← hpost, trimLeft, List.takeWhile_append_dropWhile]

/-- A trimmed text does not end with a blank. -/
theorem isBlank_getLast_trim {text : String} {c : Char} (h : (trim text).toList.getLast? = some c) :
    isBlank c = false := by
  rw [trim, String.toList_ofList, trimRight, List.getLast?_reverse] at h
  have hne := List.head?_dropWhile_not isBlank (trimLeft text.toList).reverse
  rw [h] at hne
  simpa using hne

/-- No blanks stand behind the trimmed form of a text if and only if the text does not end with a
blank. -/
theorem nil_iff_of_trim {text : String} {pre post : List Char} (hne : trim text ≠ "")
    (htext : text.toList = pre ++ ((trim text).toList ++ post))
    (hpost : ∀ c ∈ post, isBlank c = true) :
    post = [] ↔ ∀ c ∈ text.toList.getLast?, isBlank c = false := by
  have hcore : (trim text).toList ≠ [] := by simpa using hne
  have hlast : text.toList.getLast? = ((trim text).toList ++ post).getLast? := by
    rw [htext, List.getLast?_append_of_ne_nil _ (by simp [hcore])]
  rw [hlast]
  constructor
  · rintro rfl c hc
    rw [List.append_nil] at hc
    exact isBlank_getLast_trim hc
  · intro hall
    by_contra h
    rw [List.getLast?_append_of_ne_nil _ h, List.getLast?_eq_some_getLast h] at hall
    have hc := hall _ rfl
    rw [hpost _ (List.getLast_mem h)] at hc
    cases hc

end Text

namespace Token

/-- A line with something on it has the tokens of its trimmed form if and only if it does not end
with a blank or its trimmed form does not end inside quotes or right after a backslash. -/
theorem tokenize_trim_iff {text : String} (hne : Text.trim text ≠ "") :
    tokenize text = tokenize (Text.trim text) ↔
      (∀ c ∈ text.toList.getLast?, isBlank c = false) ∨
        (Spot.after (Text.trim text).toList).isOpen = false := by
  obtain ⟨pre, post, htext, hpre, hpost⟩ := Text.exists_trim text
  rw [← Text.nil_iff_of_trim hne htext hpost, ← tokensOf_append_iff hpost]
  unfold tokenize
  rw [List.append_cancel_right_eq, htext, tokensOf_blanks hpre]

end Token

/-! ## Typed lines -/

namespace Engine

variable {C : Type}

/-- A line with something on it, when it is typed, comes to what its trimmed form comes to, unless
that stops with a fault. Trimming leaves the tokens as they are if and only if the line does not end
with a blank or its trimmed form does not end inside quotes or right after a backslash. Such a line
comes to the same, with the same session left, whether it is typed or cut into tokens as it is. -/
theorem execute_agrees (run : C → List String → String → Run C Reply) (σ : Session C)
    {text : String} (htext : ∃ c ∈ text.toList, isBlank c = false) :
    let closed := (∀ c ∈ text.toList.getLast?, isBlank c = false) ∨
      (Spot.after (Text.trim text).toList).isOpen = false
    (∀ r τ, runLine run (Line.ofText (Text.trim text)) "" σ = .ok r τ →
      execute run text σ = .ok r τ) ∧
    (Token.tokenize text = Token.tokenize (Text.trim text) ↔ closed) ∧
    (closed → ∀ r τ, runLine run (Line.ofText text) "" σ = .ok r τ →
      execute run text σ = .ok r τ) := by
  intro closed
  have hne := Text.trim_ne_empty htext
  have htokens := Token.tokenize_trim_iff hne
  refine ⟨fun r τ => execute_of_ok hne, htokens, fun hclosed r τ h => execute_of_ok hne ?_⟩
  rw [Line.ofText, ← htokens.mpr hclosed]
  exact h

end Engine

namespace Desktop

open Builtin (Program)

/-- A line with blanks at both ends, one of them inside quotes. -/
theorem execute_agrees_echo : ∃ σ, session {} 0 (fun _ => .unset) = .ok σ ∧
    (∃ c ∈ "  echo 'a b ' \t".toList, isBlank c = false) ∧ ∃ r τ,
      Engine.runLine Program.run (Line.ofText "  echo 'a b ' \t") "" σ = .ok r τ ∧
      Engine.execute Program.run "  echo 'a b ' \t" σ = .ok r τ ∧ r.stdout = "a b " := by
  have htext : ∃ c ∈ "  echo 'a b ' \t".toList, isBlank c = false := ⟨'e', by decide, by decide⟩
  have hclosed : (Spot.after (Text.trim "  echo 'a b ' \t").toList).isOpen = false := by
    decide +kernel
  have hrun : (session {} 0 fun _ => .unset).map (fun σ =>
      (Engine.runLine Program.run (Line.ofText "  echo 'a b ' \t") "").result? σ) =
      .ok (some (.out "a b ")) := by
    decide +kernel
  obtain ⟨σ, hσ, -⟩ := exists_session {} 0 fun _ => .unset
  rw [hσ] at hrun
  have hline := Run.eq_ok_of_result? (Except.ok.inj hrun)
  exact ⟨σ, hσ, htext, _, _, hline,
    (Engine.execute_agrees Program.run σ htext).2.2 (.inr hclosed) _ _ hline, rfl⟩

/-- A blank that a backslash takes is a part of the last word, unless the line is trimmed. -/
theorem execute_ne_runLine : ∃ σ, session {} 0 (fun _ => .unset) = .ok σ ∧
    (∃ c ∈ "echo a\\ ".toList, isBlank c = false) ∧
    Token.tokenize "echo a\\ " ≠ Token.tokenize (Text.trim "echo a\\ ") ∧ ∃ r τ s υ,
      Engine.runLine Program.run (Line.ofText "echo a\\ ") "" σ = .ok r τ ∧
      Engine.execute Program.run "echo a\\ " σ = .ok s υ ∧
      r.stdout = "a " ∧ s.stdout = "a\\" ∧ r ≠ s := by
  have hrun : (session {} 0 fun _ => .unset).map (fun σ =>
      ((Engine.runLine Program.run (Line.ofText "echo a\\ ") "").result? σ,
        (Engine.execute Program.run "echo a\\ ").result? σ)) =
      .ok (some (.out "a "), some (.out "a\\")) := by
    decide +kernel
  obtain ⟨σ, hσ, -⟩ := exists_session {} 0 fun _ => .unset
  rw [hσ] at hrun
  obtain ⟨hline, htyped⟩ := Prod.mk.inj (Except.ok.inj hrun)
  exact ⟨σ, hσ, ⟨'e', by decide, by decide⟩, by decide +kernel, _, _, _, _,
    Run.eq_ok_of_result? hline, Run.eq_ok_of_result? htyped, rfl, rfl, by decide⟩

end Desktop
end DeskShell

import DeskShell.Proofs.EmptySlots
import DeskShell.Proofs.Trimming

/-!
# Plain lines

A line without quotes, backslashes and operators is cut at its blanks and nowhere else: its tokens
are the words of the text, and it is a single command with these words.

* `Text.words_cons_of_blank`, `Text.words_cons_of_letter`: the words of a text from its start.
* `Token.Plain`: texts without the characters of the command language.
* `Token.readBare_of_plain`: a bare word in such a text goes up to the next blank.
* `Line.ofText_plain`: what a plain line is.
-/
namespace DeskShell

open Text (isBlank)

/-! ## Words of a text -/

namespace Text

theorem words_cons_of_blank {c : Char} (hc : isBlank c = true) (s : List Char) :
    words (String.ofList (c :: s)) = words (String.ofList s) := by
  have hsplit := List.splitOnP_append_cons [] s hc
  rw [List.nil_append] at hsplit
  simp [words, hsplit]

/-- A piece without blanks is a word where a blank or nothing follows it. -/
theorem words_append {w s : List Char} (hne : w ≠ []) (hw : ∀ c ∈ w, isBlank c = false)
    (hs : ∀ c ∈ s.head?, isBlank c = true) :
    words (String.ofList (w ++ s)) = String.ofList w :: words (String.ofList s) := by
  have hsplit : w.splitOnP isBlank = [w] := List.splitOnP_eq_singleton hw
  cases s with
  | nil => simp [words, hsplit, hne]
  | cons c s =>
    rw [words_cons_of_blank (hs c rfl)]
    simp [words, List.splitOnP_append_cons w s (hs c rfl), hsplit, hne]

theorem words_cons_of_letter {c : Char} (hc : isBlank c = false) (s : List Char) :
    words (String.ofList (c :: s)) =
      String.ofList ((c :: s).takeWhile (!isBlank ·)) ::
        words (String.ofList ((c :: s).dropWhile (!isBlank ·))) := by
  have hne : (c :: s).takeWhile (!isBlank ·) ≠ [] := by simp [hc]
  have hword : ∀ d ∈ (c :: s).takeWhile (!isBlank ·), isBlank d = false := fun d hd => by
    simpa using List.mem_takeWhile_imp hd
  have hrest : ∀ d ∈ ((c :: s).dropWhile (!isBlank ·)).head?, isBlank d = true := fun d hd => by
    have hhead := List.head?_dropWhile_not (!isBlank ·) (c :: s)
    rw [Option.mem_def.mp hd] at hhead
    simpa using hhead
  have h := words_append hne hword hrest
  rwa [List.takeWhile_append_dropWhile] at h

theorem words_ne_nil {s : List Char} (h : ∃ c ∈ s, isBlank c = false) :
    words (String.ofList s) ≠ [] := by
  induction s with
  | nil => simp at h
  | cons c s ih =>
    cases hc : isBlank c with
    | true =>
      rw [words_cons_of_blank hc]
      exact ih (by simpa [hc] using h)
    | false =>
      rw [words_cons_of_letter hc]
      exact List.cons_ne_nil _ _

end Text

namespace Token

/-! ## Reading plain texts -/

/-- The characters other than blanks that mean something in a command line. -/
def special : List Char := ['|', '>', '<', ';', '&', '\'', '"', '\\']

/-- Only blanks have a meaning in this text. -/
def Plain (s : List Char) : Prop := ∀ c ∈ s, c ∉ special

instance : DecidablePred Plain := fun s => List.decidableBAll (· ∉ special) s

theorem breaksWord_of_not_special {c : Char} (hc : c ∉ special) : breaksWord c = false := by
  simp only [special, List.mem_cons, not_or] at hc
  simp [breaksWord, hc]

theorem readOperator_of_not_special {c : Char} (hc : c ∉ special) (s : List Char) :
    readOperator? (c :: s) = none := by
  simp only [special, List.mem_cons, not_or] at hc
  unfold readOperator?
  split <;> simp_all

theorem readBare_of_plain {s : List Char} (h : Plain s) :
    readBare s = (s.takeWhile (!isBlank ·), s.dropWhile (!isBlank ·)) := by
  induction s with
  | nil => rfl
  | cons c s ih =>
    have hc := h c List.mem_cons_self
    have hbreaks := breaksWord_of_not_special hc
    cases hblank : isBlank c with
    | true =>
      rw [readBare_stop (by rw [hblank, Bool.true_or])]
      simp [hblank]
    | false =>
      have hslash : c ≠ '\\' := by
        rintro rfl
        exact hc (by decide)
      rw [readBare_go (by rw [hblank, hbreaks, Bool.false_or]) hslash,
        ih fun d hd => h d (List.mem_cons_of_mem c hd)]
      simp [hblank]

/-- The tokens of a plain text are its words. -/
theorem tokensOf_of_plain {s : List Char} (h : Plain s) :
    tokensOf s = (Text.words (String.ofList s)).map word := by
  fun_induction tokensOf s with
  | case1 => rfl
  | case2 c rest hblank ih =>
    rw [Text.words_cons_of_blank hblank]
    exact ih fun d hd => h d (List.mem_cons_of_mem c hd)
  | case3 c rest _ t tail hread =>
    rw [readOperator_of_not_special (h c List.mem_cons_self)] at hread
    cases hread
  | case4 c rest _ _ hquote =>
    have hc := h c List.mem_cons_self
    rcases hquote with rfl | rfl <;> exact absurd (by decide) hc
  | case5 c rest _ _ _ hbreaks =>
    rw [breaksWord_of_not_special (h c List.mem_cons_self)] at hbreaks
    cases hbreaks
  | case6 c rest hletter _ _ _ _ ih =>
    have hrest : Plain ((c :: rest).dropWhile (!isBlank ·)) := fun d hd =>
      h d ((List.dropWhile_sublist _).subset hd)
    rw [readBare_of_plain h] at ih ⊢
    rw [ih hrest, Text.words_cons_of_letter (by simpa using hletter), List.map_cons]

end Token

namespace Line

/-- A line without quotes, backslashes and operators, with something in it besides blanks: its
tokens are the words of the text and the mark for the end, and it is one pipeline of one command,
without a redirect, whose name and arguments are these words. -/
theorem ofText_plain {s : String} (hword : ∃ c ∈ s.toList, isBlank c = false)
    (hplain : Token.Plain s.toList) :
    Token.tokenize s = (Text.words s).map Token.word ++ [Token.eof] ∧
      ∃ c : Command, ofText s = .chain [c] [] ∧ c.redirect = none ∧
        c.name :: c.args = Text.words s := by
  have htokens : Token.tokenize s = (Text.words s).map Token.word ++ [Token.eof] := by
    unfold Token.tokenize
    rw [Token.tokensOf_of_plain hplain, String.ofList_toList]
  have hne := Text.words_ne_nil hword
  rw [String.ofList_toList] at hne
  obtain ⟨name, args, hwords⟩ := List.exists_cons_of_ne_nil hne
  refine ⟨htokens, ⟨name, args, none⟩, ?_, rfl, hwords.symm⟩
  have hpadded := Padded.chain (c := ⟨name, args, none⟩) .nil .nil
  have hline := (ofTokens_slots hpadded).2 []
  unfold ofText
  rw [htokens, hwords]
  simpa [Command.tokens, Command.redirectTokens] using hline

/-- Blanks of five kinds, at the ends and between the words. -/
theorem ofText_plain_blanks :
    let s := " \techo\u00a0 50%\u2003#a=b~\n"
    (∃ c ∈ s.toList, isBlank c = false) ∧ Token.Plain s.toList ∧
      Token.tokenize s = [Token.word "echo", Token.word "50%", Token.word "#a=b~", Token.eof] ∧
      ofText s = .chain [⟨"echo", ["50%", "#a=b~"], none⟩] [] := by
  intro s
  have hword : ∃ c ∈ s.toList, isBlank c = false := ⟨'e', by decide, by decide⟩
  have hplain : Token.Plain s.toList := by decide +kernel
  have hwords : Text.words s = ["echo", "50%", "#a=b~"] := by decide +kernel
  obtain ⟨htokens, ⟨name, args, redirect⟩, hline, hredirect, hcommand⟩ := ofText_plain hword hplain
  rw [hwords] at htokens hcommand
  obtain ⟨rfl, rfl⟩ := List.cons.inj hcommand
  obtain rfl : redirect = none := hredirect
  exact ⟨hword, hplain, htokens, hline⟩

end Line
end DeskShell

import DeskShell.Command.Line
import DeskShell.Proofs.Tokens

/-!
# Empty slots

A slot is the place for a command behind a bar or for a pipeline behind an operator. Reading drops
the slots that have no command in them, and the bar or the operator before the slot with it. So the
operator that is kept between two pipelines is the last one before the second of them.

* `Command.tokens`: a command as tokens; `Line.readCommand_tokens` reads it back.
* `Line.Piped`, `Line.Linked`: the rest of a pipeline and of a line as tokens, with slots left empty.
* `Line.readPipes_piped`, `Line.readRest_linked`: what is read of them.
* `Line.ofTokens_slots`: a line is read back from its tokens with slots left empty among them.
-/
namespace DeskShell

/-! ## Commands as tokens -/

def RedirectMode.token : RedirectMode → Token
  | overwrite => Token.redirect
  | append => Token.append

def Command.redirectTokens (c : Command) : List Token :=
  match c.redirect with
  | none => []
  | some r => [r.mode.token, Token.word r.file]

def Command.tokens (c : Command) : List Token :=
  (c.name :: c.args).map Token.word ++ c.redirectTokens

namespace Line

/-! ## Reading commands -/

/-- What follows does not belong to the command before it. -/
def Stops (ts : List Token) : Prop :=
  ∀ t ∈ ts.head?, t.kind ≠ .word ∧ t.kind ≠ .redirect ∧ t.kind ≠ .append

theorem takeWords_words (ws : List String) {ts : List Token} (h : ∀ t ∈ ts.head?, t.kind ≠ .word) :
    takeWords (ws.map Token.word ++ ts) = (ws, ts) := by
  induction ws with
  | nil =>
    cases ts with
    | nil => rfl
    | cons t ts => simp [takeWords, h t rfl]
  | cons w ws ih => simp [takeWords, ih, Token.word]

theorem takeTarget_of_stops (mode : RedirectMode) {ts : List Token} (h : Stops ts) :
    takeTarget mode ts = (none, ts) := by
  cases ts with
  | nil => rfl
  | cons t ts => simp [takeTarget, h t rfl]

theorem takeRedirect_of_stops {ts : List Token} (h : Stops ts) : takeRedirect ts = (none, ts) := by
  cases ts with
  | nil => rfl
  | cons t ts => simp [takeRedirect, h t rfl]

theorem readCommand_tokens (c : Command) {ts : List Token} (h : Stops ts) :
    readCommand (c.tokens ++ ts) = (some c, ts) := by
  obtain ⟨name, args, redirect⟩ := c
  unfold readCommand Command.tokens Command.redirectTokens
  cases redirect with
  | none =>
    simp only [List.append_nil]
    rw [takeWords_words _ fun t ht => (h t ht).1]
    simp only [takeRedirect_of_stops h]
  | some r =>
    obtain ⟨mode, file⟩ := r
    rw [List.append_assoc, takeWords_words]
    · cases mode <;> rfl
    · cases mode <;> simp [RedirectMode.token, Token.redirect, Token.append]

/-! ## Slots without commands -/

/-- A slot without a command: nothing in it, or a redirect with or without its file. -/
inductive Idle : List Token → Prop
  | bare : Idle []
  | redirect {t : Token} (ht : t.kind = .redirect ∨ t.kind = .append) : Idle [t]
  | target {t w : Token} (ht : t.kind = .redirect ∨ t.kind = .append) (hw : w.kind = .word) :
      Idle [t, w]

theorem readCommand_idle {slot ts : List Token} (hslot : Idle slot) (h : Stops ts) :
    readCommand (slot ++ ts) = (none, ts) := by
  have hwords : takeWords (slot ++ ts) = ([], slot ++ ts) := by
    refine takeWords_words [] fun t ht => ?_
    cases hslot with
    | bare => exact (h t ht).1
    | @redirect r hr | @target r w hr hw =>
      obtain rfl : r = t := by simpa using ht
      rcases hr with hr | hr <;> simp [hr]
  have hredirect : (takeRedirect (slot ++ ts)).2 = ts := by
    cases hslot with
    | bare => rw [List.nil_append, takeRedirect_of_stops h]
    | redirect ht => rcases ht with ht | ht <;> simp [takeRedirect, ht, takeTarget_of_stops _ h]
    | target ht hw => rcases ht with ht | ht <;> simp [takeRedirect, takeTarget, ht, hw]
  unfold readCommand
  rw [hwords]
  exact congrArg _ hredirect

/-! ## Pipelines -/

/-- What follows does not belong to the pipeline before it. -/
def Ends (ts : List Token) : Prop := Stops ts ∧ ∀ t ∈ ts.head?, t.kind ≠ .pipe

/-- The commands behind the first of a pipeline, each behind one bar or more, and the bars behind the
last of them. -/
inductive Piped : List Command → List Token → Prop
  | nil : Piped [] []
  | bar {cs : List Command} {t : Token} {ts : List Token} (ht : t.kind = .pipe)
      (rest : Piped cs ts) : Piped cs (t :: ts)
  | cons {c : Command} {cs : List Command} {t : Token} {ts : List Token} (ht : t.kind = .pipe)
      (rest : Piped cs ts) : Piped (c :: cs) (t :: (c.tokens ++ ts))

variable {c : Command} {cs : List Command} {ps ts tail : List Token}

theorem stops_piped (hp : Piped cs ps) (h : Ends ts) : Stops (ps ++ ts) := by
  cases hp with
  | nil => exact h.1
  | bar ht | cons ht => simp [Stops, ht]

theorem readPipes_piped (hp : Piped cs ps) (h : Ends ts) : readPipes (ps ++ ts) = (cs, ts) := by
  induction hp with
  | nil =>
    unfold readPipes
    cases ts with
    | nil => rfl
    | cons t ts => simp [h.2 t rfl]
  | @bar cs t ps ht rest ih =>
    have hslot : readCommand (ps ++ ts) = (none, ps ++ ts) :=
      readCommand_idle .bare (stops_piped rest h)
    rw [List.cons_append, readPipes]
    simp [ht, hslot, ih]
  | @cons c cs t ps ht rest ih =>
    have hcommand := readCommand_tokens c (stops_piped rest h)
    rw [List.cons_append, List.append_assoc, readPipes]
    simp [ht, hcommand, ih]

theorem readPipeline_piped (hp : Piped cs ps) (h : Ends ts) :
    readPipeline (c.tokens ++ ps ++ ts) = (some (c :: cs), ts) := by
  unfold readPipeline
  rw [List.append_assoc, readCommand_tokens c (stops_piped hp h)]
  simp only [readPipes_piped hp h]

theorem readPipeline_idle {slot : List Token} (hslot : Idle slot) (h : Ends ts) :
    readPipeline (slot ++ ts) = (none, ts) := by
  unfold readPipeline
  rw [readCommand_idle hslot h.1]

/-! ## Lines -/

/-- The pipelines behind the first of a line, each behind the operator with its text, and before that
and at the end operators with nothing to run behind them. -/
inductive Linked : List (String × Pipeline) → List Token → Prop
  | nil : Linked [] []
  | idle {links : List (String × Pipeline)} {t : Token} {slot ts : List Token}
      (ht : t.kind = .and ∨ t.kind = .semicolon) (hslot : Idle slot) (rest : Linked links ts) :
      Linked links (t :: (slot ++ ts))
  | cons {c : Command} {cs : List Command} {links : List (String × Pipeline)} {t : Token}
      {ps ts : List Token} (ht : t.kind = .and ∨ t.kind = .semicolon) (hp : Piped cs ps)
      (rest : Linked links ts) : Linked ((t.text, c :: cs) :: links) (t :: (c.tokens ++ ps ++ ts))

/-- The tokens of a line that has a pipeline, with slots left empty behind the first command. -/
inductive Padded : Line → List Token → Prop
  | chain {c : Command} {cs : List Command} {links : List (String × Pipeline)} {ps ts : List Token}
      (hp : Piped cs ps) (hl : Linked links ts) :
      Padded (chain (c :: cs) links) (c.tokens ++ ps ++ ts)

variable {links : List (String × Pipeline)}

theorem ends_linked (hl : Linked links ts) (htail : ∀ t ∈ tail.head?, t.kind = .eof) :
    Ends (ts ++ tail) := by
  cases hl with
  | nil => exact ⟨fun t ht => by simp [htail t ht], fun t ht => by simp [htail t ht]⟩
  | idle ht | cons ht => rcases ht with ht | ht <;> simp [Ends, Stops, ht]

theorem readRest_linked (hl : Linked links ts) (htail : ∀ t ∈ tail.head?, t.kind = .eof) :
    readRest (ts ++ tail) = (links, tail) := by
  induction hl with
  | nil =>
    unfold readRest
    cases tail with
    | nil => rfl
    | cons t tail => simp [htail t rfl]
  | @idle links t slot ts ht hslot rest ih =>
    have hnone := readPipeline_idle hslot (ends_linked rest htail)
    rw [List.cons_append, List.append_assoc, readRest]
    simp [ht, hnone, ih]
  | @cons c cs links t ps ts ht hp rest ih =>
    have hpipeline := readPipeline_piped (c := c) hp (ends_linked rest htail)
    rw [List.cons_append, List.append_assoc (c.tokens ++ ps), readRest]
    simp only [ht, hpipeline, ih]
    rfl

theorem ofTokens_padded {l : Line} (h : l.Padded ts) (htail : ∀ t ∈ tail.head?, t.kind = .eof) :
    ofTokens (ts ++ tail) = l := by
  obtain ⟨hp, hl⟩ := h
  unfold ofTokens
  rw [List.append_assoc, readPipeline_piped hp (ends_linked hl htail)]
  dsimp only
  rw [readRest_linked hl htail]

/-- The tokens of a line are read as that line, whatever slots are left empty behind its first
command, up to the mark for the end or without one. -/
theorem ofTokens_slots {l : Line} (h : l.Padded ts) :
    ofTokens ts = l ∧ ∀ rest, ofTokens (ts ++ Token.eof :: rest) = l := by
  refine ⟨?_, fun rest => ofTokens_padded h (by simp [Token.eof])⟩
  have hread : ofTokens (ts ++ []) = l := ofTokens_padded h (by simp)
  rwa [List.append_nil] at hread

/-- Two bars in a row, one at the end of a pipeline, and operators with nothing but redirects behind
them before the semicolon that counts and at the end of the line. -/
theorem ofTokens_slots_semicolon :
    let l := chain [⟨"cat", ["a"], none⟩, ⟨"sort", [], some ⟨.overwrite, "b"⟩⟩]
      [(";", [⟨"ls", [], none⟩])]
    ∃ ts, l.Padded ts ∧ Token.tokenize "cat a | | sort > b | ; >> && > c ; ls ; ; >" =
      ts ++ [Token.eof] ∧ ofTokens (ts ++ [Token.eof]) = l := by
  have hpiped : Piped [⟨"sort", [], some ⟨.overwrite, "b"⟩⟩] _ :=
    .bar (t := Token.pipe) rfl (.cons (t := Token.pipe) rfl (.bar (t := Token.pipe) rfl .nil))
  have hlast : Linked [] _ :=
    .idle (t := Token.semicolon) (.inr rfl) .bare
      (.idle (t := Token.semicolon) (.inr rfl) (.redirect (t := Token.redirect) (.inl rfl)) .nil)
  have hlinked : Linked [(";", [⟨"ls", [], none⟩])] _ :=
    .idle (t := Token.semicolon) (.inr rfl) (.redirect (t := Token.append) (.inr rfl))
      (.idle (t := Token.and) (.inl rfl)
        (.target (t := Token.redirect) (w := Token.word "c") (.inl rfl) rfl)
        (.cons (t := Token.semicolon) (.inr rfl) .nil hlast))
  have hpadded := Padded.chain (c := ⟨"cat", ["a"], none⟩) hpiped hlinked
  exact ⟨_, hpadded, by decide +kernel, (ofTokens_slots hpadded).2 []⟩

end Line
end DeskShell

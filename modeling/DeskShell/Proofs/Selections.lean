import DeskShell.Command.Line

/-!
# What a line takes from its tokens

Reading never fails, whatever the tokens are, so a line says little about tokens that fit nowhere.
What holds of all of them: its words and its operators are some of the words and operators among the
tokens, in their order, and nothing behind the first mark for the end matters.

* `Command.words`, `Line.words`: names, arguments and targets in reading order.
* `Line.Takes`: what a reader takes of the tokens that it has passed; one lemma for each reader.
* `Line.ofTokens_append_eof`: the mark for the end, and what follows it, makes no difference.
* `Line.ofTokens_selects`: what every line is, put together.
-/
namespace DeskShell

/-! ## Words and operators -/

namespace Token

def isWord (t : Token) : Bool := t.kind == .word

/-- A token that stands between two pipelines. -/
def isLink (t : Token) : Bool := t.kind == .and || t.kind == .semicolon

/-- The tokens before the first mark for the end. -/
def beforeEnd (ts : List Token) : List Token := ts.takeWhile (·.kind != .eof)

/-- The texts of the tokens of one sort. -/
def textsOf (sort : Token → Bool) (ts : List Token) : List String := (ts.filter sort).map text

end Token

/-- The name, the arguments and the target of the redirect. -/
def Command.words (c : Command) : List String :=
  c.name :: c.args ++ (c.redirect.map (·.file)).toList

def Pipeline.words (p : Pipeline) : List String := p.flatMap Command.words

namespace Line

/-- All names, arguments and targets of a line in reading order. -/
def words (l : Line) : List String := l.pipelines.flatMap Pipeline.words

/-! ## Readers -/

/-- From `ts` to `rest` a reader has taken some words and some operators, in order, and has passed
over all other tokens. -/
inductive Takes : List String → List String → List Token → List Token → Prop
  | nothing (ts : List Token) : Takes [] [] ts ts
  | word {ws os : List String} {t : Token} {ts rest : List Token} (ht : t.kind = .word)
      (h : Takes ws os ts rest) : Takes (t.text :: ws) os (t :: ts) rest
  | link {ws os : List String} {t : Token} {ts rest : List Token}
      (ht : t.kind = .and ∨ t.kind = .semicolon) (h : Takes ws os ts rest) :
      Takes ws (t.text :: os) (t :: ts) rest
  | skip {ws os : List String} (t : Token) {ts rest : List Token} (h : Takes ws os ts rest) :
      Takes ws os (t :: ts) rest

namespace Takes

variable {ws ws' os os' : List String} {ts mid rest : List Token}

theorem trans (h : Takes ws os ts mid) (h' : Takes ws' os' mid rest) :
    Takes (ws ++ ws') (os ++ os') ts rest := by
  induction h with
  | nothing ts => exact h'
  | word ht _ ih => exact .word ht (ih h')
  | link ht _ ih => exact .link ht (ih h')
  | skip t _ ih => exact .skip t (ih h')

/-- What has been taken may be dropped again. -/
theorem drop (h : Takes ws os ts rest) : Takes [] [] ts rest := by
  induction h with
  | nothing ts => exact .nothing ts
  | word _ _ ih | link _ _ ih | skip _ _ ih => exact .skip _ ih

theorem sublist_words (h : Takes ws os ts rest) : ws.Sublist (Token.textsOf Token.isWord ts) := by
  unfold Token.textsOf
  induction h with
  | nothing ts => exact List.nil_sublist _
  | word ht _ ih =>
    rw [List.filter_cons_of_pos (by simp [Token.isWord, ht])]
    exact ih.cons_cons _
  | link _ _ ih | skip _ _ ih => exact ih.trans ((List.sublist_cons_self _ _).filter _ |>.map _)

theorem sublist_links (h : Takes ws os ts rest) : os.Sublist (Token.textsOf Token.isLink ts) := by
  unfold Token.textsOf
  induction h with
  | nothing ts => exact List.nil_sublist _
  | link ht _ ih =>
    rw [List.filter_cons_of_pos (by simpa [Token.isLink] using ht)]
    exact ih.cons_cons _
  | word _ _ ih | skip _ _ ih => exact ih.trans ((List.sublist_cons_self _ _).filter _ |>.map _)

end Takes

theorem takes_takeWords (ts : List Token) : Takes (takeWords ts).1 [] ts (takeWords ts).2 := by
  fun_induction takeWords ts with
  | case1 => exact .nothing []
  | case2 t rest hword ws tail hrest ih =>
    rw [hrest] at ih
    exact .word hword ih
  | case3 t rest _ => exact .nothing _

theorem takes_takeTarget (mode : RedirectMode) (ts : List Token) :
    Takes ((takeTarget mode ts).1.map (·.file)).toList [] ts (takeTarget mode ts).2 := by
  unfold takeTarget
  split
  · exact .nothing []
  · split
    · next hword => exact .word hword (.nothing _)
    · exact .nothing _

theorem takes_takeRedirect (ts : List Token) :
    Takes ((takeRedirect ts).1.map (·.file)).toList [] ts (takeRedirect ts).2 := by
  unfold takeRedirect
  split
  · exact .nothing []
  · split
    · exact .skip _ (takes_takeTarget _ _)
    · split
      · exact .skip _ (takes_takeTarget _ _)
      · exact .nothing _

theorem takes_readCommand (ts : List Token) :
    Takes ((readCommand ts).1.toList.flatMap Command.words) [] ts (readCommand ts).2 := by
  have h := (takes_takeWords ts).trans (takes_takeRedirect (takeWords ts).2)
  unfold readCommand
  cases hwords : (takeWords ts).1 with
  | nil => simpa [hwords] using h.drop
  | cons name args => simpa [hwords, Command.words] using h

theorem takes_readPipes (ts : List Token) :
    Takes ((readPipes ts).1.flatMap Command.words) [] ts (readPipes ts).2 := by
  fun_induction readPipes ts with
  | case1 => exact .nothing []
  | case2 t rest _ _ commands tail hrest ih =>
    rw [hrest] at ih
    rw [List.flatMap_append]
    exact .skip t ((takes_readCommand rest).trans ih)
  | case3 t rest _ => exact .nothing _

theorem takes_readPipeline (ts : List Token) :
    Takes ((readPipeline ts).1.toList.flatMap Pipeline.words) [] ts (readPipeline ts).2 := by
  have h := takes_readCommand ts
  unfold readPipeline
  split
  · next rest hnone =>
    rw [hnone] at h
    exact h
  · next first rest hfirst =>
    rw [hfirst] at h
    simpa [Pipeline.words] using h.trans (takes_readPipes rest)

/-- An operator is taken together with the pipeline behind it. -/
theorem takes_readRest (ts : List Token) :
    Takes ((readRest ts).1.flatMap fun e => e.2.words) ((readRest ts).1.map (·.1)) ts
      (readRest ts).2 := by
  fun_induction readRest ts with
  | case1 => exact .nothing []
  | case2 t rest hlink _ links tail hrest ih =>
    rw [hrest] at ih
    have h := (takes_readPipeline rest).trans ih
    cases hp : (readPipeline rest).1 with
    | none => simpa [hp] using h.skip t
    | some p => simpa [hp] using h.link hlink
  | case3 t rest _ => exact .nothing _

theorem takes_ofTokens (ts : List Token) :
    ∃ rest, Takes (ofTokens ts).words (ofTokens ts).operators ts rest := by
  have h := takes_readPipeline ts
  unfold ofTokens
  split
  · next hnone =>
    rw [hnone] at h
    exact ⟨_, h⟩
  · next first rest hfirst =>
    rw [hfirst] at h
    refine ⟨(readRest rest).2, ?_⟩
    simpa [words, pipelines, operators, List.flatMap_map] using h.trans (takes_readRest rest)

/-! ## The mark for the end -/

section

variable {e : Token} (he : e.kind = .eof) (ts more : List Token)

include he

theorem takeWords_append_eof : takeWords (ts ++ e :: more) =
    ((takeWords ts).1, (takeWords ts).2 ++ e :: more) := by
  fun_induction takeWords ts with
  | case1 => simp [takeWords, he]
  | case2 t rest hword ws tail hrest ih => simp [takeWords, hword, ih, hrest]
  | case3 t rest hword => simp [takeWords, hword]

theorem takeTarget_append_eof (mode : RedirectMode) : takeTarget mode (ts ++ e :: more) =
    ((takeTarget mode ts).1, (takeTarget mode ts).2 ++ e :: more) := by
  cases ts with
  | nil => simp [takeTarget, he]
  | cons t ts => by_cases ht : t.kind = .word <;> simp [takeTarget, ht]

theorem takeRedirect_append_eof : takeRedirect (ts ++ e :: more) =
    ((takeRedirect ts).1, (takeRedirect ts).2 ++ e :: more) := by
  cases ts with
  | nil => simp [takeRedirect, he]
  | cons t ts =>
    rw [List.cons_append, takeRedirect, takeRedirect]
    split
    · exact takeTarget_append_eof he ts more _
    · split
      · exact takeTarget_append_eof he ts more _
      · rfl

theorem readCommand_append_eof : readCommand (ts ++ e :: more) =
    ((readCommand ts).1, (readCommand ts).2 ++ e :: more) := by
  unfold readCommand
  rw [takeWords_append_eof he]
  dsimp only
  rw [takeRedirect_append_eof he]
  cases (takeWords ts).1 <;> rfl

theorem readPipes_append_eof : readPipes (ts ++ e :: more) =
    ((readPipes ts).1, (readPipes ts).2 ++ e :: more) := by
  fun_induction readPipes ts with
  | case1 => simp [readPipes, he]
  | case2 t rest hpipe _ commands tail hrest ih =>
    rw [List.cons_append, readPipes]
    simp [hpipe, readCommand_append_eof he, ih, hrest]
  | case3 t rest hpipe => simp [readPipes, hpipe]

theorem readPipeline_append_eof : readPipeline (ts ++ e :: more) =
    ((readPipeline ts).1, (readPipeline ts).2 ++ e :: more) := by
  unfold readPipeline
  rw [readCommand_append_eof he]
  cases hcommand : readCommand ts with
  | mk first rest =>
    cases first with
    | none => rfl
    | some c => simp [readPipes_append_eof he]

theorem readRest_append_eof : readRest (ts ++ e :: more) =
    ((readRest ts).1, (readRest ts).2 ++ e :: more) := by
  fun_induction readRest ts with
  | case1 => simp [readRest, he]
  | case2 t rest hlink _ links tail hrest ih =>
    rw [List.cons_append, readRest]
    simp [hlink, readPipeline_append_eof he, ih, hrest]
  | case3 t rest hlink => simp [readRest, hlink]

/-- Nothing behind a mark for the end matters, nor does the mark. -/
theorem ofTokens_append_eof : ofTokens (ts ++ e :: more) = ofTokens ts := by
  unfold ofTokens
  rw [readPipeline_append_eof he]
  cases readPipeline ts with
  | mk first rest =>
    cases first with
    | none => rfl
    | some p => simp [readRest_append_eof he]

end

theorem ofTokens_beforeEnd (ts : List Token) : ofTokens (Token.beforeEnd ts) = ofTokens ts := by
  have hts := List.takeWhile_append_dropWhile (p := fun t : Token => t.kind != .eof) (l := ts)
  have hhead := List.head?_dropWhile_not (fun t : Token => t.kind != .eof) ts
  unfold Token.beforeEnd
  cases hrest : ts.dropWhile (fun t => t.kind != .eof) with
  | nil =>
    rw [hrest, List.append_nil] at hts
    rw [hts]
  | cons e more =>
    rw [hrest] at hts hhead
    have he : e.kind = .eof := by simpa using hhead
    have hcut := ofTokens_append_eof he (ts.takeWhile fun t => t.kind != .eof) more
    rw [hts] at hcut
    exact hcut.symm

/-! ## What every line is -/

theorem takeWords_eq_nil_iff (ts : List Token) :
    (takeWords ts).1 = [] ↔ ∀ t ∈ ts.head?, t.kind ≠ .word := by
  cases ts with
  | nil => simp [takeWords]
  | cons t ts => by_cases ht : t.kind = .word <;> simp [takeWords, ht]

theorem readCommand_eq_none_iff (ts : List Token) :
    (readCommand ts).1 = none ↔ ∀ t ∈ ts.head?, t.kind ≠ .word := by
  rw [← takeWords_eq_nil_iff]
  unfold readCommand
  cases hwords : (takeWords ts).1 <;> simp [hwords]

theorem readPipeline_eq_none_iff (ts : List Token) :
    (readPipeline ts).1 = none ↔ ∀ t ∈ ts.head?, t.kind ≠ .word := by
  rw [← readCommand_eq_none_iff]
  unfold readPipeline
  split <;> next h => simp [h]

theorem ofTokens_eq_empty_iff (ts : List Token) :
    ofTokens ts = empty ↔ ∀ t ∈ ts.head?, t.kind ≠ .word := by
  rw [← readPipeline_eq_none_iff]
  unfold ofTokens
  split <;> next h => simp [h]

theorem ne_nil_of_readPipeline {ts : List Token} {p : Pipeline} (h : (readPipeline ts).1 = some p) :
    p ≠ [] := by
  unfold readPipeline at h
  split at h
  · cases h
  · cases h
    exact List.cons_ne_nil _ _

theorem ne_nil_of_mem_readRest (ts : List Token) : ∀ e ∈ (readRest ts).1, e.2 ≠ [] := by
  fun_induction readRest ts with
  | case1 => simp
  | case2 t rest _ _ links tail hrest ih =>
    rw [hrest] at ih
    intro e he
    rcases List.mem_append.mp he with he | he
    · obtain ⟨p, hp, rfl⟩ : ∃ p, (readPipeline rest).1 = some p ∧ (t.text, p) = e := by
        simpa using he
      exact ne_nil_of_readPipeline hp
    · exact ih e he
  | case3 => simp

theorem ne_nil_of_mem_pipelines (ts : List Token) : ∀ p ∈ (ofTokens ts).pipelines, p ≠ [] := by
  unfold ofTokens
  split
  · simp [pipelines]
  · next first rest hfirst =>
    intro p hp
    rcases List.mem_cons.mp hp with rfl | hp
    · exact ne_nil_of_readPipeline (congrArg Prod.fst hfirst)
    · obtain ⟨e, he, rfl⟩ := List.mem_map.mp hp
      exact ne_nil_of_mem_readRest rest e he

/-- Whatever the tokens, the line has one operator fewer than pipelines, none of its pipelines is
empty, and it is empty itself only where the first token is no word. Its operators and its words are
some of those before the first mark for the end, in their order, and what comes behind such a mark
makes no difference. -/
theorem ofTokens_selects (ts : List Token) :
    let l := ofTokens ts
    l.operators.length = l.pipelines.length - 1 ∧ (∀ p ∈ l.pipelines, p ≠ []) ∧
      (l = empty ↔ ∀ t ∈ ts.head?, t.kind ≠ .word) ∧
      l.operators.Sublist (Token.textsOf Token.isLink (Token.beforeEnd ts)) ∧
      l.words.Sublist (Token.textsOf Token.isWord (Token.beforeEnd ts)) ∧
      ∀ text rest, ofTokens (ts ++ ⟨.eof, text⟩ :: rest) = l := by
  obtain ⟨rest, htakes⟩ := takes_ofTokens (Token.beforeEnd ts)
  rw [ofTokens_beforeEnd] at htakes
  exact ⟨length_operators _, ne_nil_of_mem_pipelines ts, ofTokens_eq_empty_iff ts,
    htakes.sublist_links, htakes.sublist_words, fun _ more => ofTokens_append_eof rfl ts more⟩

/-- Behind the target of a redirect with no command before it a word fits nowhere: the line ends
there, and the target is not one of its words. -/
example : ofTokens [.word "ls", ⟨.pipe, "|"⟩, ⟨.append, ">>"⟩, .word "a", .word "b",
    ⟨.semicolon, ";"⟩, .word "c"] = chain [⟨"ls", [], none⟩] [] := by
  decide +kernel

end Line
end DeskShell

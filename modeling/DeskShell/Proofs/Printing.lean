import DeskShell.Proofs.EmptySlots

/-!
# Lines in writing

Every line of commands can be written down: its words in quotes, operators between them, blanks
between all of these. Reading the text gives the line back, so that a line is determined by any text
that it is written as.

* `Line.tokens`, `Line.write`: a line as tokens and as text.
* `Line.padded_tokens`: the tokens of a line, with no slot left empty.
* `Line.ofText_write`: reading undoes writing.
-/
namespace DeskShell

/-! ## Writing -/

/-- Commands that each stand behind a bar. -/
def pipedTokens (cs : List Command) : List Token := cs.flatMap fun c => Token.pipe :: c.tokens

def Pipeline.tokens : Pipeline → List Token
  | [] => []
  | c :: rest => c.tokens ++ pipedTokens rest

/-- The operator before a pipeline. -/
def operatorToken (operator : String) : Token :=
  if operator = "&&" then Token.and else Token.semicolon

theorem kind_operatorToken (operator : String) :
    (operatorToken operator).kind = .and ∨ (operatorToken operator).kind = .semicolon := by
  unfold operatorToken
  split
  · exact .inl rfl
  · exact .inr rfl

theorem text_operatorToken {operator : String} (h : operator = "&&" ∨ operator = ";") :
    (operatorToken operator).text = operator := by
  rcases h with rfl | rfl <;> rfl

/-- Pipelines that each stand behind an operator. -/
def linkedTokens (links : List (String × Pipeline)) : List Token :=
  links.flatMap fun e => operatorToken e.1 :: Pipeline.tokens e.2

namespace Line

def tokens : Line → List Token
  | empty => []
  | chain first rest => Pipeline.tokens first ++ linkedTokens rest

/-- A line as text, in a layout. -/
def write (l : Line) (L : Layout) : String := String.ofList (Token.writeAll L 0 l.tokens)

/-! ## Reading tokens -/

theorem piped_tokens : ∀ cs : List Command, Piped cs (pipedTokens cs)
  | [] => .nil
  | _ :: cs => .cons rfl (piped_tokens cs)

theorem linked_tokens : ∀ {links : List (String × Pipeline)}, (∀ e ∈ links, e.2 ≠ []) →
    (∀ e ∈ links, e.1 = "&&" ∨ e.1 = ";") → Linked links (linkedTokens links)
  | [], _, _ => .nil
  | (operator, p) :: links, hp, ho => by
    have hrest := linked_tokens (fun e he => hp e (List.mem_cons_of_mem _ he))
      fun e he => ho e (List.mem_cons_of_mem _ he)
    have htext : (operatorToken operator).text = operator :=
      text_operatorToken (ho (operator, p) List.mem_cons_self)
    cases p with
    | nil => exact absurd rfl (hp (operator, []) List.mem_cons_self)
    | cons c cs =>
      have hlinked := Linked.cons (c := c) (kind_operatorToken operator) (piped_tokens cs) hrest
      rwa [htext] at hlinked

theorem padded_tokens {l : Line} (hne : l ≠ empty) (hp : ∀ p ∈ l.pipelines, p ≠ [])
    (ho : ∀ o ∈ l.operators, o = "&&" ∨ o = ";") : l.Padded l.tokens := by
  cases l with
  | empty => exact absurd rfl hne
  | chain first rest =>
    have hrest : Linked rest (linkedTokens rest) :=
      linked_tokens (fun e he => hp e.2 (List.mem_cons_of_mem _ (List.mem_map_of_mem he)))
        fun e he => ho e.1 (List.mem_map_of_mem he)
    cases first with
    | nil => exact absurd rfl (hp [] List.mem_cons_self)
    | cons c cs => exact .chain (piped_tokens cs) hrest

theorem ofTokens_tokens {l : Line} (hp : ∀ p ∈ l.pipelines, p ≠ [])
    (ho : ∀ o ∈ l.operators, o = "&&" ∨ o = ";") : ofTokens (l.tokens ++ [Token.eof]) = l := by
  by_cases hne : l = empty
  · subst hne
    rfl
  · exact ofTokens_padded (padded_tokens hne hp ho) (by simp [Token.eof])

/-! ## Writing and reading -/

theorem proper_command (c : Command) : ∀ t ∈ c.tokens, t.Proper := by
  intro t ht
  rcases List.mem_append.mp ht with ht | ht
  · obtain ⟨w, -, rfl⟩ := List.mem_map.mp ht
    exact .inl rfl
  · unfold Command.redirectTokens at ht
    split at ht
    · cases ht
    · next r _ =>
      rcases List.mem_cons.mp ht with rfl | ht
      · refine .inr ?_
        cases r.mode <;> decide
      · obtain rfl := List.mem_singleton.mp ht
        exact .inl rfl

theorem proper_piped (cs : List Command) : ∀ t ∈ pipedTokens cs, t.Proper := by
  intro t ht
  obtain ⟨c, -, ht⟩ := List.mem_flatMap.mp ht
  rcases List.mem_cons.mp ht with rfl | ht
  · exact .inr (by decide)
  · exact proper_command c t ht

theorem proper_pipeline (p : Pipeline) : ∀ t ∈ Pipeline.tokens p, t.Proper := by
  intro t ht
  cases p with
  | nil => cases ht
  | cons c cs =>
    rcases List.mem_append.mp ht with ht | ht
    · exact proper_command c t ht
    · exact proper_piped cs t ht

theorem proper_tokens (l : Line) : ∀ t ∈ l.tokens, t.Proper := by
  intro t ht
  cases l with
  | empty => cases ht
  | chain first rest =>
    rcases List.mem_append.mp ht with ht | ht
    · exact proper_pipeline first t ht
    · obtain ⟨e, -, ht⟩ := List.mem_flatMap.mp ht
      rcases List.mem_cons.mp ht with rfl | ht
      · refine .inr ?_
        unfold operatorToken
        split <;> decide
      · exact proper_pipeline e.2 t ht

/-- A line is read back from any text that it is written as. -/
theorem ofText_write (l : Line) (L : Layout) (hp : ∀ p ∈ l.pipelines, p ≠ [])
    (ho : ∀ o ∈ l.operators, o = "&&" ∨ o = ";") : ofText (l.write L) = l := by
  unfold ofText Token.tokenize write
  rw [String.toList_ofList, Token.tokensOf_writeAll L l.tokens 0 l.proper_tokens]
  exact ofTokens_tokens hp ho

/-- The case of a line whose words hold quotes, backslashes, operators or nothing. -/
theorem ofText_write_quotes : ofText r#""say" "a\"b" "" | "c && d" >> "x\\y" && "ls""# =
    .chain [⟨"say", ["a\"b", ""], none⟩, ⟨"c && d", [], some ⟨.append, "x\\y"⟩⟩]
      [("&&", [⟨"ls", [], none⟩])] :=
  ofText_write
    (.chain [⟨"say", ["a\"b", ""], none⟩, ⟨"c && d", [], some ⟨.append, "x\\y"⟩⟩]
      [("&&", [⟨"ls", [], none⟩])]) .plain (by decide) (by decide)

end Line
end DeskShell

import DeskShell.Text.Blank

/-!
# Tokens

A command line is cut into words and operators. A word is quoted or bare; a backslash takes the next
character as it is, in both; an unfinished quote runs to the end of the line; an ampersand that
stands alone is skipped.

* `readQuoted`, `readBare`: one word and what follows it.
* `tokensOf`: the tokens of a text; `tokenize` ends them with `eof`.
-/
namespace DeskShell

inductive TokenKind
  | word
  | pipe
  | redirect
  | append
  | and
  | semicolon
  | eof
  deriving Repr, DecidableEq

namespace TokenKind

/-- The written form of a token kind. -/
def label : TokenKind → String
  | word => "WORD"
  | pipe => "PIPE"
  | redirect => "REDIRECT"
  | append => "APPEND"
  | and => "AND"
  | semicolon => "SEMICOLON"
  | eof => "EOF"

def ofLabel? : String → Option TokenKind
  | "WORD" => some word
  | "PIPE" => some pipe
  | "REDIRECT" => some redirect
  | "APPEND" => some append
  | "AND" => some and
  | "SEMICOLON" => some semicolon
  | "EOF" => some eof
  | _ => none

theorem ofLabel?_label (k : TokenKind) : ofLabel? k.label = some k := by cases k <;> rfl

end TokenKind

structure Token where
  kind : TokenKind
  text : String
  deriving Repr, DecidableEq

namespace Token

def word (text : String) : Token := ⟨.word, text⟩

def eof : Token := ⟨.eof, ""⟩

/-! ## Words -/

/-- The text up to the closing quote, and what follows the quote. -/
def readQuoted (quote : Char) : List Char → List Char × List Char
  | [] => ([], [])
  | '\\' :: c :: rest => let (w, tail) := readQuoted quote rest; (c :: w, tail)
  | c :: rest =>
    if c = quote then ([], rest)
    else let (w, tail) := readQuoted quote rest; (c :: w, tail)

/-- Characters that end a bare word besides blanks. -/
def breaksWord (c : Char) : Bool := c == '|' || c == '>' || c == '<' || c == ';' || c == '&'

/-- The text up to a blank or an operator, and the rest from there. -/
def readBare : List Char → List Char × List Char
  | [] => ([], [])
  | '\\' :: c :: rest => let (w, tail) := readBare rest; (c :: w, tail)
  | c :: rest =>
    if Text.isBlank c || breaksWord c then ([], c :: rest)
    else let (w, tail) := readBare rest; (c :: w, tail)

theorem length_readQuoted (quote : Char) (s : List Char) :
    (readQuoted quote s).2.length ≤ s.length := by
  fun_induction readQuoted quote s <;> simp_all <;> omega

theorem length_readBare (s : List Char) : (readBare s).2.length ≤ s.length := by
  fun_induction readBare s <;> simp_all <;> omega

/-- A bare word that starts with an ordinary character takes that character. -/
theorem length_readBare_cons {c : Char} (rest : List Char) (hb : Text.isBlank c = false)
    (hw : breaksWord c = false) : (readBare (c :: rest)).2.length ≤ rest.length := by
  unfold readBare
  split
  · simp_all
  · next d tail h =>
    obtain ⟨rfl, rfl⟩ := List.cons.inj h
    have := length_readBare tail
    simp only [List.length_cons]
    omega
  · next h =>
    obtain ⟨rfl, rfl⟩ := List.cons.inj h
    simp [hb, hw, length_readBare]

/-! ## Lines -/

/-- The operator at the start of a text, and what follows it. -/
def readOperator? : List Char → Option (Token × List Char)
  | '>' :: '>' :: rest => some (⟨.append, ">>"⟩, rest)
  | '&' :: '&' :: rest => some (⟨.and, "&&"⟩, rest)
  | '|' :: rest => some (⟨.pipe, "|"⟩, rest)
  | '>' :: rest => some (⟨.redirect, ">"⟩, rest)
  | ';' :: rest => some (⟨.semicolon, ";"⟩, rest)
  | _ => none

theorem length_readOperator {s rest : List Char} {t : Token}
    (h : readOperator? s = some (t, rest)) : rest.length < s.length := by
  unfold readOperator? at h
  split at h <;> cases h <;> simp only [List.length_cons] <;> omega

/-- The tokens of a text, without the final `eof`. A character that starts neither an operator nor
a word is skipped: only the lone ampersand and `<` are of that kind. -/
def tokensOf (s : List Char) : List Token :=
  match s with
  | [] => []
  | c :: rest =>
    if hb : Text.isBlank c then tokensOf rest
    else
      match h : readOperator? (c :: rest) with
      | some (t, tail) =>
        have := length_readOperator h
        t :: tokensOf tail
      | none =>
        if c = '\'' ∨ c = '"' then
          have := length_readQuoted c rest
          word (String.ofList (readQuoted c rest).1) :: tokensOf (readQuoted c rest).2
        else if hw : breaksWord c then tokensOf rest
        else
          have := length_readBare_cons rest (by simpa using hb) (by simpa using hw)
          word (String.ofList (readBare (c :: rest)).1) :: tokensOf (readBare (c :: rest)).2
termination_by s.length
decreasing_by all_goals simp only [List.length_cons] at *; omega

def tokenize (line : String) : List Token := tokensOf line.toList ++ [eof]

end Token
end DeskShell

import DeskShell.Command.Token

/-!
# Command lines

A line is a chain of pipelines with operators between them, a pipeline is a list of commands, and a
command is a name with arguments and perhaps a redirect:

    line     := pipeline ((AND | SEMICOLON) pipeline)*
    pipeline := command (PIPE command)*
    command  := WORD+ ((REDIRECT | APPEND) WORD?)?

Reading never fails. It stops at the first token that fits nowhere, and a slot without a command in
it is dropped together with the operator before it.

* `Line`: a line; its operators are one fewer than its pipelines by construction.
* `readCommand`, `readPipeline`, `readLine`: the three levels, each with the tokens it leaves.
* `Line.ofTokens`, `Line.ofText`: a line from its tokens or its text.
-/
namespace DeskShell

inductive RedirectMode
  | overwrite
  | append
  deriving Repr, DecidableEq

structure Redirect where
  mode : RedirectMode
  file : String
  deriving Repr, DecidableEq

structure Command where
  name : String
  args : List String
  redirect : Option Redirect
  deriving Repr, DecidableEq

abbrev Pipeline := List Command

/-- Nothing, or a first pipeline and further ones, each after the text of an operator. -/
inductive Line
  | empty
  | chain (first : Pipeline) (rest : List (String × Pipeline))
  deriving Repr, DecidableEq

namespace Line

def pipelines : Line → List Pipeline
  | empty => []
  | chain first rest => first :: rest.map (·.2)

def operators : Line → List String
  | empty => []
  | chain _ rest => rest.map (·.1)

theorem length_operators (l : Line) : l.operators.length = l.pipelines.length - 1 := by
  cases l <;> simp [operators, pipelines]

/-! ## Commands -/

/-- The words at the start of a token list, and the rest. -/
def takeWords : List Token → List String × List Token
  | [] => ([], [])
  | t :: rest =>
    if t.kind = .word then let (ws, tail) := takeWords rest; (t.text :: ws, tail)
    else ([], t :: rest)

/-- The file after a redirecting operator, when a word follows. -/
def takeTarget (mode : RedirectMode) : List Token → Option Redirect × List Token
  | [] => (none, [])
  | t :: rest => if t.kind = .word then (some ⟨mode, t.text⟩, rest) else (none, t :: rest)

def takeRedirect : List Token → Option Redirect × List Token
  | [] => (none, [])
  | t :: rest =>
    if t.kind = .redirect then takeTarget .overwrite rest
    else if t.kind = .append then takeTarget .append rest
    else (none, t :: rest)

/-- The command at the start of a token list. Without a word there is none, even when a redirect
was read. -/
def readCommand (ts : List Token) : Option Command × List Token :=
  let (words, afterWords) := takeWords ts
  let (redirect, rest) := takeRedirect afterWords
  match words with
  | [] => (none, rest)
  | name :: args => (some ⟨name, args, redirect⟩, rest)

theorem length_takeWords (ts : List Token) : (takeWords ts).2.length ≤ ts.length := by
  fun_induction takeWords ts <;> simp_all
  omega

theorem length_takeTarget (mode : RedirectMode) (ts : List Token) :
    (takeTarget mode ts).2.length ≤ ts.length := by
  unfold takeTarget
  split
  · simp
  · split <;> simp

theorem length_takeRedirect (ts : List Token) : (takeRedirect ts).2.length ≤ ts.length := by
  unfold takeRedirect
  split
  · simp
  · next t rest =>
    have h₁ := length_takeTarget .overwrite rest
    have h₂ := length_takeTarget .append rest
    split
    · simp only [List.length_cons]; omega
    · split
      · simp only [List.length_cons]; omega
      · simp

theorem readCommand_snd (ts : List Token) :
    (readCommand ts).2 = (takeRedirect (takeWords ts).2).2 := by
  unfold readCommand
  cases h : (takeWords ts).1 <;> simp [h]

theorem length_readCommand (ts : List Token) : (readCommand ts).2.length ≤ ts.length := by
  rw [readCommand_snd]
  exact Nat.le_trans (length_takeRedirect _) (length_takeWords ts)

/-! ## Pipelines -/

/-- The commands after the first of a pipeline. -/
def readPipes (ts : List Token) : List Command × List Token :=
  match ts with
  | [] => ([], [])
  | t :: rest =>
    if t.kind = .pipe then
      have := length_readCommand rest
      let (commands, tail) := readPipes (readCommand rest).2
      ((readCommand rest).1.toList ++ commands, tail)
    else ([], t :: rest)
termination_by ts.length

/-- The pipeline at the start of a token list. Without a first command there is none. -/
def readPipeline (ts : List Token) : Option Pipeline × List Token :=
  match readCommand ts with
  | (none, rest) => (none, rest)
  | (some first, rest) =>
    let (others, tail) := readPipes rest
    (some (first :: others), tail)

theorem length_readPipes (ts : List Token) : (readPipes ts).2.length ≤ ts.length := by
  fun_induction readPipes ts with
  | case1 => simp
  | case2 t rest _ hle commands tail hrun ih =>
    simp_all only [List.length_cons]
    omega
  | case3 => simp

theorem length_readPipeline (ts : List Token) : (readPipeline ts).2.length ≤ ts.length := by
  have h := length_readCommand ts
  unfold readPipeline
  split
  · next rest he => simpa [he] using h
  · next first rest he =>
    have hp := length_readPipes rest
    rw [he] at h
    exact Nat.le_trans hp h

/-! ## Lines -/

/-- The pipelines after the first of a line, each with its operator. -/
def readRest (ts : List Token) : List (String × Pipeline) × List Token :=
  match ts with
  | [] => ([], [])
  | t :: rest =>
    if t.kind = .and ∨ t.kind = .semicolon then
      have := length_readPipeline rest
      let (links, tail) := readRest (readPipeline rest).2
      (((readPipeline rest).1.map (t.text, ·)).toList ++ links, tail)
    else ([], t :: rest)
termination_by ts.length

def ofTokens (ts : List Token) : Line :=
  match readPipeline ts with
  | (none, _) => empty
  | (some first, rest) => chain first (readRest rest).1

def ofText (text : String) : Line := ofTokens (Token.tokenize text)

end Line
end DeskShell

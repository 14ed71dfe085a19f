import DeskShell.Pattern.Matching
import DeskShell.Proofs.Wildcards
import Mathlib.Tactic.FinCases

/-!
# Wildcards as expressions

A pattern with wildcards is written as a regular expression that is anchored at both ends: `.*` for
`*`, `.` for `?`, and every other character for itself, behind a backslash when it would have a
meaning of its own. Read as a regular expression, the text comes to exactly that.

* `Glob.expression`: the text; `Glob.whole`: the expression that is meant.
* `Pattern.nextStep_escape`, `nextStep_char`: what one step of the reader makes of a token.
* `Glob.readSequence_spelled`: what it makes of one character of a pattern, whatever follows.
* `Glob.compile_expression`: the text is read as the expression, without any switches.
-/
namespace DeskShell

namespace Glob

open Pattern (Regex)

/-- The characters that are written with a backslash. -/
def specials : List Char :=
  ['(', ')', '[', ']', '{', '}', '?', '*', '+', '-', '|', '^', '$', '\\', '.', '&', '~', '#',
    ' ', '\t', '\n', '\r', '\x0b', '\x0c']

/-- How one character of a pattern is written. -/
def spelled (p : Char) : List Char :=
  if p = '*' then ['.', '*'] else if p = '?' then ['.'] else if p ∈ specials then ['\\', p] else [p]

/-- The text of the expression for a pattern. -/
def expression (pattern : String) : String :=
  String.ofList ('^' :: (pattern.toList.flatMap spelled ++ ['$']))

/-- What one character of a pattern is meant as. -/
def unit (p : Char) : Regex :=
  if p = '*' then .repeated .greedy 0 none .any else if p = '?' then .any else .code p.toNat

/-- The characters of a pattern one after the other, up to the end of the name. -/
def upToEnd : List Char → Regex
  | [] => .anchor .lineEnd
  | p :: rest => .seq (unit p) (upToEnd rest)

/-- The expression for a pattern. -/
def whole (pattern : List Char) : Regex := .seq (.anchor .lineStart) (upToEnd pattern)

end Glob

/-! ## Steps of the reader -/

namespace Pattern

variable {α β : Type} {x : Read α} {f : α → Read β} {a : α} {r r' : Reader} {t : Token}
  {rest : List Token} {items all : List Item} {c : Char} {position : Nat}

theorem read_bind (h : x r = .ok (a, r')) : (x >>= f) r = f a r' := by
  simp only [bind, StateT.bind, Except.bind, h]

theorem read_get (r : Reader) : (get : Read Reader) r = .ok (r, r) := rfl

theorem peek_eq (r : Reader) : peek r = .ok (r.rest.head?, r) := rfl

theorem checkNext_of_head (h : ∀ u ∈ r.rest.head?, u.chars ≠ ['\\']) :
    checkNext r = .ok ((), r) := by
  unfold checkNext
  rw [read_bind (read_get r)]
  refine congrFun (?_ : _ = (pure () : Read Unit)) r
  split
  · next hrest =>
    rw [hrest] at h
    exact absurd rfl (h _ rfl)
  · rfl

theorem takeToken_of_cons (h : r.rest = t :: rest) (hrest : ∀ u ∈ rest.head?, u.chars ≠ ['\\']) :
    takeToken r = .ok (some t, { r with rest }) := by
  have hset : (set { r with rest } : Read PUnit) r = .ok ((), { r with rest }) := rfl
  unfold takeToken
  rw [read_bind (read_get r), h]
  dsimp only
  rw [read_bind hset, read_bind (checkNext_of_head hrest)]
  rfl

theorem accept_of_head_ne (h : ∀ t ∈ r.rest.head?, t.chars ≠ [c]) :
    accept c r = .ok (false, r) := by
  have hnext : nextIs c r = .ok (false, r) := by
    unfold nextIs
    rw [read_bind (peek_eq r)]
    cases hhead : r.rest.head? with
    | none => rfl
    | some t =>
      rw [Option.any_some, beq_false_of_ne (h t hhead)]
      rfl
  unfold accept
  rw [read_bind hnext]
  rfl

theorem nextStep_nil (items : List Item) (h : r.rest = []) :
    nextStep false items r = .ok (.stop, r) := by
  unfold nextStep
  rw [read_bind (peek_eq r), h]
  rfl

theorem nextStep_escape (items : List Item) (h : r.rest = ⟨position, ['\\', c]⟩ :: rest)
    (hrest : ∀ u ∈ rest.head?, u.chars ≠ ['\\'])
    (hc : itemEscape c = pure ⟨.code c.toNat, .plain⟩) :
    nextStep false items r = .ok (.items (⟨.code c.toNat, .plain⟩ :: items), { r with rest }) := by
  unfold nextStep
  rw [read_bind (peek_eq r), h]
  show (takeToken >>= fun _ => itemEscape c >>= fun i => pure (Advance.items (i :: items))) r = _
  rw [read_bind (takeToken_of_cons h hrest), hc]
  rfl

/-- A character by itself that neither ends a sequence nor opens a group. -/
theorem nextStep_char (items : List Item) (h : r.rest = ⟨position, [c]⟩ :: rest)
    (hrest : ∀ u ∈ rest.head?, u.chars ≠ ['\\']) (hc : c ∉ ['|', ')', '('])
    (hall : charItems c position items { r with rest } = .ok (all, r')) :
    nextStep false items r = .ok (.items all, r') := by
  simp only [List.mem_cons, List.not_mem_nil, or_false, not_or] at hc
  obtain ⟨hbar, hclose, hopen⟩ := hc
  unfold nextStep
  rw [read_bind (peek_eq r), h]
  show (if c = '|' ∨ c = ')' then pure Advance.stop
    else takeToken >>= fun _ => charStep false c position items) r = _
  rw [if_neg (by simp [hbar, hclose]), read_bind (takeToken_of_cons h hrest)]
  unfold charStep
  simp only [Bool.false_and, Bool.false_eq_true, ↓reduceIte, hopen]
  rw [read_bind hall]
  rfl

theorem charItems_code (hc : c ∉ ['[', '.', '^', '$', '?', '*', '+', '{']) :
    charItems c position items r = .ok (⟨.code c.toNat, .plain⟩ :: items, r) := by
  simp only [List.mem_cons, List.not_mem_nil, or_false, not_or] at hc
  obtain ⟨hset, hany, hstart, hend, hmark, hstar, hplus, hbrace⟩ := hc
  unfold charItems
  simp only [hset, hany, hstart, hend, hmark, hstar, hplus, hbrace, ↓reduceIte]
  rfl

/-- A star behind a plain item is greedy if neither of the signs for the other ways follows. -/
theorem charItems_star (h : ∀ t ∈ r.rest.head?, t.chars ≠ ['?'] ∧ t.chars ≠ ['+'])
    (regex : Regex) : charItems '*' position (⟨regex, .plain⟩ :: items) r =
      .ok (⟨.repeated .greedy 0 none regex, .quantified⟩ :: items, r) := by
  have hlazy : accept '?' r = .ok (false, r) := accept_of_head_ne fun t ht => (h t ht).1
  have hfirm : accept '+' r = .ok (false, r) := accept_of_head_ne fun t ht => (h t ht).2
  have hgreed : readGreed r = .ok (.greedy, r) := by
    unfold readGreed
    rw [read_bind hlazy, if_neg Bool.false_ne_true, read_bind hfirm]
    rfl
  show quantify position (0, none) (⟨regex, .plain⟩ :: items) r = _
  unfold quantify
  dsimp only
  rw [read_bind hgreed]
  rfl

/-- A step that takes one token in, and the rest of the sequence. -/
theorem readSequence_step {fuel : Nat} {first : Bool}
    (h : nextStep false items r = .ok (.items all, r')) :
    readSequence (fuel + 1) false first items r = readSequence fuel false first all r' := by
  rw [readSequence, read_bind h]

theorem readSequence_stop {fuel : Nat} {first : Bool}
    (h : nextStep false items r = .ok (.stop, r')) :
    readSequence (fuel + 1) false first items r = .ok (joined items, r') := by
  rw [readSequence, read_bind h]
  rfl

end Pattern

/-! ## Reading a pattern -/

namespace Glob

open Pattern

variable {p : Char} {pattern more : List Char} {position : Nat} {r : Reader}

/-- A token that does not change what stands before it, and is not a backslash alone. -/
def Mild (t : Pattern.Token) : Prop := t.chars ≠ ['\\'] ∧ t.chars ≠ ['?'] ∧ t.chars ≠ ['+']

theorem itemEscape_special (h : p ∈ specials) : itemEscape p = pure ⟨.code p.toNat, .plain⟩ := by
  fin_cases h <;> rfl

/-- A character that is written with a backslash makes one token with it. -/
theorem tokensFrom_escape : tokensFrom position ('\\' :: p :: more) =
    ⟨position, ['\\', p]⟩ :: tokensFrom (position + 2) more := by
  rw [tokensFrom]

theorem tokensFrom_char (h : p ≠ '\\') : tokensFrom position (p :: more) =
    ⟨position, [p]⟩ :: tokensFrom (position + 1) more := by
  rw [tokensFrom]
  rintro c rest rfl
  exact absurd rfl h

theorem mild_char (h : p ∉ ['\\', '?', '+']) : Mild ⟨position, [p]⟩ := by
  simpa [Mild] using h

/-- A token of one character ahead is not a lone backslash if that character is not. -/
theorem ne_of_mem_head_char {others : List Pattern.Token} (h : p ≠ '\\') :
    ∀ t ∈ (⟨position, [p]⟩ :: others : List Pattern.Token).head?, t.chars ≠ ['\\'] := by
  intro t ht
  obtain rfl := Option.some.inj ht
  simpa using h

theorem notMem_of_plain {cs : List Char} (h : p ∉ specials) (hcs : cs ⊆ specials) : p ∉ cs :=
  fun hp => h (hcs hp)

/-- The four ways in which a character of a pattern is written: what it is meant as, and the tokens
that are made of it, whatever follows. -/
theorem spelled_cases (p : Char) :
    (unit p = .repeated .greedy 0 none .any ∧
      ∀ position more, tokensFrom position (spelled p ++ more) =
        ⟨position, ['.']⟩ :: ⟨position + 1, ['*']⟩ :: tokensFrom (position + 2) more) ∨
    (unit p = .any ∧
      ∀ position more, tokensFrom position (spelled p ++ more) =
        ⟨position, ['.']⟩ :: tokensFrom (position + 1) more) ∨
    (p ∈ specials ∧ unit p = .code p.toNat ∧
      ∀ position more, tokensFrom position (spelled p ++ more) =
        ⟨position, ['\\', p]⟩ :: tokensFrom (position + 2) more) ∨
    (p ∉ specials ∧ unit p = .code p.toNat ∧
      ∀ position more, tokensFrom position (spelled p ++ more) =
        ⟨position, [p]⟩ :: tokensFrom (position + 1) more) := by
  unfold spelled unit
  by_cases hstar : p = '*'
  · refine .inl ⟨by simp [hstar], fun position more => ?_⟩
    rw [if_pos hstar, List.cons_append, tokensFrom_char (by decide), List.cons_append,
      tokensFrom_char (by decide)]
    rfl
  · by_cases hmark : p = '?'
    · refine .inr (.inl ⟨by simp [hmark], fun position more => ?_⟩)
      rw [if_neg hstar, if_pos hmark, List.cons_append, tokensFrom_char (by decide)]
      rfl
    · by_cases hspecial : p ∈ specials
      · refine .inr (.inr (.inl ⟨hspecial, by simp [hstar, hmark], fun position more => ?_⟩))
        rw [if_neg hstar, if_neg hmark, if_pos hspecial, List.cons_append, List.cons_append,
          tokensFrom_escape]
        rfl
      · refine .inr (.inr (.inr ⟨hspecial, by simp [hstar, hmark], fun position more => ?_⟩))
        have hback : p ∉ ['\\'] := notMem_of_plain hspecial (by decide)
        rw [if_neg hstar, if_neg hmark, if_neg hspecial, List.cons_append,
          tokensFrom_char (List.ne_of_not_mem_cons hback)]
        rfl

/-- Each character of a pattern makes tokens of its own, and the first of them is mild. -/
theorem tokensFrom_spelled (p : Char) (more : List Char) (position : Nat) :
    ∃ t others position', Mild t ∧
      tokensFrom position (spelled p ++ more) = t :: (others ++ tokensFrom position' more) := by
  rcases spelled_cases p with ⟨-, h⟩ | ⟨-, h⟩ | ⟨-, -, h⟩ | ⟨hplain, -, h⟩
  · exact ⟨_, [⟨position + 1, ['*']⟩], _, mild_char (by decide), h position more⟩
  · exact ⟨_, [], _, mild_char (by decide), h position more⟩
  · exact ⟨_, [], _, by simp [Mild], h position more⟩
  · exact ⟨_, [], _, mild_char (notMem_of_plain hplain (by decide)), h position more⟩

/-- What follows a character of a pattern does not change how it is read. -/
theorem mild_head_tokensFrom (pattern : List Char) (position : Nat) :
    ∀ t ∈ (tokensFrom position (pattern.flatMap spelled ++ ['$'])).head?, Mild t := by
  intro t ht
  cases pattern with
  | nil =>
    obtain rfl := Option.some.inj ht
    exact mild_char (by decide)
  | cons p rest =>
    obtain ⟨first, others, position', hmild, htokens⟩ :=
      tokensFrom_spelled p (rest.flatMap spelled ++ ['$']) position
    rw [List.flatMap_cons, List.append_assoc, htokens] at ht
    obtain rfl := Option.some.inj ht
    exact hmild

/-- There are enough tokens for the number of steps that the reader allows itself. -/
theorem length_le_tokensFrom (pattern : List Char) : ∀ position,
    pattern.length + 1 ≤ (tokensFrom position (pattern.flatMap spelled ++ ['$'])).length := by
  induction pattern with
  | nil => exact fun _ => Nat.le_refl 1
  | cons p pattern ih =>
    intro position
    obtain ⟨first, others, position', -, htokens⟩ :=
      tokensFrom_spelled p (pattern.flatMap spelled ++ ['$']) position
    have hrest := ih position'
    rw [List.flatMap_cons, List.append_assoc, htokens]
    simp only [List.length_cons, List.length_append]
    omega

/-- One character of a pattern takes one or two steps. -/
theorem readSequence_spelled (first : Bool) (items : List Item)
    (hmore : ∀ position, ∀ t ∈ (tokensFrom position more).head?, Mild t)
    (h : r.rest = tokensFrom position (spelled p ++ more)) (fuel : Nat) :
    ∃ fuel' i position', fuel ≤ fuel' ∧ i.regex = unit p ∧
      readSequence (fuel + 2) false first items r =
        readSequence fuel' false first (i :: items)
          { r with rest := tokensFrom position' more } := by
  have hback (position : Nat) : ∀ t ∈ (tokensFrom position more).head?, t.chars ≠ ['\\'] :=
    fun t ht => (hmore position t ht).1
  rcases spelled_cases p with ⟨hunit, hp⟩ | ⟨hunit, hp⟩ | ⟨hspecial, hunit, hp⟩ |
    ⟨hplain, hunit, hp⟩ <;> rw [hp] at h
  · have hany := nextStep_char items h (ne_of_mem_head_char (by decide)) (by decide) rfl
    have hstar := nextStep_char (⟨.any, .plain⟩ :: items)
      (r := { r with rest := ⟨position + 1, ['*']⟩ :: tokensFrom (position + 2) more }) rfl
      (hback _) (by decide) (charItems_star (fun t ht => (hmore _ t ht).2) .any)
    refine ⟨fuel, ⟨.repeated .greedy 0 none .any, .quantified⟩, position + 2, Nat.le_refl _,
      hunit.symm, ?_⟩
    rw [readSequence_step hany, readSequence_step hstar]
  · have hany := nextStep_char items h (hback _) (by decide) rfl
    exact ⟨fuel + 1, ⟨.any, .plain⟩, position + 1, Nat.le_succ _, hunit.symm,
      readSequence_step hany⟩
  · have hcode := nextStep_escape items h (hback _) (itemEscape_special hspecial)
    exact ⟨fuel + 1, ⟨.code p.toNat, .plain⟩, position + 2, Nat.le_succ _, hunit.symm,
      readSequence_step hcode⟩
  · have hcode := nextStep_char items h (hback _) (notMem_of_plain hplain (by decide))
      (charItems_code (notMem_of_plain hplain (by decide)))
    exact ⟨fuel + 1, ⟨.code p.toNat, .plain⟩, position + 1, Nat.le_succ _, hunit.symm,
      readSequence_step hcode⟩

/-- Items, latest first, in front of an expression. -/
def before (items : List Item) (regex : Regex) : Regex :=
  items.foldl (fun regex item => .seq item.regex regex) regex

theorem readSequence_expression {first : Bool} : ∀ (pattern : List Char) {fuel position : Nat}
    {items : List Item} {r : Reader}, 2 * pattern.length + 2 ≤ fuel →
    r.rest = tokensFrom position (pattern.flatMap spelled ++ ['$']) →
    readSequence fuel false first items r =
      .ok (before items (upToEnd pattern), { r with rest := [] })
  | [], fuel, position, items, r, hfuel, h => by
    obtain ⟨fuel, rfl⟩ := Nat.exists_eq_add_of_le' hfuel
    have hend := nextStep_char items h nofun (by decide) rfl
    have hstop := nextStep_nil (⟨.anchor .lineEnd, .anchor⟩ :: items)
      (r := { r with rest := [] }) rfl
    exact (readSequence_step hend).trans (readSequence_stop hstop)
  | p :: pattern, fuel, position, items, r, hfuel, h => by
    rw [List.length_cons] at hfuel
    obtain ⟨fuel, rfl⟩ := Nat.exists_eq_add_of_le' (Nat.le_of_add_left_le hfuel)
    rw [List.flatMap_cons, List.append_assoc] at h
    obtain ⟨fuel', i, position', hle, hi, hstep⟩ :=
      readSequence_spelled first items (mild_head_tokensFrom pattern) h fuel
    rw [hstep, readSequence_expression pattern (by omega) rfl, upToEnd, ← hi]
    rfl

/-! ## The whole text -/

theorem check_whole (pattern : List Char) : check false (whole pattern) = .ok () := by
  have hunit (p : Char) : check false (unit p) = .ok () := by
    rcases spelled_cases p with ⟨h, -⟩ | ⟨h, -⟩ | ⟨-, h, -⟩ | ⟨-, h, -⟩ <;> rw [h] <;> rfl
  have hrest : check false (upToEnd pattern) = .ok () := by
    induction pattern with
    | nil => rfl
    | cons p pattern ih =>
      rw [upToEnd, check, hunit, ih]
      rfl
  rw [whole, check, hrest]
  rfl

theorem looksTooFar_whole (pattern : List Char) : looksTooFar (whole pattern) = false := by
  have hunit (p : Char) : looksTooFar (unit p) = false := by
    rcases spelled_cases p with ⟨h, -⟩ | ⟨h, -⟩ | ⟨-, h, -⟩ | ⟨-, h, -⟩ <;> rw [h] <;> rfl
  have hrest : looksTooFar (upToEnd pattern) = false := by
    induction pattern with
    | nil => rfl
    | cons p pattern ih =>
      rw [upToEnd, looksTooFar, hunit, ih]
      rfl
  rw [whole, looksTooFar, hrest]
  rfl

theorem readAll_expression (pattern : List Char) {r : Reader} (hflags : r.flags = {})
    (hconditions : r.conditions = [])
    (h : r.rest = tokensFrom 0 ('^' :: (pattern.flatMap spelled ++ ['$']))) :
    readAll r = .ok (whole pattern, { r with rest := [] }) := by
  rw [tokensFrom_char (by decide)] at h
  have hlength : pattern.length + 2 ≤ r.rest.length := by
    rw [h]
    exact Nat.succ_le_succ (length_le_tokensFrom pattern 1)
  have hcheck : checkNext r = .ok ((), r) := by
    refine checkNext_of_head ?_
    rw [h]
    exact ne_of_mem_head_char (by decide)
  have hstart := nextStep_char [] h (fun t ht => (mild_head_tokensFrom pattern 1 t ht).1)
    (by decide) rfl
  have hsequence : readSequence (6 * r.rest.length + 7) false true [] r =
      .ok (whole pattern, { r with rest := [] }) := by
    rw [readSequence_step hstart, readSequence_expression pattern (by omega) rfl]
    rfl
  have halternatives : readAlternatives (6 * r.rest.length + 8) false false [] r =
      .ok (whole pattern, { r with rest := [] }) := by
    have hbar : accept '|' { r with rest := [] } = .ok (false, { r with rest := [] }) :=
      accept_of_head_ne nofun
    rw [readAlternatives]
    simp only [Bool.not_false, List.isEmpty_nil, Bool.and_self]
    rw [read_bind hsequence, read_bind hbar]
    rfl
  unfold readAll
  rw [read_bind hcheck, read_bind (read_get r)]
  simp only [hflags]
  rw [read_bind halternatives, read_bind (read_get _)]
  simp only [hflags, hconditions]
  rfl

/-- The text of the expression for a pattern is well-formed, and says what is meant. -/
theorem compile_expression (pattern : String) :
    compile (expression pattern) false = .ok ⟨whole pattern.toList, {}⟩ := by
  let chars := '^' :: (pattern.toList.flatMap spelled ++ ['$'])
  have hchars : (expression pattern).toList = chars := String.toList_ofList
  have hread := readAll_expression pattern.toList
    (r := { rest := tokensFrom 0 chars, length := chars.length, flags := {} }) rfl rfl rfl
  have hrun : readPattern (expression pattern) {} = .ok (whole pattern.toList, {}) := by
    unfold readPattern
    simp only [hchars, StateT.run, hread, check_whole, looksTooFar_whole, bind, Except.bind]
    rfl
  unfold compile
  rw [hrun]

end Glob
end DeskShell

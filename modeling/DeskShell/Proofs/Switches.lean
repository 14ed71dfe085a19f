import DeskShell.Proofs.Renaming

/-!
# Flags taken as switches

`-n` and `-c` take the argument behind them as their text. A command for which one of them is a
plain switch gives that argument back to the operands. The argument goes back to its place, but only
one can: each flag has one text and one place, and both are those that were entered last.

* `Args.Piece`: what an argument list is made of; `Args.parse_eq` reads a list by its pieces.
* `Args.parseWith`, `Args.parseWithout`: reading with other letters that take a text.
* `Args.piecesOf_without`: the pieces of a list when a letter takes nothing.
* `Args.switch_parse_iff`: when a switch leaves what would have been read had its letter taken
  nothing.
* `Args.switch_parse_loses`: a list of which it does not.
-/
namespace DeskShell.Args

/-! ## The pieces of an argument list -/

/-- A long flag, letters behind one dash, a lone letter with the argument that it takes as its text,
or an operand. -/
inductive Piece
  | long (body : List Char)
  | letters (cs : List Char)
  | taken (letter : Char) (value : String)
  | operand (text : String)
  deriving Repr, DecidableEq

/-- The arguments with one more piece read. -/
def enter (a : Args) : Piece → Args
  | .long body => a.setLong body
  | .letters cs => a.setLetters cs
  | .taken letter value => a.setText letter value
  | .operand text => a.pushOperand text

/-- The pieces of an argument list when the letters in `takes` take the next argument. -/
def piecesOf (takes : Char → Bool) : List String → List Piece
  | [] => []
  | arg :: rest =>
    match shapeOf arg with
    | .long body => .long body :: piecesOf takes rest
    | .operand => .operand arg :: piecesOf takes rest
    | .letters c others =>
      match rest with
      | [] => [.letters (c :: others)]
      | next :: after =>
        if others.isEmpty && takes c && !startsWithDash next then
          .taken c next :: piecesOf takes after
        else .letters (c :: others) :: piecesOf takes (next :: after)

/-- Reading when the letters in `takes` take the next argument. -/
def parseWith (takes : Char → Bool) (args : List String) : Args :=
  (piecesOf takes args).foldl enter {}

section

variable {takes : Char → Bool} {arg next : String} {c : Char} {rest after : List String}

theorem piecesOf_long {body : List Char} (h : shapeOf arg = .long body) :
    piecesOf takes (arg :: rest) = .long body :: piecesOf takes rest := by
  rw [piecesOf, h]

theorem piecesOf_operand (h : shapeOf arg = .operand) :
    piecesOf takes (arg :: rest) = .operand arg :: piecesOf takes rest := by
  rw [piecesOf, h]

theorem piecesOf_taken (h : shapeOf arg = .letters c []) (hc : takes c = true)
    (hnext : startsWithDash next = false) :
    piecesOf takes (arg :: next :: after) = .taken c next :: piecesOf takes after := by
  rw [piecesOf, h]
  simp [hc, hnext]

theorem piecesOf_letters {others : List Char} (h : shapeOf arg = .letters c others)
    (hnone : ∀ next ∈ rest.head?, (others.isEmpty && takes c && !startsWithDash next) = false) :
    piecesOf takes (arg :: rest) = .letters (c :: others) :: piecesOf takes rest := by
  rw [piecesOf.eq_def]
  dsimp only
  rw [h]
  cases rest with
  | nil => rfl
  | cons next after => simp only [hnone next rfl, Bool.false_eq_true, ↓reduceIte]

end

theorem readFrom_eq (a : Args) (args : List String) :
    readFrom a args = (piecesOf takesText args).foldl enter a := by
  fun_induction readFrom a args with
  | case1 a => rfl
  | case2 a arg rest body hshape ih => rw [ih, piecesOf_long hshape, List.foldl_cons, enter]
  | case3 a arg rest hshape ih => rw [ih, piecesOf_operand hshape, List.foldl_cons, enter]
  | case4 a arg c others hshape => rw [piecesOf_letters hshape (by simp)]; rfl
  | case5 a arg c others hshape next after htakes ih =>
    simp only [Bool.and_eq_true, List.isEmpty_iff, Bool.not_eq_true'] at htakes
    obtain ⟨⟨rfl, hc⟩, hnext⟩ := htakes
    rw [ih, piecesOf_taken hshape hc hnext, List.foldl_cons, enter]
  | case6 a arg c others hshape next after htakes ih =>
    rw [ih, piecesOf_letters hshape (by simpa using htakes), List.foldl_cons, enter]

theorem parse_eq (args : List String) : parse args = parseWith takesText args := readFrom_eq {} args

variable {l : Char}

/-! ## Reading without a letter -/

/-- Reading when the letter `l` takes nothing. -/
def parseWithout (l : Char) (args : List String) : Args :=
  parseWith (fun c => takesText c && c != l) args

/-- A piece when the letter `l` takes nothing: what it took stands on its own. -/
def Piece.apart (l : Char) : Piece → List Piece
  | taken c value => if c = l then [letters [c], operand value] else [taken c value]
  | p => [p]

theorem piecesOf_without (takes : Char → Bool) (l : Char) (args : List String) :
    piecesOf (fun c => takes c && c != l) args =
      (piecesOf takes args).flatMap (Piece.apart l) := by
  fun_induction piecesOf takes args with
  | case1 => rfl
  | case2 arg rest body hshape ih => rw [piecesOf_long hshape, ih]; rfl
  | case3 arg rest hshape ih => rw [piecesOf_operand hshape, ih]; rfl
  | case4 arg c others hshape => rw [piecesOf_letters hshape (by simp)]; rfl
  | case5 arg c others hshape next after htakes ih =>
    simp only [Bool.and_eq_true, List.isEmpty_iff, Bool.not_eq_true'] at htakes
    obtain ⟨⟨rfl, hc⟩, hnext⟩ := htakes
    by_cases hl : c = l
    · rw [piecesOf_letters hshape (by simp [hl]), piecesOf_operand (shapeOf_operand hnext), ih]
      simp [Piece.apart, hl]
    · rw [piecesOf_taken hshape (by simp [hc, hl]) hnext, ih]
      simp [Piece.apart, hl]
  | case6 arg c others hshape next after htakes ih =>
    have hnone : (others.isEmpty && (takes c && c != l) && !startsWithDash next) = false := by
      cases htext : takes c <;> simp_all
    rw [piecesOf_letters hshape (by simpa using hnone), ih]
    rfl

/-! ## Operands -/

variable {a : Args} {ps : List Piece} {name : String}

def Piece.operand? : Piece → Option String
  | operand text => some text
  | _ => none

/-- The argument that the letter `l` takes. -/
def Piece.takenBy (l : Char) : Piece → Option String
  | taken c value => if c = l then some value else none
  | _ => none

/-- The arguments that the letter `l` takes, in order. -/
def taken (l : Char) (ps : List Piece) : List String := ps.filterMap (Piece.takenBy l)

theorem operands_setLetters (a : Args) (cs : List Char) :
    (a.setLetters cs).operands = a.operands := by
  induction cs generalizing a with
  | nil => rfl
  | cons c cs ih => exact ih (a.setFlag (String.singleton c) .on)

theorem slots_setLetters (a : Args) (cs : List Char) : (a.setLetters cs).slots = a.slots := by
  induction cs generalizing a with
  | nil => rfl
  | cons c cs ih => exact ih (a.setFlag (String.singleton c) .on)

/-- A long flag enters one value, whatever has been read before. -/
theorem exists_setFlag_of_long (body : List Char) :
    ∃ name value, ∀ a : Args, a.setLong body = a.setFlag name value := by
  unfold setLong
  dsimp only
  split
  · exact ⟨_, _, fun _ => rfl⟩
  · exact ⟨_, _, fun _ => rfl⟩

theorem operands_enter (a : Args) (p : Piece) :
    (a.enter p).operands = a.operands ++ p.operand?.toList := by
  cases p with
  | long body =>
    obtain ⟨name, value, h⟩ := exists_setFlag_of_long body
    simp [enter, Piece.operand?, h, setFlag]
  | letters cs => simp [enter, Piece.operand?, operands_setLetters]
  | taken c value => simp [enter, Piece.operand?, setText]
  | operand text => simp [enter, Piece.operand?, pushOperand]

theorem operands_foldl (ps : List Piece) (a : Args) :
    (ps.foldl enter a).operands = a.operands ++ ps.filterMap Piece.operand? := by
  induction ps generalizing a with
  | nil => simp
  | cons p ps ih =>
    rw [List.foldl_cons, ih, operands_enter, List.append_assoc]
    cases h : p.operand? <;> simp [h]

/-- An argument that is taken goes back to where the operands then end. -/
theorem slot_enter (a : Args) (p : Piece) (l : Char) :
    (a.enter p).slots.get? (String.singleton l) =
      if (p.takenBy l).isSome then some a.operands.length
      else a.slots.get? (String.singleton l) := by
  cases p with
  | long body =>
    obtain ⟨name, value, h⟩ := exists_setFlag_of_long body
    simp [enter, Piece.takenBy, h, setFlag]
  | letters cs => simp [enter, Piece.takenBy, slots_setLetters]
  | taken c value =>
    by_cases hc : c = l <;> simp [enter, Piece.takenBy, setText, Table.get?_put, hc]
  | operand text => simp [enter, Piece.takenBy, pushOperand]

theorem slot_foldl (h : taken l ps = []) (a : Args) :
    (ps.foldl enter a).slots.get? (String.singleton l) = a.slots.get? (String.singleton l) := by
  induction ps generalizing a with
  | nil => rfl
  | cons p ps ih =>
    obtain ⟨hp, hps⟩ := List.forall_mem_cons.mp (List.filterMap_eq_nil_iff.mp h)
    rw [List.foldl_cons, ih (List.filterMap_eq_nil_iff.mpr hps), slot_enter, hp]
    rfl

/-! ## Settings -/

/-- The value that a piece gives to a flag. -/
def Piece.setting (name : String) (p : Piece) : Option FlagValue := (({} : Args).enter p).get? name

theorem get?_setFlag (a : Args) (flag : String) (value : FlagValue) :
    (a.setFlag flag value).get? name = if flag = name then some value else a.get? name :=
  Table.get?_put _ _ _ _

theorem get?_setLetters (a : Args) (cs : List Char) : (a.setLetters cs).get? name =
    ((({} : Args).setLetters cs).get? name).or (a.get? name) := by
  induction cs generalizing a with
  | nil => rfl
  | cons c cs ih =>
    have hcons (b : Args) : b.setLetters (c :: cs) =
      (b.setFlag (String.singleton c) .on).setLetters cs := rfl
    rw [hcons, hcons, ih, ih (setFlag {} _ _), get?_setFlag, get?_setFlag, Option.or_assoc]
    split <;> rfl

theorem get?_enter (a : Args) (p : Piece) :
    (a.enter p).get? name = (p.setting name).or (a.get? name) := by
  have hempty : ({} : Args).get? name = none := rfl
  cases p with
  | long body =>
    obtain ⟨flag, value, h⟩ := exists_setFlag_of_long body
    simp only [Piece.setting, enter, h, get?_setFlag, hempty]
    split <;> rfl
  | letters cs => exact get?_setLetters a cs
  | taken c value =>
    have hset (b : Args) : (b.setText c value).get? name =
        if String.singleton c = name then some (.text value) else b.get? name :=
      Table.get?_put _ _ _ _
    simp only [Piece.setting, enter, hset, hempty]
    split <;> rfl
  | operand text => rfl

theorem get?_foldl (h : ∀ p ∈ ps, p.setting name = none) (a : Args) :
    (ps.foldl enter a).get? name = a.get? name := by
  induction ps generalizing a with
  | nil => rfl
  | cons p ps ih =>
    obtain ⟨hp, hps⟩ := List.forall_mem_cons.mp h
    rw [List.foldl_cons, ih hps, get?_enter, hp]
    rfl

theorem setting_taken (c : Char) (value : String) :
    (Piece.taken c value).setting (String.singleton l) =
      if c = l then some (.text value) else none := by
  have h : (Piece.taken c value).setting (String.singleton l) =
      if String.singleton c = String.singleton l then some (.text value) else none :=
    Table.get?_put _ _ _ _
  simp only [h, String.singleton_inj]

/-- Either nothing in a list has a value, or there is a last thing in it that has one. -/
theorem exists_last {α β : Type} (f : α → Option β) (xs : List α) :
    (∀ x ∈ xs, f x = none) ∨ ∃ before x after v, xs = before ++ x :: after ∧ f x = some v ∧
      ∀ y ∈ after, f y = none := by
  induction xs with
  | nil => exact .inl (by simp)
  | cons x xs ih =>
    rcases ih with hnone | ⟨before, y, after, v, rfl, hy, hafter⟩
    · cases hx : f x with
      | none => exact .inl (by simpa [hx] using hnone)
      | some v => exact .inr ⟨[], x, xs, v, rfl, hx, hnone⟩
    · exact .inr ⟨x :: before, y, after, v, rfl, hy, hafter⟩

/-! ## Switches -/

theorem has_eq (a : Args) (name : String) :
    a.has [name] = ((a.get? name).map FlagValue.isSet).getD false := by
  simp [has]

theorem switch_fst (a : Args) (name : String) : (a.switch name).1 = a.has [name] := by
  rw [has_eq]
  unfold switch
  split
  · next hflag _ => rw [hflag]; rfl
  · next hflag _ => rw [hflag]; rfl
  · next hflag => rw [hflag]; rfl

theorem operands_switch_of_text {value : String} {slot : Nat}
    (hflag : a.get? name = some (.text value)) (hslot : a.slots.get? name = some slot) :
    (a.switch name).2.operands = a.operands.take slot ++ value :: a.operands.drop slot := by
  unfold switch
  rw [hflag, hslot]

theorem operands_switch_of_not_text (h : ∀ value, a.get? name ≠ some (.text value)) :
    (a.switch name).2.operands = a.operands := by
  unfold switch
  split
  · next hflag _ => exact absurd hflag (h _)
  · rfl
  · rfl

theorem operands_switch_of_no_slot (h : a.slots.get? name = none) :
    (a.switch name).2.operands = a.operands := by
  unfold switch
  rw [h]
  split <;> first | rfl | next hslot => cases hslot

/-- The operands when the letter `l` takes nothing. -/
def looseOperands (l : Char) (ps : List Piece) : List String :=
  (ps.flatMap (Piece.apart l)).filterMap Piece.operand?

theorem looseOperands_append (ps qs : List Piece) :
    looseOperands l (ps ++ qs) = looseOperands l ps ++ looseOperands l qs := by
  simp [looseOperands]

theorem apart_of_not_taken {p : Piece} (h : p.takenBy l = none) : p.apart l = [p] := by
  cases p with
  | taken c value =>
    have hc : c ≠ l := by
      rintro rfl
      simp [Piece.takenBy] at h
    simp [Piece.apart, hc]
  | _ => rfl

theorem apart_taken (v : String) : (Piece.taken l v).apart l = [.letters [l], .operand v] :=
  if_pos rfl

theorem eq_taken {p : Piece} {v : String} (h : p.takenBy l = some v) : p = .taken l v := by
  cases p with
  | taken c value =>
    by_cases hc : c = l
    · simpa [Piece.takenBy, hc] using h
    · simp [Piece.takenBy, hc] at h
  | _ => cases h

theorem flatMap_apart (h : taken l ps = []) : ps.flatMap (Piece.apart l) = ps := by
  induction ps with
  | nil => rfl
  | cons p ps ih =>
    obtain ⟨hp, hps⟩ := List.forall_mem_cons.mp (List.filterMap_eq_nil_iff.mp h)
    rw [List.flatMap_cons, apart_of_not_taken hp, ih (List.filterMap_eq_nil_iff.mpr hps),
      List.singleton_append]

theorem looseOperands_of_none (h : taken l ps = []) :
    looseOperands l ps = ps.filterMap Piece.operand? := by
  rw [looseOperands, flatMap_apart h]

theorem looseOperands_taken (v : String) (ps : List Piece) :
    looseOperands l (.taken l v :: ps) = v :: looseOperands l ps := by
  rw [looseOperands, List.flatMap_cons, apart_taken]
  rfl

theorem length_looseOperands (l : Char) (ps : List Piece) : (looseOperands l ps).length =
    (ps.filterMap Piece.operand?).length + (taken l ps).length := by
  induction ps with
  | nil => rfl
  | cons p ps ih =>
    cases h : p.takenBy l with
    | none =>
      have hloose : looseOperands l (p :: ps) = looseOperands l [p] ++ looseOperands l ps :=
        looseOperands_append [p] ps
      have hp : looseOperands l [p] = [p].filterMap Piece.operand? :=
        looseOperands_of_none (by simp [taken, h])
      have htaken : taken l (p :: ps) = taken l ps := List.filterMap_cons_none h
      rw [hloose, hp, htaken, List.length_append, ih, ← Nat.add_assoc, ← List.length_append,
        ← List.filterMap_append, List.singleton_append]
    | some v =>
      obtain rfl := eq_taken h
      have htaken : taken l (.taken l v :: ps) = v :: taken l ps := List.filterMap_cons_some h
      rw [looseOperands_taken, htaken, List.length_cons, List.length_cons, ih, ← Nat.add_assoc]
      rfl

section

variable {before after : List Piece} {v : String} (hafter : taken l after = [])

include hafter

theorem taken_of_last : taken l (before ++ .taken l v :: after) = taken l before ++ [v] := by
  have hv : (Piece.taken l v).takenBy l = some v := if_pos rfl
  rw [taken, List.filterMap_append, List.filterMap_cons_some hv]
  exact congrArg (fun vs => taken l before ++ v :: vs) hafter

theorem slot_of_last :
    ((before ++ .taken l v :: after).foldl enter {}).slots.get? (String.singleton l) =
      some (before.filterMap Piece.operand?).length := by
  have hv : (Piece.taken l v).takenBy l = some v := if_pos rfl
  rw [List.foldl_append, List.foldl_cons, slot_foldl hafter, slot_enter, hv, operands_foldl]
  rfl

theorem looseOperands_of_last : looseOperands l (before ++ .taken l v :: after) =
    looseOperands l before ++ v :: after.filterMap Piece.operand? := by
  rw [looseOperands_append, looseOperands_taken, looseOperands_of_none hafter]

end

/-- The arguments come back to their places exactly when the letter has taken none, or a single one
that is still the text of its flag. -/
theorem operands_switch_iff (l : Char) (ps : List Piece) :
    ((ps.foldl enter {}).switch (String.singleton l)).2.operands = looseOperands l ps ↔
      taken l ps = [] ∨ ∃ v, taken l ps = [v] ∧
        (ps.foldl enter {}).get? (String.singleton l) = some (.text v) := by
  rcases exists_last (Piece.takenBy l) ps with hnone | ⟨before, p, after, v, rfl, hp, hafter⟩
  · have htaken : taken l ps = [] := List.filterMap_eq_nil_iff.mpr hnone
    have hslot : (ps.foldl enter {}).slots.get? (String.singleton l) = none := slot_foldl htaken {}
    refine iff_of_true ?_ (.inl htaken)
    rw [operands_switch_of_no_slot hslot, operands_foldl, looseOperands_of_none htaken]
    rfl
  · obtain rfl := eq_taken hp
    have hafter : taken l after = [] := List.filterMap_eq_nil_iff.mpr hafter
    have hoperands : ((before ++ .taken l v :: after).foldl enter {}).operands =
        before.filterMap Piece.operand? ++ after.filterMap Piece.operand? := by
      rw [operands_foldl, List.filterMap_append]
      rfl
    have hlength := length_looseOperands l before
    rw [looseOperands_of_last hafter, taken_of_last hafter]
    by_cases htext : ∃ w, ((before ++ .taken l v :: after).foldl enter {}).get?
        (String.singleton l) = some (.text w)
    · obtain ⟨w, hw⟩ := htext
      rw [operands_switch_of_text hw (slot_of_last hafter), hoperands, List.take_left,
        List.drop_left, hw]
      constructor
      · intro h
        have hcount := congrArg List.length h
        simp only [List.length_append, List.length_cons] at hcount
        have hnone : taken l before = [] := List.eq_nil_of_length_eq_zero (by omega)
        obtain ⟨-, h⟩ := List.append_inj h (by omega)
        obtain ⟨rfl, -⟩ := List.cons.inj h
        exact .inr ⟨w, by rw [hnone, List.nil_append], rfl⟩
      · rintro (h | ⟨v', hv, hw'⟩)
        · simp at h
        · obtain rfl : w = v' := by simpa using hw'
          have hnone : taken l before = [] := List.eq_nil_of_length_eq_zero (by
            simpa using congrArg List.length hv)
          obtain rfl : v = w := by simpa [hnone] using hv
          rw [looseOperands_of_none hnone]
    · rw [operands_switch_of_not_text (not_exists.mp htext), hoperands]
      refine iff_of_false (fun h => ?_) ?_
      · have hcount := congrArg List.length h
        simp only [List.length_append, List.length_cons] at hcount
        omega
      · rintro (h | ⟨v', -, hv⟩)
        · simp at h
        · exact htext ⟨v', hv⟩

/-- The last piece that sets a flag. -/
def lastSetter (name : String) (ps : List Piece) : Option Piece :=
  (ps.filter fun p => (p.setting name).isSome).getLast?

theorem get?_of_last {before after : List Piece} {p : Piece} {value : FlagValue}
    (hp : p.setting name = some value) (hafter : ∀ q ∈ after, q.setting name = none) (a : Args) :
    ((before ++ p :: after).foldl enter a).get? name = some value := by
  rw [List.foldl_append, List.foldl_cons, get?_foldl hafter, get?_enter, hp, Option.some_or]

theorem lastSetter_of_last {before after : List Piece} {p : Piece} {value : FlagValue}
    (hp : p.setting name = some value) (hafter : ∀ q ∈ after, q.setting name = none) :
    lastSetter name (before ++ p :: after) = some p := by
  have hnone : after.filter (fun p => (p.setting name).isSome) = [] :=
    List.filter_eq_nil_iff.mpr fun q hq => by simp [hafter q hq]
  simp [lastSetter, hp, hnone]

theorem taken_of_silent (h : ∀ p ∈ ps, p.setting (String.singleton l) = none) :
    taken l ps = [] := by
  refine List.filterMap_eq_nil_iff.mpr fun p hp => ?_
  cases htaken : p.takenBy l with
  | none => rfl
  | some v =>
    have hset := h p hp
    rw [eq_taken htaken, setting_taken, if_pos rfl] at hset
    cases hset

/-- The answer is that of a list in which the letter takes nothing, except where the flag has been
set last by an empty argument that it took. -/
theorem switch_answer_iff (l : Char) (ps : List Piece) :
    ((ps.foldl enter {}).switch (String.singleton l)).1 =
        ((ps.flatMap (Piece.apart l)).foldl enter {}).has [String.singleton l] ↔
      lastSetter (String.singleton l) ps ≠ some (.taken l "") := by
  rw [switch_fst, has_eq, has_eq]
  rcases exists_last (Piece.setting (String.singleton l)) ps with
    hnone | ⟨before, p, after, value, rfl, hp, hafter⟩
  · have hlast : lastSetter (String.singleton l) ps = none := by
      simpa [lastSetter] using hnone
    rw [flatMap_apart (taken_of_silent hnone), hlast]
    simp
  · rw [lastSetter_of_last hp hafter, get?_of_last hp hafter, List.flatMap_append,
      List.flatMap_cons, flatMap_apart (taken_of_silent hafter)]
    cases htaken : p.takenBy l with
    | none =>
      have hp' : p ≠ .taken l "" := by
        rintro rfl
        simp [Piece.takenBy] at htaken
      rw [apart_of_not_taken htaken, List.singleton_append, get?_of_last hp hafter]
      simp [hp']
    | some v =>
      obtain rfl := eq_taken htaken
      rw [setting_taken, if_pos rfl] at hp
      obtain rfl := Option.some.inj hp
      have hon : (Piece.letters [l]).setting (String.singleton l) = some .on :=
        (Table.get?_put _ _ _ _).trans (if_pos rfl)
      have hrest : ∀ q ∈ .operand v :: after, q.setting (String.singleton l) = none :=
        List.forall_mem_cons.mpr ⟨rfl, hafter⟩
      rw [apart_taken, List.cons_append, List.singleton_append, get?_of_last hon hrest]
      simp [FlagValue.isSet]

/-- A switch leaves the operands that reading would have given had its letter taken nothing, if and
only if the letter has taken no argument, or a single one that is still the text of its flag. It
answers whether that reading would have set the flag, if and only if the flag has not been set last
by an empty argument that its letter took. -/
theorem switch_parse_iff (l : Char) (args : List String) :
    (((parse args).switch (String.singleton l)).2.operands = (parseWithout l args).operands ↔
      taken l (piecesOf takesText args) = [] ∨ ∃ v, taken l (piecesOf takesText args) = [v] ∧
        (parse args).get? (String.singleton l) = some (.text v)) ∧
    (((parse args).switch (String.singleton l)).1 = (parseWithout l args).has [String.singleton l] ↔
      lastSetter (String.singleton l) (piecesOf takesText args) ≠ some (.taken l "")) := by
  have hplain : parseWithout l args =
      ((piecesOf takesText args).flatMap (Piece.apart l)).foldl enter {} := by
    rw [parseWithout, parseWith, piecesOf_without]
  have hoperands : (parseWithout l args).operands =
      looseOperands l (piecesOf takesText args) := by
    rw [hplain, operands_foldl]
    rfl
  rw [hoperands, hplain, parse_eq, parseWith]
  exact ⟨operands_switch_iff l _, switch_answer_iff l _⟩

/-- Of two arguments that a letter has taken only the second comes back, and the switch does not
count as set when it has taken an empty one. -/
theorem switch_parse_loses :
    (((parse ["-n", "a", "-n", "b"]).switch "n").2.operands = ["b"] ∧
      (parseWithout 'n' ["-n", "a", "-n", "b"]).operands = ["a", "b"]) ∧
    ((parse ["-n", ""]).switch "n").1 = false ∧ (parseWithout 'n' ["-n", ""]).has ["n"] = true := by
  decide

end DeskShell.Args

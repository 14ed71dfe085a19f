import DeskShell.Proofs.Guards
import DeskShell.Proofs.Switches

/-!
# Argument lists in two parts

An argument list may be cut anywhere and its parts read on their own, except between a letter and
the argument that it takes. What the second part sets overrides what the first has set, and the
places of the arguments that it takes are counted from the operands of the first.

* `Table.merge_put`, `Table.get?_merge`: one table entered over another.
* `Args.append`: the readings of two lists put together.
* `Args.foldl_enter_append`: pieces read after others are read as on their own.
* `Args.piecesOf_append`: the pieces of a list are those of its parts when the cut is between
  pieces.
* `Args.parse_append_iff`: which cuts are.
-/
namespace DeskShell

/-! ## Tables entered over others -/

namespace Table

variable {α : Type} {t u : Table α} {name other : String} {value : α}

theorem names_put (t : Table α) (name : String) (value : α) :
    (t.put name value).names = if name ∈ t.names then t.names else t.names ++ [name] := by
  induction t with
  | nil => simp [put, names]
  | cons e rest ih =>
    obtain ⟨n, v⟩ := e
    by_cases hn : n = name
    · simp [put, names, hn]
    · have hmem : name ∈ names ((n, v) :: rest) ↔ name ∈ names rest := by
        simp [names, Ne.symm hn]
      have hcons : (put ((n, v) :: rest) name value).names = n :: (put rest name value).names := by
        simp [put, names, hn]
      rw [hcons, ih]
      simp only [hmem]
      split <;> simp [names]

theorem mem_names_put : other ∈ (t.put name value).names ↔ other ∈ t.names ∨ other = name := by
  rw [names_put]
  split
  · next h =>
    refine ⟨.inl, ?_⟩
    rintro (h' | rfl)
    · exact h'
    · exact h
  · simp

theorem nodup_put (h : t.names.Nodup) : (t.put name value).names.Nodup := by
  rw [names_put]
  split
  · exact h
  · next hname =>
    refine List.nodup_append.mpr ⟨h, List.nodup_singleton name, ?_⟩
    rintro x hx y hy rfl
    exact hname (List.mem_singleton.mp hy ▸ hx)

theorem put_put (t : Table α) (name : String) (v w : α) :
    (t.put name v).put name w = t.put name w := by
  induction t with
  | nil => simp [put]
  | cons e rest ih =>
    obtain ⟨n, x⟩ := e
    by_cases hn : n = name <;> simp [put, hn, ih]

/-- A value may be renewed before or after another is entered. -/
theorem put_comm (h : name ∈ t.names) (hne : other ≠ name) (v w : α) :
    (t.put other w).put name v = (t.put name v).put other w := by
  induction t with
  | nil => simp [names] at h
  | cons e rest ih =>
    obtain ⟨n, x⟩ := e
    by_cases hn : n = name
    · subst hn
      simp [put, Ne.symm hne]
    · have hrest : name ∈ names rest := by simpa [names, Ne.symm hn] using h
      by_cases ho : n = other
      · simp [put, ho, hne]
      · simp [put, hn, ho, ih hrest]

theorem merge_cons (t : Table α) (e : String × α) (u : Table α) :
    t.merge (e :: u) = (t.put e.1 e.2).merge u := rfl

theorem put_merge (ht : name ∈ t.names) (hu : name ∉ u.names) (value : α) :
    (t.merge u).put name value = (t.put name value).merge u := by
  induction u generalizing t with
  | nil => rfl
  | cons e u ih =>
    obtain ⟨hne, hu⟩ : name ≠ e.1 ∧ name ∉ names u := by simpa [names] using hu
    rw [merge_cons, merge_cons, ih (mem_names_put.mpr (.inl ht)) hu, put_comm ht (Ne.symm hne)]

/-- A value entered last into a table comes last also when that table is entered over another. -/
theorem merge_put (hu : u.names.Nodup) (t : Table α) (name : String) (value : α) :
    t.merge (u.put name value) = (t.merge u).put name value := by
  induction u generalizing t with
  | nil => rfl
  | cons e u ih =>
    obtain ⟨n, v⟩ := e
    obtain ⟨hn, hu⟩ : n ∉ names u ∧ (names u).Nodup := by simpa [names] using hu
    by_cases hname : n = name
    · subst hname
      have hput : put ((n, v) :: u) n value = (n, value) :: u := by simp [put]
      rw [hput, merge_cons, merge_cons, put_merge (mem_names_put.mpr (.inr rfl)) hn, put_put]
    · have hput : put ((n, v) :: u) name value = (n, v) :: put u name value := by
        simp [put, hname]
      rw [hput, merge_cons, merge_cons, ih hu]

theorem get?_eq_none (h : name ∉ t.names) : t.get? name = none := by
  induction t with
  | nil => rfl
  | cons e t ih =>
    obtain ⟨hne, ht⟩ : name ≠ e.1 ∧ name ∉ names t := by simpa [names] using h
    rw [get?, if_neg (Ne.symm hne), ih ht]

theorem get?_merge (hu : u.names.Nodup) (t : Table α) (name : String) :
    (t.merge u).get? name = (u.get? name).or (t.get? name) := by
  induction u generalizing t with
  | nil => rfl
  | cons e u ih =>
    obtain ⟨n, v⟩ := e
    obtain ⟨hn, hu⟩ : n ∉ names u ∧ (names u).Nodup := by simpa [names] using hu
    rw [merge_cons, ih hu, get?_put]
    by_cases hname : n = name
    · subst hname
      simp [get?, get?_eq_none hn]
    · simp [get?, hname]

/-- All numbers of a table grown by `k`. -/
def grown (k : Nat) (t : Table Nat) : Table Nat := t.map fun e => (e.1, e.2 + k)

theorem names_grown (k : Nat) (t : Table Nat) : (grown k t).names = t.names := by
  simp [grown, names]

theorem grown_put (k : Nat) (t : Table Nat) (name : String) (value : Nat) :
    grown k (t.put name value) = (grown k t).put name (value + k) := by
  induction t with
  | nil => rfl
  | cons e rest ih =>
    obtain ⟨n, v⟩ := e
    have hcons (e : String × Nat) (u : Table Nat) :
      grown k (e :: u) = (e.1, e.2 + k) :: grown k u := rfl
    by_cases hn : n = name <;> simp [put, hn, hcons, ih]

theorem get?_grown (k : Nat) (t : Table Nat) (name : String) :
    (grown k t).get? name = (t.get? name).map (· + k) := by
  induction t with
  | nil => rfl
  | cons e rest ih =>
    obtain ⟨n, v⟩ := e
    have hcons : grown k ((n, v) :: rest) = (n, v + k) :: grown k rest := rfl
    rw [hcons]
    by_cases hn : n = name <;> simp [get?, hn, ih]

end Table

namespace Args

variable {a b : Args} {ps : List Piece} {takes : Char → Bool}

/-! ## Two readings put together -/

/-- What is read in two lists, the first before the second. -/
def append (a b : Args) : Args where
  flags := a.flags.merge b.flags
  operands := a.operands ++ b.operands
  slots := a.slots.merge (b.slots.grown a.operands.length)

/-- Each flag has one value and one place. -/
structure Single (a : Args) : Prop where
  flags : a.flags.names.Nodup
  slots : a.slots.names.Nodup

theorem Single.setFlag (h : b.Single) (name : String) (value : FlagValue) :
    (b.setFlag name value).Single :=
  ⟨Table.nodup_put h.flags, h.slots⟩

theorem Single.setLetters (h : b.Single) (cs : List Char) : (b.setLetters cs).Single := by
  induction cs generalizing b with
  | nil => exact h
  | cons c cs ih => exact ih (h.setFlag (String.singleton c) .on)

theorem Single.enter (h : b.Single) (p : Piece) : (b.enter p).Single := by
  cases p with
  | long body =>
    obtain ⟨name, value, hset⟩ := exists_setFlag_of_long body
    rw [Args.enter, hset]
    exact h.setFlag name value
  | letters cs => exact h.setLetters cs
  | taken letter value => exact ⟨Table.nodup_put h.flags, Table.nodup_put h.slots⟩
  | operand text => exact ⟨h.flags, h.slots⟩

theorem single_empty : ({} : Args).Single := ⟨List.nodup_nil, List.nodup_nil⟩

theorem single_foldl (h : b.Single) (ps : List Piece) : (ps.foldl enter b).Single :=
  List.foldlRecOn ps enter h fun _ hc p _ => hc.enter p

theorem append_setFlag (hb : b.Single) (a : Args) (name : String) (value : FlagValue) :
    (a.append b).setFlag name value = a.append (b.setFlag name value) := by
  simp only [append, setFlag, Table.merge_put hb.flags]

theorem append_setLetters (hb : b.Single) (a : Args) (cs : List Char) :
    (a.append b).setLetters cs = a.append (b.setLetters cs) := by
  induction cs generalizing b with
  | nil => rfl
  | cons c cs ih =>
    have hcons (d : Args) : d.setLetters (c :: cs) =
      (d.setFlag (String.singleton c) .on).setLetters cs := rfl
    rw [hcons, hcons, append_setFlag hb, ih (hb.setFlag _ _)]

theorem append_setText (hb : b.Single) (a : Args) (letter : Char) (value : String) :
    (a.append b).setText letter value = a.append (b.setText letter value) := by
  have hslots : (b.slots.grown a.operands.length).names.Nodup := by
    rw [Table.names_grown]
    exact hb.slots
  simp only [append, setText, Table.merge_put hb.flags, Table.grown_put, Table.merge_put hslots,
    List.length_append, Nat.add_comm]

theorem append_enter (hb : b.Single) (a : Args) (p : Piece) :
    (a.append b).enter p = a.append (b.enter p) := by
  cases p with
  | long body =>
    obtain ⟨name, value, hset⟩ := exists_setFlag_of_long body
    simp only [enter, hset, append_setFlag hb]
  | letters cs => exact append_setLetters hb a cs
  | taken letter value => exact append_setText hb a letter value
  | operand text => simp [enter, pushOperand, append]

/-- Pieces that are read after others are read as on their own. -/
theorem foldl_enter_append (hb : b.Single) (a : Args) (ps : List Piece) :
    ps.foldl enter (a.append b) = a.append (ps.foldl enter b) := by
  induction ps generalizing b with
  | nil => rfl
  | cons p ps ih => rw [List.foldl_cons, List.foldl_cons, append_enter hb, ih (hb.enter p)]

theorem append_empty (a : Args) : a.append {} = a := by
  simp [append, Table.merge, Table.grown]

theorem get?_append (hb : b.Single) (a : Args) (name : String) :
    (a.append b).get? name = (b.get? name).or (a.get? name) :=
  Table.get?_merge hb.flags a.flags name

theorem slot_append (hb : b.Single) (a : Args) (name : String) :
    (a.append b).slots.get? name =
      ((b.slots.get? name).map (· + a.operands.length)).or (a.slots.get? name) := by
  have hslots : (b.slots.grown a.operands.length).names.Nodup := by
    rw [Table.names_grown]
    exact hb.slots
  rw [append, Table.get?_merge hslots, Table.get?_grown]

/-! ## Cuts -/

/-- The cut between two lists parts no letter from the argument that it takes. -/
def Seam (takes : Char → Bool) (xs ys : List String) : Prop :=
  ∀ last ∈ xs.getLast?, ∀ c, shapeOf last = .letters c [] → takes c = true →
    ∀ next ∈ ys.head?, startsWithDash next = true

variable {xs ys : List String} {x y : String}

theorem Seam.of_cons (h : Seam takes (x :: xs) ys) : Seam takes xs ys := by
  intro last hlast
  refine h last ?_
  rw [List.getLast?_cons, Option.mem_def.mp hlast]
  rfl

/-- Before a dash nothing is parted. -/
theorem seam_of_dash (h : startsWithDash y = true) (xs : List String) :
    Seam takes xs (y :: ys) := by
  intro _ _ _ _ _ next hnext
  obtain rfl : y = next := by simpa using hnext
  exact h

theorem piecesOf_append (h : Seam takes xs ys) :
    piecesOf takes (xs ++ ys) = piecesOf takes xs ++ piecesOf takes ys := by
  fun_induction piecesOf takes xs with
  | case1 => rfl
  | case2 arg rest body hshape ih =>
    rw [List.cons_append, piecesOf_long hshape, ih h.of_cons, List.cons_append]
  | case3 arg rest hshape ih =>
    rw [List.cons_append, piecesOf_operand hshape, ih h.of_cons, List.cons_append]
  | case4 arg c others hshape =>
    -- The last argument of the first list: here the seam decides.
    have hnone : ∀ next ∈ ys.head?,
        (others.isEmpty && takes c && !startsWithDash next) = false := by
      intro next hnext
      cases others with
      | cons => rfl
      | nil =>
        cases hc : takes c with
        | false => rfl
        | true => simp [h arg (by simp) c hshape hc next hnext]
    rw [List.cons_append, List.nil_append, piecesOf_letters hshape hnone, List.singleton_append]
  | case5 arg c others hshape next after htakes ih =>
    simp only [Bool.and_eq_true, List.isEmpty_iff, Bool.not_eq_true'] at htakes
    obtain ⟨⟨rfl, hc⟩, hnext⟩ := htakes
    rw [List.cons_append, List.cons_append, piecesOf_taken hshape hc hnext,
      ih h.of_cons.of_cons, List.cons_append]
  | case6 arg c others hshape next after htakes ih =>
    have hnone : ∀ first ∈ (next :: (after ++ ys)).head?,
        (others.isEmpty && takes c && !startsWithDash first) = false := by
      simpa using htakes
    rw [List.cons_append, List.cons_append, piecesOf_letters hshape hnone,
      ← List.cons_append, ih h.of_cons, List.cons_append]

/-- The letters that take an argument, as they are written. -/
theorem takes_iff (arg : String) :
    (∃ c, shapeOf arg = .letters c [] ∧ takesText c = true) ↔ arg = "-n" ∨ arg = "-c" := by
  constructor
  · rintro ⟨c, hshape, hc⟩
    have harg := (toList_of_letters hshape).1
    have hletter : c = 'n' ∨ c = 'c' := by simpa [takesText] using hc
    rcases hletter with rfl | rfl
    · exact .inl (String.toList_inj.mp harg)
    · exact .inr (String.toList_inj.mp harg)
  · rintro (rfl | rfl)
    · exact ⟨'n', rfl, rfl⟩
    · exact ⟨'c', rfl, rfl⟩

/-- A letter at the end of the first list takes the first argument of the second: the reading has
one operand less than those of the two lists. -/
theorem parse_append_ne (hx : x = "-n" ∨ x = "-c") (hy : startsWithDash y = false)
    (xs ys : List String) :
    parse (xs ++ [x] ++ y :: ys) ≠ (parse (xs ++ [x])).append (parse (y :: ys)) := by
  obtain ⟨c, hshape, hc⟩ := (takes_iff x).mpr hx
  have hdash : startsWithDash x = true := by
    rcases hx with rfl | rfl <;> rfl
  have hfirst : piecesOf takesText (xs ++ [x]) = piecesOf takesText xs ++ [.letters [c]] := by
    rw [piecesOf_append (seam_of_dash hdash xs), piecesOf_letters hshape (by simp)]
    rfl
  have hboth : piecesOf takesText (xs ++ [x] ++ y :: ys) =
      piecesOf takesText xs ++ .taken c y :: piecesOf takesText ys := by
    rw [List.append_assoc, List.singleton_append, piecesOf_append (seam_of_dash hdash xs),
      piecesOf_taken hshape hc hy]
  intro h
  have hcount := congrArg (fun r => r.operands.length) h
  simp only [append, List.length_append, parse_eq, parseWith, operands_foldl, hfirst, hboth,
    piecesOf_operand (shapeOf_operand hy), List.filterMap_append, List.filterMap_cons,
    Piece.operand?, List.filterMap_nil, List.length_cons, List.length_nil] at hcount
  omega

/-- Reading two argument lists in one comes to reading each of them and putting the readings
together, if and only if the first does not end with a letter that takes the first argument of the
second. The operands are then those of both lists, each flag has its value in the second list if it
has one there, and so has each place, counted on from the operands of the first. -/
theorem parse_append_iff (xs ys : List String) :
    (parse (xs ++ ys) = (parse xs).append (parse ys) ↔
      (∀ last ∈ xs.getLast?, last ≠ "-n" ∧ last ≠ "-c") ∨ ys = [] ∨
        ∃ first ∈ ys.head?, startsWithDash first = true) ∧
    ((parse xs).append (parse ys)).operands = (parse xs).operands ++ (parse ys).operands ∧
    ∀ name,
      ((parse xs).append (parse ys)).flags.get? name =
        ((parse ys).flags.get? name).or ((parse xs).flags.get? name) ∧
      ((parse xs).append (parse ys)).slots.get? name =
        (((parse ys).slots.get? name).map (· + (parse xs).operands.length)).or
          ((parse xs).slots.get? name) := by
  have hsingle : (parse ys).Single := by
    rw [parse_eq]
    exact single_foldl single_empty _
  refine ⟨⟨fun h => ?_, fun h => ?_⟩, rfl, fun name =>
    ⟨get?_append hsingle _ name, slot_append hsingle _ name⟩⟩
  · by_contra hcut
    simp only [not_or, not_forall, not_exists, not_and] at hcut
    obtain ⟨⟨x, hx, hletter⟩, hne, hdash⟩ := hcut
    obtain ⟨y, ys, rfl⟩ := List.exists_cons_of_ne_nil hne
    obtain ⟨xs, rfl⟩ := List.getLast?_eq_some_iff.mp hx
    refine parse_append_ne ?_ (by simpa using hdash y rfl) xs ys h
    by_cases hn : x = "-n"
    · exact .inl hn
    · exact .inr (not_not.mp (hletter hn))
  · have hseam : Seam takesText xs ys := by
      intro last hlast c hshape hc next hnext
      have hletter := (takes_iff last).mp ⟨c, hshape, hc⟩
      rcases h with hplain | rfl | ⟨first, hfirst, hdash⟩
      · exact absurd hletter (not_or.mpr (hplain last hlast))
      · cases hnext
      · obtain rfl := Option.mem_unique hfirst hnext
        exact hdash
    simp only [parse_eq, parseWith, piecesOf_append hseam, List.foldl_append]
    rw [← foldl_enter_append single_empty, append_empty]

end Args
end DeskShell

import DeskShell.Proofs.Expressions

/-!
# Names against expressions

The expression for a pattern, matched from the start of a name, finds just the names that the
pattern stands for. The anchor at its end lets one newline there be left over.

* `Pattern.Consumes`: the pieces that an expression may take, whatever comes after it;
  `consumes_unit` and `consumes_star` for single characters and for any number of them.
* `Glob.consumes_unit`: one character of a pattern takes the pieces that it stands for.
* `Glob.runAt_upToEnd_iff`: what the rest of a pattern matches from a place on.
* `Glob.begins_expression_iff`: matching, wildcards and pieces come to the same.
-/
namespace DeskShell

namespace Pattern

/-- The pattern matches from the start of the text on. -/
def Compiled.begins (p : Compiled) (text : String) : Bool :=
  (runAt text.toList.toArray p.flags p.regex some { position := 0 }).isSome

variable {text : Array Char} {step : Step} {next : Next} {s : Spot} {R : List Char → Prop}
  {p : Nat → Bool}

/-- The place behind some more characters. -/
def Spot.after (s : Spot) (piece : List Char) : Spot :=
  { s with position := s.position + piece.length }

/-- A match takes one of the pieces in `R` from the place on, any of them that lets what comes after
match. -/
def Consumes (text : Array Char) (step : Step) (R : List Char → Prop) : Prop :=
  ∀ next s, (step next s).isSome = true ↔
    ∃ piece, R piece ∧ piece <+: text.toList.drop s.position ∧ (next (s.after piece)).isSome = true

theorem isSome_firstOf {a : Option Spot} {b : Unit → Option Spot} :
    (firstOf a b).isSome = true ↔ a.isSome = true ∨ (b ()).isSome = true := by
  cases a <;> simp [firstOf]

theorem Spot.after_cons (s : Spot) (c : Char) (piece : List Char) :
    s.after (c :: piece) = s.forward.after piece := by
  simp only [after, forward, List.length_cons]
  congr 1
  omega

theorem head?_drop (text : Array Char) (position : Nat) :
    (text.toList.drop position).head? = text[position]? := by
  rw [List.head?_drop, Array.getElem?_toList]

/-- The rest of a text from a place on starts with what stands there. -/
theorem cons_prefix_iff {c : Char} {piece : List Char} :
    c :: piece <+: text.toList.drop s.position ↔
      text[s.position]? = some c ∧ piece <+: text.toList.drop s.forward.position := by
  have htail : (text.toList.drop s.position).tail = text.toList.drop s.forward.position :=
    List.tail_drop
  rw [← head?_drop, ← htail]
  cases text.toList.drop s.position with
  | nil => simp
  | cons d rest =>
    rw [List.cons_prefix_cons, List.head?_cons, Option.some_inj, List.tail_cons, eq_comm]

theorem isSome_unitStep : (unitStep text p next s).isSome = true ↔
    ∃ c, text[s.position]? = some c ∧ p c.toNat = true ∧ (next s.forward).isSome = true := by
  unfold unitStep
  cases text[s.position]? with
  | none => simp
  | some c => cases hc : p c.toNat <;> simp [hc]

theorem consumes_unit (text : Array Char) (p : Nat → Bool) :
    Consumes text (unitStep text p) fun piece => ∃ c, p c.toNat = true ∧ piece = [c] := by
  intro next s
  rw [isSome_unitStep]
  constructor
  · rintro ⟨c, hc, hp, hnext⟩
    exact ⟨[c], ⟨c, hp, rfl⟩, cons_prefix_iff.mpr ⟨hc, List.nil_prefix⟩, hnext⟩
  · rintro ⟨_, ⟨c, hp, rfl⟩, hpiece, hnext⟩
    exact ⟨c, (cons_prefix_iff.mp hpiece).1, hp, hnext⟩

/-- Each turn of the repetition takes one character, so no turn starts where the last one did. -/
theorem isSome_repeatGreedy : ∀ (fuel count : Nat) {last : Option Nat} (s : Spot),
    text.size - s.position < fuel → last ≠ some s.position →
    ((repeatGreedy (unitStep text p) 0 none next fuel count last s).isSome = true ↔
      ∃ piece : List Char, (∀ c ∈ piece, p c.toNat = true) ∧
        piece <+: text.toList.drop s.position ∧ (next (s.after piece)).isSome = true)
  | 0, _, _, _, hfuel, _ => absurd hfuel (Nat.not_lt_zero _)
  | fuel + 1, count, last, s, hfuel, hlast => by
    have hforward : s.forward.position = s.position + 1 := rfl
    have hmay : mayRepeat none count last s = true := by simpa [mayRepeat] using hlast
    have hmoves : some s.position ≠ some s.forward.position := by simp [hforward]
    have hmore {c : Char} (hc : text[s.position]? = some c) :
        (repeatGreedy (unitStep text p) 0 none next fuel (count + 1) (some s.position)
            s.forward).isSome = true ↔
          ∃ piece : List Char, (∀ c ∈ piece, p c.toNat = true) ∧
            piece <+: text.toList.drop s.forward.position ∧
            (next (s.forward.after piece)).isSome = true := by
      have hlt := (Array.getElem?_eq_some_iff.mp hc).1
      exact isSome_repeatGreedy fuel (count + 1) s.forward (by omega) hmoves
    rw [repeatGreedy, if_neg (Nat.not_lt_zero _), if_pos hmay, isSome_firstOf, isSome_unitStep]
    constructor
    · rintro (⟨c, hc, hp, hrest⟩ | hnext)
      · obtain ⟨piece, hall, hpiece, hnext⟩ := (hmore hc).mp hrest
        have hprefix : c :: piece <+: text.toList.drop s.position :=
          cons_prefix_iff.mpr ⟨hc, hpiece⟩
        refine ⟨c :: piece, List.forall_mem_cons.mpr ⟨hp, hall⟩, hprefix, ?_⟩
        rwa [Spot.after_cons]
      · exact ⟨[], List.forall_mem_nil _, List.nil_prefix, hnext⟩
    · rintro ⟨piece, hall, hpiece, hnext⟩
      cases piece with
      | nil => exact .inr hnext
      | cons c piece =>
        obtain ⟨hp, hall⟩ := List.forall_mem_cons.mp hall
        obtain ⟨hc, hpiece⟩ := cons_prefix_iff.mp hpiece
        rw [Spot.after_cons] at hnext
        exact .inl ⟨c, hc, hp, (hmore hc).mpr ⟨piece, hall, hpiece, hnext⟩⟩

theorem consumes_star (text : Array Char) (p : Nat → Bool) :
    Consumes text (repeatStep text .greedy 0 none (unitStep text p))
      fun piece => ∀ c ∈ piece, p c.toNat = true := by
  intro next s
  exact isSome_repeatGreedy _ 0 s (by omega) nofun

theorem Consumes.congr {Q : List Char → Prop} (h : Consumes text step R)
    (hiff : ∀ piece, R piece ↔ Q piece) : Consumes text step Q := by
  intro next s
  simp only [h next s, hiff]

end Pattern

namespace Glob

open Pattern

variable {text : Array Char} {pattern : List Char} {s : Spot}

/-! ## One character of a pattern -/

theorem consumes_unit (text : Array Char) (p : Char) :
    Consumes text (runAt text {} (unit p)) (StandsFor p) := by
  have hcode (c d : Char) : c.toNat = d.toNat ↔ c = d := Char.toNat_inj
  by_cases hstar : p = '*'
  · subst hstar
    refine (consumes_star text fun m => m != '\n'.toNat).congr fun piece => ?_
    simp only [standsFor_star, bne_iff_ne, ne_eq, hcode]
    exact List.forall_mem_ne'
  · by_cases hmark : p = '?'
    · subst hmark
      refine (Pattern.consumes_unit text fun m => m != '\n'.toNat).congr fun piece => ?_
      simp only [standsFor_mark, bne_iff_ne, ne_eq, hcode]
    · have hunit : unit p = .code p.toNat := by simp [unit, hstar, hmark]
      rw [hunit]
      refine (Pattern.consumes_unit text (sameCode {} p.toNat)).congr fun piece => ?_
      simp [standsFor_plain hstar hmark, sameCode, hcode]

/-! ## The rest of a pattern -/

/-- The anchor at the end holds where nothing is left, or nothing but a newline. -/
theorem anchorHolds_lineEnd_iff (h : s.position ≤ text.size) :
    anchorHolds text {} .lineEnd s.position = true ↔ Named [] (text.toList.drop s.position) := by
  have hlength : (text.toList.drop s.position).length = text.size - s.position := by
    rw [List.length_drop, Array.length_toList]
  rw [named_nil_iff, anchorHolds, isNewlineAt, ← head?_drop]
  simp only [Bool.false_or, Bool.or_eq_true, Bool.and_eq_true, beq_iff_eq]
  cases hrest : text.toList.drop s.position with
  | nil =>
    rw [hrest, List.length_nil] at hlength
    have hend : s.position = text.size := by omega
    simp [hend]
  | cons c rest =>
    rw [hrest, List.length_cons] at hlength
    have hne : s.position ≠ text.size := by omega
    have hend : s.position + 1 = text.size ↔ rest = [] := by
      rw [← List.length_eq_zero_iff]
      omega
    simp [hne, hend]

theorem runAt_upToEnd_iff (text : Array Char) : ∀ (pattern : List Char) {s : Spot},
    s.position ≤ text.size →
    ((runAt text {} (upToEnd pattern) some s).isSome = true ↔
      Named pattern (text.toList.drop s.position))
  | [], s, h => by
    rw [← anchorHolds_lineEnd_iff h]
    simp [upToEnd, runAt]
  | p :: pattern, s, h => by
    have hstep : (runAt text {} (upToEnd (p :: pattern)) some s).isSome = true ↔
        ∃ piece, StandsFor p piece ∧ piece <+: text.toList.drop s.position ∧
          (runAt text {} (upToEnd pattern) some (s.after piece)).isSome = true :=
      consumes_unit text p _ s
    rw [hstep, named_cons_iff]
    refine exists_congr fun piece => and_congr_right fun _ => and_congr_right fun hpiece => ?_
    have hle : piece.length ≤ text.size - s.position := by
      simpa using hpiece.length_le
    have hafter : (s.after piece).position ≤ text.size := by
      show s.position + piece.length ≤ text.size
      omega
    rw [runAt_upToEnd_iff text pattern hafter, List.drop_drop]
    rfl

/-- From the start of a name the expression for a pattern matches what the pattern stands for. -/
theorem begins_whole_iff (pattern : List Char) (name : String) :
    Compiled.begins ⟨whole pattern, {}⟩ name = true ↔ Named pattern name.toList :=
  runAt_upToEnd_iff name.toList.toArray pattern (s := { position := 0 }) (Nat.zero_le _)

/-- The expression for a pattern is well-formed. It matches a name from its start just when the
name, or the name less one newline at its end, is a row of pieces that the characters of the pattern
stand for; the match by wildcards decides that too. For a name without newlines, the name as a whole
is such a row. -/
theorem begins_expression_iff (pattern : String) :
    ∃ compiled, compile (expression pattern) false = .ok compiled ∧ ∀ name : String,
      (compiled.begins name = true ↔ Spells pattern.toList name.toList ∨
        ∃ front, name.toList = front ++ ['\n'] ∧ Spells pattern.toList front) ∧
      compiled.begins name = fits pattern name ∧
      ('\n' ∉ name.toList → (compiled.begins name = true ↔ Spells pattern.toList name.toList)) := by
  refine ⟨_, compile_expression pattern, fun name => ?_⟩
  have hbegins := begins_whole_iff pattern.toList name
  refine ⟨hbegins, ?_, fun hname => hbegins.trans (named_iff hname)⟩
  rw [Bool.eq_iff_iff, hbegins, fits_iff]

/-- Brackets and dots stand for themselves, and a newline may follow the name, but none may stand in
place of a wildcard. -/
theorem begins_expression_brackets :
    ∃ compiled, compile (expression "*[old].tx?") false = .ok compiled ∧
      compiled.begins "Report [old].txt\n" = true ∧ compiled.begins "Report o.txt" = false ∧
      compiled.begins "a\nb[old].txt" = false ∧
      Spells "*[old].tx?".toList "Report [old].txt".toList := by
  obtain ⟨compiled, hcompiled, hnames⟩ := begins_expression_iff "*[old].tx?"
  obtain ⟨-, hline, -⟩ := hnames "Report [old].txt\n"
  obtain ⟨-, hset, -⟩ := hnames "Report o.txt"
  obtain ⟨-, htwo, -⟩ := hnames "a\nb[old].txt"
  obtain ⟨-, hfits, hspells⟩ := hnames "Report [old].txt"
  refine ⟨compiled, hcompiled, ?_, ?_, ?_, (hspells (by decide)).mp ?_⟩
  · rw [hline]
    simp [fits, fitsList]
  · rw [hset]
    simp [fits, fitsList]
  · rw [htwo]
    simp [fits, fitsList]
  · rw [hfits]
    simp [fits, fitsList]

end Glob
end DeskShell

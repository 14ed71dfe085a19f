import DeskShell.Proofs.SplitPaths

/-!
# Spellings of a path

Either slash separates the names on a path, more than one may stand where one is enough, and the
letter of the drive has no case. What a path is looked up by are its segments, which are the same in
all spellings.

* `Path.Plain`: a name that stands for itself on a path.
* `Path.segments_dropDrive_display`: plain names put together to a path are the segments of it.
* `Path.Respelled`: another spelling of a path; `Path.Respelled.segments_eq`: its segments are those
  of the path.
-/
namespace DeskShell.Path

variable {d : String} {parts : List String}

/-! ## Names that stand for themselves -/

/-- Not empty, without either slash, and not one of the two names for staying and for going up. -/
structure Plain (name : String) : Prop where
  nonempty : name ≠ ""
  bare : Bare name
  slashless : '/' ∉ name.toList
  ne_dot : name ≠ "."
  ne_dots : name ≠ ".."

instance (name : String) : Decidable (Plain name) :=
  decidable_of_iff (name ≠ "" ∧ Bare name ∧ '/' ∉ name.toList ∧ name ≠ "." ∧ name ≠ "..")
    ⟨fun ⟨h₁, h₂, h₃, h₄, h₅⟩ => ⟨h₁, h₂, h₃, h₄, h₅⟩,
      fun ⟨h₁, h₂, h₃, h₄, h₅⟩ => ⟨h₁, h₂, h₃, h₄, h₅⟩⟩

/-! ## Paths put together from names -/

theorem display_cons (d : String) (parts : List String) :
    display (d :: parts) = d ++ display ("" :: parts) := by
  unfold display Text.glue
  cases parts with
  | nil => simp
  | cons p parts =>
    rw [String.intercalate_cons_cons, String.intercalate_cons_cons, String.empty_append,
      String.append_assoc]

theorem slash_not_mem_display (h : ∀ p ∈ parts, '/' ∉ p.toList) :
    '/' ∉ (display parts).toList := by
  intro hmem
  obtain ⟨p, hp, hslash⟩ := (Text.mem_glue_iff (by decide) parts).mp hmem
  exact h p hp hslash

theorem normalize_display (h : ∀ p ∈ parts, '/' ∉ p.toList) :
    normalize (display parts) = display parts :=
  normalize_eq_self (slash_not_mem_display h)

theorem segments_display (h : ∀ p ∈ parts, Plain p) : segments (display ("" :: parts)) = parts := by
  unfold segments display
  rw [Text.pieces_glue (List.cons_ne_nil _ _)]
  · rw [List.filter_cons_of_neg (by simp), List.filter_eq_self]
    intro p hp
    simpa using (h p hp).nonempty
  · intro p hp
    rcases List.mem_cons.mp hp with rfl | hp
    · simp
    · exact (h p hp).bare

theorem dropDrive_drive (path : String) : dropDrive (drive ++ path) = path := by
  have hlist : (drive ++ path).toList = 'C' :: ':' :: path.toList := by
    rw [String.toList_append]
    rfl
  unfold dropDrive
  rw [hlist]
  simp [startsWithDrive]

theorem dropDrive_display (parts : List String) :
    dropDrive (display ("" :: parts)) = display ("" :: parts) := by
  cases parts with
  | nil => decide
  | cons p parts =>
    have hlist : ∃ rest, (display ("" :: p :: parts)).toList = [] ++ sep :: rest := by
      unfold display Text.glue
      rw [String.intercalate_cons_cons]
      simp
    obtain ⟨rest, hrest⟩ := hlist
    unfold dropDrive
    rw [hrest, startsWithDrive_append]
    rfl

/-- Plain names behind the drive, or behind nothing, are the segments of the path that they make. -/
theorem segments_dropDrive_display (hd : d = "" ∨ d = drive) (h : ∀ p ∈ parts, Plain p) :
    segments (dropDrive (normalize (display (d :: parts)))) = parts := by
  rw [normalize_display]
  · rcases hd with rfl | rfl
    · rw [dropDrive_display, segments_display h]
    · rw [display_cons, dropDrive_drive, segments_display h]
  · intro p hp
    rcases List.mem_cons.mp hp with rfl | hp
    · rcases hd with rfl | rfl <;> decide
    · exact (h p hp).slashless

/-! ## Other spellings -/

/-- The same text with each backslash written as one or more separators of either kind. -/
inductive Respaced : List Char → List Char → Prop
  | nil : Respaced [] []
  | keep {c : Char} {a b : List Char} (hc : c ≠ sep) (h : Respaced a b) :
      Respaced (c :: a) (c :: b)
  | space {run a b : List Char} (hne : run ≠ []) (hrun : ∀ c ∈ run, c = sep ∨ c = '/')
      (h : Respaced a b) : Respaced (sep :: a) (run ++ b)

/-- The same path from the drive on, with the letter of the drive in either case and other
separators. -/
def Respelled (path other : String) : Prop :=
  ∃ letter rest rest', path.toList = 'C' :: ':' :: rest ∧ (letter = 'C' ∨ letter = 'c') ∧
    other.toList = letter :: ':' :: rest' ∧ Respaced rest rest'

/-- All separators as slashes. -/
theorem respaced_slashes (s : List Char) :
    Respaced s (s.map fun c => if c = sep then '/' else c) := by
  induction s with
  | nil => exact .nil
  | cons c s ih =>
    rw [List.map_cons]
    split
    · next hc =>
      subst hc
      exact .space (List.cons_ne_nil '/' []) (by simp) ih
    · next hc => exact .keep hc ih

/-- All separators doubled. -/
theorem respaced_doubled (s : List Char) :
    Respaced s (s.flatMap fun c => if c = sep then [sep, sep] else [c]) := by
  induction s with
  | nil => exact .nil
  | cons c s ih =>
    rw [List.flatMap_cons]
    split
    · next hc =>
      subst hc
      exact .space (List.cons_ne_nil sep [sep]) (by simp) ih
    · next hc => exact .keep hc ih

theorem segments_replicate_append (k : Nat) (s : List Char) :
    segments (String.ofList (List.replicate k sep ++ s)) = segments (String.ofList s) := by
  induction k with
  | zero => rfl
  | succ k ih =>
    rw [List.replicate_succ, List.cons_append, ← ih]
    exact segments_append_sep [] _

/-- Behind any text `pre`. The induction moves the characters that are kept over to it. -/
theorem Respaced.segments_eq {a b : List Char} (h : Respaced a b) : ∀ pre : List Char,
    segments (String.ofList (pre ++ b.map normalizeChar)) =
      segments (String.ofList (pre ++ a.map normalizeChar)) := by
  induction h with
  | nil => exact fun _ => rfl
  | @keep c a b _ _ ih =>
    intro pre
    have hmove : ∀ s : List Char, pre ++ (c :: s).map normalizeChar =
        (pre ++ [normalizeChar c]) ++ s.map normalizeChar := by simp
    rw [hmove, hmove]
    exact ih _
  | @space run a b hne hrun _ ih =>
    intro pre
    have hnorm : run.map normalizeChar = List.replicate run.length sep := by
      refine List.eq_replicate_iff.mpr ⟨List.length_map _, fun c hc => ?_⟩
      obtain ⟨e, he, rfl⟩ := List.mem_map.mp hc
      rcases hrun e he with rfl | rfl <;> rfl
    obtain ⟨k, hk⟩ := Nat.exists_eq_succ_of_ne_zero (mt List.length_eq_zero_iff.mp hne)
    have hsep : normalizeChar sep = sep := rfl
    have hrest := ih []
    rw [List.nil_append, List.nil_append] at hrest
    rw [List.map_append, hnorm, hk, List.replicate_succ, List.cons_append, segments_append_sep,
      segments_replicate_append, hrest, List.map_cons, hsep, segments_append_sep]

/-- The drive is dropped with its letter in either case. -/
theorem dropDrive_normalize {text : String} {letter : Char} {rest : List Char}
    (hletter : letter = 'C' ∨ letter = 'c') (htext : text.toList = letter :: ':' :: rest) :
    dropDrive (normalize text) = String.ofList (rest.map normalizeChar) := by
  have hlist : (normalize text).toList = letter :: ':' :: rest.map normalizeChar := by
    unfold normalize
    rw [htext, String.toList_ofList]
    rcases hletter with rfl | rfl <;> rfl
  unfold dropDrive
  rw [hlist]
  rcases hletter with rfl | rfl <;> rfl

/-- A path has the same segments in all spellings. -/
theorem Respelled.segments_eq {path other : String} (h : Respelled path other) :
    segments (dropDrive (normalize other)) = segments (dropDrive (normalize path)) := by
  obtain ⟨letter, rest, rest', hpath, hletter, hother, hspaced⟩ := h
  rw [dropDrive_normalize (.inl rfl) hpath, dropDrive_normalize hletter hother]
  exact hspaced.segments_eq []

end DeskShell.Path

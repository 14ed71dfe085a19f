import DeskShell.Proofs.Trails
import Mathlib.Data.List.DropRight

/-!
# The folder part of a path

A path is looked up by its segments, while an entry is made in the folder part of its path under its
last name. Both ways of reading a path agree, with any separators at the end, with the drive in
front and from the top of the tree.

* `Path.splitParent_cases`: what the two parts of a path are.
* `Path.segments_of_bare`, `Path.segments_of_folder`: the segments of a path are those of its folder
  part and then its last name.
-/
namespace DeskShell.Path

variable {path name head : String} {a b s : List Char}

/-! ## Segments -/

theorem segments_append_sep (a b : List Char) : segments (String.ofList (a ++ sep :: b)) =
    segments (String.ofList a) ++ segments (String.ofList b) := by
  simp [segments, Text.pieces, List.splitOn_append_cons_self]

theorem segments_of_not_mem (ha : sep ∉ a) (hne : a ≠ []) :
    segments (String.ofList a) = [String.ofList a] := by
  have hsplit : a.splitOn sep = [a] := List.splitOn_eq_singleton ha
  simp [segments, Text.pieces, hsplit, hne]

theorem segments_replicate : ∀ k, segments (String.ofList (List.replicate k sep)) = []
  | 0 => rfl
  | k + 1 => by
    have h := segments_append_sep [] (List.replicate k sep)
    rw [segments_replicate k] at h
    exact h

/-- Separators at the end add no segment. -/
theorem segments_append_replicate (a : List Char) (k : Nat) :
    segments (String.ofList (a ++ List.replicate k sep)) = segments (String.ofList a) := by
  cases k with
  | zero => rw [List.replicate_zero, List.append_nil]
  | succ k => rw [List.replicate_succ, segments_append_sep, segments_replicate, List.append_nil]

/-- A last name, with separators after it. -/
theorem segments_name (hb : sep ∉ b) (hne : b ≠ []) (k : Nat) :
    segments (String.ofList (b ++ List.replicate k sep)) = [String.ofList b] := by
  rw [segments_append_replicate, segments_of_not_mem hb hne]

/-! ## Splitting -/

theorem dropTrailing_append (s : List Char) :
    ∃ k, s = dropTrailing (· == sep) s ++ List.replicate k sep := by
  refine ⟨(s.reverse.takeWhile (· == sep)).length, ?_⟩
  have htake : s.reverse.takeWhile (· == sep) =
      List.replicate (s.reverse.takeWhile (· == sep)).length sep :=
    List.eq_replicate_of_mem fun c hc => by simpa using List.mem_takeWhile_imp hc
  have hs := List.takeWhile_append_dropWhile (p := (· == sep)) (l := s.reverse)
  unfold dropTrailing
  rw [← List.reverse_inj, List.reverse_append, List.reverse_reverse, List.reverse_replicate,
    ← htake, hs]

theorem splitLast_cases (s : List Char) : sep ∉ s ∧ splitLast s = (none, s) ∨
    ∃ head name, s = head ++ sep :: name ∧ sep ∉ name ∧ splitLast s = (some head, name) := by
  have hs := List.takeWhile_append_dropWhile (p := (· != sep)) (l := s.reverse)
  have hname : sep ∉ (s.reverse.takeWhile (· != sep)).reverse := by
    intro h
    simpa using List.mem_takeWhile_imp (List.mem_reverse.mp h)
  have hfirst := List.head?_dropWhile_not (· != sep) s.reverse
  unfold splitLast
  dsimp only
  cases hd : s.reverse.dropWhile (· != sep) with
  | nil =>
    rw [hd, List.append_nil] at hs
    rw [hs, List.reverse_reverse] at hname ⊢
    exact .inl ⟨hname, rfl⟩
  | cons c head =>
    rw [hd] at hs hfirst
    obtain rfl : c = sep := by simpa using hfirst
    refine .inr ⟨head.reverse, _, ?_, hname, rfl⟩
    rw [← List.reverse_inj]
    simpa using hs.symm

/-- The text of a folder part. The drive alone, and nothing, stand for the top of the tree. -/
def folderText (head : List Char) : String :=
  if head.isEmpty || head == ['C', ':'] || head == ['c', ':'] then String.singleton sep
  else String.ofList head

theorem splitParent_eq (path : String) :
    let whole := (normalize path).toList
    let bare := dropTrailing (· == sep) whole
    splitParent path =
      match splitLast (if bare.isEmpty then whole else bare) with
      | (none, name) => (none, String.ofList name)
      | (some head, name) => (some (folderText head), String.ofList name) := by
  unfold splitParent
  dsimp only
  rcases splitLast _ with ⟨_ | head, name⟩ <;> rfl

/-- Separators alone have no name after them. -/
theorem name_splitLast_replicate (k : Nat) : (splitLast (List.replicate k sep)).2 = [] := by
  rcases splitLast_cases (List.replicate k sep) with ⟨hmem, hs⟩ | ⟨head, name, heq, hmem, hs⟩
  · rw [hs]
    cases k with
    | zero => rfl
    | succ k => simp at hmem
  · rw [hs]
    cases name with
    | nil => rfl
    | cons c rest =>
      have hc : c ∈ List.replicate k sep := by simp [heq]
      simp [List.eq_of_mem_replicate hc] at hmem

/-- A path is a name, or a folder part, a separator and a name, with separators after it. -/
theorem splitParent_cases (path : String) (h : (splitParent path).2 ≠ "") :
    ∃ name k, name ≠ [] ∧ sep ∉ name ∧ ((normalize path).toList = name ++ List.replicate k sep ∧
        splitParent path = (none, String.ofList name) ∨
      ∃ head, (normalize path).toList = head ++ sep :: (name ++ List.replicate k sep) ∧
        splitParent path = (some (folderText head), String.ofList name)) := by
  have hsplit := splitParent_eq path
  dsimp only at hsplit
  obtain ⟨k, hk⟩ := dropTrailing_append (normalize path).toList
  obtain ⟨bare, hbare⟩ : ∃ bare, bare = dropTrailing (· == sep) (normalize path).toList := ⟨_, rfl⟩
  rw [← hbare] at hk hsplit
  have hne : bare ≠ [] := by
    rintro rfl
    rw [List.nil_append] at hk
    rw [hk] at hsplit
    have hname := name_splitLast_replicate k
    rcases hs : splitLast (List.replicate k sep) with ⟨_ | head, name⟩
    all_goals
      rw [hs] at hname
      subst hname
      exact h (by simp [hsplit, hs])
  rw [if_neg (by simpa using hne)] at hsplit
  rcases splitLast_cases bare with ⟨hmem, hs⟩ | ⟨head, name, heq, hmem, hs⟩
  · rw [hs] at hsplit
    exact ⟨bare, k, hne, hmem, .inl ⟨hk, hsplit⟩⟩
  · rw [hs] at hsplit
    refine ⟨name, k, ?_, hmem, .inr ⟨head, ?_, hsplit⟩⟩
    · rintro rfl
      exact h (by rw [hsplit])
    · rw [hk, heq]
      simp

/-! ## Both ways of reading a path -/

theorem slash_not_mem_normalize (path : String) : '/' ∉ (normalize path).toList := by
  unfold normalize
  rw [String.toList_ofList, List.mem_map]
  rintro ⟨c, -, hc⟩
  unfold normalizeChar at hc
  split at hc
  · exact absurd hc (by decide)
  · contradiction

theorem normalize_ofList (h : '/' ∉ s) : normalize (String.ofList s) = String.ofList s := by
  unfold normalize
  rw [String.toList_ofList]
  congr 1
  refine (List.map_congr_left fun c hc => ?_).trans s.map_id
  unfold normalizeChar
  rw [if_neg]
  · rfl
  · rintro rfl
    exact h hc

theorem normalize_eq_self {path : String} (h : '/' ∉ path.toList) : normalize path = path := by
  have hnorm := normalize_ofList h
  rwa [String.ofList_toList] at hnorm

theorem normalize_normalize (path : String) : normalize (normalize path) = normalize path :=
  normalize_eq_self (slash_not_mem_normalize path)

theorem startsWithDrive_eq (s : List Char) : startsWithDrive s =
    (s[1]? == some ':' && (s[0]? == some 'C' || s[0]? == some 'c')) := by
  rcases s with _ | ⟨c, _ | ⟨d, rest⟩⟩
  · rfl
  · simp [startsWithDrive]
  · by_cases hd : d = ':' <;> simp [startsWithDrive, hd]

theorem isAbsoluteList_eq (s : List Char) : isAbsoluteList s =
    (s[0]? == some sep || (startsWithDrive s && s[2]? == some sep)) := by
  rw [startsWithDrive_eq]
  rcases s with _ | ⟨c, rest⟩
  · rfl
  · by_cases hc : c = '\\'
    · subst hc
      simp [isAbsoluteList, sep]
    · rcases rest with _ | ⟨d, _ | ⟨e, rest⟩⟩
      · simp [isAbsoluteList, hc, sep]
      · simp [isAbsoluteList, hc, sep]
      · by_cases hd : d = ':' <;> by_cases he : e = '\\' <;> simp [isAbsoluteList, hc, hd, he, sep]

theorem startsWithDrive_append (a b : List Char) :
    startsWithDrive (a ++ sep :: b) = startsWithDrive a := by
  rw [startsWithDrive_eq, startsWithDrive_eq]
  rcases a with _ | ⟨c, _ | ⟨d, rest⟩⟩ <;> simp [sep]

theorem segments_dropDrive_append (a b : List Char) :
    segments (dropDrive (String.ofList (a ++ sep :: b))) =
      segments (dropDrive (String.ofList a)) ++ segments (String.ofList b) := by
  unfold dropDrive
  simp only [String.toList_ofList, startsWithDrive_append]
  split
  · next h =>
    have hdrop : (a ++ sep :: b).drop 2 = a.drop 2 ++ sep :: b := by
      rcases a with _ | ⟨c, _ | ⟨d, rest⟩⟩
      · cases h
      · cases h
      · rfl
    rw [hdrop, segments_append_sep]
  · rw [segments_append_sep]

theorem isAbsoluteList_append (hne : a ≠ []) (hC : a ≠ ['C', ':']) (hc : a ≠ ['c', ':'])
    (b : List Char) : isAbsoluteList (a ++ sep :: b) = isAbsoluteList a := by
  rw [isAbsoluteList_eq, isAbsoluteList_eq, startsWithDrive_append]
  rcases a with _ | ⟨c, _ | ⟨d, _ | ⟨e, rest⟩⟩⟩
  · exact absurd rfl hne
  · simp [startsWithDrive]
  · have hdrive : startsWithDrive [c, d] = false := by
      by_cases hd : d = ':'
      · subst hd
        simpa [startsWithDrive] using And.intro hC hc
      · simp [startsWithDrive, hd]
    simp [hdrive]
  · simp

theorem isAbsolute_folderText (head : List Char) (h : '/' ∉ head) (b : List Char) :
    isAbsolute (folderText head) = isAbsoluteList (head ++ sep :: b) := by
  unfold folderText
  split
  · next htop =>
    have htop : (head = [] ∨ head = ['C', ':']) ∨ head = ['c', ':'] := by simpa using htop
    rcases htop with (rfl | rfl) | rfl <;> rfl
  · next htop =>
    have htop : (head ≠ [] ∧ head ≠ ['C', ':']) ∧ head ≠ ['c', ':'] := by simpa using htop
    rw [isAbsoluteList_append htop.1.1 htop.1.2 htop.2]
    unfold isAbsolute
    rw [normalize_ofList h, String.toList_ofList]

theorem segments_dropDrive_folderText (head : List Char) (h : '/' ∉ head) :
    segments (dropDrive (normalize (folderText head))) =
      segments (dropDrive (String.ofList head)) := by
  unfold folderText
  split
  · next htop =>
    have htop : (head = [] ∨ head = ['C', ':']) ∨ head = ['c', ':'] := by simpa using htop
    rcases htop with (rfl | rfl) | rfl <;> decide
  · rw [normalize_ofList h]

theorem folderText_ne (head : List Char) : folderText head ≠ "" := by
  unfold folderText
  split
  · decide
  · next htop =>
    intro he
    simp_all

/-- A folder part that is not the top of the tree stands as it is. -/
theorem folderText_of_relative (h : isAbsolute (folderText s) = false) :
    folderText s = String.ofList s := by
  unfold folderText at h ⊢
  rw [if_neg]
  intro htop
  rw [if_pos htop] at h
  cases h

/-- A name alone, with separators after it, makes an absolute path only as the drive. -/
theorem segments_dropDrive_name (hs : sep ∉ s) (hne : s ≠ []) {k : Nat}
    (h : isAbsoluteList (s ++ List.replicate k sep) = true) :
    segments (dropDrive (String.ofList (s ++ List.replicate k sep))) = [] := by
  rw [isAbsoluteList_eq] at h
  unfold dropDrive
  rw [String.toList_ofList]
  rcases s with _ | ⟨c, rest⟩
  · exact absurd rfl hne
  · have hc : c ≠ sep := fun hc => hs (hc ▸ List.mem_cons_self)
    rcases rest with _ | ⟨d, _ | ⟨e, rest⟩⟩
    · have hdrive : startsWithDrive ([c] ++ List.replicate k sep) = false := by
        rw [startsWithDrive_eq]
        cases k <;> simp [List.replicate_succ, sep]
      rw [hdrive, Bool.false_and, Bool.or_false] at h
      simp [hc] at h
    · have hdrive : startsWithDrive ([c, d] ++ List.replicate k sep) = true := by
        simp only [List.cons_append, List.getElem?_cons_zero, Bool.or_eq_true, beq_iff_eq,
          Option.some.injEq, hc, false_or, Bool.and_eq_true] at h
        exact h.1
      rw [if_pos hdrive]
      exact segments_replicate k
    · have he : e ≠ sep := by
        rintro rfl
        simp at hs
      simp [hc, he] at h

/-- A bare name is the only segment of its path. Only the drive is a bare name of an absolute path,
and there it is no segment. -/
theorem segments_of_bare (h : splitParent path = (none, name)) (hne : name ≠ "") :
    isAbsolute path = false ∧ segments (normalize path) = [name] ∨
      isAbsolute path = true ∧ segments (dropDrive (normalize path)) = [] := by
  obtain ⟨last, k, hlast, hmem, ⟨hpath, hsplit⟩ | ⟨head, -, hsplit⟩⟩ :=
    splitParent_cases path (by rwa [h])
  · rw [h] at hsplit
    obtain ⟨-, rfl⟩ := Prod.mk.inj hsplit
    have hnorm : normalize path = String.ofList (last ++ List.replicate k sep) := by
      rw [← hpath, String.ofList_toList]
    cases habs : isAbsolute path with
    | false => exact .inl ⟨rfl, by rw [hnorm, segments_name hmem hlast]⟩
    | true =>
      refine .inr ⟨rfl, ?_⟩
      rw [isAbsolute, hpath] at habs
      rw [hnorm, segments_dropDrive_name hmem hlast habs]
  · rw [h] at hsplit
    cases hsplit

/-- The segments of a path are those of its folder part and the last name. The folder part is
absolute if the path is. -/
theorem segments_of_folder (h : splitParent path = (some head, name)) (hne : name ≠ "") :
    head ≠ "" ∧ isAbsolute head = isAbsolute path ∧
      (isAbsolute path = false → segments (normalize path) = segments (normalize head) ++ [name]) ∧
      segments (dropDrive (normalize path)) = segments (dropDrive (normalize head)) ++ [name] := by
  obtain ⟨last, k, hlast, hmem, ⟨-, hsplit⟩ | ⟨folder, hpath, hsplit⟩⟩ :=
    splitParent_cases path (by rwa [h])
  · rw [h] at hsplit
    cases hsplit
  · rw [h] at hsplit
    obtain ⟨hhead, rfl⟩ := Prod.mk.inj hsplit
    obtain rfl := Option.some.inj hhead
    have hnorm : normalize path =
        String.ofList (folder ++ sep :: (last ++ List.replicate k sep)) := by
      rw [← hpath, String.ofList_toList]
    have hslash : '/' ∉ folder := fun hs => slash_not_mem_normalize path (by rw [hpath]; simp [hs])
    have habs : isAbsolute (folderText folder) = isAbsolute path := by
      rw [isAbsolute_folderText folder hslash, ← hpath]
      rfl
    refine ⟨folderText_ne folder, habs, fun hrel => ?_, ?_⟩
    · rw [hnorm, segments_append_sep, segments_name hmem hlast,
        folderText_of_relative (habs.trans hrel), normalize_ofList hslash]
    · rw [hnorm, segments_dropDrive_append, segments_name hmem hlast,
        segments_dropDrive_folderText folder hslash]

end DeskShell.Path

import DeskShell.Proofs.Places
import Mathlib.Data.List.TakeWhile

/-!
# The paths of entries

The displayed path of an entry is its trail: the drive, then the names from the top down to it.
Names hold no separator, so a path says what the trail is.

* `Path.Bare`: names without separators. Every name that is cut off a path is one.
* `Store.trail`: the parts of the path of an entry; `Store.pieces_display_trail` finds them again in
  the text.
* `Store.OnlyAt.trail_eq`: a change at one entry leaves the trails of all entries that are not below
  it.
* `Store.Trace.path_eq`: quiet steps leave the paths of folders.
-/
namespace DeskShell

open Relation (ReflTransGen)

/-! ## Names on paths -/

namespace Text

theorem notMem_of_mem_splitOn {sep : Char} : ∀ {s piece : List Char}, piece ∈ s.splitOn sep →
    sep ∉ piece
  | [], piece, h => by
    rw [List.splitOn_nil, List.mem_singleton] at h
    simp [h]
  | c :: s, piece, h => by
    rw [List.splitOn_cons_eq_if_modifyHead] at h
    split at h
    · rcases List.mem_cons.mp h with rfl | h
      · exact List.not_mem_nil
      · exact notMem_of_mem_splitOn h
    · next hc =>
      obtain ⟨first, others, hs⟩ := List.exists_cons_of_ne_nil (List.splitOn_ne_nil sep s)
      have hpieces {p : List Char} (hp : p ∈ first :: others) : sep ∉ p :=
        notMem_of_mem_splitOn (hs ▸ hp)
      rw [hs, List.modifyHead_cons] at h
      rcases List.mem_cons.mp h with rfl | h
      · have hne : sep ≠ c := fun he => hc (by simp [he])
        simp [hne, hpieces List.mem_cons_self]
      · exact hpieces (List.mem_cons_of_mem first h)

/-- The pieces of a text do not hold the character that it is cut at. -/
theorem notMem_of_mem_pieces {sep : Char} {s piece : String} (h : piece ∈ pieces sep s) :
    sep ∉ piece.toList := by
  obtain ⟨chars, hchars, rfl⟩ := List.mem_map.mp h
  rw [String.toList_ofList]
  exact notMem_of_mem_splitOn hchars

/-- Joined parts have no other characters than the parts and the separator. -/
theorem mem_glue_iff {sep c : Char} (hne : c ≠ sep) :
    ∀ parts : List String, c ∈ (glue sep parts).toList ↔ ∃ p ∈ parts, c ∈ p.toList
  | [] => by simp [glue]
  | [p] => by simp [glue]
  | p :: q :: parts => by
    have hcons : glue sep (p :: q :: parts) = p ++ String.singleton sep ++ glue sep (q :: parts) :=
      String.intercalate_cons_cons
    rw [hcons, String.toList_append, String.toList_append, List.mem_append, List.mem_append,
      mem_glue_iff hne (q :: parts)]
    simp [hne]

/-- Parts without the separator are the pieces of the text that they make. -/
theorem pieces_glue {sep : Char} {parts : List String} (hne : parts ≠ [])
    (h : ∀ p ∈ parts, sep ∉ p.toList) : pieces sep (glue sep parts) = parts := by
  unfold pieces
  rw [toList_glue, List.splitOn_intercalate sep]
  · simp [Function.comp_def]
  · intro l hl
    obtain ⟨p, hp, rfl⟩ := List.mem_map.mp hl
    exact h p hp
  · simpa using hne

end Text

namespace Path

def Bare (name : String) : Prop := sep ∉ name.toList

instance (name : String) : Decidable (Bare name) := inferInstanceAs (Decidable (sep ∉ name.toList))

/-- Names without separators are the segments of the path that they make. -/
theorem segments_display_of_bare {names : List String} (hne : names ≠ [])
    (h : ∀ name ∈ names, name ≠ "" ∧ Bare name) : segments (display names) = names := by
  unfold segments display
  rw [Text.pieces_glue hne fun name hname => (h name hname).2, List.filter_eq_self]
  intro name hname
  simpa using (h name hname).1

theorem not_mem_splitLast (s : List Char) : sep ∉ (splitLast s).2 := by
  have hname : (splitLast s).2 = (s.reverse.takeWhile (· != sep)).reverse := by
    unfold splitLast
    dsimp only
    split <;> rfl
  rw [hname, List.mem_reverse]
  intro h
  simpa using List.mem_takeWhile_imp h

/-- The last name on a path is without separators. -/
theorem bare_splitParent (path : String) : Bare (splitParent path).2 := by
  unfold Bare splitParent
  dsimp only
  split <;> simpa using not_mem_splitLast _

end Path

namespace Store

variable {s t : Store} {home x : String}

/-! ## Trails -/

/-- The drive and the names from the top down to the entry `n`. -/
def trail (s : Store) (n : Node) : List String :=
  Path.drive :: ((n :: s.ancestors n.id).reverse.map (·.name))

theorem path_of_get? {n : Node} (hn : s.get? x = some n) :
    s.path x = .ok (Path.display (s.trail n)) := by
  obtain rfl := id_of_get? hn
  unfold path trail
  rw [require_eq_ok.mpr hn]

theorem length_trail (s : Store) (n : Node) :
    (s.trail n).length = (s.ancestors n.id).length + 2 := by
  simp [trail]

theorem trail_of_root {n : Node} (h : s.parent? n.id = none) :
    s.trail n = [Path.drive, n.name] := by
  unfold trail
  rw [Forest.ancestors_of_root h]
  rfl

/-- The trail of an entry is that of its parent and one more name. -/
theorem trail_of_parent (F : Forest s) {n p : Node} (h : s.parent? n.id = some p) :
    s.trail n = s.trail p ++ [n.name] := by
  unfold trail
  rw [F.ancestors_of_parent h]
  simp

theorem trail_of_childNamed (F : Forest s) {n child : Node} {name : String}
    (hn : s.get? n.id = some n) (h : s.childNamed n.id name = some child) :
    s.trail child = s.trail n ++ [child.name] := by
  obtain ⟨⟨m, hm, hc⟩, -⟩ := childNamed_eq_some h
  obtain rfl := Option.some.inj (hn.symm.trans hm)
  exact trail_of_parent F (F.parent?_of_lists hn hc)

theorem bare_trail (F : Forest s) (hs : s.Named Path.Bare) {n : Node} (hn : s.get? n.id = some n) :
    ∀ part ∈ s.trail n, Path.Bare part := by
  intro part hpart
  rcases List.mem_cons.mp hpart with rfl | hpart
  · decide
  · obtain ⟨m, hm, rfl⟩ := List.mem_map.mp hpart
    rcases List.mem_cons.mp (List.mem_reverse.mp hm) with rfl | hm
    · exact hs _ (mem_nodes_of_get? hn)
    · exact hs m (mem_nodes_of_get? (F.below_of_mem_climb _ _ hm).1)

/-- The parts of the displayed path of an entry can be told from the text. -/
theorem pieces_display_trail (F : Forest s) (hs : s.Named Path.Bare) {n : Node}
    (hn : s.get? n.id = some n) : Text.pieces Path.sep (Path.display (s.trail n)) = s.trail n :=
  Text.pieces_glue (by simp [trail]) (bare_trail F hs hn)

/-! ## What keeps trails -/

/-- A change of the entry `c` leaves the trail of an entry that it is not above. -/
theorem OnlyAt.trail_eq {c : String} (h : OnlyAt c s t) (Fs : Forest s) (Ft : Forest t) {m n : Node}
    (hm : s.get? m.id = some m) (hn : t.get? m.id = some n)
    (hc : ¬ ReflTransGen s.Lists c m.id) : t.trail n = s.trail m := by
  have hmc : m.id ≠ c := fun he => hc (he ▸ .refl)
  have hid : n.id = m.id := id_of_get? hn
  have hname : m.name = n.name := by
    obtain ⟨k, hk, hname, -⟩ := get?_of_look (h.look m.id hmc) hn
    obtain rfl := Option.some.inj (hm.symm.trans hk)
    exact hname
  cases hp : s.parent? m.id with
  | none =>
    have hp' : t.parent? n.id = none := by
      rw [hid, parent?_eq_none_iff Ft.distinct]
      intro p hl
      exact (parent?_eq_none_iff Fs.distinct).mp hp p ((h.edges p m.id hmc).mp hl)
    rw [trail_of_root hp, trail_of_root hp', hname]
  | some p =>
    obtain ⟨hpg, hpc⟩ := Fs.parent?_eq_some_iff.mp hp
    obtain ⟨q, hq, hqc⟩ := (h.edges p.id m.id hmc).mpr ⟨p, hpg, hpc⟩
    have hp' : t.parent? n.id = some q := by
      rw [hid]
      exact Ft.parent?_of_lists hq hqc
    have ih := trail_eq h Fs Ft hpg hq fun hcp => hc (hcp.tail ⟨p, hpg, hpc⟩)
    rw [trail_of_parent Fs hp, trail_of_parent Ft hp', ih, hname]
termination_by (s.ancestors m.id).length
decreasing_by
  rw [Fs.ancestors_of_parent hp]
  simp

/-- Paths do not depend on the supply of ids. -/
theorem path_counter (s : Store) (number : Nat) (x : String) :
    ({ s with counter := number } : Store).path x = s.path x := by
  have hclimb : ∀ fuel id,
      ({ s with counter := number } : Store).climb fuel id = s.climb fuel id := by
    intro fuel
    induction fuel with
    | zero => exact fun _ => rfl
    | succ fuel ih =>
      intro id
      unfold climb
      simp only [ih]
      rfl
  unfold path ancestors
  rw [hclimb]
  rfl

variable {N : String → Prop} {k : Change}

/-- A quiet step leaves the path of a folder, since what it changes is no folder. -/
theorem Step.path_eq (h : Step N k s t) (hk : k.Quiet) (S : s.Sound home) (hx : s.HasDir x) :
    t.path x = s.path x := by
  rcases h.safe S with ⟨c, hc, hquiet⟩ | ⟨number, rfl⟩
  · have hcd := hquiet hk
    obtain ⟨n, hn, -⟩ := hc.hasDir hx
    obtain ⟨m, hm, hd⟩ := hx
    obtain rfl := id_of_get? hm
    rw [path_of_get? hm, path_of_get? hn, hc.trail_eq S.toForest hc.forest hm hn]
    intro habove
    rcases Relation.ReflTransGen.cases_head habove with rfl | ⟨y, hy, -⟩
    · exact hcd ⟨m, hm, hd⟩
    · exact hcd (S.hasDir_of_lists hy)
  · exact path_counter s number x

theorem Trace.path_eq (h : Trace N Change.Quiet s t) (S : s.Sound home) (hx : s.HasDir x) :
    t.path x = s.path x := by
  have hkeep : t.Sound home ∧ t.HasDir x ∧ t.path x = s.path x := by
    refine h.preserves (P := fun u => u.Sound home ∧ u.HasDir x ∧ u.path x = s.path x)
      (fun c u v hc huv ⟨hu, hux, hpath⟩ => ?_) ⟨S, hx, rfl⟩
    exact ⟨huv.sound hu, huv.hasDir hu hux, (huv.path_eq hc hu hux).trans hpath⟩
  exact hkeep.2.2

end Store
end DeskShell

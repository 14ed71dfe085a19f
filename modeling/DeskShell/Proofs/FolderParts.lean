import DeskShell.Proofs.Renaming

/-!
# Paths and their folder parts

To resolve a path is to resolve its folder part and to look for a child of the last name there: both
give the same entry, none, or the same fault. The last name has to be an ordinary one, and the path
has to pass a name below the top of the tree.

* `Store.follow_concat`, `Session.ids_followShown_concat`: the last step of a way from the top and
  of a way from the working folder.
* `Session.ids_resolveAbsolute`: an absolute path is followed from the top, and what is found there
  always has a path to be shown by.
* `Session.NamesTop`: the absolute paths that pass no name below the top. They lead there.
* `Session.resolve_eq_child`: the two ways to read a path.
-/
namespace DeskShell

variable {C : Type} {s : Store} {σ : Session C} {path name : String}

/-! ## Ways from the top -/

namespace Store

theorem has_of_mem {n : Node} (h : n ∈ s.nodes) : s.has n.id = true :=
  List.any_eq_true.mpr ⟨n, h, by simp⟩

/-- A way that ends in an ordinary name ends with a step down to a child of that name. -/
theorem follow_concat (hplain : name ≠ "." ∧ name ≠ "..") (here : Node) (xs : List String) :
    s.follow here (xs ++ [name]) =
      (s.follow here xs).bind fun n => s.childNamed n.id name := by
  fun_induction s.follow here xs with
  | case1 here =>
    rw [List.nil_append, follow, if_neg hplain.1, if_neg hplain.2, Option.bind_some]
    cases s.childNamed here.id name <;> rfl
  | case2 here parts ih => rw [List.cons_append, follow, if_pos rfl, ih]
  | case3 here parts hdot ih => rw [List.cons_append, follow, if_neg hdot, if_pos rfl, ih]
  | case4 here part parts hdot hup hnone =>
    rw [List.cons_append, follow, if_neg hdot, if_neg hup, hnone]
    rfl
  | case5 here part parts hdot hup child hchild ih =>
    rw [List.cons_append, follow, if_neg hdot, if_neg hup, hchild]
    exact ih

/-- A way from a stored entry leads to stored entries, also where ids are listed that are not
stored. -/
theorem has_of_follow {xs : List String} {here n : Node} (hs : s.has here.id = true)
    (h : s.follow here xs = some n) : s.has n.id = true := by
  fun_induction s.follow here xs with
  | case1 here =>
    obtain rfl := Option.some.inj h
    exact hs
  | case2 here parts ih => exact ih hs h
  | case3 here parts hdot ih =>
    refine ih ?_ h
    cases hp : s.parent? here.id with
    | none => exact hs
    | some p => exact has_of_mem (List.mem_of_find?_eq_some hp)
  | case4 here part parts hdot hup hnone => cases h
  | case5 here part parts hdot hup child hchild ih =>
    exact ih (has_of_get? (childNamed_eq_some hchild).2.1) h

end Store

namespace Session

open Store

/-- The absolute path is the drive alone, or nothing but the name of the root. -/
def NamesTop (s : Store) (path : String) : Prop :=
  Path.isAbsolute path = true ∧
    (Path.segments (Path.dropDrive (Path.normalize path)) = [] ∨
      ∃ root name, s.get? s.rootId = some root ∧ Text.lower name = Text.lower root.name ∧
        Path.segments (Path.dropDrive (Path.normalize path)) = [name])

/-- A path that passes no name below the top leads to the top. -/
theorem id_of_namesTop {place : Place} (h : σ.resolve (some path) = .ok (some place))
    (htop : NamesTop σ.store path) : place.id = σ.store.rootId := by
  obtain ⟨habs, htop⟩ := htop
  obtain ⟨root, n, hroot, hn, hid, -⟩ := (leadsTo_absolute_iff habs).mp ⟨place, h, rfl⟩
  have hway : wayOf root path = [] := by
    unfold wayOf
    rcases htop with hsegs | ⟨root', name, hroot', hname, hsegs⟩
    · rw [hsegs]
      rfl
    · obtain rfl := Option.some.inj (hroot.symm.trans hroot')
      rw [hsegs, Store.way, if_pos (Text.sameName_iff.mpr hname)]
  rw [hway] at hn
  obtain rfl := Option.some.inj hn
  exact hid.symm.trans (Store.id_of_get? hroot)

/-- What is followed for a path that passes a name below the top ends with its last name. -/
theorem wayOf_concat {root : Node} {segs : List String} (hroot : s.get? s.rootId = some root)
    (habs : Path.isAbsolute path = true) (htop : ¬ NamesTop s path)
    (hsegs : Path.segments (Path.dropDrive (Path.normalize path)) = segs ++ [name]) :
    wayOf root path = way root.name segs ++ [name] := by
  unfold wayOf
  rw [hsegs]
  refine (way_append _ _ _).resolve_right fun hnil => htop ⟨habs, .inr ?_⟩
  cases segs with
  | nil =>
    rw [List.nil_append, way] at hnil
    split at hnil
    · next hsame => exact ⟨root, name, hroot, Text.sameName_iff.mp hsame, hsegs⟩
    · cases hnil
  | cons first rest =>
    rw [List.cons_append, way] at hnil
    split at hnil <;> simp at hnil

/-- An absolute path is followed from the root, and stops with a fault only without a root. -/
theorem ids_resolveAbsolute (s : Store) (path : String) :
    (resolveAbsolute s (Path.normalize path)).map (Option.map Place.id) =
      match s.get? s.rootId with
      | none => .error (.missing s.rootId)
      | some root => .ok ((s.follow root (wayOf root path)).map Node.id) := by
  unfold resolveAbsolute
  cases hroot : s.get? s.rootId with
  | none => simp [find, hroot, Except.map]
  | some root =>
    rw [find_eq hroot, Path.normalize_normalize]
    dsimp only
    change _ = Except.ok ((s.follow root (way root.name _)).map Node.id)
    cases hn : s.follow root
        (way root.name (Path.segments (Path.dropDrive (Path.normalize path)))) with
    | none => rfl
    | some n =>
      have hs : s.has root.id = true := has_of_mem (mem_nodes_of_get? hroot)
      obtain ⟨m, hm⟩ := has_iff.mp (has_of_follow hs hn)
      dsimp only
      rw [path_of_get? hm]
      rfl

/-! ## Ways from the working folder -/

/-- A way that ends in an ordinary name ends with a step down to a child of that name, and stops
with a fault where it does so before that step. -/
theorem ids_followShown_concat (hplain : name ≠ "." ∧ name ≠ "..") (id : String)
    (parts xs : List String) : (followShown s id parts (xs ++ [name])).map (Option.map Place.id) =
      (followShown s id parts xs).map fun found =>
        ((found.map Place.id).bind (s.childNamed · name)).map Node.id := by
  fun_induction followShown s id parts xs with
  | case1 id parts =>
    rw [List.nil_append, followShown, if_neg hplain.1, if_neg hplain.2]
    cases hchild : s.childNamed id name <;> simp [followShown, hchild, Except.map]
  | case2 id parts rest ih => rw [List.cons_append, followShown, if_pos rfl, ih]
  | case3 id parts rest hp hdot ih =>
    rw [List.cons_append, followShown, if_neg hdot, if_pos rfl, hp]
    exact ih
  | case4 id parts rest p hp hempty hdot =>
    rw [List.cons_append, followShown, if_neg hdot, if_pos rfl, hp]
    dsimp only
    rw [if_pos hempty]
    rfl
  | case5 id parts rest p hp hne hdot ih =>
    rw [List.cons_append, followShown, if_neg hdot, if_pos rfl, hp]
    dsimp only
    rw [if_neg hne]
    exact ih
  | case6 id parts part rest hdot hup hnone =>
    rw [List.cons_append, followShown, if_neg hdot, if_neg hup, hnone]
    rfl
  | case7 id parts part rest hdot hup child hchild ih =>
    rw [List.cons_append, followShown, if_neg hdot, if_neg hup, hchild]
    exact ih

/-! ## The folder part and the last name -/

theorem resolveParent_bare (h : Path.splitParent path = (none, name)) :
    σ.resolveParent path = .ok (some σ.folder, name) := by
  simp only [resolveParent, h]

theorem resolveParent_folder {head : String} (h : Path.splitParent path = (some head, name)) :
    σ.resolveParent path = (σ.resolve (some head)).map fun found => (found.map Place.id, name) := by
  simp only [resolveParent, h]
  cases σ.resolve (some head) <;> rfl

/-- A path that has a folder part leads to the child of the last name there. -/
theorem ids_resolve_folder {head : String} (hsplit : Path.splitParent path = (some head, name))
    (hname : name ≠ "") (hplain : name ≠ "." ∧ name ≠ "..") (htop : ¬ NamesTop σ.store path) :
    (σ.resolve (some path)).map (Option.map Place.id) = (σ.resolve (some head)).map fun found =>
      ((found.map Place.id).bind (σ.store.childNamed · name)).map Node.id := by
  obtain ⟨hhead, habshead, hrelsegs, hsegs⟩ := Path.segments_of_folder hsplit hname
  cases habs : Path.isAbsolute path with
  | false =>
    have hne : path ≠ "" := by
      rintro rfl
      cases hsplit
    rw [resolve_relative hne habs, resolve_relative hhead (habshead.trans habs), hrelsegs habs,
      ids_followShown_concat hplain]
  | true =>
    have hcomp : ∀ x : Except Fault (Option Place), (x.map fun found =>
        ((found.map Place.id).bind (σ.store.childNamed · name)).map Node.id) =
        (x.map (Option.map Place.id)).map fun id =>
          (id.bind (σ.store.childNamed · name)).map Node.id := by
      intro x
      cases x <;> rfl
    rw [hcomp, resolve_absolute habs, resolve_absolute (habshead.trans habs),
      ids_resolveAbsolute, ids_resolveAbsolute]
    cases hroot : σ.store.get? σ.store.rootId with
    | none => rfl
    | some root =>
      have hway := wayOf_concat hroot habs htop hsegs
      change _ = Except.ok _
      dsimp only
      rw [hway, follow_concat hplain, wayOf]
      cases σ.store.follow root
        (way root.name (Path.segments (Path.dropDrive (Path.normalize head)))) <;> rfl

/-- A bare name leads to the child of the working folder that has it. -/
theorem ids_resolve_bare (hsplit : Path.splitParent path = (none, name))
    (hname : name ≠ "") (hplain : name ≠ "." ∧ name ≠ "..") (htop : ¬ NamesTop σ.store path) :
    (σ.resolve (some path)).map (Option.map Place.id) =
      .ok ((σ.store.childNamed σ.folder name).map Node.id) := by
  rcases Path.segments_of_bare hsplit hname with ⟨hrel, hsegs⟩ | ⟨habs, hsegs⟩
  · have hne : path ≠ "" := by
      rintro rfl
      cases hsegs
    have hlast := ids_followShown_concat (s := σ.store) hplain σ.folder
      (Text.pieces Path.sep σ.shown) []
    rw [List.nil_append] at hlast
    rw [resolve_relative hne hrel, hsegs, hlast]
    rfl
  · exact absurd ⟨habs, .inl hsegs⟩ htop

/-- A path that ends in an ordinary name and passes a name below the top leads to the child of that
name in the folder part of it. It leads nowhere if there is no folder part or no such child, and it
stops with a fault if and only if the folder part does, with the same one. -/
theorem resolve_eq_child (σ : Session C) (path : String)
    (hlast : (Path.splitParent path).2 ∉ ["", ".", ".."]) (htop : ¬ NamesTop σ.store path) :
    (σ.resolve (some path)).map (Option.map Place.id) =
      (σ.resolveParent path).map fun (folder, name) =>
        (folder.bind (σ.store.childNamed · name)).map Node.id := by
  obtain ⟨hname, hdot, hdots⟩ : _ ≠ "" ∧ _ ≠ "." ∧ _ ≠ ".." := by simpa using hlast
  rcases hsplit : Path.splitParent path with ⟨_ | head, name⟩
  all_goals
    rw [hsplit] at hname hdot hdots
  · rw [resolveParent_bare hsplit, ids_resolve_bare hsplit hname ⟨hdot, hdots⟩ htop]
    rfl
  · rw [resolveParent_folder hsplit, ids_resolve_folder hsplit hname ⟨hdot, hdots⟩ htop]
    cases σ.resolve (some head) <;> rfl

end Session

namespace Desktop

open Session (NamesTop Place)

/-- A file in a folder of a fresh desktop, by a path with the drive, both slashes and other case. -/
theorem resolve_eq_child_project : ∃ σ, session {} 0 (fun _ => .unset) = .ok σ ∧
    let path := "c:/desktop//My Projects\\PROJECT ALPHA/"
    (Path.splitParent path).2 ∉ ["", ".", ".."] ∧ ¬ NamesTop σ.store path ∧
      σ.resolveParent path = .ok (some "projects", "PROJECT ALPHA") ∧
      (σ.resolve (some path)).map (Option.map Place.id) = .ok (some "project-1") := by
  have hrun : (session {} 0 fun _ => .unset).map (fun σ =>
      (σ.resolveParent "c:/desktop//My Projects\\PROJECT ALPHA/",
        (σ.store.childNamed "projects" "PROJECT ALPHA").map Node.id)) =
      .ok (.ok (some "projects", "PROJECT ALPHA"), some "project-1") := by
    decide +kernel
  obtain ⟨σ, hσ, -⟩ := exists_session {} 0 fun _ => .unset
  have hrun := eq_of_session hσ hrun
  simp only [Prod.mk.injEq] at hrun
  obtain ⟨hparent, hchild⟩ := hrun
  have hlast : (Path.splitParent "c:/desktop//My Projects\\PROJECT ALPHA/").2 ∉ ["", ".", ".."] := by
    decide
  have hsegs : Path.segments (Path.dropDrive (Path.normalize
      "c:/desktop//My Projects\\PROJECT ALPHA/")) = ["desktop", "My Projects", "PROJECT ALPHA"] := by
    decide
  have htop : ¬ NamesTop σ.store "c:/desktop//My Projects\\PROJECT ALPHA/" := by
    rintro ⟨-, hnil | ⟨root, name, -, -, hone⟩⟩
    · rw [hsegs] at hnil
      cases hnil
    · rw [hsegs] at hone
      cases hone
  refine ⟨σ, hσ, hlast, htop, hparent, ?_⟩
  rw [σ.resolve_eq_child _ hlast htop, hparent]
  exact congrArg Except.ok hchild

end Desktop
end DeskShell

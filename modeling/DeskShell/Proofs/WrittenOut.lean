import DeskShell.Proofs.Addresses
import DeskShell.Proofs.Resolving

/-!
# Relative paths written out

A relative path is followed from the working folder, and the path to display is kept along the way.
An absolute path is followed from the root, and the path to display is made on the way back up. When
the displayed path of the working folder stands in front of a relative path, both come to the same.

* `Path.segments_dropDrive_join`: the segments of the whole are those of its two parts.
* `Session.resolveAbsolute_eq`: what an absolute path comes to that leads past an entry.
* `Session.resolve_written_out`: a relative path and the path written out are resolved to the same
  place, or both to none.
-/
namespace DeskShell

variable {C : Type} {σ : Session C}

namespace Path

theorem segments_dropDrive_join (a b : String) :
    segments (dropDrive (normalize (a ++ "\\" ++ b))) =
      segments (dropDrive (normalize a)) ++ segments (normalize b) := by
  have hlist : normalize (a ++ "\\" ++ b) =
      String.ofList ((normalize a).toList ++ sep :: (normalize b).toList) := by
    rw [normalize_append, normalize_append, ← String.toList_inj]
    simp only [String.toList_append, String.toList_ofList, List.append_assoc]
    rfl
  rw [hlist, segments_dropDrive_append, String.ofList_toList, String.ofList_toList]

/-- A path that begins with the drive and a name is absolute. -/
theorem isAbsolute_display (name : String) (names : List String) (rest : String) :
    isAbsolute (display (drive :: name :: names) ++ rest) = true := by
  have hcons : display (drive :: name :: names) = drive ++ "\\" ++ display (name :: names) :=
    String.intercalate_cons_cons
  have hlist : (normalize (display (drive :: name :: names) ++ rest)).toList =
      'C' :: ':' :: '\\' :: (normalize (display (name :: names) ++ rest)).toList := by
    rw [hcons, String.append_assoc, normalize_append, normalize_append, String.toList_append,
      String.toList_append]
    rfl
  unfold isAbsolute
  rw [hlist]
  rfl

end Path

namespace Session

open Store

/-- An absolute path that goes on from the entry `n` leads where its further names lead from there,
and the place is shown by the trail of the entry that is found. -/
theorem resolveAbsolute_eq {s : Store} (F : Forest s) {n : Node} (hn : s.get? n.id = some n)
    {path : String} {segs : List String} (h : s.find path = .ok (s.follow n segs)) :
    resolveAbsolute s path =
      .ok ((s.follow n segs).map fun m => ⟨m.id, Path.display (s.trail m)⟩) := by
  unfold resolveAbsolute
  rw [h]
  cases hm : s.follow n segs with
  | none => rfl
  | some m =>
    have hpath := path_of_get? (get?_follow F hn hm)
    dsimp only
    rw [hpath]
    rfl

/-- The displayed path of a folder with an address can be cut into its trail again. -/
theorem pieces_display_route {s : Store} {root n : Node} {names : List String}
    (R : s.Route root n names) :
    Text.pieces Path.sep (Path.display (s.trail n)) = s.trail n := by
  refine Text.pieces_glue (List.cons_ne_nil _ _) fun part hpart => ?_
  rw [R.trail] at hpart
  rcases List.mem_cons.mp hpart with rfl | hpart
  · decide
  · exact (R.plain part hpart).bare

/-- In a forest whose root has no parent, from a working folder that can be addressed and whose
displayed path is right, a relative path and the same path behind the displayed path are resolved
to the same place with the same path to display, or both lead nowhere. -/
theorem resolve_written_out (F : Forest σ.store)
    (hroot : σ.store.Parentless σ.store.rootId) (hfolder : σ.store.Addressed σ.folder)
    (hshown : σ.InSync) {path : String} (hne : path ≠ "")
    (hrel : Path.isAbsolute path = false) :
    ∃ found, σ.resolve (some path) = .ok found ∧
      σ.resolve (some (σ.shown ++ "\\" ++ path)) = .ok found := by
  obtain ⟨root, n, names, R, hid⟩ := hfolder.exists_route F hroot
  have htext : σ.shown = Path.display (σ.store.trail n) := by
    unfold InSync at hshown
    rw [← hid, path_of_get? R.stored] at hshown
    exact (Except.ok.inj hshown).symm
  have hrelative : σ.resolve (some path) =
      .ok ((σ.store.follow n (Path.segments (Path.normalize path))).map
        fun m => ⟨m.id, Path.display (σ.store.trail m)⟩) := by
    rw [resolve_relative hne hrel, htext, pieces_display_route R, ← hid]
    exact followShown_trail F _ R.stored
  have habs : Path.isAbsolute (σ.shown ++ "\\" ++ path) = true := by
    rw [htext, R.trail, String.append_assoc]
    exact Path.isAbsolute_display root.name names _
  have hsegs : Path.segments (Path.dropDrive (Path.normalize (σ.shown ++ "\\" ++ path))) =
      root.name :: names ++ Path.segments (Path.normalize path) := by
    rw [Path.segments_dropDrive_join, htext, R.trail,
      Path.segments_dropDrive_display (.inr rfl) R.plain]
  refine ⟨_, hrelative, ?_⟩
  rw [resolve_absolute habs]
  refine resolveAbsolute_eq F R.stored (R.find_eq ?_)
  rw [Path.normalize_normalize, hsegs]

end Session

/-- From a folder of the delivered desktop up and down again, in another case. -/
theorem Desktop.resolve_written_out_projects : ∃ s, store 0 = .ok s ∧
    let σ : Session Builtin.Program := {
      store := s, home := rootId, folder := "projects", shown := "C:\\Desktop\\My Projects"
      env := [], commands := [], descriptions := [], clock := 0 }
    (Forest σ.store ∧ σ.store.Parentless σ.store.rootId ∧ σ.store.Addressed σ.folder ∧
      σ.InSync) ∧ Path.isAbsolute "..//./about me.TXT" = false ∧
      ∃ found, σ.resolve (some "..//./about me.TXT") = .ok found ∧
        σ.resolve (some "C:\\Desktop\\My Projects\\..//./about me.TXT") = .ok found := by
  obtain ⟨s, hs, hroot, -, h⟩ := exists_store 0
  refine ⟨s, hs, ?_⟩
  intro σ
  have hparentless : σ.store.Parentless σ.store.rootId := by
    show s.Parentless s.rootId
    rw [hroot]
    exact parentless_root h
  have hfolder : σ.store.Addressed σ.folder := addressed_nodes h (reached_projects h hroot)
  have hpath : s.path "projects" = .ok "C:\\Desktop\\My Projects" :=
    eq_of_store hs (f := fun s => s.path "projects") (by decide +kernel)
  have hshown : σ.InSync := hpath
  have hrel : Path.isAbsolute "..//./about me.TXT" = false := by decide +kernel
  obtain ⟨found, hrelative, habsolute⟩ :=
    Session.resolve_written_out (forest_nodes h) hparentless hfolder hshown (by decide) hrel
  exact ⟨⟨forest_nodes h, hparentless, hfolder, hshown⟩, hrel, found, hrelative, habsolute⟩

end DeskShell

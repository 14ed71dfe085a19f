import DeskShell.Proofs.Desktop
import DeskShell.Proofs.Leads
import DeskShell.Proofs.Spellings
import DeskShell.Proofs.Trails

/-!
# Paths as addresses

The path of an entry is made on the way up and looked up on the way down. It leads back to the entry
when the names on the way stand for themselves and no siblings share them. The name of the root may
be left out, unless the next name is the same: then it is read as that of the root.

* `Store.Addressed`: an entry below the root whose path can be looked up.
* `Store.Route`: the names from the root down to an entry; `Store.Addressed.exists_route`.
* `Store.Route.find_eq`: a path that begins with these names goes on from the entry.
* `Store.find_respelled_path`: the path of an entry, in any spelling, leads to the entry.
* `Store.find_without_root`: so does the path without the name of the root, if and only if its first
  name is another.
* `Desktop.not_find_without_root`: a folder that is named like the root.
-/
namespace DeskShell

open Relation (ReflTransGen)

namespace Store

variable {s : Store} {id : String} {root n : Node} {names : List String}

/-! ## Entries with an address -/

/-- The entry `m` stands on the way from the root down to `id`, at one of its ends or between. -/
structure OnWay (s : Store) (id : String) (m : Node) : Prop where
  stored : s.get? m.id = some m
  above : ReflTransGen s.Lists s.rootId m.id
  below : ReflTransGen s.Lists m.id id

/-- No sibling of the entry `m` has its name in any case. -/
def Sole (s : Store) (m : Node) : Prop :=
  ∀ p k, s.Lists p m.id → s.Lists p k.id → s.get? k.id = some k →
    Text.lower k.name = Text.lower m.name → k.id = m.id

/-- From the root, names that stand for themselves and that no siblings share lead to `id`. -/
structure Addressed (s : Store) (id : String) : Prop where
  reached : ReflTransGen s.Lists s.rootId id
  plain : ∀ m, s.OnWay id m → Path.Plain m.name
  sole : ∀ m, s.OnWay id m → s.Sole m

theorem OnWay.lower {p c : String} {m : Node} (h : s.OnWay p m) (hl : s.Lists p c) :
    s.OnWay c m :=
  ⟨h.stored, h.above, h.below.tail hl⟩

theorem childNamed_of_sole {p : String} (hl : s.Lists p n.id) (hn : s.get? n.id = some n)
    (h : s.Sole n) : s.childNamed p n.name = some n := by
  cases hc : s.childNamed p n.name with
  | none => exact absurd rfl (childNamed_eq_none_iff.mp hc n.id n hl hn)
  | some k =>
    obtain ⟨hk, hget, hname⟩ := childNamed_eq_some hc
    have hid := h p k hl hk hget hname
    rw [hid, hn] at hget
    exact hget.symm

/-! ## Routes -/

/-- `names` are the names from the root down to the entry `n`, without that of the root. -/
structure Route (s : Store) (root n : Node) (names : List String) : Prop where
  top : s.get? s.rootId = some root
  stored : s.get? n.id = some n
  trail : s.trail n = Path.drive :: root.name :: names
  plain : ∀ name ∈ root.name :: names, Path.Plain name
  follow : s.follow root names = some n

/-- One step further down. -/
theorem Route.child (F : Forest s) {p : Node} (R : s.Route root p names) (hl : s.Lists p.id n.id)
    (hn : s.get? n.id = some n) (hplain : Path.Plain n.name) (hsole : s.Sole n) :
    s.Route root n (names ++ [n.name]) where
  top := R.top
  stored := hn
  trail := by
    have hparent : s.parent? n.id = some p :=
      F.parent?_of_lists R.stored ((lists_iff_of_get? R.stored).mp hl)
    rw [trail_of_parent F hparent, R.trail]
    rfl
  plain := by
    intro name hname
    rw [← List.cons_append, List.mem_append, List.mem_singleton] at hname
    rcases hname with hname | rfl
    · exact R.plain name hname
    · exact hplain
  follow := by
    rw [follow_append [n.name] R.follow]
    exact Session.follow_of_childNamed ⟨hplain.ne_dot, hplain.ne_dots⟩
      (childNamed_of_sole hl hn hsole)

theorem Addressed.exists_route (F : Forest s) (hroot : s.Parentless s.rootId)
    (h : s.Addressed id) : ∃ root n names, s.Route root n names ∧ n.id = id := by
  obtain ⟨hreached, hplain, hsole⟩ := h
  induction hreached with
  | refl =>
    obtain ⟨root, hget⟩ := has_iff.mp hroot.1
    have hid := id_of_get? hget
    have hstored : s.get? root.id = some root := by rwa [hid]
    refine ⟨root, root, [], ⟨hget, hstored, ?_, ?_, rfl⟩, hid⟩
    · exact trail_of_root (by rw [hid, hroot.2])
    · intro name hname
      obtain rfl := List.mem_singleton.mp hname
      exact hplain root ⟨hstored, by rw [hid], by rw [hid]⟩
  | @tail p c hp hl ih =>
    obtain ⟨root, parent, names, R, rfl⟩ := ih (fun m hm => hplain m (hm.lower hl))
      fun m hm => hsole m (hm.lower hl)
    obtain ⟨n, hn⟩ := has_iff.mp (F.stored _ _ hl)
    obtain rfl := id_of_get? hn
    have hway : s.OnWay n.id n := ⟨hn, hp.tail hl, .refl⟩
    exact ⟨root, n, names ++ [n.name], R.child F hl hn (hplain n hway) (hsole n hway), rfl⟩

/-! ## Looking up -/

theorem way_self (name : String) (segs : List String) : way name (name :: segs) = segs :=
  if_pos (Text.sameName_refl name)

/-- A path that begins with the names down to an entry goes on from the entry. -/
theorem Route.find_eq (R : s.Route root n names) {path : String} {segs : List String}
    (h : Path.segments (Path.dropDrive (Path.normalize path)) = root.name :: names ++ segs) :
    s.find path = .ok (s.follow n segs) := by
  rw [Store.find_eq R.top, h, List.cons_append, way_self, follow_append segs R.follow]

theorem Route.find_self (R : s.Route root n names) {path : String}
    (h : Path.segments (Path.dropDrive (Path.normalize path)) = root.name :: names) :
    s.find path = .ok (some n) := by
  rw [← List.append_nil (root.name :: names)] at h
  exact R.find_eq h

/-- In a forest whose root has no parent, the path of an entry that can be addressed leads back to
the entry, and so does every other spelling of that path. -/
theorem find_respelled_path (F : Forest s) (hroot : s.Parentless s.rootId) (h : s.Addressed id) :
    ∃ n path, s.get? id = some n ∧ s.path id = .ok path ∧ s.find path = .ok (some n) ∧
      ∀ other, Path.Respelled path other → s.find other = .ok (some n) := by
  obtain ⟨root, n, names, R, rfl⟩ := h.exists_route F hroot
  have hsegs := Path.segments_dropDrive_display (.inr rfl) R.plain
  rw [← R.trail] at hsegs
  refine ⟨n, _, R.stored, path_of_get? R.stored, R.find_self hsegs, fun other hother => ?_⟩
  exact R.find_self (hother.segments_eq.trans hsegs)

/-! ## Without the name of the root -/

/-- Each plain name leads one step further down. -/
theorem length_ancestors_follow (F : Forest s) : ∀ {names : List String} {here n : Node},
    (∀ name ∈ names, Path.Plain name) → s.follow here names = some n →
    (s.ancestors n.id).length = (s.ancestors here.id).length + names.length
  | [], here, n, _, h => by
    obtain rfl := Option.some.inj h
    rfl
  | name :: names, here, n, hplain, h => by
    obtain ⟨hname, hrest⟩ := List.forall_mem_cons.mp hplain
    unfold follow at h
    rw [if_neg hname.ne_dot, if_neg hname.ne_dots] at h
    split at h
    · cases h
    · next child hchild =>
      have hdown := F.length_ancestors_of_lists (childNamed_eq_some hchild).1
      have hlen := length_ancestors_follow F hrest h
      rw [List.length_cons]
      omega

/-- The path of an entry below the root without the name of the root, with the drive in front or
without, leads to the same entry as with that name if and only if its first name is another than
that of the root. Otherwise its first name is read as that of the root. -/
theorem find_without_root (F : Forest s) (hroot : s.Parentless s.rootId) (h : s.Addressed id)
    (hne : id ≠ s.rootId) : ∃ root n first rest, s.get? s.rootId = some root ∧
      s.get? id = some n ∧ s.trail n = Path.drive :: root.name :: first :: rest ∧
      ∀ d, d = "" ∨ d = Path.drive →
        s.find (Path.display (d :: root.name :: first :: rest)) = .ok (some n) ∧
        (s.find (Path.display (d :: first :: rest)) = .ok (some n) ↔
          Text.lower first ≠ Text.lower root.name) ∧
        (Text.lower first = Text.lower root.name → s.find (Path.display (d :: first :: rest)) =
          s.find (Path.display (d :: root.name :: rest))) := by
  obtain ⟨root, n, names, R, rfl⟩ := h.exists_route F hroot
  cases names with
  | nil =>
    obtain rfl := Option.some.inj R.follow
    exact absurd (id_of_get? R.top) hne
  | cons first rest =>
    obtain ⟨hplain, hplain'⟩ := List.forall_mem_cons.mp R.plain
    have hplain'' := List.forall_mem_cons.mp hplain'
    refine ⟨root, n, first, rest, R.top, R.stored, R.trail, fun d hd => ?_⟩
    have hlong := Path.segments_dropDrive_display hd R.plain
    have hshort := Path.segments_dropDrive_display hd hplain'
    have hrest := Path.segments_dropDrive_display hd
      (List.forall_mem_cons.mpr ⟨hplain, hplain''.2⟩)
    refine ⟨R.find_self hlong, ⟨fun hfind hsame => ?_, fun hdiff => ?_⟩, fun hsame => ?_⟩
    · -- The names after the first lead to an entry one level above `n`.
      rw [Store.find_eq R.top, hshort, way, if_pos (Text.sameName_iff.mpr hsame)] at hfind
      have habove := length_ancestors_follow F hplain''.2 (Except.ok.inj hfind)
      have hdepth := length_ancestors_follow F hplain' R.follow
      rw [List.length_cons] at hdepth
      omega
    · rw [Store.find_eq R.top, hshort, way, if_neg (mt Text.sameName_iff.mp hdiff), R.follow]
    · rw [Store.find_eq R.top, Store.find_eq R.top, hshort, hrest, way_self, way,
        if_pos (Text.sameName_iff.mpr hsame)]

end Store

/-! ## The delivered desktop -/

namespace Desktop

open Store

variable {s : Store} {id : String} {n : Node}

theorem plain_nodes (h : s.nodes.map Node.outline = outline) (hn : s.get? id = some n) :
    Path.Plain n.name := by
  have hall : ∀ o ∈ outline, Path.Plain o.name := by decide
  exact hall n.outline (mem_outline h hn)

theorem sole_nodes (h : s.nodes.map Node.outline = outline) (hn : s.get? n.id = some n) :
    s.Sole n :=
  fun _ _ hl hk hget hname => siblings_nodes h hk hl hget hn hname

/-- All names of the delivered desktop stand for themselves, and no siblings share one. -/
theorem addressed_nodes (h : s.nodes.map Node.outline = outline)
    (hid : ReflTransGen s.Lists s.rootId id) : s.Addressed id where
  reached := hid
  plain _ hm := plain_nodes h hm.stored
  sole _ hm := sole_nodes h hm.stored

theorem reached_projects (h : s.nodes.map Node.outline = outline) (hroot : s.rootId = rootId) :
    ReflTransGen s.Lists s.rootId "projects" := by
  rw [hroot]
  exact .single (lists_of_mem_outline h List.mem_cons_self (by decide))

theorem reached_project (h : s.nodes.map Node.outline = outline) (hroot : s.rootId = rootId) :
    ReflTransGen s.Lists s.rootId "project-1" := by
  have hmem : (⟨"projects", "My Projects", .folder,
    some ["project-1", "project-2", "project-3"]⟩ : Outline) ∈ outline := by decide
  exact (reached_projects h hroot).tail (lists_of_mem_outline h hmem (by decide))

/-- What can be computed of the delivered desktop. -/
theorem eq_of_store {α : Type} {f : Store → α} {a : α} (hs : store 0 = .ok s)
    (h : (store 0).map f = .ok a) : f s = a := by
  rw [hs] at h
  exact Except.ok.inj h

theorem trail_project (hs : store 0 = .ok s) (hn : s.get? "project-1" = some n) :
    s.trail n = ["C:", "Desktop", "My Projects", "Project Alpha"] := by
  have htrail : (s.get? "project-1").map s.trail =
      some ["C:", "Desktop", "My Projects", "Project Alpha"] :=
    eq_of_store hs (f := fun s => (s.get? "project-1").map s.trail) (by decide +kernel)
  rw [hn] at htrail
  exact Option.some.inj htrail

/-- A file in a folder of the delivered desktop. -/
theorem find_respelled_path_project : ∃ s n, store 0 = .ok s ∧
    (Forest s ∧ s.Parentless s.rootId ∧ s.Addressed "project-1") ∧ s.get? "project-1" = some n ∧
      s.path "project-1" = .ok "C:\\Desktop\\My Projects\\Project Alpha" ∧
      s.find "C:\\Desktop\\My Projects\\Project Alpha" = .ok (some n) ∧
      s.find "c:/Desktop/My Projects/Project Alpha" = .ok (some n) ∧
      s.find "C:\\\\Desktop\\\\My Projects\\\\Project Alpha" = .ok (some n) := by
  obtain ⟨s, hs, hroot, -, h⟩ := exists_store 0
  have hparentless : s.Parentless s.rootId := hroot ▸ parentless_root h
  have haddressed := addressed_nodes h (reached_project h hroot)
  obtain ⟨n, path, hn, hpath, hfind, hother⟩ :=
    find_respelled_path (forest_nodes h) hparentless haddressed
  have htext : path = "C:\\Desktop\\My Projects\\Project Alpha" := by
    rw [path_of_get? hn, trail_project hs hn] at hpath
    exact (Except.ok.inj hpath).symm.trans (by decide)
  subst htext
  refine ⟨s, n, hs, ⟨forest_nodes h, hparentless, haddressed⟩, hn, hpath, hfind, ?_, ?_⟩
  · exact hother _ ⟨'c', _, _, rfl, .inr rfl, rfl, Path.respaced_slashes _⟩
  · exact hother _ ⟨'C', _, _, rfl, .inl rfl, rfl, Path.respaced_doubled _⟩

/-- The same file without the name of the root. -/
theorem find_without_root_project : ∃ s n, store 0 = .ok s ∧
    (Forest s ∧ s.Parentless s.rootId ∧ s.Addressed "project-1" ∧ "project-1" ≠ s.rootId) ∧
      s.get? "project-1" = some n ∧ s.find "\\My Projects\\Project Alpha" = .ok (some n) ∧
      s.find "C:\\My Projects\\Project Alpha" = .ok (some n) ∧
      s.find "C:\\Desktop\\My Projects\\Project Alpha" = .ok (some n) := by
  obtain ⟨s, hs, hroot, -, h⟩ := exists_store 0
  have hparentless : s.Parentless s.rootId := hroot ▸ parentless_root h
  have haddressed := addressed_nodes h (reached_project h hroot)
  have hne : "project-1" ≠ s.rootId := by
    rw [hroot]
    decide
  obtain ⟨root, n, first, rest, -, hn, htrail, hfind⟩ :=
    find_without_root (forest_nodes h) hparentless haddressed hne
  have hnames := htrail.symm.trans (trail_project hs hn)
  obtain ⟨-, hname, rfl, rfl⟩ : _ ∧ root.name = "Desktop" ∧ first = "My Projects" ∧
    rest = ["Project Alpha"] := by simpa using hnames
  rw [hname] at hfind
  have hdiff : Text.lower "My Projects" ≠ Text.lower "Desktop" := by decide +kernel
  have hbare := (hfind "" (.inl rfl)).2.1.mpr hdiff
  obtain ⟨hlong, hshort, -⟩ := hfind Path.drive (.inr rfl)
  exact ⟨s, n, hs, ⟨forest_nodes h, hparentless, haddressed, hne⟩, hn, hbare, hshort.mpr hdiff,
    hlong⟩

/-! ## A folder named like the root -/

/-- A desktop with a folder `Desktop` in it. -/
def nested : Store where
  nodes := [
    { id := "desktop", name := "Desktop", kind := .folder, children := some ["inner"],
      content := none, icon := none, appType := none, metadata := [], created := 0, modified := 0 },
    { id := "inner", name := "Desktop", kind := .folder, children := some [],
      content := none, icon := none, appType := none, metadata := [], created := 0, modified := 0 }]
  rootId := "desktop"
  binId := "recycle-bin"

theorem lists_nested {p c : String} (h : nested.Lists p c) : p = "desktop" ∧ c = "inner" := by
  obtain ⟨n, hn, hc⟩ := h
  have hall : ∀ n ∈ nested.nodes, ∀ c ∈ n.childIds, n.id = "desktop" ∧ c = "inner" := by decide
  obtain rfl := id_of_get? hn
  exact hall n (mem_nodes_of_get? hn) c hc

theorem forest_nested : Forest nested :=
  .of_order (by decide) (by decide) (by decide) (by decide)

theorem addressed_nested : nested.Addressed "inner" where
  reached := .single ⟨_, rfl, List.mem_cons_self⟩
  plain m hm := by
    have hall : ∀ m ∈ nested.nodes, Path.Plain m.name := by decide
    exact hall m (mem_nodes_of_get? hm.stored)
  sole m _ p k hl hk _ _ := (lists_nested hk).2.trans (lists_nested hl).2.symm

/-- A folder in the root that is named like the root: its path without the name of the root is the
path of the root. -/
theorem not_find_without_root : Forest nested ∧ nested.Parentless nested.rootId ∧
    nested.Addressed "inner" ∧ "inner" ≠ nested.rootId ∧
    ∃ n, nested.get? "inner" = some n ∧ nested.trail n = ["C:", "Desktop", "Desktop"] ∧
      nested.find "C:\\Desktop\\Desktop" = .ok (some n) ∧
      nested.find "\\Desktop" ≠ .ok (some n) ∧ nested.find "C:\\Desktop" ≠ .ok (some n) := by
  refine ⟨forest_nested, ⟨by decide, by decide⟩, addressed_nested, by decide, _, rfl, ?_⟩
  decide +kernel

end Desktop
end DeskShell

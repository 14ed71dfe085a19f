import DeskShell.Proofs.SplitPaths
import DeskShell.Proofs.Widening

/-!
# Where a path leads after a change

A path that leads to an entry leads there again when the store has widened, and one that led nowhere
leads to an entry that has been made under its last name in the folder that the rest of it leads to.

* `Session.LeadsTo`: the path names the entry.
* `Session.leadsTo_absolute_iff`, `Session.resolve_relative`: what is followed to get there.
* `Session.Follows`: a session in the same place whose store has widened.
* `Session.LeadsTo.widens`: the path leads to the same entry again.
* `Session.leadsTo_made`: it leads to the entry that has been made for it.
* `Session.childNamed_of_resolve_none`: there is no such entry before.
-/
namespace DeskShell

variable {C : Type}

namespace Store

variable {s : Store}

/-! ## Paths from the top -/

/-- The names to follow from the top of the tree, whose own name may be left out. -/
def way (name : String) : List String → List String
  | [] => []
  | first :: rest => if Text.sameName first name then rest else first :: rest

theorem find_eq {root : Node} (h : s.get? s.rootId = some root) (path : String) : s.find path =
    .ok (s.follow root (way root.name (Path.segments (Path.dropDrive (Path.normalize path))))) := by
  unfold find way
  rw [h]
  dsimp only
  cases Path.segments (Path.dropDrive (Path.normalize path)) <;> rfl

theorem way_append (name last : String) (segs : List String) :
    way name (segs ++ [last]) = way name segs ++ [last] ∨ way name (segs ++ [last]) = [] := by
  cases segs with
  | nil =>
    unfold way
    simp only [List.nil_append]
    split
    · exact .inr rfl
    · exact .inl rfl
  | cons first rest =>
    unfold way
    simp only [List.cons_append]
    split <;> exact .inl rfl

end Store

namespace Session

open Store

variable {s t : Store}

/-! ## Relative paths -/

/-- What comes after a way goes on from the place to which the way leads. -/
theorem followShown_append {xs : List String} {id : String} {parts : List String}
    {place : Place} (h : followShown s id parts xs = .ok (some place)) :
    ∃ parts', ∀ ys, followShown s id parts (xs ++ ys) = followShown s place.id parts' ys := by
  fun_induction followShown s id parts xs with
  | case1 id parts =>
    obtain rfl := Option.some.inj (Except.ok.inj h)
    exact ⟨parts, fun _ => rfl⟩
  | case2 id parts rest ih =>
    obtain ⟨parts', hys⟩ := ih h
    refine ⟨parts', fun ys => ?_⟩
    rw [List.cons_append, followShown, if_pos rfl, hys]
  | case3 id parts rest hp hdot ih =>
    obtain ⟨parts', hys⟩ := ih h
    refine ⟨parts', fun ys => ?_⟩
    rw [List.cons_append, followShown, if_neg hdot, if_pos rfl, hp]
    exact hys ys
  | case4 id parts rest p hp hempty hdot => cases h
  | case5 id parts rest p hp hne hdot ih =>
    obtain ⟨parts', hys⟩ := ih h
    refine ⟨parts', fun ys => ?_⟩
    rw [List.cons_append, followShown, if_neg hdot, if_pos rfl, hp]
    dsimp only
    rw [if_neg hne]
    exact hys ys
  | case6 id parts part rest hdot hup hnone => cases h
  | case7 id parts part rest hdot hup child hchild ih =>
    obtain ⟨parts', hys⟩ := ih h
    refine ⟨parts', fun ys => ?_⟩
    rw [List.cons_append, followShown, if_neg hdot, if_neg hup, hchild]
    exact hys ys

/-- A way from a stored entry leads to stored entries, and no other way does. -/
theorem has_followShown_iff (L : Linked s) {xs : List String} {id : String} {parts : List String}
    {place : Place} (h : followShown s id parts xs = .ok (some place)) :
    s.has place.id = true ↔ s.has id = true := by
  fun_induction followShown s id parts xs with
  | case1 id parts =>
    obtain rfl := Option.some.inj (Except.ok.inj h)
    exact .rfl
  | case2 id parts rest ih => exact ih h
  | case3 id parts rest hp hdot ih => exact ih h
  | case4 id parts rest p hp hempty hdot => cases h
  | case5 id parts rest p hp hne hdot ih =>
    obtain ⟨hid, hpid⟩ := L.has_of_parent? hp
    exact (ih h).trans (iff_of_true hpid hid)
  | case6 id parts part rest hdot hup hnone => cases h
  | case7 id parts part rest hdot hup child hchild ih =>
    obtain ⟨hl, hc, -⟩ := childNamed_eq_some hchild
    exact (ih h).trans (iff_of_true (has_of_get? hc) hl.has)

/-- The way from a stored entry leads to the same place, shown by the same path. -/
theorem followShown_widens (W : Widens s t) (L : Linked s) {xs : List String} {id : String}
    {parts : List String} {place : Place} (hs : s.has id = true)
    (h : followShown s id parts xs = .ok (some place)) :
    followShown t id parts xs = .ok (some place) := by
  fun_induction followShown s id parts xs with
  | case1 id parts => exact h
  | case2 id parts rest ih =>
    rw [followShown, if_pos rfl]
    exact ih hs h
  | case3 id parts rest hp hdot ih =>
    rw [followShown, if_neg hdot, if_pos rfl]
    rcases W.parent_cases hs with ⟨-, hq⟩ | ⟨p, q, hp', -⟩
    · rw [hq]
      exact ih hs h
    · exact absurd (hp.symm.trans hp') (by simp)
  | case4 id parts rest p hp hempty hdot => cases h
  | case5 id parts rest p hp hne hdot ih =>
    rw [followShown, if_neg hdot, if_pos rfl]
    rcases W.parent_cases hs with ⟨hp', -⟩ | ⟨p', q, hp', hq, hqp⟩
    · exact absurd (hp.symm.trans hp') (by simp)
    · obtain rfl := Option.some.inj (hp.symm.trans hp')
      rw [hq]
      dsimp only
      rw [if_neg hne, hqp]
      exact ih (L.has_of_parent? hp).2 h
  | case6 id parts part rest hdot hup hnone => cases h
  | case7 id parts part rest hdot hup child hchild ih =>
    obtain ⟨child', hchild', hcid, hname⟩ := W.child _ _ _ hchild
    rw [followShown, if_neg hdot, if_neg hup, hchild']
    dsimp only
    rw [hcid, hname]
    exact ih (has_of_get? (childNamed_eq_some hchild).2.1) h

/-! ## Where a path leads -/

/-- The path names the entry `id`. -/
def LeadsTo (σ : Session C) (path id : String) : Prop :=
  ∃ place, σ.resolve (some path) = .ok (some place) ∧ place.id = id

variable {σ τ : Session C} {path id : String}

theorem resolveParent_eq_ok {p name : String} (h : σ.resolveParent path = .ok (some p, name)) :
    Path.splitParent path = (none, name) ∧ σ.folder = p ∨
      ∃ head, Path.splitParent path = (some head, name) ∧ ∃ place,
        σ.resolve (some head) = .ok (some place) ∧ place.id = p := by
  unfold resolveParent at h
  split at h
  · next hsplit =>
    obtain ⟨rfl, rfl⟩ : σ.folder = p ∧ _ = name := by simpa using Except.ok.inj h
    exact .inl ⟨hsplit, rfl⟩
  · next head last hsplit =>
    split at h
    · cases h
    · next found hfound =>
      obtain ⟨hfolder, rfl⟩ := Prod.mk.inj (Except.ok.inj h)
      obtain ⟨place, rfl, hid⟩ := Option.map_eq_some_iff.mp hfolder
      exact .inr ⟨head, hsplit, place, hfound, hid⟩

theorem resolve_absolute (h : Path.isAbsolute path = true) :
    σ.resolve (some path) = resolveAbsolute σ.store (Path.normalize path) := by
  have hne : path ≠ "" := by
    rintro rfl
    cases h
  unfold resolve
  simp only [hne, if_false]
  rw [if_pos]
  unfold Path.isAbsolute at h ⊢
  rwa [Path.normalize_normalize]

theorem resolve_relative (hne : path ≠ "") (h : Path.isAbsolute path = false) :
    σ.resolve (some path) = followShown σ.store σ.folder (Text.pieces Path.sep σ.shown)
      (Path.segments (Path.normalize path)) := by
  unfold resolve
  simp only [hne, if_false]
  rw [if_neg]
  unfold Path.isAbsolute at h ⊢
  rw [Path.normalize_normalize, h]
  decide

/-- The names to follow for an absolute path. -/
def wayOf (root : Node) (path : String) : List String :=
  way root.name (Path.segments (Path.dropDrive (Path.normalize path)))

theorem wayOf_congr {root root' : Node} (h : root'.name = root.name) (path : String) :
    wayOf root' path = wayOf root path := by
  unfold wayOf
  rw [h]

theorem leadsTo_absolute_iff (h : Path.isAbsolute path = true) : σ.LeadsTo path id ↔
    ∃ root n, σ.store.get? σ.store.rootId = some root ∧
      σ.store.follow root (wayOf root path) = some n ∧ n.id = id ∧ σ.store.has id = true := by
  unfold LeadsTo
  rw [resolve_absolute h]
  constructor
  · rintro ⟨place, hr, rfl⟩
    obtain ⟨⟨n, hn, hid⟩, hpath⟩ := resolveAbsolute_eq_ok hr
    cases hroot : σ.store.get? σ.store.rootId with
    | none => simp [find, hroot] at hn
    | some root =>
      rw [find_eq hroot, Path.normalize_normalize] at hn
      refine ⟨root, n, rfl, Except.ok.inj hn, hid, ?_⟩
      by_contra hs
      simp [Store.path, require, get?_eq_none_iff.mpr (by simpa using hs)] at hpath
  · rintro ⟨root, n, hroot, hn, rfl, hs⟩
    obtain ⟨m, hm⟩ := has_iff.mp hs
    unfold wayOf at hn
    unfold resolveAbsolute
    rw [find_eq hroot, Path.normalize_normalize, hn]
    dsimp only
    rw [path_of_get? hm]
    exact ⟨_, rfl, rfl⟩

theorem resolve_absolute_eq_none (h : Path.isAbsolute path = true)
    (hr : σ.resolve (some path) = .ok none) : ∃ root,
      σ.store.get? σ.store.rootId = some root ∧ σ.store.follow root (wayOf root path) = none := by
  rw [resolve_absolute h] at hr
  unfold resolveAbsolute at hr
  cases hroot : σ.store.get? σ.store.rootId with
  | none => simp [find, hroot] at hr
  | some root =>
    refine ⟨root, rfl, ?_⟩
    rw [find_eq hroot, Path.normalize_normalize] at hr
    unfold wayOf
    cases hn : σ.store.follow root
        (way root.name (Path.segments (Path.dropDrive (Path.normalize path)))) with
    | none => rfl
    | some n =>
      rw [hn] at hr
      dsimp only at hr
      split at hr <;> cases hr

/-- A path leads into the store, unless it starts at a folder that is not in it. -/
theorem has_of_leadsTo (L : Linked σ.store) (h : σ.LeadsTo path id)
    (hs : Path.isAbsolute path = false → σ.store.has σ.folder = true) : σ.store.has id = true := by
  cases habs : Path.isAbsolute path with
  | true =>
    obtain ⟨_, _, _, _, _, hid⟩ := (leadsTo_absolute_iff habs).mp h
    exact hid
  | false =>
    obtain ⟨place, hr, rfl⟩ := h
    by_cases hne : path = ""
    · subst hne
      obtain rfl := Option.some.inj (Except.ok.inj hr)
      exact hs habs
    · rw [resolve_relative hne habs] at hr
      exact (has_followShown_iff L hr).mpr (hs habs)

/-- A relative path has its folder part in the store if it starts there. -/
theorem has_folder_of_resolveParent (L : Linked σ.store) {p name : String}
    (hparent : σ.resolveParent path = .ok (some p, name)) (hname : name ≠ "")
    (hp : σ.store.has p = true) (hrel : Path.isAbsolute path = false) :
    σ.store.has σ.folder = true := by
  rcases resolveParent_eq_ok hparent with ⟨-, rfl⟩ | ⟨head, hsplit, place, hplace, rfl⟩
  · exact hp
  · obtain ⟨hhead, habs, -⟩ := Path.segments_of_folder hsplit hname
    rw [resolve_relative hhead (habs.trans hrel)] at hplace
    exact (has_followShown_iff L hplace).mp hp

/-- With the folder part of a path in the store, a place that the path led to would be there too. -/
theorem eq_none_of_resolve (L : Linked σ.store) {found : Option Place}
    (hr : σ.resolve (some path) = .ok found)
    (hnone : ∀ place, found = some place → σ.store.has place.id = false) {p name : String}
    (hparent : σ.resolveParent path = .ok (some p, name)) (hname : name ≠ "")
    (hp : σ.store.has p = true) : found = none := by
  cases found with
  | none => rfl
  | some place =>
    have hs := has_of_leadsTo L ⟨place, hr, rfl⟩ (has_folder_of_resolveParent L hparent hname hp)
    rw [hnone place rfl] at hs
    cases hs

/-- A session at work in the same folder, whose store holds all that another one does. -/
structure Follows (σ τ : Session C) : Prop where
  store : Widens σ.store τ.store
  folder : τ.folder = σ.folder
  shown : τ.shown = σ.shown

theorem LeadsTo.widens (h : σ.LeadsTo path id) (W : σ.Follows τ) (L : Linked σ.store)
    (hs : σ.store.has id = true) : τ.LeadsTo path id := by
  cases habs : Path.isAbsolute path with
  | true =>
    obtain ⟨root, n, hroot, hn, rfl, -⟩ := (leadsTo_absolute_iff habs).mp h
    obtain ⟨root', hroot', hname⟩ := W.store.entry _ _ hroot
    have hid : root'.id = root.id := (id_of_get? hroot').trans (id_of_get? hroot).symm
    obtain ⟨-, n', hn', hnid⟩ := follow_widens W.store L
      (by rw [id_of_get? hroot]; exact has_of_get? hroot) hn hid
    refine (leadsTo_absolute_iff habs).mpr ⟨root', n', ?_, ?_, hnid, ?_⟩
    · rw [W.store.root]
      exact hroot'
    · exact (congrArg _ (wayOf_congr hname path)).trans hn'
    · exact W.store.has hs
  | false =>
    obtain ⟨place, hr, rfl⟩ := h
    by_cases hne : path = ""
    · subst hne
      obtain rfl := Option.some.inj (Except.ok.inj hr)
      exact ⟨⟨τ.folder, τ.shown⟩, rfl, W.folder⟩
    · rw [resolve_relative hne habs] at hr
      refine ⟨place, ?_, rfl⟩
      rw [resolve_relative hne habs, W.folder, W.shown]
      exact followShown_widens W.store L ((has_followShown_iff L hr).mp hs) hr

/-! ## One name more -/

section Last

variable {s : Store} {name : String} {parts : List String} {here m : Node}

theorem plain_of_followShown (h : followShown s id parts [name] = .ok none) :
    name ≠ "." ∧ name ≠ ".." := by
  constructor
  · rintro rfl
    cases h
  · rintro rfl
    unfold followShown at h
    rw [if_neg (by decide), if_pos rfl] at h
    split at h
    · cases h
    · split at h <;> cases h

theorem followShown_of_childNamed (hplain : name ≠ "." ∧ name ≠ "..")
    (h : s.childNamed id name = some m) :
    ∃ place, followShown s id parts [name] = .ok (some place) ∧ place.id = m.id := by
  unfold followShown
  rw [if_neg hplain.1, if_neg hplain.2, h]
  exact ⟨_, rfl, rfl⟩

theorem plain_of_follow (h : s.follow here [name] = none) : name ≠ "." ∧ name ≠ ".." := by
  constructor
  · rintro rfl
    cases h
  · rintro rfl
    cases h

theorem follow_of_childNamed (hplain : name ≠ "." ∧ name ≠ "..")
    (h : s.childNamed here.id name = some m) : s.follow here [name] = some m := by
  unfold follow
  rw [if_neg hplain.1, if_neg hplain.2, h]
  rfl

end Last

/-- The last name of a relative path, in the folder to which the rest of it leads. -/
theorem leadsTo_made_relative (W : σ.Follows τ) (L : Linked σ.store) {segs : List String}
    {name : String} {place : Place} (hne : path ≠ "") (hrel : Path.isAbsolute path = false)
    (hsegs : Path.segments (Path.normalize path) = segs ++ [name])
    (hplace : followShown σ.store σ.folder (Text.pieces Path.sep σ.shown) segs = .ok (some place))
    (hs : σ.store.has place.id = true) (hnone : σ.resolve (some path) = .ok none) {m : Node}
    (hm : τ.store.childNamed place.id name = some m) : τ.LeadsTo path m.id := by
  have hplace' := followShown_widens W.store L ((has_followShown_iff L hplace).mp hs) hplace
  obtain ⟨parts, hrest⟩ := followShown_append hplace
  obtain ⟨parts', hrest'⟩ := followShown_append hplace'
  rw [resolve_relative hne hrel, hsegs, hrest] at hnone
  unfold LeadsTo
  rw [resolve_relative hne hrel, hsegs, W.folder, W.shown, hrest']
  exact followShown_of_childNamed (plain_of_followShown hnone) hm

/-- The last name of an absolute path, in the folder to which the rest of it leads. -/
theorem leadsTo_made_absolute (W : σ.Follows τ) (L : Linked σ.store) {head name : String}
    (habs : Path.isAbsolute path = true) (habs' : Path.isAbsolute head = true)
    (hsegs : Path.segments (Path.dropDrive (Path.normalize path)) =
      Path.segments (Path.dropDrive (Path.normalize head)) ++ [name])
    {p : String} (hhead : σ.LeadsTo head p) (hnone : σ.resolve (some path) = .ok none) {m : Node}
    (hm : τ.store.childNamed p name = some m) : τ.LeadsTo path m.id := by
  obtain ⟨root, n, hroot, hn, rfl, -⟩ := (leadsTo_absolute_iff habs').mp hhead
  obtain ⟨_, hroot₂, hnone⟩ := resolve_absolute_eq_none habs hnone
  obtain rfl := Option.some.inj (hroot.symm.trans hroot₂)
  have hway : wayOf root path = wayOf root head ++ [name] := by
    have hnil : wayOf root path ≠ [] := by
      intro hnil
      rw [hnil] at hnone
      cases hnone
    unfold wayOf at hnil ⊢
    rw [hsegs] at hnil ⊢
    exact (way_append _ _ _).resolve_right hnil
  rw [hway, follow_append [name] hn] at hnone
  obtain ⟨root', hroot', hname⟩ := W.store.entry _ _ hroot
  have hid : root'.id = root.id := (id_of_get? hroot').trans (id_of_get? hroot).symm
  obtain ⟨-, n', hn', hnid⟩ := follow_widens W.store L
    (by rw [id_of_get? hroot]; exact has_of_get? hroot) hn hid
  refine (leadsTo_absolute_iff habs).mpr ⟨root', m, ?_, ?_, rfl, ?_⟩
  · rw [W.store.root]
    exact hroot'
  · have hn' : τ.store.follow root' (wayOf root head) = some n' := hn'
    rw [wayOf_congr hname, hway, follow_append [name] hn']
    exact follow_of_childNamed (plain_of_follow hnone) (hnid ▸ hm)
  · exact has_of_get? (childNamed_eq_some hm).2.1

/-- What is made under the last name in the folder part of a path that leads nowhere is what the
path leads to. -/
theorem leadsTo_made (W : σ.Follows τ) (L : Linked σ.store)
    (hnone : σ.resolve (some path) = .ok none) {p name : String}
    (hparent : σ.resolveParent path = .ok (some p, name)) (hname : name ≠ "")
    (hp : σ.store.has p = true) {m : Node} (hm : τ.store.childNamed p name = some m) :
    τ.LeadsTo path m.id := by
  have hne : path ≠ "" := by
    rintro rfl
    cases hnone
  rcases resolveParent_eq_ok hparent with ⟨hsplit, rfl⟩ | ⟨head, hsplit, place, hplace, rfl⟩
  · rcases Path.segments_of_bare hsplit hname with ⟨hrel, hsegs⟩ | ⟨habs, hsegs⟩
    · have hplace : followShown σ.store σ.folder (Text.pieces Path.sep σ.shown) [] =
          .ok (some ⟨σ.folder, _⟩) := rfl
      have hsegs : Path.segments (Path.normalize path) = [] ++ [name] := hsegs
      exact leadsTo_made_relative W L hne hrel hsegs hplace hp hnone hm
    · obtain ⟨root, -, hnone⟩ := resolve_absolute_eq_none habs hnone
      unfold wayOf at hnone
      rw [hsegs] at hnone
      cases hnone
  · obtain ⟨hhead, habs', hrel', hsegs⟩ := Path.segments_of_folder hsplit hname
    cases habs : Path.isAbsolute path with
    | true =>
      exact leadsTo_made_absolute W L habs (habs'.trans habs) hsegs ⟨place, hplace, rfl⟩ hnone hm
    | false =>
      rw [resolve_relative hhead (habs'.trans habs)] at hplace
      exact leadsTo_made_relative W L hne habs (hrel' habs) hplace hp hnone hm

/-- The folder part of a path that leads nowhere has no child of the last name on it. -/
theorem childNamed_of_resolve_none (L : Linked σ.store) (hnone : σ.resolve (some path) = .ok none)
    {p name : String} (hparent : σ.resolveParent path = .ok (some p, name)) (hname : name ≠ "")
    (hp : σ.store.has p = true) : σ.store.childNamed p name = none := by
  cases hm : σ.store.childNamed p name with
  | none => rfl
  | some m =>
    obtain ⟨place, hplace, -⟩ := leadsTo_made ⟨.refl _, rfl, rfl⟩ L hnone hparent hname hp hm
    cases hnone.symm.trans hplace

end Session
end DeskShell

import DeskShell.Proofs.Programs
import DeskShell.Builtin.Navigate

/-!
# Where paths lead

What the reading of a path in a session in order can come to.

* `Store.Placed`: an entry that is a folder or lies in one. `Session.placed_resolve` says that
  paths lead to such entries only.
* `Session.resolve_cases`: the three ways in which a path is read.
* `Inquiry.bind_eq_ok`, `Session.locate_eq_ok`: what is known when an inquiry has an answer.
* `Builtin.destination_eq_ok`: what `cd` enters, which is always a folder.
-/
namespace DeskShell

variable {C α β : Type} {N : String → Prop} {σ : Session C}

namespace Store

variable {s : Store} {home : String}

/-- A folder, or an entry in one. -/
def Placed (s : Store) (id : String) : Prop := s.HasDir id ∨ ∃ p, s.Lists p id

theorem Sound.hasDir_of_lists (S : s.Sound home) {p c : String} (h : s.Lists p c) : s.HasDir p := by
  obtain ⟨n, hn, hc⟩ := h
  refine ⟨n, hn, ?_⟩
  cases hd : n.isDir with
  | true => rfl
  | false =>
    have := S.leaf p n hn (Node.kind_eq_file hd)
    simp [Node.childIds, this] at hc

theorem Sound.hasDir_of_parent? (S : s.Sound home) {c : String} {p : Node}
    (h : s.parent? c = some p) : s.HasDir p.id := by
  obtain ⟨hp, hc⟩ := S.parent?_eq_some_iff.mp h
  exact S.hasDir_of_lists ⟨p, hp, hc⟩

theorem Sound.has_of_placed (S : s.Sound home) {id : String} (h : s.Placed id) :
    s.has id = true := by
  rcases h with ⟨n, hn, -⟩ | ⟨p, hp⟩
  · exact has_of_get? hn
  · exact S.stored p id hp

theorem Sound.parent?_of_placed (S : s.Sound home) {c : String} {n : Node} (h : s.Placed c)
    (hn : s.get? c = some n) (hf : n.isDir = false) : ∃ p, s.parent? c = some p := by
  rcases h with ⟨m, hm, hd⟩ | ⟨p, m, hm, hc⟩
  · obtain rfl := Option.some.inj (hn.symm.trans hm)
    simp [hf] at hd
  · exact ⟨m, S.parent?_of_lists hm hc⟩

theorem Sound.placed_follow (S : s.Sound home) : ∀ (parts : List String) (here n : Node),
    s.Placed here.id → s.follow here parts = some n → s.Placed n.id
  | [], here, n, hh, h => by
    obtain rfl := Option.some.inj h
    exact hh
  | part :: parts, here, n, hh, h => by
    unfold follow at h
    split at h
    · exact S.placed_follow parts here n hh h
    · split at h
      · refine S.placed_follow parts _ n ?_ h
        cases hp : s.parent? here.id with
        | none => exact hh
        | some p => exact .inl (S.hasDir_of_parent? hp)
      · split at h
        · cases h
        · next child hchild =>
          exact S.placed_follow parts child n (.inr ⟨_, (childNamed_eq_some hchild).1⟩) h

theorem Sound.placed_find (S : s.Sound home) {path : String} {n : Node}
    (h : s.find path = .ok (some n)) : s.Placed n.id := by
  obtain ⟨root, hroot, hd⟩ := S.root
  have hplaced : s.Placed root.id := .inl ⟨root, by rwa [id_of_get? hroot], hd⟩
  unfold find at h
  simp only [hroot] at h
  split at h
  · obtain rfl := Option.some.inj (Except.ok.inj h)
    exact hplaced
  · exact S.placed_follow _ root n hplaced (Except.ok.inj h)

end Store

namespace Session

open Store

theorem placed_followShown {s : Store} {home : String} (S : s.Sound home) :
    ∀ (segs : List String) (id : String) (parts : List String) (place : Place),
    s.Placed id → followShown s id parts segs = .ok (some place) → s.Placed place.id
  | [], id, parts, place, hid, h => by
    obtain rfl := Option.some.inj (Except.ok.inj h)
    exact hid
  | seg :: segs, id, parts, place, hid, h => by
    unfold followShown at h
    split at h
    · exact placed_followShown S segs id parts place hid h
    · split at h
      · split at h
        · exact placed_followShown S segs id parts place hid h
        · next p hp =>
          split at h
          · cases h
          · exact placed_followShown S segs p.id _ place (.inl (S.hasDir_of_parent? hp)) h
      · split at h
        · cases h
        · next child hchild =>
          exact placed_followShown S segs child.id _ place
            (.inr ⟨id, (childNamed_eq_some hchild).1⟩) h

/-- A path is resolved to the working folder, from the top of the tree, or from the working folder
and its displayed parts. -/
theorem resolve_cases (σ : Session C) (path : Option String) :
    σ.resolve path = .ok (some ⟨σ.folder, σ.shown⟩) ∨
      (∃ target, σ.resolve path = resolveAbsolute σ.store target) ∨
      ∃ segs, σ.resolve path =
        followShown σ.store σ.folder (Text.pieces Path.sep σ.shown) segs := by
  unfold resolve
  split
  · exact .inl rfl
  · split
    · exact .inl rfl
    · dsimp only
      split
      · exact .inr (.inl ⟨_, rfl⟩)
      · exact .inr (.inr ⟨_, rfl⟩)

/-- From the top of the tree, the entry that is found is shown by its path. -/
theorem resolveAbsolute_eq_ok {s : Store} {path : String} {place : Place}
    (h : resolveAbsolute s path = .ok (some place)) :
    (∃ n, s.find path = .ok (some n) ∧ n.id = place.id) ∧ s.path place.id = .ok place.shown := by
  unfold resolveAbsolute at h
  split at h
  · cases h
  · cases h
  · next n hn =>
    split at h
    · cases h
    · next shown hshown =>
      obtain rfl := Option.some.inj (Except.ok.inj h)
      exact ⟨⟨n, hn, rfl⟩, hshown⟩

theorem placed_resolve (hσ : σ.InOrder N) {path : Option String} {place : Place}
    (h : σ.resolve path = .ok (some place)) : σ.store.Placed place.id := by
  rcases σ.resolve_cases path with hr | ⟨target, hr⟩ | ⟨segs, hr⟩
  · rw [hr] at h
    obtain rfl := Option.some.inj (Except.ok.inj h)
    exact .inl hσ.folder
  · rw [hr] at h
    obtain ⟨⟨n, hn, hid⟩, -⟩ := resolveAbsolute_eq_ok h
    rw [← hid]
    exact hσ.sound.placed_find hn
  · rw [hr] at h
    exact placed_followShown hσ.sound _ _ _ place (.inl hσ.folder) h

/-- The name of an entry to be made is the last one on its path. -/
theorem name_of_resolveParent {path name : String} {parent : Option String}
    (h : σ.resolveParent path = .ok (parent, name)) : name = (Path.splitParent path).2 := by
  unfold resolveParent at h
  split at h
  · next name' hs =>
    rw [hs]
    exact (Prod.mk.inj (Except.ok.inj h)).2.symm
  · next folder name' hs =>
    split at h
    · cases h
    · rw [hs]
      exact (Prod.mk.inj (Except.ok.inj h)).2.symm

end Session

/-! ## Answers of inquiries -/

namespace Inquiry

theorem eq_ok_of_toOption {α : Type} {x : Inquiry α} {a : α} (h : x.toOption = some a) :
    x = .ok a := by
  cases x with
  | error stop => cases h
  | ok b => rw [Option.some.inj h]

theorem bind_eq_ok {x : Inquiry α} {f : α → Inquiry β} {b : β} (h : x >>= f = .ok b) :
    ∃ a, x = .ok a ∧ f a = .ok b := by
  cases x with
  | error stop => cases h
  | ok a => exact ⟨a, rfl, h⟩

theorem lift_eq_ok {x : Except Fault α} {a : α} (h : Inquiry.lift x = .ok a) : x = .ok a := by
  cases x with
  | error f => cases h
  | ok b => exact congrArg _ (Except.ok.inj h)

end Inquiry

namespace Session

open Inquiry (bind_eq_ok lift_eq_ok)

theorem resolveNode_eq_ok {path : Option String} {place : Place} {node : Option Node}
    (h : σ.resolveNode path = .ok (some (place, node))) :
    σ.resolve path = .ok (some place) ∧ node = σ.store.get? place.id := by
  unfold resolveNode at h
  split at h
  · cases h
  · cases h
  · next found hfound =>
    obtain ⟨rfl, rfl⟩ := Prod.mk.inj (Option.some.inj (Except.ok.inj h))
    exact ⟨hfound, rfl⟩

theorem locate_eq_ok {path : Option String} {missing : String} {place : Place} {node : Option Node}
    (h : σ.locate path missing = .ok (place, node)) :
    σ.resolve path = .ok (some place) ∧ node = σ.store.get? place.id := by
  obtain ⟨found, hfound, h⟩ := bind_eq_ok h
  have hfound := lift_eq_ok hfound
  split at h
  · cases h
  · next found' =>
    obtain rfl := Except.ok.inj h
    exact resolveNode_eq_ok hfound

theorem locate_of_resolve {path : Option String} {place : Place}
    (h : σ.resolve path = .ok (some place)) (missing : String) :
    σ.locate path missing = .ok (place, σ.store.get? place.id) := by
  unfold locate resolveNode
  rw [h]
  rfl

end Session

namespace Builtin

open Inquiry (bind_eq_ok lift_eq_ok)

/-- `cd` enters the home folder, shown by its path, or the folder that a path is resolved to. -/
theorem destination_eq_ok {target : String} {place : Session.Place}
    (h : destination target σ = .ok place) :
    place.id = σ.home ∧ σ.store.path σ.home = .ok place.shown ∨
      σ.resolve (some target) = .ok (some place) ∧ σ.store.HasDir place.id := by
  unfold destination at h
  split at h
  · cases h
  · split at h
    · obtain ⟨shown, hshown, h⟩ := bind_eq_ok h
      obtain rfl := Except.ok.inj h
      exact .inl ⟨rfl, lift_eq_ok hshown⟩
    · split at h
      · cases h
      · split at h
        · cases h
        · obtain ⟨⟨found, node⟩, hfound, h⟩ := bind_eq_ok h
          obtain ⟨hresolve, rfl⟩ := Session.locate_eq_ok hfound
          dsimp only at h
          split at h
          · cases h
          · next n hn =>
            split at h
            · next hd =>
              obtain rfl := Except.ok.inj h
              exact .inr ⟨hresolve, n, hn, hd⟩
            · cases h

theorem hasDir_destination (hσ : σ.InOrder N) {target : String} {place : Session.Place}
    (h : destination target σ = .ok place) : σ.store.HasDir place.id := by
  rcases destination_eq_ok h with ⟨hid, -⟩ | ⟨-, hd⟩
  · rw [hid]
    exact hσ.sound.home
  · exact hd

end Builtin
end DeskShell

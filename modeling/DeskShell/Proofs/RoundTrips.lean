import DeskShell.Proofs.Lowering
import DeskShell.Proofs.Renaming
import DeskShell.Proofs.Resolving

/-!
# There and back again

A `cd` along the names of folders, one below the other, and a `cd` that goes up as often leave a
session exactly as it was. Each step down adds the stored name of a child to the displayed parts,
whatever these are, and the step up from that child takes the same part off again.

* `Store.Descent`: names that lead down, with the names that the entries on the way bear.
* `Session.followShown_descent`, `Session.followShown_ascent`: the way down and the way up again,
  with whatever is followed behind them.
* `Path.segments_normalize_glue`: names joined with slashes are the segments of the path they make.
* `Builtin.cd_of_resolve`: `cd` enters the directory that a relative path leads to.
* `Builtin.cd_descent`, `Builtin.cd_ascent`: the two commands.
* `Builtin.cd_back`: the round trip.
-/
namespace DeskShell

variable {C : Type} {s : Store} {σ : Session C} {id last : String} {names shown : List String}

/-! ## Names joined with slashes -/

namespace Path

/-- Slashes between names are read as separators. -/
theorem normalize_glue : ∀ {names : List String}, (∀ name ∈ names, '/' ∉ name.toList) →
    normalize (Text.glue '/' names) = display names
  | [], _ => rfl
  | [name], h => by simpa [Text.glue, display] using normalize_eq_self (h name List.mem_cons_self)
  | name :: next :: names, h => by
    have hname := normalize_eq_self (h name List.mem_cons_self)
    have hrest := normalize_glue fun other hother => h other (List.mem_cons_of_mem name hother)
    have hslash : Text.glue '/' (name :: next :: names) =
        name ++ "/" ++ Text.glue '/' (next :: names) := String.intercalate_cons_cons
    have hsep : display (name :: next :: names) =
        name ++ String.singleton sep ++ display (next :: names) := String.intercalate_cons_cons
    rw [hslash, hsep, normalize_append, normalize_append, hname, hrest]
    rfl

theorem segments_normalize_glue (hne : names ≠ [])
    (h : ∀ name ∈ names, name ≠ "" ∧ Bare name ∧ '/' ∉ name.toList) :
    segments (normalize (Text.glue '/' names)) = names := by
  rw [normalize_glue fun name hname => (h name hname).2.2]
  exact segments_display_of_bare hne fun name hname => ⟨(h name hname).1, (h name hname).2.1⟩

theorem spells_ups (k : Nat) :
    ∀ name ∈ List.replicate k "..", name ≠ "" ∧ Bare name ∧ '/' ∉ name.toList := by
  intro name hname
  obtain rfl := List.eq_of_mem_replicate hname
  decide

theorem isAbsolute_ups (k : Nat) :
    isAbsolute (Text.glue '/' (List.replicate (k + 1) "..")) = false := by
  have habs := isAbsolute_up k
  rw [isAbsolute, normalize_up] at habs
  rw [isAbsolute, normalize_glue fun name hname => (spells_ups _ name hname).2.2]
  exact habs

theorem Plain.bare_of_lower_eq {name other : String} (h : Plain name)
    (hlower : Text.lower other = Text.lower name) : Bare other := by
  have hsep : Text.IsSign sep := by decide
  intro hmem
  rw [← Text.mem_lower_iff hsep, hlower, Text.mem_lower_iff hsep] at hmem
  exact h.bare hmem

end Path

/-! ## Down and up again -/

namespace Store

/-- From the entry `id` the names lead down to `last`, from one entry to its first child of that
name. The entries on the way bear the names `shown`, which may be written in another case. -/
inductive Descent (s : Store) : String → List String → List String → String → Prop
  | stay {id : String} : Descent s id [] [] id
  | down {id name last : String} {names shown : List String} {child : Node}
      (first : s.childNamed id name = some child) (rest : Descent s child.id names shown last) :
      Descent s id (name :: names) (child.name :: shown) last

namespace Descent

/-- The names that the entries bear are without separators if those that they go by are. -/
theorem bare_shown (D : Descent s id names shown last) (h : ∀ name ∈ names, Path.Plain name) :
    ∀ part ∈ shown, Path.Bare part := by
  induction D with
  | stay => exact fun part hpart => absurd hpart List.not_mem_nil
  | @down id name last names shown child first rest ih =>
    intro part hpart
    rcases List.mem_cons.mp hpart with rfl | hpart
    · exact (h name List.mem_cons_self).bare_of_lower_eq (childNamed_eq_some first).2.2
    · exact ih (fun other hother => h other (List.mem_cons_of_mem name hother)) part hpart

theorem parent?_child (F : Forest s) {name : String} {child : Node}
    (h : s.childNamed id name = some child) : ∃ p, s.parent? child.id = some p ∧ p.id = id := by
  obtain ⟨p, hp, hc⟩ := (childNamed_eq_some h).1
  exact ⟨p, F.parent?_of_lists hp hc, id_of_get? hp⟩

/-- What lies below something has a parent. -/
theorem exists_parent? (F : Forest s) (D : Descent s id names shown last) (hne : names ≠ []) :
    ∃ p, s.parent? last = some p := by
  induction D with
  | stay => exact absurd rfl hne
  | @down id name last names shown child first rest ih =>
    cases rest with
    | stay =>
      obtain ⟨p, hp, -⟩ := parent?_child F first
      exact ⟨p, hp⟩
    | down => exact ih (List.cons_ne_nil _ _)

end Descent
end Store

namespace Session

open Store

/-- The names of a descent lead to the end of it, and add the names of the entries on the way. -/
theorem followShown_descent (D : Descent s id names shown last)
    (h : ∀ name ∈ names, Path.Plain name) (parts rest : List String) :
    followShown s id parts (names ++ rest) = followShown s last (parts ++ shown) rest := by
  induction D generalizing parts with
  | stay => rw [List.nil_append, List.append_nil]
  | @down id name last names shown child first below ih =>
    have hname := h name List.mem_cons_self
    rw [List.cons_append, followShown, if_neg hname.ne_dot, if_neg hname.ne_dots, first]
    dsimp only
    rw [ih fun other hother => h other (List.mem_cons_of_mem name hother), List.append_assoc,
      List.singleton_append]

/-- As many steps up as there are names lead back, and take the same parts off. The last step up is
the one that undoes the first step down, so the induction has what is followed behind it. -/
theorem followShown_ascent (F : Forest s) (D : Descent s id names shown last)
    (parts rest : List String) :
    followShown s last (parts ++ shown) (List.replicate names.length ".." ++ rest) =
      followShown s id parts rest := by
  induction D generalizing parts rest with
  | stay => rw [List.append_nil, List.length_nil, List.replicate_zero, List.nil_append]
  | @down id name last names shown child first below ih =>
    obtain ⟨p, hp, hpid⟩ := Descent.parent?_child F first
    rw [List.length_cons, List.replicate_succ', List.append_assoc, List.singleton_append,
      List.append_cons, ih, followShown, if_neg (by decide), if_pos rfl, hp]
    dsimp only
    rw [if_neg (by simp), List.dropLast_concat, hpid]

end Session

/-! ## The two commands -/

namespace Builtin

/-- `cd` enters the directory that a relative path leads to. The dot is not looked up, and neither
is the step up from an entry without a parent. -/
theorem cd_of_resolve {target : String} {place : Session.Place} (hne : target ≠ "")
    (hrel : Path.isAbsolute target = false) (hdot : target ≠ ".")
    (htop : target = ".." → ∃ p, σ.store.parent? σ.folder = some p)
    (hr : σ.resolve (some target) = .ok (some place)) (hdir : σ.store.HasDir place.id) :
    cd [target] σ = .ok .done { σ with folder := place.id, shown := place.shown } := by
  obtain ⟨n, hn, hdir⟩ := hdir
  have hseps : ¬ (target = "\\" ∨ target = "/") := by
    rintro (rfl | rfl) <;> cases hrel
  have hup : ¬ (target = ".." ∧ σ.store.parent? σ.folder = none) := by
    rintro ⟨hdots, hnone⟩
    obtain ⟨p, hp⟩ := htop hdots
    cases hnone.symm.trans hp
  have hglue : Text.glue ' ' [target] = target := String.intercalate_singleton
  have hdest : destination target σ = .ok place := by
    simp only [destination, hne, hseps, hdot, hup, if_false, Session.locate_of_resolve hr, hn,
      bind, Except.bind, pure, Except.pure, hdir, if_true]
  unfold cd Inquiry.andThen
  rw [hglue, hdest]
  rfl

section Names

variable (hne : names ≠ []) (h : ∀ name ∈ names, name ≠ "" ∧ Path.Bare name ∧ '/' ∉ name.toList)
  (hrel : Path.isAbsolute (Text.glue '/' names) = false)

include hne h hrel

/-- Names joined with slashes lead where they lead one after the other. -/
theorem cd_glue {place : Session.Place} (hdot : "." ∉ names)
    (htop : ".." ∈ names → ∃ p, σ.store.parent? σ.folder = some p)
    (hplace : Session.followShown σ.store σ.folder (Text.pieces Path.sep σ.shown) names =
      .ok (some place)) (hdir : σ.store.HasDir place.id) :
    cd [Text.glue '/' names] σ = .ok .done { σ with folder := place.id, shown := place.shown } := by
  have hsegs := Path.segments_normalize_glue hne h
  have hempty : Text.glue '/' names ≠ "" := by
    intro he
    rw [he] at hsegs
    exact hne hsegs.symm
  refine cd_of_resolve hempty hrel (fun he => hdot ?_) (fun he => htop ?_) ?_ hdir
  · rw [← hsegs, he]
    decide
  · rw [← hsegs, he]
    decide
  · rw [Session.resolve_relative hempty hrel, hsegs, hplace]

end Names

section Descent

variable (D : σ.store.Descent σ.folder names shown last) (hne : names ≠ [])
  (hplain : ∀ name ∈ names, Path.Plain name)

include D hne hplain

/-- Names that lead down to a directory are entered one below the other. -/
theorem cd_descent (hlast : σ.store.HasDir last)
    (hrel : Path.isAbsolute (Text.glue '/' names) = false) :
    cd [Text.glue '/' names] σ = .ok .done { σ with
      folder := last, shown := Path.display (Text.pieces Path.sep σ.shown ++ shown) } := by
  have hway := Session.followShown_descent D hplain (Text.pieces Path.sep σ.shown) []
  rw [List.append_nil] at hway
  refine cd_glue hne (fun name hname => ?_) hrel (fun hdot => ?_) (fun hdots => ?_) hway hlast
  · have hname := hplain name hname
    exact ⟨hname.nonempty, hname.bare, hname.slashless⟩
  · exact absurd rfl (hplain _ hdot).ne_dot
  · exact absurd rfl (hplain _ hdots).ne_dots

/-- From the end of a descent, going up as often leads back to where it started. -/
theorem cd_ascent (F : Forest σ.store) (hdir : σ.store.HasDir σ.folder) :
    cd [Text.glue '/' (List.replicate names.length "..")] { σ with
      folder := last, shown := Path.display (Text.pieces Path.sep σ.shown ++ shown) } =
        .ok .done σ := by
  obtain ⟨k, hk⟩ := Nat.exists_eq_succ_of_ne_zero (mt List.length_eq_zero_iff.mp hne)
  have hpieces : Text.pieces Path.sep (Path.display (Text.pieces Path.sep σ.shown ++ shown)) =
      Text.pieces Path.sep σ.shown ++ shown := by
    refine Text.pieces_glue (by simp [Text.pieces_ne_nil]) fun part hpart => ?_
    rcases List.mem_append.mp hpart with hpart | hpart
    · exact Text.notMem_of_mem_pieces hpart
    · exact D.bare_shown hplain part hpart
  have hshown : Path.display (Text.pieces Path.sep σ.shown) = σ.shown := Text.glue_pieces _ _
  have hway := Session.followShown_ascent F D (Text.pieces Path.sep σ.shown) []
  rw [List.append_nil, Session.followShown, hshown, ← hpieces] at hway
  have hrel : Path.isAbsolute (Text.glue '/' (List.replicate names.length "..")) = false :=
    hk ▸ Path.isAbsolute_ups k
  have hback := cd_glue (σ := { σ with
    folder := last, shown := Path.display (Text.pieces Path.sep σ.shown ++ shown) })
    (by simp [hne]) (Path.spells_ups _) hrel (by simp) (fun _ => D.exists_parent? F hne) hway hdir
  exact hback

end Descent

/-- Down along the names of entries to a directory and up again as often, `cd` succeeds twice and
leaves the session as it was, with the displayed path that it had, whether that was right or not. -/
theorem cd_back (F : Forest σ.store) (hdir : σ.store.HasDir σ.folder)
    (D : σ.store.Descent σ.folder names shown last) (hne : names ≠ [])
    (hplain : ∀ name ∈ names, Path.Plain name) (hlast : σ.store.HasDir last)
    (hrel : Path.isAbsolute (Text.glue '/' names) = false) :
    let τ := { σ with
      folder := last, shown := Path.display (Text.pieces Path.sep σ.shown ++ shown) }
    cd [Text.glue '/' names] σ = .ok .done τ ∧
      cd [Text.glue '/' (List.replicate names.length "..")] τ = .ok .done σ :=
  ⟨cd_descent D hne hplain hlast hrel, cd_ascent D hne hplain F hdir⟩

end Builtin

namespace Desktop

/-- Two folders down on a desktop with new ones, by names in another case. -/
theorem cd_back_notes : ∃ σ, session {} 0 (fun _ => .unset) = .ok σ ∧
    let τ := σ.play [⟨"mkdir Docs Docs/notes", 1⟩]
    Forest τ.store ∧ τ.store.HasDir τ.folder ∧ Path.Plain "DOCS" ∧ Path.Plain "Notes" ∧
      ∃ last, τ.store.Descent τ.folder ["DOCS", "Notes"] ["Docs", "notes"] last ∧
        τ.store.HasDir last ∧ Path.isAbsolute "DOCS/Notes" = false ∧
        ∃ υ, Builtin.cd ["DOCS/Notes"] τ = .ok .done υ ∧ υ.folder = last ∧
          υ.shown = "C:\\Desktop\\Docs\\notes" ∧ Builtin.cd ["../.."] υ = .ok .done τ := by
  let ts : List Typed := [⟨"mkdir Docs Docs/notes", 1⟩]
  have hrun : (session {} 0 fun _ => .unset).map (fun σ =>
      let τ := σ.play ts
      ((τ.store.childNamed τ.folder "DOCS").map fun n => (n.id, n.name),
        (τ.store.childNamed "file-1" "Notes").map fun n => (n.name, n.isDir), τ.shown)) =
      .ok (some ("file-1", "Docs"), some ("notes", true), "C:\\Desktop") := by
    decide +kernel
  obtain ⟨σ, hσ, S⟩ := exists_play ts
  refine ⟨σ, hσ, ?_⟩
  have hrun := eq_of_session hσ hrun
  dsimp only at hrun ⊢
  generalize σ.play ts = τ at S hrun ⊢
  simp only [Prod.mk.injEq] at hrun
  obtain ⟨hdocs, hnotes, hshown⟩ := hrun
  obtain ⟨docs, hdocs, hdoc⟩ := Option.map_eq_some_iff.mp hdocs
  obtain ⟨notes, hnotes, hnote⟩ := Option.map_eq_some_iff.mp hnotes
  obtain ⟨hid, hdoc⟩ := Prod.mk.inj hdoc
  obtain ⟨hnote, hnotesdir⟩ := Prod.mk.inj hnote
  have hfolder : τ.store.HasDir τ.folder := S.hasDir_of_lists (Store.childNamed_eq_some hdocs).1
  have hlast : τ.store.HasDir notes.id :=
    ⟨notes, (Store.childNamed_eq_some hnotes).2.1, hnotesdir⟩
  have D : τ.store.Descent τ.folder ["DOCS", "Notes"] ["Docs", "notes"] notes.id :=
    hdoc ▸ hnote ▸ .down hdocs (.down (hid.symm ▸ hnotes) .stay)
  have hplain : ∀ name ∈ ["DOCS", "Notes"], Path.Plain name := by decide
  obtain ⟨hdown, hup⟩ := Builtin.cd_back S.toForest hfolder D (List.cons_ne_nil _ _) hplain hlast
    (by decide)
  refine ⟨S.toForest, hfolder, hplain _ (by decide), hplain _ (by decide), notes.id, D, hlast,
    by decide, _, hdown, rfl, ?_, hup⟩
  have hparts : Path.display (Text.pieces Path.sep "C:\\Desktop" ++ ["Docs", "notes"]) =
      "C:\\Desktop\\Docs\\notes" := by
    decide
  rwa [← hshown] at hparts

end Desktop
end DeskShell

import DeskShell.Proofs.Order
import DeskShell.Proofs.Trails

/-!
# The displayed path of the working folder

A session keeps the path that it displays for its working folder as a text, which only `cd` renews.
The text stays right as long as no command moves or renames the folder or what is above it.

* `Session.InSync`: the displayed path is the path of the working folder.
* `Session.followShown_trail`: names that are followed from the trail of an entry lead to a trail.
* `Session.Enters.inSync`: `cd` keeps it so, whatever path it is given.
* `Deed.Stays`: a command leaves the path of the working folder. Only `mv` and `rm` may not.
* `Session.Advances.inSync_iff`: a command keeps the displayed path right if and only if it stays.
* `Engine.Chain.inSync_iff_path_eq`: without `cd`, what counts is the path at the start and the end.
* `Desktop.inSync_deeds_iff`: what this means for sessions on the delivered desktop.
-/
namespace DeskShell

open Builtin (Program)
open Session (InOrder Evolves Advances)

variable {C : Type} {N : String → Prop} {K : Change → Prop} {σ τ : Session C}

/-- The displayed path is the path of the working folder. -/
def Session.InSync (σ : Session C) : Prop := σ.store.path σ.folder = .ok σ.shown

/-- The command leaves the path of the folder that it is carried out in. -/
def Deed.Stays (d : Deed C) : Prop :=
  d.after.store.path d.before.folder = d.before.store.path d.before.folder

namespace Session

open Store

/-! ## Entering folders -/

theorem get?_follow {s : Store} (F : Forest s) : ∀ {segs : List String} {n m : Node},
    s.get? n.id = some n → s.follow n segs = some m → s.get? m.id = some m
  | [], n, m, hn, h => by
    obtain rfl := Option.some.inj h
    exact hn
  | seg :: segs, n, m, hn, h => by
    unfold follow at h
    split at h
    · exact get?_follow F hn h
    · split at h
      · refine get?_follow F ?_ h
        cases hp : s.parent? n.id with
        | none => exact hn
        | some p => exact (F.parent?_eq_some_iff.mp hp).1
      · split at h
        · cases h
        · next child hchild => exact get?_follow F (childNamed_eq_some hchild).2.1 h

/-- From the trail of an entry, the parts that are followed are the trail of the entry reached. -/
theorem followShown_trail {s : Store} (F : Forest s) : ∀ (segs : List String) {n : Node},
    s.get? n.id = some n → followShown s n.id (s.trail n) segs =
      .ok ((s.follow n segs).map fun m => ⟨m.id, Path.display (s.trail m)⟩)
  | [], n, _ => rfl
  | seg :: segs, n, hn => by
    unfold followShown follow
    split
    · exact followShown_trail F segs hn
    · split
      · cases hp : s.parent? n.id with
        | none => exact followShown_trail F segs hn
        | some p =>
          have hne : (s.trail n).isEmpty = false := rfl
          have hdrop : (s.trail n).dropLast = s.trail p := by
            rw [trail_of_parent F hp, List.dropLast_concat]
          dsimp only
          rw [hne, hdrop]
          exact followShown_trail F segs (F.parent?_eq_some_iff.mp hp).1
      · cases hchild : s.childNamed n.id seg with
        | none => rfl
        | some child =>
          dsimp only
          rw [← trail_of_childNamed F hn hchild]
          exact followShown_trail F segs (childNamed_eq_some hchild).2.1

/-- From the trail of an entry, the parts followed lead to the path of the entry that is found. -/
theorem path_of_followShown {s : Store} (F : Forest s) {segs : List String} {n : Node}
    {place : Place} (hn : s.get? n.id = some n)
    (h : followShown s n.id (s.trail n) segs = .ok (some place)) :
    s.path place.id = .ok place.shown := by
  rw [followShown_trail F segs hn] at h
  obtain ⟨m, hm, rfl⟩ := Option.map_eq_some_iff.mp (Except.ok.inj h)
  exact path_of_get? (get?_follow F hn hm)

/-- The displayed parts are the trail of the working folder. -/
theorem InSync.pieces_shown (h : σ.InSync) (hσ : σ.InOrder Path.Bare) {n : Node}
    (hn : σ.store.get? σ.folder = some n) : Text.pieces Path.sep σ.shown = σ.store.trail n := by
  have hshown : σ.shown = Path.display (σ.store.trail n) :=
    Except.ok.inj (h.symm.trans (path_of_get? hn))
  rw [hshown]
  exact pieces_display_trail hσ.sound.toForest hσ.named (by rwa [id_of_get? hn])

theorem path_of_resolve (hσ : σ.InOrder Path.Bare) (h : σ.InSync) {path : Option String}
    {place : Place} (hp : σ.resolve path = .ok (some place)) :
    σ.store.path place.id = .ok place.shown := by
  rcases σ.resolve_cases path with hr | ⟨target, hr⟩ | ⟨segs, hr⟩
  · rw [hr] at hp
    obtain rfl := Option.some.inj (Except.ok.inj hp)
    exact h
  · rw [hr] at hp
    exact (resolveAbsolute_eq_ok hp).2
  · -- The displayed parts are the trail of the folder, so those that are found make a trail too.
    obtain ⟨n, hn, -⟩ := hσ.folder
    have hid := id_of_get? hn
    rw [hr, h.pieces_shown hσ hn, ← hid] at hp
    exact path_of_followShown hσ.sound.toForest (by rwa [hid]) hp

theorem path_of_destination (hσ : σ.InOrder Path.Bare) (h : σ.InSync) {target : String}
    {place : Place} (hp : Builtin.destination target σ = .ok place) :
    σ.store.path place.id = .ok place.shown := by
  rcases Builtin.destination_eq_ok hp with ⟨hid, hshown⟩ | ⟨hresolve, -⟩
  · rw [hid]
    exact hshown
  · exact path_of_resolve hσ h hresolve

theorem Enters.inSync (h : σ.Enters τ) (hσ : σ.InOrder Path.Bare) (hs : σ.InSync) : τ.InSync := by
  cases h with
  | stays => exact hs
  | moves h => exact path_of_destination hσ hs h

/-! ## Commands -/

theorem Alike.inSync (h : σ.Alike τ) (hs : σ.InSync) : τ.InSync := by
  unfold InSync
  rw [h.store, h.folder, h.shown]
  exact hs

theorem Evolves.inSync (h : Evolves N Change.Quiet σ τ) (hσ : σ.InOrder N) (hs : σ.InSync) :
    τ.InSync := by
  unfold InSync
  rw [h.folder, h.shown, h.trace.path_eq hσ.sound hσ.folder]
  exact hs

/-- Steps in the same folder keep the displayed path right if and only if they keep the path. -/
theorem inSync_iff_path_eq (hfolder : τ.folder = σ.folder) (hshown : τ.shown = σ.shown)
    (hs : σ.InSync) : τ.InSync ↔ τ.store.path σ.folder = σ.store.path σ.folder := by
  unfold InSync
  rw [hfolder, hshown, show σ.store.path σ.folder = .ok σ.shown from hs]

/-- Steps that move no folder, and entering one between them, leave the path of a folder. -/
theorem Passes.path_eq (h : σ.Passes N τ) (hσ : σ.InOrder N) {id : String}
    (hid : σ.store.HasDir id) : τ.store.path id = σ.store.path id := by
  obtain ⟨α, β, hα, hβ, hτ⟩ := h
  have hβo := hβ.inOrder (hα.inOrder hσ)
  have hdir : β.store.HasDir id := by
    rw [hβ.fields.1]
    exact (hα.trace.sound hσ.sound).2.2 id hid
  rw [hτ.trace.path_eq hβo.sound hdir, hβ.fields.1, hα.trace.path_eq hσ.sound hid]

theorem Passes.inSync (h : σ.Passes Path.Bare τ) (hσ : σ.InOrder Path.Bare) (hs : σ.InSync) :
    τ.InSync := by
  obtain ⟨α, β, hα, hβ, hτ⟩ := h
  have hαo := hα.inOrder hσ
  exact hτ.inSync (hβ.inOrder hαo) (hβ.inSync hαo (hα.inSync hσ hs))

namespace Advances

variable {p : Option Program}

/-- Only `mv` and `rm` can change the path of a folder. -/
theorem path_eq (h : Advances N p σ τ) (hσ : σ.InOrder N) (hmv : p ≠ some .mv)
    (hrm : p ≠ some .rm) : τ.store.path σ.folder = σ.store.path σ.folder := by
  cases h with
  | quiet h => exact h.trace.path_eq hσ.sound hσ.folder
  | enters h => exact h.path_eq hσ hσ.folder
  | moves hp _ => exact absurd hp (by simp [hmv, hrm])

/-- Only `cd` enters another folder. -/
theorem folder_shown (h : Advances N p σ τ) (hcd : p ≠ some .cd) :
    τ.folder = σ.folder ∧ τ.shown = σ.shown := by
  cases h with
  | quiet h | moves _ h => exact ⟨h.folder, h.shown⟩
  | enters _ => exact absurd rfl hcd

theorem inSync_iff (h : Advances Path.Bare p σ τ) (hσ : σ.InOrder Path.Bare) (hs : σ.InSync) :
    τ.InSync ↔ τ.store.path σ.folder = σ.store.path σ.folder := by
  cases h with
  | quiet h | moves _ h => exact inSync_iff_path_eq h.folder h.shown hs
  | enters h => exact iff_of_true (h.inSync hσ hs) (h.path_eq hσ hσ.folder)

end Advances
end Session

/-! ## Rows of commands -/

namespace Engine.Chain

variable {σ τ : Session Program} {ds : List (Deed Program)}

/-- From a session in order whose displayed path is right, it stays right from command to command
if and only if all of them stay. -/
theorem inSync_iff_stays (h : Chain Program.run σ ds τ) (hσ : σ.InOrder Path.Bare)
    (hs : σ.InSync) : (∀ d ∈ ds, d.after.InSync) ↔ ∀ d ∈ ds, d.Stays := by
  obtain ⟨-, hds⟩ := h.inOrder Path.bare_splitParent hσ
  induction h with
  | nil => simp
  | @cons σ τ d ds ha _ _ _ ih =>
    obtain ⟨⟨hbefore, hadvances⟩, hrest⟩ := List.forall_mem_cons.mp hds
    have hd : d.after.InSync ↔ d.Stays := hadvances.inSync_iff hbefore (ha.inSync hs)
    rw [List.forall_mem_cons, List.forall_mem_cons, ← hd]
    exact and_congr_right fun hafter => ih (hadvances.inOrder hbefore) hafter hrest

theorem inSync (h : Chain Program.run σ ds τ) (hσ : σ.InOrder Path.Bare) (hs : σ.InSync)
    (hstays : ∀ d ∈ ds, d.Stays) : τ.InSync := by
  have hafter := (h.inSync_iff_stays hσ hs).mpr hstays
  exact (h.invariant (I := Session.InSync) (fun σ τ ha hσ => ha.inSync hσ)
    (fun d hd _ => hafter d hd) hs).1

/-- Without `cd`, the session stays in its folder and displays the same path. -/
theorem folder_shown (h : Chain Program.run σ ds τ) (hσ : σ.InOrder Path.Bare)
    (hcd : ∀ d ∈ ds, d.entry? ≠ some .cd) : τ.folder = σ.folder ∧ τ.shown = σ.shown := by
  obtain ⟨-, hds⟩ := h.inOrder Path.bare_splitParent hσ
  refine (h.invariant (I := fun υ => υ.folder = σ.folder ∧ υ.shown = σ.shown)
    (fun υ ρ ha ⟨hf, hsh⟩ => ⟨ha.folder.trans hf, ha.shown.trans hsh⟩)
    (fun d hd ⟨hf, hsh⟩ => ?_) ⟨rfl, rfl⟩).1
  obtain ⟨hf', hsh'⟩ := (hds d hd).2.folder_shown (hcd d hd)
  exact ⟨hf'.trans hf, hsh'.trans hsh⟩

/-- Without `cd`, the displayed path stays right if and only if the path of the folder does not
change on the whole. -/
theorem inSync_iff_path_eq (h : Chain Program.run σ ds τ) (hσ : σ.InOrder Path.Bare)
    (hs : σ.InSync) (hcd : ∀ d ∈ ds, d.entry? ≠ some .cd) :
    τ.InSync ↔ τ.store.path σ.folder = σ.store.path σ.folder := by
  obtain ⟨hfolder, hshown⟩ := h.folder_shown hσ hcd
  exact Session.inSync_iff_path_eq hfolder hshown hs

end Engine.Chain

/-! ## The delivered desktop -/

namespace Desktop

/-- A session with the built-in commands on a fresh desktop. -/
def session (o : Session.Options) (now : Int) (hooks : Signal → Hook) :
    Except Fault (Session Program) :=
  match store now with
  | .error f => .error f
  | .ok s =>
    match Session.start s o now with
    | .error f => .error f
    | .ok σ => .ok (σ.ready hooks)

theorem store_of_session {o : Session.Options} {now : Int} {hooks : Signal → Hook}
    {σ : Session Program} (h : session o now hooks = .ok σ) : store now = .ok σ.store := by
  unfold session at h
  split at h
  · cases h
  · next s hs =>
    split at h
    · cases h
    · next τ hτ =>
      obtain rfl := Except.ok.inj h
      have hstore : τ.store = s := by
        unfold Session.start at hτ
        dsimp only at hτ
        split at hτ
        · cases hτ
        · obtain rfl := Except.ok.inj hτ
          rfl
      rw [hs, (τ.ready_fields hooks).1, hstore]

theorem named_store {s : Store} {now : Int} (hs : store now = .ok s) : s.Named Path.Bare := by
  obtain ⟨t, ht, -, -, h⟩ := exists_store now
  obtain rfl := Except.ok.inj (hs.symm.trans ht)
  have hall : ∀ o ∈ outline, Path.Bare o.name := by decide
  intro n hn
  have hmem : n.outline ∈ outline := by
    rw [← h]
    exact List.mem_map_of_mem hn
  exact hall n.outline hmem

theorem home_of_start {s : Store} {o : Session.Options} {now : Int} {σ : Session C}
    (h : Session.start s o now = .ok σ) : σ.home = o.homeIn s := by
  unfold Session.start at h
  dsimp only at h
  split at h
  · cases h
  · obtain rfl := Except.ok.inj h
    rfl

/-- A session on a fresh desktop starts in order if its home folder is there. -/
theorem inOrder_of_session {o : Session.Options} {now : Int} {hooks : Signal → Hook}
    {σ : Session Program} (hσ : session o now hooks = .ok σ) (hhome : σ.store.HasDir σ.home) :
    σ.InOrder Path.Bare := by
  have hs := store_of_session hσ
  unfold session at hσ
  rw [hs] at hσ
  dsimp only at hσ
  split at hσ
  · cases hσ
  · next υ hstart =>
    obtain rfl := Except.ok.inj hσ
    rw [(υ.ready_fields hooks).2.1, home_of_start hstart] at hhome
    have S := sound_store hs
    exact (Session.inOrder_ready { S with home := hhome } (named_store hs) hstart hooks).1

/-- A session starts in order, in the root folder, with the right path displayed. -/
theorem exists_session (o : Session.Options) (now : Int) (hooks : Signal → Hook) :
    ∃ σ, session { o with home := "" } now hooks = .ok σ ∧ σ.InOrder Path.Bare ∧ σ.InSync := by
  obtain ⟨s, hs, -⟩ := exists_store now
  have hsound : s.Sound (Session.Options.homeIn { o with home := "" } s) := sound_store hs
  obtain ⟨σ, hσ, hstore, -, hfolder, hshown⟩ := Session.exists_start (C := Program) hsound now
  obtain ⟨hstore', -, hfolder', hshown'⟩ := σ.ready_fields hooks
  refine ⟨σ.ready hooks, ?_, (Session.inOrder_ready hsound (named_store hs) hσ hooks).1, ?_⟩
  · unfold session
    simp only [hs, hσ]
  · unfold Session.InSync
    rw [hstore', hfolder', hshown', hstore, hfolder]
    exact hshown

/-- Whatever is typed into a session on a fresh desktop, the displayed path is right after each
command if and only if each command leaves the path of the folder that it is carried out in, which
all but `mv` and `rm` do. It is then right after the lines too. When no `cd` has been carried out
since the start, or since a command after which the displayed path was right, it is right if and
only if the path of the working folder is still the same. -/
theorem inSync_deeds_iff (o : Session.Options) (now : Int) (hooks : Signal → Hook) :
    ∃ σ, session { o with home := "" } now hooks = .ok σ ∧ ∀ ts : List Typed,
      let τ := σ.play ts
      ((∀ d ∈ σ.deeds ts, d.after.InSync) ↔ ∀ d ∈ σ.deeds ts, d.Stays) ∧
      (∀ d ∈ σ.deeds ts, d.entry? ≠ some .mv → d.entry? ≠ some .rm → d.Stays) ∧
      ((∀ d ∈ σ.deeds ts, d.Stays) → τ.InSync) ∧
      ((∀ d ∈ σ.deeds ts, d.entry? ≠ some .cd) →
        (τ.InSync ↔ τ.store.path σ.folder = σ.store.path σ.folder)) ∧
      ∀ ds d es, σ.deeds ts = ds ++ d :: es → d.after.InSync → (∀ e ∈ es, e.entry? ≠ some .cd) →
        (τ.InSync ↔ τ.store.path d.after.folder = d.after.store.path d.after.folder) := by
  obtain ⟨σ, hsession, hσ, hs⟩ := exists_session o now hooks
  refine ⟨σ, hsession, fun ts => ?_⟩
  have hchain := Session.chain_play ts σ
  have hds := (hchain.inOrder Path.bare_splitParent hσ).2
  refine ⟨hchain.inSync_iff_stays hσ hs, fun d hd hmv hrm => ?_, hchain.inSync hσ hs,
    hchain.inSync_iff_path_eq hσ hs, fun ds d es hsplit hd => ?_⟩
  · obtain ⟨hbefore, hadvances⟩ := hds d hd
    exact hadvances.path_eq hbefore hmv hrm
  · obtain ⟨hbefore, hadvances⟩ := hds d (by simp [hsplit])
    rw [hsplit] at hchain
    exact hchain.of_append.inSync_iff_path_eq (hadvances.inOrder hbefore) hd

/-- A session that renames its working folder goes on displaying the old path. -/
theorem not_inSync_mv : ∃ σ, session {} 0 (fun _ => .unset) = .ok σ ∧
    ¬ (σ.play [⟨"mv . T", 1⟩]).InSync := by
  have hrun : (session {} 0 fun _ => .unset).map (fun σ =>
      let τ := σ.play [⟨"mv . T", 1⟩]
      (τ.shown, τ.store.path τ.folder)) = .ok ("C:\\Desktop", .ok "C:\\T") := by
    decide +kernel
  obtain ⟨σ, hσ, -⟩ := exists_session {} 0 fun _ => .unset
  rw [hσ] at hrun
  obtain ⟨hshown, hpath⟩ := Prod.mk.inj (Except.ok.inj hrun)
  refine ⟨σ, hσ, fun h => ?_⟩
  unfold Session.InSync at h
  rw [hshown, hpath] at h
  exact absurd (Except.ok.inj h) (by decide)

end Desktop
end DeskShell

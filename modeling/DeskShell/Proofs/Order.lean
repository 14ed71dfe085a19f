import DeskShell.Proofs.Desktop
import DeskShell.Proofs.Lines

/-!
# Whatever is typed, the store stays sound

* `Session.exists_start_of_hasDir`: a session can be started on a store with a home folder.
* `Session.Advances.parentless_iff`: no command changes which entries have no parent.
* `Session.sound_play`: after any lines, typed into a session with the built-in commands on any
  sound store, the store is sound, the same entries are without a parent, and the session stands in
  a stored folder.
-/
namespace DeskShell

open Builtin (Program)
open Session (Advances)

variable {C : Type} {N : String → Prop} {K : Change → Prop} {σ τ : Session C}

namespace Session

/-- The home folder of a session on the store `s`. -/
def Options.homeIn (o : Options) (s : Store) : String := if o.home = "" then s.rootId else o.home

theorem exists_start_of_hasDir {s : Store} {o : Options} (hs : s.HasDir (o.homeIn s)) (now : Int) :
    ∃ σ : Session C, start s o now = .ok σ ∧ σ.store = s ∧ σ.home = o.homeIn s ∧
      σ.folder = o.homeIn s ∧ s.path (o.homeIn s) = .ok σ.shown := by
  obtain ⟨n, hn, -⟩ := hs
  have hpath : ∃ shown, s.path (o.homeIn s) = .ok shown := by
    unfold Store.path
    rw [Store.require_eq_ok.mpr hn]
    exact ⟨_, rfl⟩
  obtain ⟨shown, hshown⟩ := hpath
  unfold start
  dsimp only
  rw [show (if o.home = "" then s.rootId else o.home) = o.homeIn s from rfl, hshown]
  exact ⟨_, rfl, rfl, rfl, rfl, rfl⟩

theorem exists_start {s : Store} {o : Options} (hs : s.Sound (o.homeIn s)) (now : Int) :
    ∃ σ : Session C, start s o now = .ok σ ∧ σ.store = s ∧ σ.home = o.homeIn s ∧
      σ.folder = o.homeIn s ∧ s.path (o.homeIn s) = .ok σ.shown :=
  exists_start_of_hasDir hs.home now

/-- Entering commands in the table leaves everything else. -/
theorem withPrograms_fields (σ : Session C) (command : Program → C) :
    (σ.withPrograms command).store = σ.store ∧ (σ.withPrograms command).home = σ.home ∧
      (σ.withPrograms command).folder = σ.folder ∧ (σ.withPrograms command).shown = σ.shown := by
  unfold withPrograms registerAs
  refine List.foldlRecOn (motive := fun τ : Session C => τ.store = σ.store ∧ τ.home = σ.home ∧
    τ.folder = σ.folder ∧ τ.shown = σ.shown) _ _ ⟨rfl, rfl, rfl, rfl⟩ fun τ hτ p _ => ?_
  exact List.foldlRecOn (motive := fun υ : Session C => υ.store = σ.store ∧ υ.home = σ.home ∧
    υ.folder = σ.folder ∧ υ.shown = σ.shown) _ _ hτ fun υ hυ name _ => hυ

/-- A session with the built-in commands in the hands of a host. -/
def ready (σ : Session Program) (hooks : Signal → Hook) : Session Program :=
  { σ with hooks }.withPrograms id

theorem ready_fields (σ : Session Program) (hooks : Signal → Hook) :
    (σ.ready hooks).store = σ.store ∧ (σ.ready hooks).home = σ.home ∧
      (σ.ready hooks).folder = σ.folder ∧ (σ.ready hooks).shown = σ.shown :=
  withPrograms_fields { σ with hooks } id

theorem inOrder_ready {s : Store} {o : Options} (hs : s.Sound (o.homeIn s)) (hN : s.Named N)
    {now : Int} {σ : Session Program} (hσ : start s o now = .ok σ) (hooks : Signal → Hook) :
    (σ.ready hooks).InOrder N ∧ (σ.ready hooks).store = s ∧
      (σ.ready hooks).home = o.homeIn s := by
  obtain ⟨σ', hσ', hstore, hhome, hfolder, -⟩ := exists_start (C := Program) hs now
  obtain rfl := Except.ok.inj (hσ.symm.trans hσ')
  obtain ⟨hstore', hhome', hfolder', -⟩ := σ.ready_fields hooks
  have hs' := hstore'.trans hstore
  refine ⟨⟨?_, ?_, ?_⟩, hs', hhome'.trans hhome⟩
  · rw [hs', hhome', hhome]
    exact hs
  · rw [hs', hfolder', hfolder]
    exact hs.home
  · rw [hs']
    exact hN

/-! ## Entries without a parent -/

theorem Evolves.parentless_iff (h : σ.Evolves N K τ) (hσ : σ.InOrder N) (id : String) :
    τ.store.Parentless id ↔ σ.store.Parentless id :=
  (h.trace.sound hσ.sound).2.1 id

theorem Enters.fields (h : σ.Enters τ) : τ.store = σ.store ∧ τ.home = σ.home := by
  cases h <;> exact ⟨rfl, rfl⟩

theorem Advances.home {p : Option Program} (h : σ.Advances N p τ) : τ.home = σ.home := by
  cases h with
  | quiet h | moves _ h => exact h.home
  | enters h =>
    obtain ⟨α, β, hα, hβ, hτ⟩ := h
    rw [hτ.home, hβ.fields.2, hα.home]

theorem Advances.parentless_iff {p : Option Program} (h : σ.Advances N p τ) (hσ : σ.InOrder N)
    (id : String) : τ.store.Parentless id ↔ σ.store.Parentless id := by
  cases h with
  | quiet h | moves _ h => exact h.parentless_iff hσ id
  | enters h =>
    obtain ⟨α, β, hα, hβ, hτ⟩ := h
    have hαo := hα.inOrder hσ
    rw [hτ.parentless_iff (hβ.inOrder hαo), hβ.fields.1, hα.parentless_iff hσ]

/-- What a session in order keeps, whatever is typed into it. -/
theorem keeps_play {σ : Session Program} (hσ : σ.InOrder fun _ => True) (ts : List Typed) :
    (σ.play ts).InOrder (fun _ => True) ∧ (σ.play ts).home = σ.home ∧
      ∀ id, (σ.play ts).store.Parentless id ↔ σ.store.Parentless id := by
  have hchain := chain_play ts σ
  obtain ⟨hτ, hds⟩ := hchain.inOrder (fun _ => trivial) hσ
  obtain ⟨⟨hhome, hparent⟩, -⟩ := hchain.invariant
    (I := fun τ => τ.home = σ.home ∧ ∀ id, τ.store.Parentless id ↔ σ.store.Parentless id)
    (fun τ υ ha ⟨hh, hp⟩ => ⟨ha.home.trans hh, fun id => by rw [ha.store, hp]⟩)
    (fun d hd ⟨hh, hp⟩ => by
      obtain ⟨hbefore, hadvances⟩ := hds d hd
      exact ⟨hadvances.home.trans hh,
        fun id => (hadvances.parentless_iff hbefore id).trans (hp id)⟩)
    ⟨rfl, fun _ => Iff.rfl⟩
  exact ⟨hτ, hhome, hparent⟩

/-- The delivered desktop is sound. On every sound store a session can be started, and whatever
lines are typed into it, the store stays sound with the same entries at the top, and the working
folder is stored and a folder. -/
theorem sound_play :
    (∀ now, ∃ seed, Desktop.store now = .ok seed ∧ seed.Sound seed.rootId) ∧
    ∀ (seed : Store) (o : Options) (now : Int), seed.Sound (o.homeIn seed) →
      ∃ σ : Session Program, start seed o now = .ok σ ∧
        ∀ (hooks : Signal → Hook) (ts : List Typed),
          let τ := (σ.ready hooks).play ts
          τ.store.Sound (o.homeIn seed) ∧
            (∀ id, τ.store.Parentless id ↔ seed.Parentless id) ∧ τ.store.HasDir τ.folder := by
  refine ⟨fun now => ?_, fun seed o now hseed => ?_⟩
  · obtain ⟨seed, hs, -⟩ := Desktop.exists_store now
    exact ⟨seed, hs, Desktop.sound_store hs⟩
  · obtain ⟨σ, hσ, -⟩ := exists_start (C := Program) hseed now
    refine ⟨σ, hσ, fun hooks ts => ?_⟩
    obtain ⟨hready, hstore, hhome⟩ :=
      inOrder_ready (N := fun _ => True) hseed (fun _ _ => trivial) hσ hooks
    obtain ⟨hτ, hτhome, hτparent⟩ := keeps_play hready ts
    refine ⟨?_, fun id => ?_, hτ.folder⟩
    · rw [← hhome, ← hτhome]
      exact hτ.sound
    · rw [hτparent id, hstore]

/-- The case of a fresh desktop on which folders are made, entered, moved and copied. -/
theorem sound_play_desktop : ∃ seed, ∃ σ : Session Program, Desktop.store 0 = .ok seed ∧
    start seed {} 0 = .ok σ ∧
    ((σ.ready fun _ => .unset).play [⟨"mkdir a b", 1⟩, ⟨"cd a", 2⟩,
      ⟨"mv . ../b; cp -r ../b ../c", 3⟩]).store.Sound seed.rootId := by
  obtain ⟨seed, hs, -⟩ := Desktop.exists_store 0
  obtain ⟨σ, hσ, hplay⟩ := sound_play.2 seed {} 0 (Desktop.sound_store hs)
  exact ⟨seed, σ, hs, hσ, (hplay (fun _ => .unset) _).1⟩

end Session
end DeskShell

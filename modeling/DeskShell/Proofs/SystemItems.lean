import DeskShell.Proofs.Order
import DeskShell.Proofs.Reliable
import Mathlib.Data.List.Find

/-!
# System items stay as they are

Renaming, moving, removing, copying over and writing to a system item are refused in many places.
Together they leave no way to change one.

* `Store.Fixed`: an entry is stored as it was and in the folder in which it was, apart from its own
  list of children.
* `Store.Step.fixed`, `Store.fixed_purge`: each change of a store fixes its system items.
* `Session.full_guards`: so do commands.
* `Session.systems_play`: so does any number of lines.
-/
namespace DeskShell

open Builtin (Program)
open Session (FullFrame)

variable {C : Type} {N : String → Prop} {K : Change → Prop}

namespace Node

variable {c x : String}

theorem lists_pushChild (h : x ≠ c) (n : Node) : (n.pushChild c).lists x = n.lists x := by
  cases hn : n.children <;> simp [lists, pushChild, childIds, hn, h]

theorem lists_dropChild (h : x ≠ c) (n : Node) : (n.dropChild c).lists x = n.lists x := by
  unfold lists
  rw [childIds_dropChild, Bool.eq_iff_iff, List.contains_iff_mem, List.contains_iff_mem]
  exact List.mem_erase_of_ne h

end Node

namespace Store

variable {s t u : Store} {id c : String}

/-! ## One entry -/

/-- The entry `id` is the same in `t` as in `s`, but for its children, and in the same folder. -/
structure Fixed (id : String) (s t : Store) : Prop where
  entry : ∀ n, s.get? id = some n → ∃ m, t.get? id = some m ∧ m = { n with children := m.children }
  parent : (t.parent? id).map (·.id) = (s.parent? id).map (·.id)

namespace Fixed

theorem refl (s : Store) : Fixed id s s := ⟨fun n hn => ⟨n, hn, rfl⟩, rfl⟩

theorem trans (h : Fixed id s t) (h' : Fixed id t u) : Fixed id s u := by
  refine ⟨fun n hn => ?_, h'.parent.trans h.parent⟩
  obtain ⟨m, hm, hmn⟩ := h.entry n hn
  obtain ⟨l, hl, hlm⟩ := h'.entry m hm
  refine ⟨l, hl, ?_⟩
  rw [hlm, hmn]

/-- A change of entries that leaves what they list. -/
theorem parent_adjust {f : Node → Node} (hf : ∀ n, (f n).id = n.id)
    (hl : ∀ n, (f n).lists id = n.lists id) :
    ((s.adjust c f).parent? id).map (·.id) = (s.parent? id).map (·.id) := by
  unfold parent? adjust
  rw [List.find?_map, Option.map_map]
  have hp : ∀ n ∈ s.nodes,
      ((fun m : Node => m.lists id) ∘ fun n => if n.id == c then f n else n) n = n.lists id := by
    intro n _
    by_cases hn : n.id = c <;> simp [hn, hl]
  rw [List.find?_congr hp]
  congr 1
  funext n
  by_cases hn : n.id = c <;> simp [hn, hf]

theorem pushChild (h : id ≠ c) (p : String) : Fixed id s (s.adjust p (Node.pushChild c)) := by
  refine ⟨fun n hn => ?_, parent_adjust (Node.id_pushChild c) (Node.lists_pushChild h)⟩
  rw [get?_adjust s p _ (Node.id_pushChild c)]
  split
  · next hp => exact ⟨n.pushChild c, by rw [← hp, hn]; rfl, rfl⟩
  · exact ⟨n, hn, rfl⟩

theorem dropChild (h : id ≠ c) (p : String) : Fixed id s (s.adjust p (Node.dropChild c)) := by
  refine ⟨fun n hn => ?_, parent_adjust (Node.id_dropChild c) (Node.lists_dropChild h)⟩
  rw [get?_adjust s p _ (Node.id_dropChild c)]
  split
  · next hp => exact ⟨n.dropChild c, by rw [← hp, hn]; rfl, rfl⟩
  · exact ⟨n, hn, rfl⟩

theorem adjust (h : id ≠ c) {f : Node → Node} (hf : ∀ n, (f n).id = n.id)
    (hc : ∀ n, (f n).childIds = n.childIds) : Fixed id s (s.adjust c f) := by
  refine ⟨fun n hn => ⟨n, ?_, rfl⟩, parent_adjust hf fun n => by simp [Node.lists, hc]⟩
  rw [get?_adjust s c f hf, if_neg h]
  exact hn

theorem insert {n : Node} (hc : n.childIds = []) : Fixed id s (s.insert n) := by
  refine ⟨fun m hm => ⟨m, ?_, rfl⟩, ?_⟩
  · rw [get?_insert, hm, Option.some_or]
  · unfold parent? Store.insert
    rw [List.find?_append]
    simp [Node.lists, hc]

theorem erase (h : id ≠ c) (hd : s.IdsDistinct) (hc : ∀ n, s.get? c = some n → n.childIds = []) :
    Fixed id s (s.erase c) := by
  refine ⟨fun n hn => ⟨n, ?_, rfl⟩, ?_⟩
  · rw [get?_erase, if_neg h]
    exact hn
  · unfold parent? Store.erase
    rw [List.find?_filter]
    have hp : ∀ n ∈ s.nodes, decide ((n.id != c) = true ∧ n.lists id = true) = n.lists id := by
      intro n hn
      by_cases hnc : n.id = c
      · have := hc n (hnc ▸ hd.get?_of_mem hn)
        simp [Node.lists, this]
      · simp [hnc]
    rw [List.find?_congr hp]

/-- A file that goes out of the store leaves all other entries in their places. -/
theorem purge (h : id ≠ c) (R : s.Reliable) {n : Node} (hn : s.get? c = some n)
    (hf : n.isDir = false) : Fixed id s ((s.unlisted c).erase c) := by
  have hc := R.childIds_of_file hn hf
  unfold unlisted
  split
  · refine erase h R.distinct fun m hm => ?_
    obtain rfl := Option.some.inj (hn.symm.trans hm)
    exact hc
  · next p hp =>
    have R' := R.dropChild p.id c
    refine (dropChild h p.id).trans (erase h R'.distinct fun m hm => ?_)
    rw [get?_adjust s p.id _ (Node.id_dropChild c)] at hm
    split at hm
    · next hcp =>
      obtain ⟨k, hk, rfl⟩ := Option.map_eq_some_iff.mp hm
      rw [← hcp] at hk
      obtain rfl := Option.some.inj (hn.symm.trans hk)
      rw [Node.childIds_dropChild, hc, List.erase_nil]
    · obtain rfl := Option.some.inj (hn.symm.trans hm)
      exact hc

end Fixed

/-! ## All system items -/

theorem ne_of_system {n m : Node} (hn : s.get? id = some n) (hk : n.kind = .system)
    (hm : s.get? c = some m) (hkm : m.kind ≠ .system) : id ≠ c := by
  rintro rfl
  obtain rfl := Option.some.inj (hn.symm.trans hm)
  exact hkm hk

theorem Step.fixed {k : Change} (h : Step N k s t) {n : Node} (R : s.Reliable)
    (hn : s.get? id = some n) (hk : n.kind = .system) : Fixed id s t := by
  cases h with
  | count => exact ⟨fun n hn => ⟨n, hn, rfl⟩, rfl⟩
  | make _ _ _ hid hc _ =>
    have hstored : ∀ x, s.has x = false → id ≠ x := by
      rintro x hx rfl
      simp [has_of_get? hn] at hx
    refine (Fixed.insert ?_).trans (.pushChild (hstored _ hid) _)
    unfold Node.childIds
    rw [hc]
    split <;> rfl
  | write hm hf _ _ =>
    have hne := ne_of_system hn hk hm (by simp [Node.kind_eq_file hf])
    exact .adjust hne (fun _ => rfl) fun _ => rfl
  | rename hm hsys _ _ =>
    exact .adjust (ne_of_system hn hk hm (Node.kind_ne_system hsys)) (fun _ => rfl) fun _ => rfl
  | move hm hsys | recycle hm hsys =>
    have hne := ne_of_system hn hk hm (Node.kind_ne_system hsys)
    exact (Fixed.dropChild hne _).trans (.pushChild hne _)
  | drop hm hf hc hp =>
    have hne := ne_of_system hn hk hm (by simp [Node.kind_eq_file hf])
    have hpurge := Fixed.purge hne R hm hf
    unfold unlisted at hpurge
    simpa only [hp] using hpurge

/-- All system items of `s` are fixed. -/
def Guards (s t : Store) : Prop := ∀ id n, s.get? id = some n → n.kind = .system → Fixed id s t

theorem Guards.refl (s : Store) : s.Guards s := fun _ _ _ _ => .refl s

theorem Guards.trans (h : s.Guards t) (h' : t.Guards u) : s.Guards u := by
  intro id n hn hk
  obtain ⟨m, hm, hmn⟩ := (h id n hn hk).entry n hn
  exact (h id n hn hk).trans (h' id m hm (by rw [hmn]; exact hk))

theorem Trace.guards (h : Trace N K s t) (R : s.Reliable) : s.Guards t := by
  refine (h.preserves (P := fun u => u.Reliable ∧ s.Guards u) (fun _ u v _ huv ⟨hu, hsu⟩ => ?_)
    ⟨R, .refl s⟩).2
  exact ⟨huv.reliable hu, hsu.trans fun id n hn hk => huv.fixed hu hn hk⟩

end Store

/-! ## Commands and lines -/

namespace Session

theorem full_guards : FullFrame fun σ τ : Session C => σ.Safely Store.Guards τ := by
  have W : WideFrame fun σ τ : Session C => σ.Safely Store.Guards τ := by
    refine wide_safely .refl .trans (fun {s r} R hr parent now => ?_) fun R h => h.guards R
    have h : Store.Trace (fun _ => True) (fun _ => True) s ((Store.add r parent now).after s) :=
      Store.trace_add trivial trivial hr (fun _ _ => trivial) parent now
    exact h.guards R
  refine ⟨W, fun id content => ?_, fun {σ id n} hn hf hσ => ?_⟩
  · refine safely_update .refl .trans fun {s} R now => ?_
    have h : Store.Trace (fun _ => True) (fun _ => True) s
        ((Store.update id content now).after s) :=
      Store.trace_update trivial id content now
    exact h.guards R
  · have hne : n.kind ≠ .system := by simp [Node.kind_eq_file hf]
    obtain ⟨τ, hτ, -, hguards⟩ := safely_purge (Q := Store.Guards) hσ hn hf
      fun x m hm hk => .purge (Store.ne_of_system hm hk hn hne) hσ hn hf
    have hafter : (Run.purge id).after σ = τ := by
      unfold Run.after
      rw [hτ]
    rw [hafter]
    exact hguards hσ

/-- Lines that are typed into a session fix the system items of its store. -/
theorem safely_play {σ : Session Program} (ts : List Typed) :
    σ.Safely Store.Guards (σ.play ts) := by
  intro hσ
  have hchain := chain_play ts σ
  refine (hchain.invariant (I := fun τ => τ.store.Reliable ∧ σ.store.Guards τ.store)
    (fun τ υ ha h => ha.store.symm ▸ h) (fun d hd ⟨hb, hg⟩ => ?_) ⟨hσ, .refl _⟩).1
  obtain ⟨stdin, hafter⟩ := hchain.exists_stdin d hd
  rw [hafter]
  obtain ⟨ha, hg'⟩ := full_guards.keeps_runCommand d.command stdin d.before hb
  exact ⟨ha, hg.trans hg'⟩

/-- Whatever lines are typed into a session with the built-in commands, every system item of the
store that it was started on is still stored as it was, but for its list of children, and in the
folder in which it was. -/
theorem systems_play {seed : Store} {o : Options} (hseed : seed.Reliable)
    (hhome : seed.HasDir (o.homeIn seed)) (now : Int) :
    ∃ σ : Session Program, start seed o now = .ok σ ∧
      ∀ (hooks : Signal → Hook) (ts : List Typed),
        let τ := (σ.ready hooks).play ts
        ∀ id n, seed.get? id = some n → n.kind = .system →
          (∃ m, τ.store.get? id = some m ∧ m = { n with children := m.children }) ∧
            (τ.store.parent? id).map (·.id) = (seed.parent? id).map (·.id) := by
  obtain ⟨σ, hσ, hstore, -⟩ := exists_start_of_hasDir (C := Program) hhome now
  refine ⟨σ, hσ, fun hooks ts id n hn hk => ?_⟩
  have hready : (σ.ready hooks).store = seed := (σ.ready_fields hooks).1.trans hstore
  obtain ⟨-, hguards⟩ := safely_play (σ := σ.ready hooks) ts (hready ▸ hseed)
  rw [hready] at hguards
  have hfixed := hguards id n hn hk
  exact ⟨hfixed.entry n hn, hfixed.parent⟩

/-- The case of a fresh desktop on which all that can be done to the recycle bin is tried. -/
theorem systems_play_desktop : ∃ seed, ∃ σ : Session Program, Desktop.store 0 = .ok seed ∧
    start seed {} 0 = .ok σ ∧ ∀ n, seed.get? Desktop.binId = some n → ∃ m,
      ((σ.ready fun _ => .unset).play [⟨"mv 'Recycle Bin' Bin; rm -f 'Recycle Bin'", 1⟩,
        ⟨"cp Contact.txt 'Recycle Bin'; echo a > 'Recycle Bin'", 2⟩,
        ⟨"rm Contact.txt", 3⟩]).store.get? Desktop.binId = some m ∧
      m = { n with children := m.children } := by
  obtain ⟨seed, hs, -, hbin, h⟩ := Desktop.exists_store 0
  have hsound : seed.Sound (Options.homeIn {} seed) := Desktop.sound_store hs
  obtain ⟨σ, hσ, hplay⟩ := systems_play hsound.reliable hsound.home 0
  refine ⟨seed, σ, hs, hσ, fun n hn => ?_⟩
  have hkind : n.kind = .system := by
    obtain ⟨b, hb, hk, -⟩ := hsound.bin
    rw [hbin] at hb
    obtain rfl := Option.some.inj (hn.symm.trans hb)
    exact hk
  exact (hplay (fun _ => .unset) _ Desktop.binId n hn hkind).1

end Session
end DeskShell

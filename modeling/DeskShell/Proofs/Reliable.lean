import DeskShell.Proofs.Handlers

/-!
# Reliable stores

What most commands rely on is less than the soundness of a store, and is kept by every change.

* `Store.Reliable`: ids name one entry each, files are leaves and the recycle bin works.
* `Store.Trace.reliable`: no step harms this.
* `Session.Safely`: what holds between two stores when the first is reliable.
  `Session.wide_safely` takes it from the changes of a store to the commands that make them.
-/
namespace DeskShell

open Session (Frame WideFrame)

variable {C : Type} {N : String → Prop} {K : Change → Prop}

namespace Store

variable {s t u : Store}

/-- Ids name one entry each, files have no list of children, and the recycle bin has one and cannot
be removed. -/
structure Reliable (s : Store) : Prop where
  distinct : s.IdsDistinct
  leaf : ∀ id n, s.get? id = some n → n.kind = .file → n.children = none
  bin : ∃ n, s.get? s.binId = some n ∧ n.kind = .system ∧ n.children.isSome

theorem Sound.reliable {home : String} (S : s.Sound home) : s.Reliable :=
  ⟨S.distinct, S.leaf, S.bin⟩

namespace Reliable

theorem childIds_of_file (R : s.Reliable) {id : String} {n : Node} (hn : s.get? id = some n)
    (hf : n.isDir = false) : n.childIds = [] := by
  simp [Node.childIds, R.leaf id n hn (Node.kind_eq_file hf)]

theorem childIds_of_mem (R : s.Reliable) : ∀ n ∈ s.nodes, n.kind = .file → n.childIds = [] := by
  intro n hn hk
  simp [Node.childIds, R.leaf n.id n (R.distinct.get?_of_mem hn) hk]

/-- A change of an entry that is not one of its kind and leaves it with or without children. -/
theorem adjust (R : s.Reliable) {id : String} {f : Node → Node} (hf : ∀ n, (f n).id = n.id)
    (hk : ∀ n, (f n).kind = n.kind) (hc : ∀ n, (f n).children.isSome = n.children.isSome) :
    (s.adjust id f).Reliable := by
  refine ⟨R.distinct.adjust hf, fun x m hm hkm => ?_, ?_⟩
  · rw [get?_adjust s id f hf] at hm
    split at hm
    · obtain ⟨n, hn, rfl⟩ := Option.map_eq_some_iff.mp hm
      have hnone := R.leaf id n hn ((hk n).symm.trans hkm)
      simpa [hnone] using hc n
    · exact R.leaf x m hm hkm
  · obtain ⟨n, hn, hkn, hcn⟩ := R.bin
    change ∃ n, (s.adjust id f).get? s.binId = some n ∧ n.kind = .system ∧ n.children.isSome
    rw [get?_adjust s id f hf]
    split
    · next h => exact ⟨f n, by rw [← h, hn]; rfl, (hk n).trans hkn, (hc n).trans hcn⟩
    · exact ⟨n, hn, hkn, hcn⟩

theorem pushChild (R : s.Reliable) (p c : String) : (s.adjust p (Node.pushChild c)).Reliable :=
  R.adjust (Node.id_pushChild c) (fun _ => rfl) fun n => by simp [Node.pushChild]

theorem dropChild (R : s.Reliable) (p c : String) : (s.adjust p (Node.dropChild c)).Reliable :=
  R.adjust (Node.id_dropChild c) (fun _ => rfl) fun n => by simp [Node.dropChild]

theorem insert (R : s.Reliable) {n : Node} (hn : s.has n.id = false)
    (hc : n.children = if n.isContainer then some [] else none) : (s.insert n).Reliable := by
  refine ⟨R.distinct.insert hn, fun x m hm hkm => ?_, ?_⟩
  · rw [get?_insert] at hm
    rcases Option.or_eq_some_iff.mp hm with hm | ⟨-, hm⟩
    · exact R.leaf x m hm hkm
    · split at hm
      · obtain rfl := Option.some.inj hm
        simpa [Node.isContainer, Kind.isContainer, hkm] using hc
      · cases hm
  · obtain ⟨b, hb, hkb, hcb⟩ := R.bin
    refine ⟨b, ?_, hkb, hcb⟩
    change (s.insert n).get? s.binId = some b
    rw [get?_insert, hb, Option.some_or]

theorem ne_binId (R : s.Reliable) {id : String} {n : Node} (hn : s.get? id = some n)
    (hf : n.isDir = false) : id ≠ s.binId := by
  rintro rfl
  obtain ⟨b, hb, hkb, -⟩ := R.bin
  obtain rfl := Option.some.inj (hn.symm.trans hb)
  simp [Node.isDir, Kind.isDir, hkb] at hf

theorem erase (R : s.Reliable) {id : String} (hid : id ≠ s.binId) : (s.erase id).Reliable := by
  refine ⟨R.distinct.erase id, fun x m hm hkm => ?_, ?_⟩
  · rw [get?_erase] at hm
    split at hm
    · cases hm
    · exact R.leaf x m hm hkm
  · obtain ⟨b, hb, hkb, hcb⟩ := R.bin
    refine ⟨b, ?_, hkb, hcb⟩
    change (s.erase id).get? s.binId = some b
    rw [get?_erase, if_neg hid.symm, hb]

/-- A file can be taken out of the store, and out of its folder if it is in one. -/
theorem purge (R : s.Reliable) {id : String} {n : Node} (hn : s.get? id = some n)
    (hf : n.isDir = false) : ((s.unlisted id).erase id).Reliable := by
  have hid := R.ne_binId hn hf
  unfold unlisted
  split
  · exact R.erase hid
  · exact (R.dropChild _ id).erase hid

end Reliable

theorem Step.reliable {k : Change} (h : Step N k s t) (R : s.Reliable) : t.Reliable := by
  cases h with
  | count => exact ⟨R.distinct, R.leaf, R.bin⟩
  | make _ _ _ hid hc _ => exact (R.insert hid hc).pushChild _ _
  | write => exact R.adjust (fun _ => rfl) (fun _ => rfl) fun _ => rfl
  | rename => exact R.adjust (fun _ => rfl) (fun _ => rfl) fun _ => rfl
  | move | recycle => exact (R.dropChild _ _).pushChild _ _
  | drop hn hf _ _ => exact (R.dropChild _ _).erase (R.ne_binId hn hf)

theorem Trace.reliable (h : Trace N K s t) (R : s.Reliable) : t.Reliable :=
  h.preserves (fun _ _ _ _ h hu => h.reliable hu) R

end Store

/-! ## Sessions with reliable stores -/

namespace Session

variable {Q : Store → Store → Prop} {σ τ : Session C}

/-- A reliable store stays reliable and becomes one that `Q` relates it to. -/
def Safely (Q : Store → Store → Prop) (σ τ : Session C) : Prop :=
  σ.store.Reliable → τ.store.Reliable ∧ Q σ.store τ.store

theorem frame_safely (hrefl : ∀ s, Q s s) (htrans : ∀ {s t u}, Q s t → Q t u → Q s u) :
    Frame fun σ τ : Session C => σ.Safely Q τ where
  refl _ hσ := ⟨hσ, hrefl _⟩
  trans h h' hσ :=
    let ⟨hτ, hq⟩ := h hσ
    let ⟨hρ, hq'⟩ := h' hτ
    ⟨hρ, htrans hq hq'⟩
  note _ _ hσ := ⟨hσ, hrefl _⟩
  signal _ _ _ hσ := ⟨hσ, hrefl _⟩

/-- A relation that is kept when an entry is made, and by steps that put entries elsewhere or give
them other names. -/
theorem wide_safely (hrefl : ∀ s, Q s s) (htrans : ∀ {s t u}, Q s t → Q t u → Q s u)
    (hadd : ∀ {s : Store} {r : Record}, s.Reliable → r.Childless → ∀ parent now,
      Q s ((Store.add r parent now).after s))
    (htrace : ∀ {s t : Store}, s.Reliable →
      Store.Trace (fun _ => True) (fun k => ¬ k.Quiet) s t → Q s t) :
    WideFrame fun σ τ : Session C => σ.Safely Q τ := by
  have F : Frame fun σ τ : Session C => σ.Safely Q τ := frame_safely hrefl htrans
  have hstore : ∀ {σ : Session C} {s : Store},
      Store.Trace (fun _ => True) (fun k => ¬ k.Quiet) σ.store s →
        σ.Safely Q { σ with store := s } := fun h hσ => ⟨h.reliable hσ, htrace hσ h⟩
  refine ⟨F, fun σ id shown hσ => ⟨hσ, hrefl _⟩, fun hr parent σ => F.add fun hσ => ⟨?_, ?_⟩,
    fun id name σ => F.rename (hstore (Store.trace_rename not_false trivial id)),
    fun id target σ => F.move (hstore (Store.trace_move not_false id target)), fun hp hσ => ?_⟩
  · have h : Store.Trace (fun _ => True) (fun _ => True) σ.store
        ((Store.add _ parent σ.clock).after σ.store) :=
      Store.trace_add trivial trivial hr (fun _ _ => trivial) parent σ.clock
    exact h.reliable hσ
  · exact hadd hσ hr parent σ.clock
  · obtain ⟨bin, hb, -, hk⟩ := hσ.bin
    exact F.delete (hstore (Store.trace_delete not_false hp hb hk)) hσ

theorem safely_update (hrefl : ∀ s, Q s s) (htrans : ∀ {s t u}, Q s t → Q t u → Q s u)
    {id content : String}
    (h : ∀ {s : Store}, s.Reliable → ∀ now, Q s ((Store.update id content now).after s)) :
    (Run.update id content).Keeps fun σ τ : Session C => σ.Safely Q τ := by
  refine fun σ => (frame_safely hrefl htrans).update fun hσ => ⟨?_, h hσ σ.clock⟩
  have htrace : Store.Trace (fun _ => True) (fun _ => True) σ.store
      ((Store.update id content σ.clock).after σ.store) :=
    Store.trace_update trivial id content σ.clock
  exact htrace.reliable hσ

/-- A file goes out of the store. -/
theorem safely_purge {id : String} {n : Node} (hσ : σ.store.Reliable)
    (hn : σ.store.get? id = some n) (hf : n.isDir = false)
    (h : Q σ.store ((σ.store.unlisted id).erase id)) : ∃ τ, Run.purge id σ = .ok () τ ∧
      τ.store = (σ.store.unlisted id).erase id ∧ σ.Safely Q τ := by
  have hpurge := Store.after_purge hn (hσ.childIds_of_file hn hf)
  refine ⟨{ σ with store := (Store.purge id).after σ.store, notes := .purged id :: σ.notes }, rfl,
    hpurge, fun _ => ?_⟩
  dsimp only
  rw [hpurge]
  exact ⟨hσ.purge hn hf, h⟩

end Session
end DeskShell

import DeskShell.Proofs.Frames
import DeskShell.Proofs.Sound

/-!
# Programs on a session in order

What programs do to a session that is in order, put together from what their parts do.

* `Session.InOrder`: the store is sound, and the session stands in one of its folders.
* `Session.Evolves`: the store has gone through steps and nothing else that matters has changed.
  `Session.Evolves.frame` says that this is kept from program to program.
* `Run.Evolving`: programs that only do so.
-/
namespace DeskShell

open Store (Trace)

variable {C α β : Type} {N : String → Prop} {K : Change → Prop} {σ τ ρ : Session C}

namespace Session

/-- A session with a sound store whose names are in `N`, at work in one of its folders. -/
structure InOrder (N : String → Prop) (σ : Session C) : Prop where
  sound : σ.store.Sound σ.home
  folder : σ.store.HasDir σ.folder
  named : σ.store.Named N

/-- From `σ` to `τ` by steps of the store, in the same folder. -/
structure Evolves (N : String → Prop) (K : Change → Prop) (σ τ : Session C) : Prop where
  trace : Trace N K σ.store τ.store
  home : τ.home = σ.home
  folder : τ.folder = σ.folder
  shown : τ.shown = σ.shown

namespace Evolves

theorem refl (σ : Session C) : Evolves N K σ σ := ⟨.refl _, rfl, rfl, rfl⟩

theorem trans (h : Evolves N K σ τ) (h' : Evolves N K τ ρ) : Evolves N K σ ρ :=
  ⟨h.trace.trans h'.trace, h'.home.trans h.home, h'.folder.trans h.folder, h'.shown.trans h.shown⟩

theorem weaken {K' : Change → Prop} (hK : ∀ c, K c → K' c) (h : Evolves N K σ τ) :
    Evolves N K' σ τ :=
  ⟨h.trace.weaken hK, h.home, h.folder, h.shown⟩

theorem inOrder (h : Evolves N K σ τ) (hσ : σ.InOrder N) : τ.InOrder N where
  sound := h.home ▸ (h.trace.sound hσ.sound).1
  folder := h.folder ▸ (h.trace.sound hσ.sound).2.2 _ hσ.folder
  named := h.trace.named hσ.named

/-- A session in order is in order again when the second of two programs runs. -/
theorem frame : Frame fun σ τ : Session C => InOrder N σ → Evolves N K σ τ where
  refl σ _ := .refl σ
  trans h h' hσ := (h hσ).trans (h' ((h hσ).inOrder hσ))
  note _ _ _ := ⟨.refl _, rfl, rfl, rfl⟩
  signal _ _ _ _ := ⟨.refl _, rfl, rfl, rfl⟩

/-- One program after another, where the second runs in order again. -/
theorem bind {x : Run C α} {f : α → Run C β} (hx : Evolves N K σ (x.after σ)) (hσ : σ.InOrder N)
    (hf : ∀ a τ, x σ = .ok a τ → τ.InOrder N → Evolves N K τ ((f a).after τ)) :
    Evolves N K σ (Run.after (x >>= f) σ) :=
  frame.bind_at (fun _ => hx) hf hσ

theorem store {s : Store} (h : Trace N K σ.store s) : Evolves N K σ { σ with store := s } :=
  ⟨h, rfl, rfl, rfl⟩

end Evolves
end Session

open Session (InOrder Evolves)

/-- Programs that take a session in order through steps of the store and change nothing else that
matters to it. -/
def Run.Evolving (N : String → Prop) (K : Change → Prop) (x : Run C α) : Prop :=
  ∀ σ, InOrder N σ → Evolves N K σ (x.after σ)

/-! ## Changes of the store -/

namespace Run.Evolving

theorem add (hcount : K .count) (hmake : K .make) {r : Record} (hr : r.Childless)
    (hN : ∀ name, r.name = some name → N name) (parent : String) :
    Run.Evolving N K (Run.add r parent : Run C String) :=
  fun _ => Evolves.frame.add fun _ => .store (Store.trace_add hcount hmake hr hN parent _)

theorem update (hwrite : K .write) (id content : String) :
    Run.Evolving N K (Run.update id content : Run C Unit) :=
  fun _ => Evolves.frame.update fun _ => .store (Store.trace_update hwrite id content _)

theorem rename (hrename : K .rename) {name : String} (hN : N name) (id : String) :
    Run.Evolving N K (Run.rename id name : Run C Unit) :=
  fun _ => Evolves.frame.rename fun _ => .store (Store.trace_rename hrename hN id)

theorem move (hmove : K .move) (id target : String) :
    Run.Evolving N K (Run.move id target : Run C Unit) :=
  fun _ => Evolves.frame.move fun _ => .store (Store.trace_move hmove id target)

end Run.Evolving

namespace Session.Evolves

theorem delete (hrecycle : K .recycle) (hσ : σ.InOrder N) {id : String} {p : Node}
    (hp : σ.store.parent? id = some p) : Evolves N K σ ((Run.delete id p.id).after σ) := by
  obtain ⟨bin, hb, -, hk⟩ := hσ.sound.bin
  exact frame.delete (fun _ => .store (Store.trace_delete hrecycle hp hb hk)) hσ

theorem purge (hdrop : K .drop) (hσ : σ.InOrder N) {id : String} {n p : Node}
    (hn : σ.store.get? id = some n) (hf : n.isDir = false) (hp : σ.store.parent? id = some p) :
    Evolves N K σ ((Run.purge id).after σ) := by
  have hc : n.childIds = [] := by
    simp [Node.childIds, hσ.sound.leaf id n hn (Node.kind_eq_file hf)]
  exact frame.purge (fun _ => .store (Store.trace_purge hdrop hn hf hc hp)) hσ

end Session.Evolves
end DeskShell

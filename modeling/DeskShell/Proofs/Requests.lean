import DeskShell.Proofs.Frames
import DeskShell.Shell.Call

/-!
# Calls in a row

A host makes calls of the file system one after the other, each at a time of its own. What a call
does to the store depends on the store and the time alone.

* `Call.change`: the store that a call leaves; `Call.store_after_run` says that it does.
* `Session.exchanges`: the calls of a row, each with the sessions before and after it.
* `Session.exchanges_invariant`: what every call of a row keeps of the store holds all along.
-/
namespace DeskShell

open Session (Frame frame_store)

variable {C α β : Type} {σ : Session C}

namespace Run

/-- After the change of the store only accounts are kept. -/
theorem store_after_edit {e : Edit α} {f : α → Run C β}
    (hf : ∀ a, (f a).Keeps fun σ τ => τ.store = σ.store) :
    (Run.after (Run.edit e >>= f) σ).store = e.after σ.store := by
  rw [Run.after_bind]
  unfold Run.edit Edit.after
  cases e σ.store with
  | ok a s => exact hf a { σ with store := s }
  | error g s => rfl

end Run

namespace Call

/-- The store that a call made at `now` leaves. -/
def change (now : Int) (call : Call) (s : Store) : Store :=
  match call with
  | add r folder => (Store.add r folder now).after s
  | update id content => (Store.update id content now).after s
  | rename id name => (Store.rename id name).after s
  | move id target => (Store.move id target).after s
  | delete id folder => (Store.delete id folder).after s
  | purge id => (Store.purge id).after s
  | restore id => (Store.restore id).after s
  | emptyBin => Store.emptyBin.after s
  | _ => s

theorem store_after_run (call : Call) (σ : Session C) :
    (call.run.after σ).store = call.change σ.clock σ.store := by
  have F : Frame fun σ τ : Session C => τ.store = σ.store := frame_store
  cases call with
  | get | contents | parent | path | find | walk | child =>
    simp only [run]
    exact F.ask _ σ
  | add r folder =>
    simp only [run, Run.after_bind_pure]
    refine Run.store_after_edit fun id => F.bind F.get fun τ => ?_
    split
    · exact F.pure id
    · exact F.bind (F.noted _) fun _ => F.pure id
  | update id content =>
    simp only [run, Run.after_bind_pure]
    exact Run.store_after_edit fun _ => F.noted _
  | rename id name =>
    simp only [run, Run.after_bind_pure]
    exact Run.store_after_edit fun _ => F.noted _
  | move id target =>
    simp only [run, Run.after_bind_pure]
    exact Run.store_after_edit fun left => F.noteMoved id target left
  | delete id folder =>
    simp only [run, Run.after_bind_pure]
    refine Run.store_after_edit fun held => ?_
    split
    · exact F.noted _
    · exact F.pure ()
  | purge id =>
    simp only [run, Run.after_bind_pure]
    exact Run.store_after_edit fun _ => F.noted _
  | restore id =>
    simp only [run, Run.after_bind_pure]
    exact Run.store_after_edit fun left => F.noteMoved id _ left
  | emptyBin =>
    simp only [run, Run.after_bind_pure]
    exact Run.store_after_edit fun _ => F.notePurged _

end Call

/-! ## Rows of calls -/

/-- A call and the time at which it is made. -/
structure Request where
  call : Call
  now : Int
  deriving Repr, DecidableEq

/-- A call that was made. -/
structure Exchange (C : Type) where
  call : Call
  before : Session C
  after : Session C

namespace Session

/-- The session in which a request is taken up: its clock has moved on. -/
def clocked (σ : Session C) (now : Int) : Session C := { σ with clock := now }

/-- The session after a request, also when the call stops with a fault. -/
def serve (σ : Session C) (r : Request) : Session C := r.call.run.after (σ.clocked r.now)

/-- The calls of a row of requests as they are made. -/
def exchanges (σ : Session C) : List Request → List (Exchange C)
  | [] => []
  | r :: rest => ⟨r.call, σ.clocked r.now, σ.serve r⟩ :: (σ.serve r).exchanges rest

variable {requests : List Request}

theorem store_serve (σ : Session C) (r : Request) :
    (σ.serve r).store = r.call.change r.now σ.store :=
  r.call.store_after_run (σ.clocked r.now)

/-- What every call keeps of the store holds before and after each of them. -/
theorem exchanges_invariant {I : Store → Prop} (hσ : I σ.store)
    (hkeep : ∀ e ∈ σ.exchanges requests, I e.before.store → I e.after.store) :
    ∀ e ∈ σ.exchanges requests, I e.before.store ∧ I e.after.store := by
  induction requests generalizing σ with
  | nil => simp [exchanges]
  | cons r rest ih =>
    have hafter : I (σ.serve r).store := hkeep _ List.mem_cons_self hσ
    intro e he
    rcases List.mem_cons.mp he with rfl | he
    · exact ⟨hσ, hafter⟩
    · exact ih hafter (fun e he => hkeep e (List.mem_cons_of_mem _ he)) e he

theorem store_after_exchange {e : Exchange C} (he : e ∈ σ.exchanges requests) :
    ∃ now, e.after.store = e.call.change now e.before.store := by
  induction requests generalizing σ with
  | nil => simp [exchanges] at he
  | cons r rest ih =>
    rcases List.mem_cons.mp he with rfl | he
    · exact ⟨r.now, σ.store_serve r⟩
    · exact ih he

end Session
end DeskShell

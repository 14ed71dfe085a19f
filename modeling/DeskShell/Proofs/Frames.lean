import DeskShell.Builtin.Screen
import DeskShell.Proofs.Steps

/-!
# What programs keep

Most of what is known of a program relates the session that it is run in to the session that it
leaves, also when it stops with a fault.

* `Run.after`: the session in which a program ends.
* `Signal.Given`: the signals that a host may be told.
* `Session.Frame`: relations that hold across a program when they hold across its parts. They do not
  see the accounts of a session.
* `Run.Keeps`: programs that keep such a relation, with a rule in `Session.Frame` for each way to
  build a program.
* `Session.Frame.edit`: across a change of the store, the two stores have to be looked at.
-/
namespace DeskShell

variable {C α β : Type}

/-- The session in which a program ends, also when it stops with a fault. -/
def Run.after (x : Run C α) (σ : Session C) : Session C :=
  match x σ with
  | .ok _ τ => τ
  | .error _ τ => τ

/-- What a program gives, when it does not stop with a fault. -/
def Run.result? (x : Run C α) (σ : Session C) : Option α :=
  match x σ with
  | .ok a _ => some a
  | .error _ _ => none

/-- Of all colours only those of the palette are given. -/
def Signal.Given : Signal → Prop
  | .color hex => ∃ code, Builtin.palette.get? code = some hex
  | _ => True

theorem Effect.given_of_signal? {e : Effect} {s : Signal} (h : e.signal? = some s) : s.Given := by
  cases e <;> cases h <;> trivial

/-- A relation that is kept from one program to the next and does not see accounts. -/
structure Session.Frame (R : Session C → Session C → Prop) : Prop where
  refl : ∀ σ, R σ σ
  trans : ∀ {σ τ ρ}, R σ τ → R τ ρ → R σ ρ
  note : ∀ σ (n : Note), R σ { σ with notes := n :: σ.notes }
  signal : ∀ σ (s : Signal), s.Given → R σ { σ with signals := s :: σ.signals }

/-- The program relates every session to the one that it leaves. -/
def Run.Keeps (R : Session C → Session C → Prop) (x : Run C α) : Prop := ∀ σ, R σ (x.after σ)

namespace Run

variable {σ : Session C}

theorem eq_ok_of_result? {x : Run C α} {a : α} (h : x.result? σ = some a) :
    x σ = .ok a (x.after σ) := by
  unfold result? at h
  unfold Run.after
  cases hx : x σ with
  | ok b τ =>
    rw [hx] at h
    obtain rfl := Option.some.inj h
    rfl
  | error f τ =>
    rw [hx] at h
    cases h

theorem after_bind (x : Run C α) (f : α → Run C β) :
    Run.after (x >>= f) σ =
      match x σ with
      | .ok a τ => (f a).after τ
      | .error _ τ => τ := by
  simp only [Run.after, bind, EStateM.bind]
  cases x σ <;> rfl

theorem after_bind_pure (x : Run C α) (f : α → β) :
    Run.after (x >>= fun a => pure (f a)) σ = x.after σ := by
  rw [Run.after_bind]
  unfold Run.after
  cases x σ <;> rfl

theorem after_attempt (x : Run C α) : (Run.attempt x).after σ = x.after σ := by
  unfold Run.after Run.attempt
  cases x σ <;> rfl

theorem after_attempt_bind (x : Run C α) (f : Except Fault α → Run C β) :
    Run.after (Run.attempt x >>= f) σ =
      match x σ with
      | .ok a _ => (f (.ok a)).after (x.after σ)
      | .error e _ => (f (.error e)).after (x.after σ) := by
  rw [Run.after_bind]
  unfold Run.attempt Run.after
  cases x σ <;> rfl

theorem after_edit (e : Edit α) :
    (Run.edit e : Run C α).after σ = { σ with store := e.after σ.store } := by
  unfold Run.after Run.edit Edit.after
  cases e σ.store <;> rfl

theorem after_andThen (x : Session C → Inquiry α) (act : α → Run C Result) :
    (Inquiry.andThen x act).after σ =
      match x σ with
      | .ok a => (act a).after σ
      | .error _ => σ := by
  unfold Run.after Inquiry.andThen
  cases x σ with
  | ok a => rfl
  | error stop => cases stop <;> rfl

end Run

namespace Session.Frame

variable {R : Session C → Session C → Prop} {σ : Session C}

/-! ## In one session -/

theorem bind_at (F : Frame R) {x : Run C α} {f : α → Run C β} (hx : R σ (x.after σ))
    (hf : ∀ a τ, x σ = .ok a τ → R τ ((f a).after τ)) : R σ (Run.after (x >>= f) σ) := by
  rw [Run.after_bind]
  unfold Run.after at hx
  cases h : x σ with
  | ok a τ =>
    rw [h] at hx
    exact F.trans hx (hf a τ h)
  | error e τ =>
    rw [h] at hx
    exact hx

/-- A question changes nothing, so only its answers have to be looked at. -/
theorem ask_at (F : Frame R) {f : Session C → Except Fault α} {g : α → Run C β}
    (h : ∀ a, f σ = .ok a → R σ ((g a).after σ)) : R σ (Run.after (Run.ask f >>= g) σ) := by
  rw [Run.after_bind]
  unfold Run.ask
  cases hf : f σ with
  | ok a => exact h a hf
  | error e => exact F.refl σ

/-- What a command has found out is known when it acts. -/
theorem andThen_at (F : Frame R) {x : Session C → Inquiry α} {act : α → Run C Result}
    (h : ∀ a, x σ = .ok a → R σ ((act a).after σ)) : R σ ((Inquiry.andThen x act).after σ) := by
  rw [Run.after_andThen]
  cases hx : x σ with
  | ok a => exact h a hx
  | error stop => exact F.refl σ

/-! ## In every session -/

theorem attempt {x : Run C α} (hx : x.Keeps R) : (Run.attempt x).Keeps R := by
  intro σ
  rw [Run.after_attempt]
  exact hx σ

variable (F : Frame R)

include F

theorem pure (a : α) : Run.Keeps R (Pure.pure a : Run C α) := fun σ => F.refl σ

theorem fault (f : Fault) : Run.Keeps R (throw f : Run C α) := fun σ => F.refl σ

theorem get : Run.Keeps R (Run.get : Run C (Session C)) := fun σ => F.refl σ

theorem noted (n : Note) : Run.Keeps R (Run.note n) := fun σ => F.note σ n

theorem bind {x : Run C α} {f : α → Run C β} (hx : x.Keeps R) (hf : ∀ a, (f a).Keeps R) :
    Run.Keeps R (x >>= f) :=
  fun σ => F.bind_at (hx σ) fun a τ _ => hf a τ

theorem noteMoved (id target : String) (left : Option String) :
    Run.Keeps R (Run.noteMoved id target left) := by
  cases left with
  | none => exact F.pure ()
  | some source => exact F.noted _

theorem notePurged (ids : List String) : Run.Keeps R (Run.notePurged ids) := by
  induction ids with
  | nil => exact F.pure ()
  | cons id rest ih => exact F.bind (F.noted _) fun _ => ih

theorem ask (f : Session C → Except Fault α) : Run.Keeps R (Run.ask f) := by
  intro σ
  unfold Run.after Run.ask
  cases f σ <;> exact F.refl σ

theorem fire {s : Signal} (hs : s.Given) : Run.Keeps R (Run.fire s) := by
  intro σ
  unfold Run.after Run.fire
  cases σ.hooks s with
  | unset | raises => exact F.refl σ
  | accepts => exact F.signal σ s hs

theorem toRun (x : Session C → Inquiry Result) : (Inquiry.toRun x).Keeps R := by
  intro σ
  unfold Run.after Inquiry.toRun
  cases x σ with
  | ok r => exact F.refl σ
  | error stop => cases stop <;> exact F.refl σ

/-! ## Changes of the store

What is noted of a change does not matter. -/

theorem edit {e : Edit α} (h : R σ { σ with store := e.after σ.store }) {f : α → Run C β}
    (hf : ∀ a, (f a).Keeps R) : R σ (Run.after (Run.edit e >>= f) σ) := by
  refine F.bind_at ?_ fun a τ _ => hf a τ
  rw [Run.after_edit]
  exact h

theorem add {r : Record} {parent : String}
    (h : R σ { σ with store := (Store.add r parent σ.clock).after σ.store }) :
    R σ ((Run.add r parent).after σ) := by
  refine F.edit h fun id => F.bind F.get fun τ => ?_
  split
  · exact F.pure id
  · exact F.bind (F.noted _) fun _ => F.pure id

theorem update {id content : String}
    (h : R σ { σ with store := (Store.update id content σ.clock).after σ.store }) :
    R σ ((Run.update id content).after σ) :=
  F.edit h fun _ => F.noted _

theorem rename {id name : String}
    (h : R σ { σ with store := (Store.rename id name).after σ.store }) :
    R σ ((Run.rename id name).after σ) :=
  F.edit h fun _ => F.noted _

theorem move {id target : String}
    (h : R σ { σ with store := (Store.move id target).after σ.store }) :
    R σ ((Run.move id target).after σ) :=
  F.edit h fun left => F.noteMoved id target left

theorem delete {id parent : String}
    (h : R σ { σ with store := (Store.delete id parent).after σ.store }) :
    R σ ((Run.delete id parent).after σ) := by
  refine F.edit h fun held => ?_
  split
  · exact F.noted _
  · exact F.pure ()

theorem purge {id : String} (h : R σ { σ with store := (Store.purge id).after σ.store }) :
    R σ ((Run.purge id).after σ) :=
  F.edit h fun _ => F.noted _

end Session.Frame

/-- Programs that leave the store alone. -/
theorem Session.frame_store : Session.Frame fun σ τ : Session C => τ.store = σ.store where
  refl _ := rfl
  trans h h' := h'.trans h
  note _ _ := rfl
  signal _ _ _ := rfl

end DeskShell

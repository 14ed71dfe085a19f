import DeskShell.Proofs.Order
import DeskShell.Proofs.Reliable

/-!
# What a command can lose

A command overwrites files and loses nothing else.

* `Store.Spares`: all entries stay stored and keep their contents, with exceptions that are named.
* `Session.wide_spares`: without an exception for all commands but `cp`.
* `Session.exists_spares_cp`: `cp` takes one file out of the store at most.
* `Redirect.exists_spares_write`: redirected output replaces one content at most.
* `Engine.losses_runCommand`: any command with any redirect.
-/
namespace DeskShell

open Builtin (Program CopyPlan)
open Session (Frame WideFrame)

variable {C : Type} {N : String → Prop} {K : Change → Prop} {gone written : Option String}

namespace Store

variable {s t u : Store}

/-! ## What stays stored -/

/-- All entries of `s` but `gone` are stored in `t`, and with the same content but for `written`.
Ids that are new are from the supply. -/
structure Spares (gone written : Option String) (s t : Store) : Prop where
  stored : ∀ id n, s.get? id = some n → some id ≠ gone →
    ∃ m, t.get? id = some m ∧ (some id ≠ written → m.content = n.content)
  counter : s.counter ≤ t.counter
  fresh : ∀ id, t.has id = true → s.has id = true ∨ ∃ k, s.counter ≤ k ∧ id = idOf k

namespace Spares

theorem refl (s : Store) : Spares gone written s s :=
  ⟨fun _ n hn _ => ⟨n, hn, fun _ => rfl⟩, Nat.le_refl _, fun _ => .inl⟩

theorem trans (h : Spares gone written s t) (h' : Spares gone written t u) :
    Spares gone written s u := by
  refine ⟨fun id n hn hgone => ?_, Nat.le_trans h.counter h'.counter, fun id hid => ?_⟩
  · obtain ⟨m, hm, hmn⟩ := h.stored id n hn hgone
    obtain ⟨l, hl, hlm⟩ := h'.stored id m hm hgone
    exact ⟨l, hl, fun hw => (hlm hw).trans (hmn hw)⟩
  · rcases h'.fresh id hid with hid | ⟨k, hk, rfl⟩
    · exact h.fresh id hid
    · exact .inr ⟨k, Nat.le_trans h.counter hk, rfl⟩

theorem weaken (h : Spares gone none s t) : Spares gone written s t := by
  refine ⟨fun id n hn hgone => ?_, h.counter, h.fresh⟩
  obtain ⟨m, hm, hmn⟩ := h.stored id n hn hgone
  exact ⟨m, hm, fun _ => hmn (by simp)⟩

/-- An id that is stored again comes from the supply. -/
theorem freed (h : Spares gone written s t) {c : Nat} (hc : c ≤ s.counter) {id : String}
    (hid : s.has id = false ∨ ∃ k, c ≤ k ∧ id = idOf k) :
    t.has id = false ∨ ∃ k, c ≤ k ∧ id = idOf k := by
  rcases hid with hid | hid
  · cases ht : t.has id with
    | false => exact .inl rfl
    | true =>
      rcases h.fresh id ht with hs | ⟨k, hk, rfl⟩
      · exact absurd (hid.symm.trans hs) (by simp)
      · exact .inr ⟨k, Nat.le_trans hc hk, rfl⟩
  · exact .inr hid

theorem adjust {id : String} {f : Node → Node} (hf : ∀ n, (f n).id = n.id)
    (hc : some id ≠ written → ∀ n, (f n).content = n.content) :
    Spares gone written s (s.adjust id f) := by
  refine ⟨fun x n hn _ => ?_, Nat.le_refl _, fun x hx => .inl ?_⟩
  · rw [get?_adjust s id f hf]
    split
    · next h =>
      subst h
      exact ⟨f n, by rw [hn]; rfl, fun hw => hc hw n⟩
    · exact ⟨n, hn, fun _ => rfl⟩
  · rwa [has_adjust hf] at hx

theorem pushChild (p c : String) : Spares gone written s (s.adjust p (Node.pushChild c)) :=
  adjust (Node.id_pushChild c) fun _ _ => rfl

theorem dropChild (p c : String) : Spares gone written s (s.adjust p (Node.dropChild c)) :=
  adjust (Node.id_dropChild c) fun _ _ => rfl

theorem erase (id : String) : Spares (some id) written s (s.erase id) := by
  refine ⟨fun x n hn hx => ⟨n, ?_, fun _ => rfl⟩, Nat.le_refl _, fun x hx => ?_⟩
  · rw [get?_erase, if_neg (by simpa using hx)]
    exact hn
  · exact .inl ((has_erase id x).mp hx).1

theorem purge (id : String) : Spares (some id) written s ((s.unlisted id).erase id) := by
  refine trans ?_ (erase id)
  unfold unlisted
  split
  · exact .refl s
  · exact .dropChild _ _

/-- An entry is made under an id from the supply. -/
theorem make {k : Nat} {n : Node} (hk : s.counter ≤ k) (hid : n.id = idOf k) (p : String) :
    Spares gone written s
      (({ s with counter := k + 1 }.insert n).adjust p (Node.pushChild n.id)) := by
  refine trans ⟨fun x m hm _ => ⟨m, ?_, fun _ => rfl⟩, ?_, fun x hx => ?_⟩ (pushChild p n.id)
  · rw [get?_insert]
    exact Option.or_eq_some_iff.mpr (.inl hm)
  · exact Nat.le_succ_of_le hk
  · rcases (has_insert n x).mp hx with hx | rfl
    · exact .inl hx
    · exact .inr ⟨k, hk, hid⟩

end Spares

/-- Other names and other places lose nothing. -/
theorem Step.spares {k : Change} (h : Step N k s t) (hk : ¬ k.Quiet) : Spares gone written s t := by
  cases h with
  | rename => exact .adjust (fun _ => rfl) fun _ _ => rfl
  | move | recycle => exact (Spares.dropChild _ _).trans (.pushChild _ _)
  | count | make | write | drop => exact absurd trivial hk

theorem Trace.spares (h : Trace N (fun k => ¬ k.Quiet) s t) : Spares gone written s t :=
  h.preserves (P := Spares gone written s) (fun _ _ _ hk h hu => hu.trans (h.spares hk)) (.refl s)

theorem le_freeFrom (s : Store) : ∀ fuel k, k ≤ s.freeFrom fuel k
  | 0, k => Nat.le_refl k
  | fuel + 1, k => by
    unfold freeFrom
    split
    · have := le_freeFrom s fuel (k + 1)
      omega
    · exact Nat.le_refl k

theorem spares_add (r : Record) (parent : String) (now : Int) :
    Spares gone written s ((add r parent now).after s) := by
  have hfree : s.counter ≤ s.freeNumber := le_freeFrom s _ _
  unfold Edit.after
  rcases add_cases r parent now s with ⟨f, h⟩ | ⟨f, h, -⟩ | ⟨p, made, hmade, h⟩
  · rw [h]
    exact .refl s
  · rw [h]
    exact ⟨fun id n hn _ => ⟨n, hn, fun _ => rfl⟩, Nat.le_succ_of_le hfree, fun _ => .inl⟩
  · rw [h]
    exact .make hfree hmade.fields.1 parent

theorem spares_update (id content : String) (now : Int) :
    Spares gone (some id) s ((update id content now).after s) := by
  let Q : EStateM.Result Fault Store Unit → Prop := fun result =>
    Spares gone (some id) s (Edit.after (fun _ => result) s)
  change Q (update id content now s)
  unfold update
  refine Edit.ask_bind (fun _ => .refl s) fun n _ => Edit.check_bind (.refl s) fun _ => ?_
  exact .adjust (fun _ => rfl) fun h => absurd rfl h

end Store

/-! ## Commands -/

namespace Session

variable {σ τ ρ : Session C}

/-- A reliable store stays reliable and spares its entries. -/
def Spares (gone written : Option String) : Session C → Session C → Prop :=
  Safely (Store.Spares gone written)

theorem wide_spares : WideFrame fun σ τ : Session C => σ.Spares gone written τ :=
  wide_safely .refl .trans (fun _ _ parent now => Store.spares_add _ parent now)
    fun _ h => h.spares

theorem frame_spares : Frame fun σ τ : Session C => σ.Spares gone written τ :=
  wide_spares.toFrame

theorem keeps_update (id content : String) :
    (Run.update id content).Keeps fun σ τ : Session C => σ.Spares gone (some id) τ :=
  safely_update .refl .trans fun _ now => Store.spares_update id content now

theorem spares_purge (hσ : σ.store.Reliable) {id : String} {n : Node}
    (hn : σ.store.get? id = some n) (hf : n.isDir = false) : ∃ τ, Run.purge id σ = .ok () τ ∧
      σ.Spares (some id) none τ ∧ τ.store.has id = false := by
  obtain ⟨τ, hτ, hstore, hspares⟩ :=
    safely_purge (Q := Store.Spares (some id) none) hσ hn hf (.purge id)
  refine ⟨τ, hτ, hspares, ?_⟩
  rw [hstore, ← Store.get?_eq_none_iff, Store.get?_erase, if_pos rfl]

/-- The file whose place a copy takes goes out of the store. If its id is stored again, then the
supply has given it out. -/
theorem exists_spares_cp (hσ : σ.store.Reliable) (args : List String) :
    let τ := (Builtin.cp args).after σ
    ∃ gone, σ.Spares gone none τ ∧ ∀ id, gone = some id →
      (∃ n, σ.store.get? id = some n ∧ n.kind = .file ∧ n.children = none) ∧
      (τ.store.has id = false ∨ ∃ k, σ.store.counter ≤ k ∧ id = Store.idOf k) := by
  have hnone : ∃ gone, σ.Spares gone none σ ∧ ∀ id, gone = some id →
      (∃ n, σ.store.get? id = some n ∧ n.kind = .file ∧ n.children = none) ∧
      (σ.store.has id = false ∨ ∃ k, σ.store.counter ≤ k ∧ id = Store.idOf k) :=
    ⟨none, frame_spares.refl σ, by simp⟩
  unfold Builtin.cp
  dsimp only
  split
  · rw [Run.after_andThen]
    cases hplan : CopyPlan.ofPaths _ _ _ σ with
    | error stop => exact hnone
    | ok plan =>
      have hcopy : ∀ gone, Run.Keeps (fun σ τ : Session C => σ.Spares gone none τ)
          (Builtin.copyTree plan.source.id plan.parent plan.name >>= fun _ => pure Result.done) :=
        fun _ => frame_spares.bind (wide_spares.keeps_copyTree _ _ _) fun _ => frame_spares.pure _
      dsimp only
      unfold CopyPlan.act
      cases hex : plan.existing with
      | none => exact ⟨none, hcopy none σ, by simp⟩
      | some old =>
        obtain ⟨hold, hfile, -⟩ := CopyPlan.file_of_ofPaths hplan hex
        obtain ⟨τ, hτ, hspares, hgone⟩ := spares_purge hσ hold hfile
        have hcopyτ := hcopy (some old.id) τ
        dsimp only
        rw [Run.after_bind, hτ]
        refine ⟨some old.id, frame_spares.trans hspares hcopyτ, fun id hid => ?_⟩
        obtain rfl := Option.some.inj hid
        have hkind := Node.kind_eq_file hfile
        obtain ⟨hτr, hστ⟩ := hspares hσ
        exact ⟨⟨old, hold, hkind, hσ.leaf _ old hold hkind⟩,
          (hcopyτ hτr).2.freed hστ.counter (.inl hgone)⟩
  · exact hnone

/-- Only `cp` takes an entry out of the store. -/
theorem exists_spares_run (hσ : σ.store.Reliable) (p : Program) (args : List String)
    (stdin : String) :
    let τ := (p.run args stdin).after σ
    ∃ gone, σ.Spares gone none τ ∧ ∀ id, gone = some id → p = .cp ∧
      (∃ n, σ.store.get? id = some n ∧ n.kind = .file ∧ n.children = none) ∧
      (τ.store.has id = false ∨ ∃ k, σ.store.counter ≤ k ∧ id = Store.idOf k) := by
  by_cases hp : p = .cp
  · subst hp
    have hcp : (Program.run .cp args stdin).after σ = (Builtin.cp args).after σ :=
      Run.after_bind_pure (Builtin.cp args) _
    intro τ
    obtain ⟨gone, hspares, hgone⟩ := exists_spares_cp hσ args
    rw [← hcp] at hspares hgone
    exact ⟨gone, hspares, fun id hid => ⟨rfl, hgone id hid⟩⟩
  · exact ⟨none, wide_spares.keeps_run hp args stdin σ, by simp⟩

end Session

/-- The target of a redirect gets new content. -/
theorem Redirect.exists_spares_write (r : Redirect) (text : String) (σ : Session C) :
    ∃ written, ∀ gone, σ.Spares gone written ((r.write text).after σ) := by
  unfold Redirect.write
  rw [Run.after_andThen]
  cases hsink : Sink.ofRedirect r text σ with
  | error stop => exact ⟨none, fun _ => Session.frame_spares.refl σ⟩
  | ok sink =>
    cases sink with
    | replace id content =>
      refine ⟨some id, fun gone => Sink.keeps_write Session.frame_spares
        (fun id' content' h => ?_) (by simp) σ⟩
      obtain ⟨rfl, rfl⟩ := Sink.replace.inj h
      exact Session.keeps_update id content
    | create parent name =>
      refine ⟨none, fun gone => Sink.keeps_write Session.frame_spares (by simp)
        (fun parent name _ => ?_) σ⟩
      exact Session.wide_spares.add (fun _ _ _ => rfl) parent

namespace Engine

theorem exists_spares_settle (redirect : Option Redirect) (r : Result) (σ : Session C) :
    ∃ written, (written.isSome → redirect.isSome) ∧
      ∀ gone, σ.Spares gone written ((settle redirect r).after σ) := by
  unfold settle
  split
  · next s h =>
    exact ⟨none, by simp, fun _ => Session.frame_spares.bind (keeps_signal Session.frame_spares h)
      (fun _ => Session.frame_spares.pure _) σ⟩
  · rw [Run.after_bind]
    simp only [Run.get]
    split
    · exact ⟨none, by simp, fun _ => Session.frame_spares.refl σ⟩
    · split
      · exact ⟨none, by simp, fun _ => Session.frame_spares.refl σ⟩
      · next target _ =>
        obtain ⟨written, hwritten⟩ := target.exists_spares_write _ σ
        exact ⟨written, fun _ => rfl, hwritten⟩

theorem exists_spares_runCommand {σ : Session Program} (hσ : σ.store.Reliable) (c : Command)
    (stdin : String) :
    let τ := (runCommand Program.run c stdin).after σ
    ∃ gone written, σ.Spares gone written τ ∧
      (∀ id, gone = some id → σ.commands.get? (Text.lower c.name) = some .cp ∧
        (∃ n, σ.store.get? id = some n ∧ n.kind = .file ∧ n.children = none) ∧
        (τ.store.has id = false ∨ ∃ k, σ.store.counter ≤ k ∧ id = Store.idOf k)) ∧
      (written.isSome → c.redirect.isSome) := by
  intro τ
  rcases after_runCommand Program.run c stdin σ with hτ | ⟨p, hp, hτ⟩
  · rw [show τ = σ from hτ]
    exact ⟨none, none, Session.frame_spares.refl σ, by simp, by simp⟩
  · obtain ⟨ν, hν⟩ : ∃ ν : Session Program,
        ν = { σ with notes := .dispatch (Text.lower c.name) c.args.length :: σ.notes } := ⟨_, rfl⟩
    obtain ⟨hstore, hnote⟩ : ν.store = σ.store ∧ σ.Spares none none ν := by
      rw [hν]
      exact ⟨rfl, Session.frame_spares.note σ _⟩
    rw [← hν] at hτ
    obtain ⟨gone, hrun, hgone⟩ := Session.exists_spares_run (hnote hσ).1 p c.args stdin
    have hfinish : ∃ written, (written.isSome → c.redirect.isSome) ∧
        ∀ gone, ((p.run c.args stdin).after ν).Spares gone written τ := by
      rcases hτ with ⟨reply, hτ⟩ | ⟨f, hτ⟩
      · rw [show τ = _ from hτ]
        exact exists_spares_settle c.redirect reply.toResult _
      · rw [show τ = _ from hτ]
        exact ⟨none, by simp, fun _ => keeps_report Session.frame_spares _ f _⟩
    obtain ⟨written, hwritten, hend⟩ := hfinish
    obtain ⟨hυ, hνυ⟩ := hrun (hnote hσ).1
    rw [hstore] at hνυ hgone
    refine ⟨gone, written, fun _ => ⟨(hend gone hυ).1, hνυ.weaken.trans (hend gone hυ).2⟩,
      fun id hid => ?_, hwritten⟩
    obtain ⟨rfl, hfile, hfreed⟩ := hgone id hid
    exact ⟨hp, hfile, (hend gone hυ).2.freed hνυ.counter hfreed⟩

/-- Whatever a command does, and wherever its output is redirected to, all entries stay stored with
their contents, but for one file in whose place `cp` puts a copy and one to which the output is
redirected. -/
theorem losses_runCommand {σ : Session Program} (hσ : σ.store.Reliable) (c : Command)
    (stdin : String) :
    let τ := (runCommand Program.run c stdin).after σ
    ∃ gone written : Option String,
      (∀ id n, σ.store.get? id = some n → some id ≠ gone →
        ∃ m, τ.store.get? id = some m ∧ (some id ≠ written → m.content = n.content)) ∧
      (∀ id, gone = some id → σ.commands.get? (Text.lower c.name) = some .cp ∧
        (∃ n, σ.store.get? id = some n ∧ n.kind = .file ∧ n.children = none) ∧
        (τ.store.has id = false ∨ ∃ k, σ.store.counter ≤ k ∧ id = Store.idOf k)) ∧
      (written.isSome → c.redirect.isSome) := by
  obtain ⟨gone, written, hspares, hgone, hwritten⟩ := exists_spares_runCommand hσ c stdin
  exact ⟨gone, written, (hspares hσ).2.stored, hgone, hwritten⟩

/-- The case of a copy over a file of a fresh desktop. -/
theorem losses_runCommand_cp : ∃ seed, ∃ σ : Session Program, Desktop.store 0 = .ok seed ∧
    Session.start seed {} 0 = .ok σ ∧ ∃ gone : Option String,
      ∀ id n, seed.get? id = some n → some id ≠ gone →
        ∃ m, ((runCommand Program.run ⟨"cp", ["About Me.txt", "Contact.txt"], none⟩ "").after
          (σ.ready fun _ => .unset)).store.get? id = some m ∧ m.content = n.content := by
  obtain ⟨seed, hs, -⟩ := Desktop.exists_store 0
  have hsound : seed.Sound (Session.Options.homeIn {} seed) := Desktop.sound_store hs
  obtain ⟨σ, hσ, hstore, -⟩ := Session.exists_start (C := Program) hsound 0
  have hready : (σ.ready fun _ => .unset).store = seed := (σ.ready_fields _).1.trans hstore
  obtain ⟨gone, written, hkeep, -, hwritten⟩ :=
    losses_runCommand (σ := σ.ready fun _ => .unset) (hready ▸ hsound.reliable)
      ⟨"cp", ["About Me.txt", "Contact.txt"], none⟩ ""
  refine ⟨seed, σ, hs, hσ, gone, fun id n hn hid => ?_⟩
  obtain ⟨m, hm, hmn⟩ := hkeep id n (hready ▸ hn) hid
  refine ⟨m, hm, hmn ?_⟩
  rintro rfl
  simp at hwritten

end Engine
end DeskShell

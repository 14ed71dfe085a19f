import DeskShell.Proofs.WorkingFolder
import DeskShell.Shell.Call

/-!
# What a refused operation leaves

The operations of a store look before they change it: all that can stop one with a fault comes
before its first change. So a refused operation leaves the entries that it was given. An `add` may
have taken an id out of the supply by then, and nothing else.

* `Looks`, `Sure`, `Clean`: programs that change nothing, that never stop with a fault, and that
  stop only in the state they were given. `Looks.bind` and `Clean.bind` put them together: first
  look, then change.
* `Store.clean_rename`, `Store.clean_move`, `Store.clean_delete`: operations of a store.
* `Call.unchanged_of_fault`: what a refused call leaves.
-/
namespace DeskShell

variable {S C α β : Type}

/-- A program that leaves the state as it is, whether it answers or stops. -/
def Looks (x : EStateM Fault S α) : Prop :=
  ∀ s, (∃ a, x s = .ok a s) ∨ ∃ f, x s = .error f s

/-- A program that never stops with a fault. -/
def Sure (x : EStateM Fault S α) : Prop := ∀ s, ∃ a t, x s = .ok a t

/-- A program that stops with a fault only in the state that it was given. -/
def Clean (x : EStateM Fault S α) : Prop := ∀ s f t, x s = .error f t → t = s

section

variable {x : EStateM Fault S α} {g : α → EStateM Fault S β}

theorem sure_pure (a : α) : Sure (pure a : EStateM Fault S α) := fun s => ⟨a, s, rfl⟩

theorem Sure.bind (hx : Sure x) (hg : ∀ a, Sure (g a)) : Sure (x >>= g) := by
  intro s
  obtain ⟨a, t, ht⟩ := hx s
  obtain ⟨b, u, hu⟩ := hg a t
  refine ⟨b, u, ?_⟩
  simp only [Bind.bind, EStateM.bind, ht, hu]

theorem Sure.clean (hx : Sure x) : Clean x := by
  intro s f t h
  obtain ⟨a, u, hu⟩ := hx s
  rw [hu] at h
  cases h

theorem Looks.clean (hx : Looks x) : Clean x := by
  intro s f t h
  rcases hx s with ⟨a, ha⟩ | ⟨e, he⟩
  · rw [ha] at h
    cases h
  · rw [he] at h
    cases h
    rfl

theorem Looks.bind (hx : Looks x) (hg : ∀ a, Clean (g a)) : Clean (x >>= g) := by
  intro s f t h
  simp only [Bind.bind, EStateM.bind] at h
  rcases hx s with ⟨a, ha⟩ | ⟨e, he⟩
  · rw [ha] at h
    exact hg a s f t h
  · rw [he] at h
    cases h
    rfl

/-- Before programs that never stop, a fault is the fault of the first one. -/
theorem error_of_bind_sure (hg : ∀ a, Sure (g a)) {s t : S} {f : Fault}
    (h : (x >>= g) s = .error f t) : x s = .error f t := by
  simp only [Bind.bind, EStateM.bind] at h
  cases hx : x s with
  | error e u =>
    rw [hx] at h
    cases h
    rfl
  | ok a u =>
    obtain ⟨b, v, hv⟩ := hg a u
    rw [hx] at h
    dsimp only at h
    rw [hv] at h
    cases h

theorem Clean.bind (hx : Clean x) (hg : ∀ a, Sure (g a)) : Clean (x >>= g) := by
  intro s f t h
  exact hx s f t (error_of_bind_sure hg h)

end

/-! ## Operations of a store -/

namespace Edit

theorem looks_ask (f : Store → Except Fault α) : Looks (ask f) := by
  intro s
  unfold ask
  cases f s with
  | ok a => exact .inl ⟨a, rfl⟩
  | error e => exact .inr ⟨e, rfl⟩

theorem looks_check (fault : Fault) (holds : Store → Bool) : Looks (check fault holds) := by
  intro s
  unfold check
  split
  · exact .inl ⟨(), rfl⟩
  · exact .inr ⟨fault, rfl⟩

theorem sure_apply (f : Store → Store) : Sure (apply f) := fun s => ⟨(), f s, rfl⟩

end Edit

namespace Store

open Edit (looks_ask looks_check sure_apply)

theorem clean_update (id content : String) (now : Int) : Clean (update id content now) := by
  unfold update
  refine (looks_ask _).bind fun n => (looks_check _ _).bind fun _ => ?_
  exact (sure_apply _).clean

theorem clean_rename (id name : String) : Clean (rename id name) := by
  have hwrite : ∀ old : String, Sure (do
      Edit.apply (·.adjust id fun n => { n with name := name })
      return old) :=
    fun old => (sure_apply _).bind fun _ => sure_pure old
  unfold rename guardSystem
  refine (looks_ask _).bind fun n => (looks_check _ _).bind fun _ =>
    (looks_ask _).bind fun parent => ?_
  split
  · exact (hwrite n.name).clean
  · exact (looks_check _ _).bind fun _ => (hwrite n.name).clean

theorem clean_move (id target : String) : Clean (move id target) := by
  unfold move guardSystem
  refine (looks_ask _).bind fun n => (looks_check _ _).bind fun _ =>
    (looks_ask _).bind fun folder => ?_
  split
  · exact (sure_pure _).clean
  · refine (looks_check _ _).bind fun _ => (looks_ask _).bind fun below =>
      (looks_check _ _).bind fun _ => (looks_ask _).bind fun parent => ?_
    split
    · exact (sure_pure _).clean
    · split
      · exact (sure_pure _).clean
      · refine (looks_check _ _).bind fun _ => Sure.clean ?_
        exact (sure_apply _).bind fun _ => sure_pure _

theorem sure_askOk (f : Store → α) : Sure (Edit.ask fun s => .ok (f s)) := fun s => ⟨f s, s, rfl⟩

theorem clean_delete (id parent : String) : Clean (delete id parent) := by
  unfold delete guardSystem
  refine (looks_ask _).bind fun n => (looks_check _ _).bind fun _ =>
    (looks_ask _).bind fun folder => Sure.clean ?_
  -- From here on the entry is taken out of its folder, and nothing may stop any more.
  refine (sure_apply _).bind fun _ => (sure_askOk _).bind fun bin => ?_
  split
  · exact (sure_apply _).bind fun _ => sure_pure _
  · exact (sure_apply _).bind fun _ => sure_pure _

theorem sure_purge (id : String) : Sure (purge id) := sure_apply _

theorem sure_purgeAll (ids : List String) : Sure (purgeAll ids) := by
  induction ids with
  | nil => exact sure_pure ()
  | cons id rest ih => exact (sure_purge id).bind fun _ => ih

theorem clean_restore (id : String) : Clean (restore id) :=
  (looks_ask _).bind fun root => clean_move id root

theorem clean_emptyBin : Clean emptyBin :=
  (looks_ask _).bind fun bin => (sure_purgeAll bin.childIds).clean

theorem counter_of_add_error {r : Record} {parent : String} {now : Int} {s t : Store} {f : Fault}
    (h : add r parent now s = .error f t) : ∃ k, t = { s with counter := k } := by
  rcases add_cases r parent now s with ⟨g, hg⟩ | ⟨g, hg, -⟩ | ⟨p, made, -, hmade⟩
  · rw [hg] at h
    cases h
    exact ⟨s.counter, rfl⟩
  · rw [hg] at h
    cases h
    exact ⟨s.freeNumber + 1, rfl⟩
  · rw [hmade] at h
    cases h

end Store

/-! ## In a session -/

namespace Run

theorem looks_ask (f : Session C → Except Fault α) : Looks (ask f) := by
  intro σ
  unfold ask
  cases f σ with
  | ok a => exact .inl ⟨a, rfl⟩
  | error e => exact .inr ⟨e, rfl⟩

theorem looks_get : Looks (get : Run C (Session C)) := fun σ => .inl ⟨σ, rfl⟩

theorem sure_note (n : Note) : Sure (note n : Run C Unit) := fun _ => ⟨(), _, rfl⟩

theorem error_of_edit {e : Edit α} {σ τ : Session C} {f : Fault} (h : edit e σ = .error f τ) :
    ∃ s, e σ.store = .error f s ∧ τ = { σ with store := s } := by
  unfold edit at h
  cases he : e σ.store with
  | ok a s =>
    rw [he] at h
    cases h
  | error g s =>
    rw [he] at h
    cases h
    exact ⟨s, rfl, rfl⟩

theorem clean_edit {e : Edit α} (he : Clean e) : Clean (edit e : Run C α) := by
  intro σ f τ h
  obtain ⟨s, hs, rfl⟩ := error_of_edit h
  rw [he _ _ _ hs]

theorem sure_edit {e : Edit α} (he : Sure e) : Sure (edit e : Run C α) := by
  intro σ
  obtain ⟨a, t, ht⟩ := he σ.store
  refine ⟨a, { σ with store := t }, ?_⟩
  unfold edit
  rw [ht]

theorem sure_noteMoved (id target : String) (left : Option String) :
    Sure (noteMoved id target left : Run C Unit) := by
  cases left with
  | none => exact sure_pure ()
  | some source => exact sure_note _

theorem sure_notePurged (ids : List String) : Sure (notePurged ids : Run C Unit) := by
  induction ids with
  | nil => exact sure_pure ()
  | cons id rest ih => exact (sure_note _).bind fun _ => ih

theorem clean_update (id content : String) : Clean (update id content : Run C Unit) := by
  refine looks_get.bind fun σ => ?_
  exact (clean_edit (Store.clean_update id content σ.clock)).bind fun _ => sure_note _

theorem clean_rename (id name : String) : Clean (rename id name : Run C Unit) :=
  (clean_edit (Store.clean_rename id name)).bind fun _ => sure_note _

theorem clean_move (id target : String) : Clean (move id target : Run C Unit) :=
  (clean_edit (Store.clean_move id target)).bind fun left => sure_noteMoved id target left

theorem clean_restore (id : String) : Clean (restore id : Run C Unit) := by
  refine looks_get.bind fun σ => ?_
  exact (clean_edit (Store.clean_restore id)).bind fun left => sure_noteMoved id _ left

theorem clean_delete (id parent : String) : Clean (delete id parent : Run C Unit) := by
  refine (clean_edit (Store.clean_delete id parent)).bind fun held => ?_
  split
  · exact sure_note _
  · exact sure_pure ()

theorem sure_purge (id : String) : Sure (purge id : Run C Unit) :=
  (sure_edit (Store.sure_purge id)).bind fun _ => sure_note _

theorem clean_emptyBin : Clean (emptyBin : Run C Unit) := by
  refine looks_get.bind fun σ => ?_
  exact (clean_edit Store.clean_emptyBin).bind fun _ => sure_notePurged _

theorem counter_of_add_error {r : Record} {parent : String} {σ τ : Session C} {f : Fault}
    (h : add r parent σ = .error f τ) :
    ∃ k, τ = { σ with store := { σ.store with counter := k } } := by
  have hedit : edit (Store.add r parent σ.clock) σ = .error f τ := by
    change (edit (Store.add r parent σ.clock) >>= _) σ = _ at h
    refine error_of_bind_sure (fun id υ => ?_) h
    cases hn : υ.store.get? id with
    | none => exact ⟨id, υ, by simp only [Bind.bind, EStateM.bind, get, hn]; rfl⟩
    | some n => exact ⟨id, _, by simp only [Bind.bind, EStateM.bind, get, hn]; rfl⟩
  obtain ⟨s, hs, rfl⟩ := error_of_edit hedit
  obtain ⟨k, rfl⟩ := Store.counter_of_add_error hs
  exact ⟨k, rfl⟩

end Run

namespace Call

/-- All calls but `add` stop with a fault only in the session that they were given. -/
theorem clean_run {call : Call} (hadd : ∀ r parent, call ≠ .add r parent) :
    Clean (call.run : Run C Answer) := by
  cases call with
  | get | contents | parent | path | find | walk | child =>
    unfold run
    exact (Run.looks_ask _).clean
  | add r parent => exact absurd rfl (hadd r parent)
  | update id content => exact (Run.clean_update id content).bind fun _ => sure_pure _
  | rename id name => exact (Run.clean_rename id name).bind fun _ => sure_pure _
  | move id target => exact (Run.clean_move id target).bind fun _ => sure_pure _
  | delete id folder => exact (Run.clean_delete id folder).bind fun _ => sure_pure _
  | purge id => exact ((Run.sure_purge id).bind fun _ => sure_pure _).clean
  | restore id => exact (Run.clean_restore id).bind fun _ => sure_pure _
  | emptyBin => exact Run.clean_emptyBin.bind fun _ => sure_pure _

/-- A call that stops with a fault leaves the entries, their order and everything else in the
session as they were. Only an `add` may have taken an id out of the supply. -/
theorem unchanged_of_fault {call : Call} {σ τ : Session C} {f : Fault}
    (h : call.run σ = .error f τ) :
    τ.store.nodes = σ.store.nodes ∧
      τ = { σ with store := { σ.store with counter := τ.store.counter } } ∧
      ((∀ r parent, call ≠ .add r parent) → τ = σ) := by
  cases call with
  | add r parent =>
    obtain ⟨k, rfl⟩ := Run.counter_of_add_error (error_of_bind_sure (fun _ => sure_pure _) h)
    exact ⟨rfl, rfl, fun hne => absurd rfl (hne r parent)⟩
  | _ =>
    obtain rfl := clean_run (fun _ _ he => by cases he) σ f τ h
    exact ⟨rfl, rfl, fun _ => rfl⟩

/-- The case of a fresh desktop to which something of no known kind is to be added: the kind is
looked at after an id has been taken, and still no entry changes. -/
theorem unchanged_of_fault_kind : ∃ σ τ, ∃ f : Fault,
    Desktop.session {} 0 (fun _ => .unset) = .ok σ ∧
      (add { name := some "Notes", kind := some (some "shortcut") } "desktop").run σ = .error f τ ∧
      τ.store.nodes = σ.store.nodes := by
  let call := add { name := some "Notes", kind := some (some "shortcut") } "desktop"
  have hrun : (Desktop.session {} 0 fun _ => .unset).map (fun σ =>
      match call.run σ with
      | .ok _ _ => none
      | .error f _ => some f) = .ok (some (.notOneOf "NodeKind" (some "shortcut"))) := by
    decide +kernel
  obtain ⟨σ, hσ, -⟩ := Desktop.exists_session {} 0 fun _ => .unset
  rw [hσ] at hrun
  have hrun := Except.ok.inj hrun
  dsimp only at hrun
  cases h : call.run σ with
  | ok a τ =>
    rw [h] at hrun
    cases hrun
  | error f τ => exact ⟨σ, τ, f, hσ, h, (unchanged_of_fault h).1⟩

end Call
end DeskShell

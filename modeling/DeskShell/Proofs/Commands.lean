import DeskShell.Proofs.Handlers

/-!
# What the built-in commands do to a session in order

All built-in commands but `cd` stay in the working folder and take the store through steps. Only
`mv` and `rm` take steps that move a folder.

* `Builtin.evolving_mkdir`, `Builtin.evolving_cp` and their like: one result for each command that
  acts.
* `Redirect.evolving_write`: what redirected output does.
* `Session.Enters`: what `cd` does.
* `Builtin.Program.advances_run`: any built-in command.
-/
namespace DeskShell

open Session (InOrder Evolves)
open Run (Evolving)
open Inquiry (bind_eq_ok lift_eq_ok)

variable {C α : Type} {N : String → Prop} {K : Change → Prop} {σ τ ρ : Session C}

namespace Builtin

/-! ## Commands that move no folder -/

theorem Making.evolving_add (hN : ∀ path, N (Path.splitParent path).2) (m : Making)
    (path parent : String) : Evolving N Change.Quiet
      (Run.add (m.record (Path.splitParent path).2) parent : Run C String) := by
  refine .add trivial trivial (m.childless_record _) (fun name hname => ?_) parent
  rw [m.name_record] at hname
  exact Option.some.inj hname ▸ hN path

theorem evolving_mkdir (hN : ∀ path, N (Path.splitParent path).2) (args : List String) :
    Evolving N Change.Quiet (mkdir args : Run C Result) :=
  keeps_mkdir Evolves.frame (Making.folder.evolving_add hN) args

theorem evolving_touch (hN : ∀ path, N (Path.splitParent path).2) (args : List String) :
    Evolving N Change.Quiet (touch args : Run C Result) :=
  keeps_touch Evolves.frame (Making.file.evolving_add hN) args

theorem evolving_copyTree {name : String} (hname : N name) (id parent : String) :
    Evolving N Change.Quiet (copyTree id parent name : Run C String) := by
  refine keeps_copyTree Evolves.frame (fun σ n given parent hn hgiven hσ => ?_) hname id parent
  refine Evolving.add trivial trivial (childless_copyRecord n given) (fun name' hname' => ?_)
    parent σ hσ
  obtain rfl : given = name' := Option.some.inj hname'
  rcases hgiven with rfl | hgiven
  · exact hσ.named n hn
  · exact hgiven

/-- The name that a copy is given is that of an entry or the last one on a path. -/
theorem CopyPlan.name_of_ofPaths (hN : ∀ path, N (Path.splitParent path).2) (hσ : σ.store.Named N)
    {source dest : String} {recursive : Bool} {plan : CopyPlan}
    (h : ofPaths source dest recursive σ = .ok plan) : N plan.name := by
  obtain ⟨n, hn, hplan, -⟩ := of_ofPaths h
  rcases cases_of_placeFor hplan with
    ⟨_, _, -, -, -, rfl⟩ | ⟨_, d, hd, -, rfl⟩ | ⟨_, _, name, -, -, hparent, -, rfl⟩
  · exact hσ n (Store.mem_nodes_of_get? (stored_of_sourceOf hn))
  · obtain ⟨-, hnode⟩ := Session.resolveNode_eq_ok hd
    exact hσ d (Store.mem_nodes_of_get? hnode.symm)
  · dsimp only
    rw [Session.name_of_resolveParent hparent]
    exact hN dest

/-- What a copy takes the place of is a stored leaf in the folder that the copy comes into. -/
theorem CopyPlan.parent_of_ofPaths (hσ : σ.InOrder N) {source dest : String} {recursive : Bool}
    {plan : CopyPlan} (h : ofPaths source dest recursive σ = .ok plan) {old : Node}
    (hold : plan.existing = some old) : σ.store.get? old.id = some old ∧ old.isDir = false ∧
      ∃ p, σ.store.parent? old.id = some p ∧ p.id = plan.parent := by
  obtain ⟨hget, hf, hmet⟩ := file_of_ofPaths h hold
  have hplaced : σ.store.Placed old.id := by
    rcases hmet with hl | ⟨path, place, hplace, hid⟩
    · exact .inr hl
    · exact hid ▸ Session.placed_resolve hσ hplace
  obtain ⟨p, hp⟩ := hσ.sound.parent?_of_placed hplaced hget hf
  refine ⟨hget, hf, p, hp, ?_⟩
  obtain ⟨m, -, hplan, -⟩ := of_ofPaths h
  rcases cases_of_placeFor hplan with
    ⟨_, d, -, -, -, rfl⟩ | ⟨_, d, -, -, rfl⟩ | ⟨_, _, _, -, -, -, -, rfl⟩
  · obtain ⟨hl, -⟩ := Store.childNamed_eq_some hold
    obtain ⟨hpg, hpc⟩ := Store.lists_of_parent? hσ.sound.distinct hp
    exact hσ.sound.parent_unique ⟨p, hpg, hpc⟩ hl
  · obtain rfl := Option.some.inj hold
    simp [hp]
  · cases hold

theorem evolving_cp (hN : ∀ path, N (Path.splitParent path).2) (args : List String) :
    Evolving N Change.Quiet (cp args : Run C Result) := by
  refine keeps_cp Evolves.frame (fun σ source dest recursive plan hplan hσ => ?_) args
  have hname := CopyPlan.name_of_ofPaths hN hσ.named hplan
  have hcopy : Evolving N Change.Quiet
      (copyTree plan.source.id plan.parent plan.name >>= fun _ => pure .done : Run C Result) :=
    Evolves.frame.bind (evolving_copyTree hname _ _) fun _ => Evolves.frame.pure _
  unfold CopyPlan.act
  cases hex : plan.existing with
  | none => exact hcopy σ hσ
  | some old =>
    -- A file that is replaced is in a folder.
    obtain ⟨hold, hfile, p, hp, -⟩ := CopyPlan.parent_of_ofPaths hσ hplan hex
    have hpurge : Evolves N Change.Quiet σ ((Run.purge old.id).after σ) :=
      .purge trivial hσ hold hfile hp
    exact hpurge.bind hσ fun _ τ _ hτ => hcopy τ hτ

theorem evolving_color (args : List String) : Evolving N K (color args : Run C Result) :=
  keeps_color Evolves.frame args

/-! ## Commands that may move folders -/

theorem evolving_mv (hN : ∀ path, N (Path.splitParent path).2) (args : List String) :
    Evolving N (fun _ => True) (mv args : Run C Result) :=
  keeps_mv Evolves.frame (Evolving.move trivial) (fun path => Evolving.rename trivial (hN path))
    args

theorem evolving_rm (args : List String) :
    Evolving N (fun _ => True) (rm args : Run C Result) :=
  keeps_rm Evolves.frame (fun _ _ _ hp hσ => .delete trivial hσ hp) args

end Builtin

/-! ## Redirects -/

theorem Redirect.evolving_write (hN : ∀ path, N (Path.splitParent path).2) (r : Redirect)
    (text : String) : Evolving N Change.Quiet (r.write text : Run C Result) := by
  refine keeps_write Evolves.frame (Evolving.update trivial) (fun path parent text => ?_) r text
  refine Evolving.add trivial trivial (fun _ _ _ => rfl) (fun name hname => ?_) parent
  exact Option.some.inj hname ▸ hN path

/-! ## Changing the folder -/

/-- What `cd` does to a session: nothing, or it enters the folder that it finds. -/
inductive Session.Enters (σ : Session C) : Session C → Prop
  | stays : Enters σ σ
  | moves {target : String} {place : Session.Place} (h : Builtin.destination target σ = .ok place) :
      Enters σ { σ with folder := place.id, shown := place.shown }

theorem Session.Enters.inOrder (h : σ.Enters τ) (hσ : σ.InOrder N) : τ.InOrder N := by
  cases h with
  | stays => exact hσ
  | moves h => exact ⟨hσ.sound, Builtin.hasDir_destination hσ h, hσ.named⟩

theorem Builtin.enters_cd (args : List String) (σ : Session C) :
    σ.Enters ((cd args : Run C Result).after σ) := by
  unfold cd Run.after Inquiry.andThen
  cases h : destination (Text.glue ' ' args) σ with
  | ok place => exact .moves h
  | error stop => cases stop <;> exact .stays

/-- From `σ` to `τ` by steps that move no folder, and by entering a folder at most once between
them. -/
def Session.Passes (N : String → Prop) (σ τ : Session C) : Prop :=
  ∃ α β, Evolves N Change.Quiet σ α ∧ α.Enters β ∧ Evolves N Change.Quiet β τ

open Builtin (Program)

/-- What a command may do: `cd` enters a folder, `mv` and `rm` take any steps in the same folder,
and all others take steps that move no folder. -/
inductive Session.Advances (N : String → Prop) : Option Program → Session C → Session C → Prop
  | quiet {p : Option Program} {σ τ : Session C} (h : Evolves N Change.Quiet σ τ) : Advances N p σ τ
  | enters {σ τ : Session C} (h : σ.Passes N τ) : Advances N (some .cd) σ τ
  | moves {p : Option Program} {σ τ : Session C} (hp : p = some .mv ∨ p = some .rm)
      (h : Evolves N (fun _ => True) σ τ) : Advances N p σ τ

namespace Session.Advances

variable {p : Option Program}

theorem prepend (hστ : Evolves N Change.Quiet σ τ) (h : Advances N p τ ρ) : Advances N p σ ρ := by
  cases h with
  | quiet h => exact .quiet (hστ.trans h)
  | enters h =>
    obtain ⟨α, β, hα, hβ, hρ⟩ := h
    exact .enters ⟨α, β, hστ.trans hα, hβ, hρ⟩
  | moves hp h => exact .moves hp ((hστ.weaken fun _ _ => trivial).trans h)

theorem append (h : Advances N p σ τ) (hτρ : Evolves N Change.Quiet τ ρ) : Advances N p σ ρ := by
  cases h with
  | quiet h => exact .quiet (h.trans hτρ)
  | enters h =>
    obtain ⟨α, β, hα, hβ, hτ⟩ := h
    exact .enters ⟨α, β, hα, hβ, hτ.trans hτρ⟩
  | moves hp h => exact .moves hp (h.trans (hτρ.weaken fun _ _ => trivial))

theorem inOrder (h : Advances N p σ τ) (hσ : σ.InOrder N) : τ.InOrder N := by
  cases h with
  | quiet h | moves _ h => exact h.inOrder hσ
  | enters h =>
    obtain ⟨α, β, hα, hβ, hτ⟩ := h
    exact hτ.inOrder (hβ.inOrder (hα.inOrder hσ))

end Session.Advances

theorem Builtin.Program.advances_act (hN : ∀ path, N (Path.splitParent path).2)
    (hσ : σ.InOrder N) (p : Program) (args : List String) :
    σ.Advances N (some p) ((p.act args).after σ) := by
  cases p with
  | color => exact .quiet (evolving_color args σ hσ)
  | cd => exact .enters ⟨σ, _, .refl σ, enters_cd args σ, .refl _⟩
  | mkdir => exact .quiet (evolving_mkdir hN args σ hσ)
  | touch => exact .quiet (evolving_touch hN args σ hσ)
  | cp => exact .quiet (evolving_cp hN args σ hσ)
  | mv => exact .moves (.inl rfl) (evolving_mv hN args σ hσ)
  | rm => exact .moves (.inr rfl) (evolving_rm args σ hσ)
  | _ => exact .quiet (.refl σ)

theorem Builtin.Program.advances_run (hN : ∀ path, N (Path.splitParent path).2)
    (hσ : σ.InOrder N) (p : Program) (args : List String) (stdin : String) :
    σ.Advances N (some p) ((p.run args stdin).after σ) := by
  unfold Program.run
  cases p.inquiry? args stdin with
  | some found =>
    dsimp only
    rw [Run.after_bind_pure]
    exact .quiet (Evolves.frame.toRun found σ hσ)
  | none =>
    dsimp only
    rw [Run.after_bind_pure]
    exact p.advances_act hN hσ args

end DeskShell

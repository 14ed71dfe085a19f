import DeskShell.Proofs.Desktop
import DeskShell.Proofs.Handlers
import DeskShell.Proofs.Order

/-!
# What the built-in commands leave alone

Only a few commands change the store, only `cd` changes the working folder, and none changes the
settings of a session. So a line without redirects in which those few are not named is carried out
on a store that stays as it was.

* `Session.BlindFrame`: frames that do not see the store; `Session.BlindFrame.keeps_run` is one
  result for all commands but `cd`.
* `Builtin.Program.mutators`: the commands that may change the store.
* `Engine.keeps_execute`: what all commands of a typed line keep, the line keeps.
* `Session.Stock`: a session that has no commands but the built-in ones.
* `Engine.untouched_execute`: what commands and lines leave alone.
-/
namespace DeskShell

open Builtin (Program)
open Session (Frame)
open Run (Keeps)

variable {C : Type} {R : Session C → Session C → Prop}

namespace Session

/-! ## Frames that do not see the store -/

structure BlindFrame (R : Session C → Session C → Prop) : Prop extends Frame R where
  store : ∀ σ s, R σ { σ with store := s }

namespace BlindFrame

variable (B : BlindFrame R)

include B

theorem keeps_add (r : Record) (parent : String) : (Run.add r parent).Keeps R :=
  fun σ => B.add (B.store σ _)

theorem keeps_copy (plan : Builtin.CopyPlan) : plan.act.Keeps R := by
  have hcopy : (Builtin.copyTree plan.source.id plan.parent plan.name).Keeps R :=
    Builtin.keeps_copyTree (N := fun _ => True) B.toFrame
      (fun σ n name parent _ _ => B.keeps_add _ parent σ) trivial _ _
  have hrest : Run.Keeps R
      (Builtin.copyTree plan.source.id plan.parent plan.name >>= fun _ => pure Result.done) :=
    B.toFrame.bind hcopy fun _ => B.toFrame.pure _
  unfold Builtin.CopyPlan.act
  split
  · exact hrest
  · exact B.toFrame.bind (fun σ => B.purge (B.store σ _)) fun _ => hrest

theorem keeps_act {p : Program} (hp : p ≠ .cd) (args : List String) : (p.act args).Keeps R := by
  cases p with
  | color => exact Builtin.keeps_color B.toFrame args
  | cd => exact absurd rfl hp
  | mkdir => exact Builtin.keeps_mkdir B.toFrame (fun _ => B.keeps_add _) args
  | touch => exact Builtin.keeps_touch B.toFrame (fun _ => B.keeps_add _) args
  | cp => exact Builtin.keeps_cp B.toFrame (fun σ _ _ _ plan _ => B.keeps_copy plan σ) args
  | mv =>
    exact Builtin.keeps_mv B.toFrame (fun _ _ σ => B.move (B.store σ _))
      (fun _ _ σ => B.rename (B.store σ _)) args
  | rm => exact Builtin.keeps_rm B.toFrame (fun σ _ _ _ => B.delete (B.store σ _)) args
  | _ => exact B.toFrame.pure _

theorem keeps_run {p : Program} (hp : p ≠ .cd) (args : List String) (stdin : String) :
    (p.run args stdin).Keeps R :=
  Program.keeps_run B.toFrame (B.keeps_act hp args) stdin

/-- All commands, when the frame does not see the working folder either. -/
theorem keeps_runAll (henter : ∀ σ id shown, R σ { σ with folder := id, shown := shown })
    (p : Program) (args : List String) (stdin : String) : (p.run args stdin).Keeps R := by
  by_cases hp : p = .cd
  · subst hp
    have hcd : (Program.act args .cd).Keeps R := Builtin.keeps_cd B.toFrame henter args
    exact Program.keeps_run B.toFrame hcd stdin
  · exact B.keeps_run hp args stdin

theorem keeps_write (r : Redirect) (text : String) : (r.write text).Keeps R :=
  r.keeps_write B.toFrame (fun _ _ σ => B.update (B.store σ _))
    (fun _ parent _ => B.keeps_add _ parent) text

end BlindFrame

/-! ## Settings -/

/-- The environment, the command table and the limits are the same. -/
structure SameSettings (σ τ : Session C) : Prop where
  env : τ.env = σ.env
  commands : τ.commands = σ.commands
  descriptions : τ.descriptions = σ.descriptions
  allowed : τ.allowed = σ.allowed
  limit : τ.limit = σ.limit

theorem blind_sameSettings : BlindFrame fun σ τ : Session C => σ.SameSettings τ where
  refl _ := ⟨rfl, rfl, rfl, rfl, rfl⟩
  trans h h' := ⟨h'.env.trans h.env, h'.commands.trans h.commands,
    h'.descriptions.trans h.descriptions, h'.allowed.trans h.allowed, h'.limit.trans h.limit⟩
  note _ _ := ⟨rfl, rfl, rfl, rfl, rfl⟩
  signal _ _ _ := ⟨rfl, rfl, rfl, rfl, rfl⟩
  store _ _ := ⟨rfl, rfl, rfl, rfl, rfl⟩

theorem blind_folder :
    BlindFrame fun σ τ : Session C => τ.folder = σ.folder ∧ τ.shown = σ.shown where
  refl _ := ⟨rfl, rfl⟩
  trans h h' := ⟨h'.1.trans h.1, h'.2.trans h.2⟩
  note _ _ := ⟨rfl, rfl⟩
  signal _ _ _ := ⟨rfl, rfl⟩
  store _ _ := ⟨rfl, rfl⟩

end Session

/-! ## Commands -/

namespace Builtin

open Session (SameSettings)

namespace Program

/-- The commands that may change the store. -/
def mutators : List Program := [mkdir, touch, cp, mv, rm]

example : mutators.flatMap (·.entry.names) =
    ["mkdir", "md", "touch", "cp", "mv", "rm", "del"] := by
  decide +kernel

theorem sameSettings_run (p : Program) (args : List String) (stdin : String) :
    (p.run args stdin : Run C Reply).Keeps fun σ τ => σ.SameSettings τ :=
  Session.blind_sameSettings.keeps_runAll (fun _ _ _ => ⟨rfl, rfl, rfl, rfl, rfl⟩) p args stdin

theorem store_run {p : Program} (hp : p ∉ mutators) (args : List String) (stdin : String) :
    (p.run args stdin : Run C Reply).Keeps fun σ τ => τ.store = σ.store := by
  refine keeps_run Session.frame_store ?_ stdin
  cases p with
  | color => exact keeps_color Session.frame_store args
  | cd => exact keeps_cd Session.frame_store (fun _ _ _ => rfl) args
  | mkdir | touch | cp | mv | rm => exact absurd (by decide) hp
  | _ => exact Session.frame_store.pure _

end Program
end Builtin

/-! ## Lines -/

namespace Engine

variable {run : C → List String → String → Run C Reply}

section

variable (F : Frame R)

include F

theorem keeps_runCommands : ∀ (p : List Command) (stdin : String),
    (∀ c ∈ p, ∀ stdin, (runCommand run c stdin).Keeps R) → (runCommands run stdin p).Keeps R
  | [], _, _ => F.pure _
  | c :: rest, stdin, h =>
    F.bind (h c List.mem_cons_self stdin) fun r =>
      F.bind (keeps_runCommands rest r.stdout fun c hc => h c (List.mem_cons_of_mem _ hc))
        fun _ => F.pure _

theorem keeps_runPipeline {p : Pipeline} (h : ∀ c ∈ p, ∀ stdin, (runCommand run c stdin).Keeps R)
    (stdin : String) : (runPipeline run p stdin).Keeps R :=
  F.bind (keeps_runCommands F p stdin h) fun _ => F.pure _

theorem keeps_runLinks (stdin : String) : ∀ (links : List (String × Pipeline)) (exitCode : Int),
    (∀ p ∈ links.map (·.2), ∀ c ∈ p, ∀ stdin, (runCommand run c stdin).Keeps R) →
      (runLinks run stdin exitCode links).Keeps R
  | [], _, _ => F.pure _
  | (operator, p) :: rest, exitCode, h => by
    unfold runLinks
    split
    · exact F.bind (F.noted _) fun _ => F.pure _
    · refine F.bind (keeps_runPipeline F (h p List.mem_cons_self) stdin) fun r => ?_
      exact F.bind (keeps_runLinks stdin rest r.exitCode fun p hp =>
        h p (List.mem_cons_of_mem _ hp)) fun _ => F.pure _

theorem keeps_runLinePipelines (stdin : String) {l : Line}
    (h : ∀ p ∈ l.pipelines, ∀ c ∈ p, ∀ stdin, (runCommand run c stdin).Keeps R) :
    (runLinePipelines run stdin l).Keeps R := by
  cases l with
  | empty => exact F.pure _
  | chain first rest =>
    refine F.bind (keeps_runPipeline F (h first List.mem_cons_self) stdin) fun r => ?_
    exact F.bind (keeps_runLinks F stdin rest r.exitCode fun p hp =>
      h p (List.mem_cons_of_mem _ hp)) fun _ => F.pure _

/-- What every command of a typed line keeps, and what the account of its exit code does not touch,
is kept by the line. -/
theorem keeps_execute (hexit : ∀ σ code, R σ { σ with lastExit := code }) {text : String}
    (h : ∀ p ∈ (Line.ofText (Text.trim text)).pipelines, ∀ c ∈ p, ∀ stdin,
      (runCommand run c stdin).Keeps R) : (execute run text).Keeps R := by
  have hline : (runLine run (Line.ofText (Text.trim text)) "").Keeps R :=
    F.bind (keeps_runLinePipelines F "" h) fun rs =>
      F.bind (fun σ => hexit σ _) fun _ => F.pure _
  unfold execute
  dsimp only
  split
  · exact F.pure _
  · refine F.bind (Frame.attempt hline) fun outcome => ?_
    cases outcome with
    | ok r => exact F.pure _
    | error f => exact F.bind (F.noted _) fun _ => F.pure _

end

/-- A command without a redirect, from what the entry of the table does. -/
theorem keeps_runCommand_plain (F : Frame R) {c : Command} (hc : c.redirect = none) {σ : Session C}
    {stdin : String} (h : ∀ p, σ.commands.get? (Text.lower c.name) = some p →
      (run p c.args stdin).Keeps R) : R σ ((runCommand run c stdin).after σ) := by
  refine keeps_runCommand F h fun r text hr => ?_
  rw [hc] at hr
  cases hr

end Engine

/-! ## Sessions with the built-in commands -/

namespace Session

/-- What stands in the command table are built-in commands under their names. -/
def Stock (σ : Session Program) : Prop :=
  ∀ key p, σ.commands.get? key = some p → key ∈ p.entry.names

theorem Stock.register {σ : Session Program} (h : σ.Stock) {p : Program} {name : String}
    (hname : name ∈ p.entry.names) (description : String) :
    (σ.register name p description).Stock := by
  have hlower : ∀ p ∈ Program.all, ∀ name ∈ p.entry.names, Text.lower name = name := by
    decide +kernel
  intro key q hq
  rw [Session.register, hlower p p.mem_all name hname] at hq
  dsimp only at hq
  rw [Table.get?_put] at hq
  split at hq
  · next hkey =>
    obtain rfl := Option.some.inj hq
    exact hkey ▸ hname
  · exact h key q hq

theorem stock_withPrograms {σ : Session Program} (h : σ.Stock) : (σ.withPrograms id).Stock := by
  unfold withPrograms registerAs
  refine List.foldlRecOn (motive := Stock) _ _ h fun τ hτ p _ => ?_
  exact List.foldlRecOn (motive := Stock) _ _ hτ fun υ hυ name hname => hυ.register hname _

theorem stock_ready {s : Store} {o : Options} {now : Int} {σ : Session Program}
    (hσ : start s o now = .ok σ) (hooks : Signal → Hook) : (σ.ready hooks).Stock := by
  refine stock_withPrograms fun key p hp => ?_
  unfold start at hσ
  dsimp only at hσ
  split at hσ
  · cases hσ
  · obtain rfl := Except.ok.inj hσ
    cases hp

/-- A session that has no commands but the built-in ones stays so, with the same store. -/
theorem frame_stock : Frame fun σ τ : Session Program =>
    σ.Stock → τ.Stock ∧ τ.store = σ.store where
  refl _ hσ := ⟨hσ, rfl⟩
  trans h h' hσ :=
    let ⟨hτ, hs⟩ := h hσ
    let ⟨hρ, hs'⟩ := h' hτ
    ⟨hρ, hs'.trans hs⟩
  note _ _ hσ := ⟨hσ, rfl⟩
  signal _ _ _ hσ := ⟨hσ, rfl⟩

end Session

namespace Engine

open Session (Stock)

/-- Whatever a built-in command is given, it leaves the store alone when it is not one of the
mutators, and the working folder when it is not `cd`; and no command changes the environment, the
command table or the limits. So a typed line without redirects, in which no mutator is named, leaves
the store of a session with the built-in commands exactly as it was. -/
theorem untouched_execute :
    (∀ (C : Type) (σ : Session C) (p : Program) (args : List String) (stdin : String),
      let τ := (p.run args stdin).after σ
      (p ∉ Program.mutators → τ.store = σ.store) ∧
        (p ≠ .cd → τ.folder = σ.folder ∧ τ.shown = σ.shown) ∧ σ.SameSettings τ) ∧
    ∀ σ : Session Program, σ.Stock → ∀ text : String,
      (∀ p ∈ (Line.ofText (Text.trim text)).pipelines, ∀ c ∈ p, c.redirect = none ∧
        Text.lower c.name ∉ Program.mutators.flatMap (·.entry.names)) →
      ((execute Program.run text).after σ).store = σ.store := by
  refine ⟨fun C σ p args stdin => ⟨fun hp => p.store_run hp args stdin σ,
    fun hp => Session.blind_folder.keeps_run hp args stdin σ, p.sameSettings_run args stdin σ⟩,
    fun σ hσ text hline => ?_⟩
  have hexecute : (execute Program.run text).Keeps fun σ τ : Session Program =>
      σ.Stock → τ.Stock ∧ τ.store = σ.store := by
    refine keeps_execute Session.frame_stock (fun _ _ hσ => ⟨hσ, rfl⟩) fun p hp c hc stdin τ hτ => ?_
    obtain ⟨hplain, hname⟩ := hline p hp c hc
    refine keeps_runCommand_plain Session.frame_stock hplain (fun q hq υ hυ => ?_) hτ
    have hq : q ∉ Program.mutators := fun h =>
      hname (List.mem_flatMap.mpr ⟨q, h, hτ _ q hq⟩)
    refine ⟨?_, q.store_run hq c.args stdin υ⟩
    unfold Stock
    rw [(q.sameSettings_run c.args stdin υ).commands]
    exact hυ
  exact (hexecute σ hσ).2

/-- The case of a fresh desktop that is looked through. -/
theorem untouched_execute_desktop : ∃ seed, ∃ σ : Session Program, Desktop.store 0 = .ok seed ∧
    Session.start seed {} 0 = .ok σ ∧
    let text := "cd 'My Projects'; dir | grep -i alpha && tree; type ../Contact.txt | head -n 2"
    ((execute Program.run text).after (σ.ready fun _ => .unset)).store = seed := by
  obtain ⟨seed, hseed, -⟩ := Desktop.exists_store 0
  obtain ⟨σ, hσ, hstore, -⟩ :=
    Session.exists_start (C := Program) (o := {}) (Desktop.sound_store hseed) 0
  refine ⟨seed, σ, hseed, hσ, ?_⟩
  intro text
  have hline : ∀ p ∈ (Line.ofText (Text.trim text)).pipelines, ∀ c ∈ p, c.redirect = none ∧
      Text.lower c.name ∉ Program.mutators.flatMap (·.entry.names) := by
    decide +kernel
  have h := untouched_execute.2 _ (Session.stock_ready hσ fun _ => .unset) text hline
  rw [(σ.ready_fields _).1, hstore] at h
  exact h

end Engine
end DeskShell

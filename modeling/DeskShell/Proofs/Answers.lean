import DeskShell.Proofs.LastExit

/-!
# What the built-in commands answer

A built-in command that comes to its end leaves output alone, an error alone, a request to the
screen alone, or a remark beside a success. So the engine can put the output into a file and go on
with an empty success in the place of the result.

* `Result.Unmixed`: the four shapes; `Result.Unmixed.laws` says what never stands side by side.
* `Inquiry.Yields`, `Run.Yields`: what holds of all that a reading or a program may end with, with a
  rule for each way to build one.
* `Builtin.Program.unmixed_run`: the four shapes are all.
* `Engine.unmixed_answers`: so output that goes into a file takes no error with it.
-/
namespace DeskShell

open Builtin (Program)

variable {C α β : Type}

/-! ## Shapes of results -/

/-- Output, an error, a request to the screen or a remark, and nothing beside it. -/
inductive Result.Unmixed : Result → Prop
  | out (text : String) : Unmixed (.out text)
  | failure (message : String) : Unmixed (.failure message)
  | ask (effect : Effect) : Unmixed (.ask effect)
  | remark (message : String) : Unmixed { stderr := message }

namespace Result

theorem Unmixed.done : Unmixed .done := .out ""

/-- What never stands side by side in a result. -/
structure Laws (r : Result) : Prop where
  codes : r.exitCode = 0 ∨ r.exitCode = 1
  failed : r.exitCode ≠ 0 → r.stdout = ""
  printed : r.stdout ≠ "" → r.exitCode = 0 ∧ r.stderr = ""
  asked : r.effect ≠ .none → r.stdout = "" ∧ r.stderr = ""

theorem Unmixed.laws {r : Result} (h : r.Unmixed) : r.Laws := by
  cases h with
  | out text => exact ⟨.inl rfl, fun h => absurd rfl h, fun _ => ⟨rfl, rfl⟩, fun h => absurd rfl h⟩
  | failure => exact ⟨.inr rfl, fun _ => rfl, fun h => absurd rfl h, fun h => absurd rfl h⟩
  | ask => exact ⟨.inl rfl, fun _ => rfl, fun h => absurd rfl h, fun _ => ⟨rfl, rfl⟩⟩
  | remark => exact ⟨.inl rfl, fun _ => rfl, fun h => absurd rfl h, fun h => absurd rfl h⟩

end Result

/-! ## What readings and programs end with -/

/-- What a reading finds is in `Q`, and a result that it ends with is in `P`. -/
inductive Inquiry.Yields (P : Result → Prop) (Q : α → Prop) : Inquiry α → Prop
  | found {a : α} (h : Q a) : Yields P Q (.ok a)
  | ended {r : Result} (h : P r) : Yields P Q (.error (.result r))
  | fault (f : Fault) : Yields P Q (.error (.fault f))

/-- A reading whose own results are in `P`, whatever it finds. -/
abbrev Inquiry.Ends (P : Result → Prop) (x : Inquiry α) : Prop := x.Yields P fun _ => True

/-- What a program gives is in `Q`. -/
def Run.Yields (Q : α → Prop) (x : Run C α) : Prop := ∀ σ a τ, x σ = .ok a τ → Q a

namespace Inquiry

variable {P : Result → Prop} {Q : α → Prop}

theorem Ends.lift (y : Except Fault α) : Ends P (Inquiry.lift y) := by
  cases y with
  | ok a => exact .found trivial
  | error f => exact .fault f

theorem Ends.mono {x : Inquiry α} (hx : Ends P x) {P' : Result → Prop} (h : ∀ r, P r → P' r) :
    Ends P' x := by
  cases hx with
  | found => exact .found trivial
  | @ended r hr => exact .ended (h r hr)
  | fault f => exact .fault f

theorem Ends.bind {x : Inquiry β} (hx : Ends P x) {f : β → Inquiry α}
    (hf : ∀ b, Yields P Q (f b)) : Yields P Q (x >>= f) := by
  cases hx with
  | @found b _ => exact hf b
  | ended h => exact .ended h
  | fault f => exact .fault f

theorem Yields.ite {p : Prop} [Decidable p] {x y : Inquiry α} (hx : Yields P Q x)
    (hy : Yields P Q y) : Yields P Q (if p then x else y) := by
  split
  · exact hx
  · exact hy

theorem Ends.mapM {f : β → Inquiry α} (hf : ∀ b, Ends P (f b)) :
    ∀ bs : List β, Ends P (bs.mapM f)
  | [] => .found trivial
  | b :: rest => by
    rw [List.mapM_cons]
    exact (hf b).bind fun _ => (Ends.mapM hf rest).bind fun _ => .found trivial

end Inquiry

namespace Run

variable {P : Result → Prop} {Q : α → Prop}

theorem yields_pure {a : α} (h : Q a) : Yields Q (pure a : Run C α) := by
  intro σ b τ hb
  cases hb
  exact h

theorem yields_throw (f : Fault) : Yields Q (throw f : Run C α) := by
  intro σ a τ ha
  cases ha

theorem Yields.bind {R : β → Prop} {x : Run C β} (hx : x.Yields R) {f : β → Run C α}
    (hf : ∀ b, R b → (f b).Yields Q) : Yields Q (x >>= f) := by
  intro σ a τ ha
  simp only [EStateM.bind, Bind.bind] at ha
  cases hres : x σ with
  | ok b υ =>
    rw [hres] at ha
    exact hf b (hx σ b υ hres) υ a τ ha
  | error f υ =>
    rw [hres] at ha
    cases ha

theorem yields_bind (x : Run C β) {f : β → Run C α} (hf : ∀ b, (f b).Yields Q) :
    Yields Q (x >>= f) :=
  Yields.bind (R := fun _ => True) (fun _ _ _ _ => trivial) fun b _ => hf b

theorem yields_toRun {x : Session C → Inquiry Result} (hx : ∀ σ, (x σ).Yields P P) :
    Yields P (Inquiry.toRun x) := by
  intro σ r τ hr
  have h := hx σ
  unfold Inquiry.toRun at hr
  cases hres : x σ with
  | ok a =>
    rw [hres] at h hr
    cases h
    cases hr
    assumption
  | error stop =>
    rw [hres] at h hr
    cases h with
    | ended h => cases hr; exact h
    | fault f => cases hr

theorem yields_andThen {x : Session C → Inquiry α} (hx : ∀ σ, (x σ).Ends P)
    {act : α → Run C Result} (hact : ∀ a, (act a).Yields P) : Yields P (Inquiry.andThen x act) := by
  intro σ r τ hr
  have h := hx σ
  unfold Inquiry.andThen at hr
  cases hres : x σ with
  | ok a =>
    rw [hres] at hr
    exact hact a σ r τ hr
  | error stop =>
    rw [hres] at h hr
    cases h with
    | ended h => cases hr; exact h
    | fault f => cases hr

end Run

/-! ## Readings -/

open Result (Unmixed)

namespace Session

variable {σ : Session C}

theorem ends_locate {P : Result → Prop} (hP : ∀ message, P (.failure message))
    (path : Option String) (missing : String) : (σ.locate path missing).Ends P := by
  refine (Inquiry.Ends.lift _).bind fun found => ?_
  cases found with
  | none => exact .ended (hP missing)
  | some found => exact .found trivial

section

variable {P : Result → Prop} (hfailed : ∀ message, P (.failure message))

include hfailed

theorem ends_readFile (command path : String) : (σ.readFile command path).Ends P := by
  refine (ends_locate hfailed _ _).bind fun ⟨_, node⟩ => ?_
  cases node with
  | none => exact .ended (hfailed _)
  | some n => exact .ite (.ended (hfailed _)) (.found trivial)

theorem ends_readOperand (command : String) (path : Option String) (stdin : String) :
    (σ.readOperand command path stdin).Ends P := by
  cases path with
  | none => exact .found trivial
  | some path => exact ends_readFile hfailed command path

end

end Session

/-! ## Commands that only ask -/

namespace Builtin

open Inquiry (Ends Yields)
open Session (ends_locate ends_readFile ends_readOperand)

variable {σ : Session C}

theorem yields_date : (date σ).Yields Unmixed Unmixed := (Ends.lift _).bind fun _ => .found (.out _)

theorem ends_longRow (user : String) (r : Row) : (Row.long user r).Ends Unmixed :=
  (Ends.lift _).bind fun _ => .found trivial

theorem yields_ls (args : List String) : (ls args σ).Yields Unmixed Unmixed := by
  refine (ends_locate .failure _ _).bind fun ⟨place, node⟩ => ?_
  refine .ite (.found .done) (.ite ?_ (.found (.out _)))
  exact (Ends.mapM (ends_longRow _) _).bind fun _ => .found (.out _)

theorem yields_dir (args : List String) : (dir args σ).Yields Unmixed Unmixed := by
  refine (ends_locate .failure _ _).bind fun ⟨place, node⟩ => ?_
  refine .ite (.found (.out _)) ((Ends.mapM (fun r => ?_) _).bind fun _ => .found (.out _))
  exact (Ends.lift _).bind fun _ => .found trivial

theorem yields_tree (args : List String) : (tree args σ).Yields Unmixed Unmixed :=
  (ends_locate .failure _ _).bind fun _ => .found (.out _)

theorem yields_cat (args : List String) (stdin : String) :
    (cat args stdin σ).Yields Unmixed Unmixed := by
  refine .ite (.found (.out _)) ?_
  exact (Ends.mapM (ends_readFile .failure "cat") _).bind fun _ => .found (.out _)

section

variable {P : Result → Prop} (hfailed : ∀ message, P (.failure message))

include hfailed

theorem ends_readExtent (command : String) (parsed : Args) (flag : String) (measure : Measure)
    (extent : Extent) : (readExtent command parsed flag measure extent).Ends P := by
  unfold readExtent
  split
  · exact .found trivial
  · split
    · exact .ended (hfailed _)
    · exact .found trivial

theorem ends_sourcesOf (paths : List String) (stdin : String) :
    (sourcesOf paths stdin σ).Ends P := by
  unfold sourcesOf
  split
  · exact .found trivial
  · exact Ends.mapM (fun path => (ends_readFile hfailed _ path).bind fun _ => .found trivial) _

theorem ends_compilePattern (pattern : String) (ignoreCase : Bool) :
    (compilePattern pattern ignoreCase).Ends P := by
  unfold compilePattern
  split
  · exact .found trivial
  · exact .ended (hfailed _)
  · exact .fault _

variable (hprinted : ∀ text, P (.out text))

include hprinted

theorem Filter.yields_report (o : Filter) (accepts : String → Bool)
    (sources : List (String × String)) : P (o.report accepts sources) := by
  unfold Filter.report
  split
  · exact hfailed ""
  · exact hprinted _

theorem yields_excerpt (command : String) (part : Extent → String → String) (args : List String)
    (stdin : String) : (excerpt command part args stdin σ).Yields P P := by
  have hextent : (extentOf command (Args.parse args)).Ends P :=
    (ends_readExtent hfailed _ _ _ _ _).bind fun _ => ends_readExtent hfailed _ _ _ _ _
  exact hextent.bind fun _ => (ends_readOperand hfailed _ _ _).bind fun _ => .found (hprinted _)

theorem yields_wc (args : List String) (stdin : String) : (wc args stdin σ).Yields P P :=
  (ends_readOperand hfailed _ _ _).bind fun _ =>
    .ite (.found (hprinted _)) (.found (hprinted _))

theorem yields_sort (args : List String) (stdin : String) : (sort args stdin σ).Yields P P :=
  (ends_readOperand hfailed _ _ _).bind fun _ => .found (hprinted _)

theorem yields_uniq (args : List String) (stdin : String) : (uniq args stdin σ).Yields P P :=
  (ends_readOperand hfailed _ _ _).bind fun _ => .found (hprinted _)

theorem yields_grep (args : List String) (stdin : String) : (grep args stdin σ).Yields P P := by
  unfold grep
  dsimp only
  split
  · exact .ended (hfailed _)
  · exact (ends_compilePattern hfailed _ _).bind fun _ =>
      (ends_sourcesOf hfailed _ _).bind fun _ =>
        .found (Filter.yields_report hfailed hprinted _ _ _)

end

theorem Search.ends_setPredicate (q : Search) (p : Predicate) (value : String) :
    (q.setPredicate p value).Ends Unmixed := by
  unfold setPredicate
  split
  · exact .found trivial
  · exact .ite (.found trivial) (.ite (.found trivial) (.ended (.failure _)))

theorem Search.ends_readFrom (q : Search) (args : List String) :
    (q.readFrom args).Ends Unmixed := by
  fun_induction readFrom q args with
  | case1 q => exact .found trivial
  | case2 q arg rest hdash ih => exact ih
  | case3 => exact .ended (.failure _)
  | case4 q arg rest _ p value _ stop hstop => exact hstop ▸ ends_setPredicate q p value
  | case5 _ _ _ _ _ _ _ _ _ ih => exact ih
  | case6 => exact .ended (.failure _)
  | case7 q _ _ p _ value _ stop hstop => exact hstop ▸ ends_setPredicate q p value
  | case8 _ _ _ _ _ _ _ _ _ ih => exact ih

theorem yields_find (args : List String) : (find args σ).Yields Unmixed Unmixed :=
  (Search.ends_readFrom {} args).bind fun _ =>
    (ends_locate .failure _ _).bind fun _ => .found (.out _)

/-! ## Commands that act -/

theorem yields_color (args : List String) : (color args : Run C Result).Yields Unmixed := by
  unfold color
  split
  · exact Run.yields_pure (.failure _)
  · exact Run.yields_bind _ fun _ => Run.yields_pure .done

theorem ends_destination (target : String) : (destination target σ).Ends Unmixed := by
  refine .ite (.ended (.out _)) (.ite ?_ (.ite (.ended .done) (.ite (.ended (.remark _)) ?_)))
  · exact (Ends.lift _).bind fun _ => .found trivial
  · refine (ends_locate .failure _ _).bind fun ⟨place, node⟩ => ?_
    cases node with
    | none => exact .ended (.failure _)
    | some n => exact .ite (.found trivial) (.ended (.failure _))

theorem yields_cd (args : List String) : (cd args : Run C Result).Yields Unmixed :=
  Run.yields_andThen (fun _ => ends_destination _) fun _ =>
    Run.yields_bind _ fun _ => Run.yields_pure .done

theorem Making.ends_plan (m : Making) (path : String) : (m.plan path σ).Ends Unmixed := by
  refine (Ends.lift _).bind fun ⟨parent, name⟩ => ?_
  cases parent with
  | none => exact .ended (.failure _)
  | some parent =>
    refine .ite (.ended (.failure _)) (.ite ?_ (.ended (.failure _)))
    split
    · exact .found trivial
    · cases m with
      | file => exact .found trivial
      | folder => exact .ended (.failure _)

theorem Making.yields_make (m : Making) (path : String) :
    (m.make path : Run C Result).Yields Unmixed := by
  refine Run.yields_andThen (fun _ => m.ends_plan path) fun found => ?_
  cases found with
  | none => exact Run.yields_pure .done
  | some entry => exact Run.yields_bind _ fun _ => Run.yields_pure .done

/-- One program after another, up to the first that fails. -/
theorem yields_untilFailure {P : Result → Prop} {x rest : Run C Result} (hx : x.Yields P)
    (hrest : rest.Yields P) :
    Run.Yields P (x >>= fun r => if r.exitCode = 0 then rest else pure r) := by
  refine hx.bind fun r hr => ?_
  split
  · exact hrest
  · exact Run.yields_pure hr

theorem Making.yields_makeAll (m : Making) :
    ∀ paths, (m.makeAll paths : Run C Result).Yields Unmixed
  | [] => Run.yields_pure .done
  | path :: rest => yields_untilFailure (m.yields_make path) (m.yields_makeAll rest)

theorem yields_mkdir (args : List String) : (mkdir args : Run C Result).Yields Unmixed := by
  unfold mkdir
  split
  · exact Run.yields_pure (.failure _)
  · exact Making.folder.yields_makeAll _

theorem yields_touch (args : List String) : (touch args : Run C Result).Yields Unmixed := by
  unfold touch
  split
  · exact Run.yields_pure (.failure _)
  · exact Making.file.yields_makeAll _

section

variable {P : Result → Prop} (hP : ∀ message, P (.failure message))

include hP

theorem CopyPlan.ends_sourceOf (source : String) (recursive : Bool) :
    (sourceOf source recursive σ).Ends P := by
  refine (ends_locate hP _ _).bind fun ⟨place, node⟩ => ?_
  cases node with
  | none => exact .ended (hP _)
  | some n => exact .ite (.ended (hP _)) (.ite (.ended (hP _)) (.found trivial))

theorem CopyPlan.ends_placeFor (n : Node) (dest : String) : (placeFor n dest σ).Ends P := by
  refine (Ends.lift _).bind fun found => ?_
  split
  · exact .ite (.ite (.ended (hP _)) (.found trivial)) (.found trivial)
  · refine (Ends.lift _).bind fun ⟨parent, name⟩ => ?_
    cases parent with
    | none => exact .ended (hP _)
    | some parent => exact .ite (.ended (hP _)) (.found trivial)

theorem CopyPlan.ends_ofPaths (source dest : String) (recursive : Bool) :
    (ofPaths source dest recursive σ).Ends P :=
  (ends_sourceOf hP _ _).bind fun _ => (ends_placeFor hP _ _).bind fun _ =>
    .ite (.ended (hP _)) (.ite (.ended (hP _)) (.ite (.ended (hP _)) (.found trivial)))

theorem MovePlan.ends_sourceOf (source : String) : (sourceOf source σ).Ends P := by
  refine (ends_locate hP _ _).bind fun ⟨_, node⟩ => ?_
  cases node with
  | none => exact .ended (hP _)
  | some n => exact .ite (.ended (hP _)) (.found trivial)

theorem MovePlan.ends_placeFor (n : Node) (source dest : String) :
    (placeFor n source dest σ).Ends P := by
  refine (Ends.lift _).bind fun ⟨parent, name⟩ => ?_
  cases parent with
  | none => exact .ended (hP _)
  | some parent => exact .ite (.ended (hP _)) (.ite (.ended (hP _)) (.found trivial))

theorem MovePlan.ends_ofPaths (n : Node) (source dest : String) :
    (ofPaths n source dest σ).Ends P := by
  refine (Ends.lift _).bind fun found => ?_
  split
  · exact ends_placeFor hP _ _ _
  · exact .ite (.found trivial) (.ite (.ended (hP _)) (ends_placeFor hP _ _ _))

end

theorem CopyPlan.yields_act (plan : CopyPlan) : (plan.act : Run C Result).Yields Unmixed := by
  have hcopy : Run.Yields Unmixed
      (copyTree plan.source.id plan.parent plan.name >>= fun _ => pure .done : Run C Result) :=
    Run.yields_bind _ fun _ => Run.yields_pure .done
  unfold CopyPlan.act
  split
  · exact hcopy
  · exact Run.yields_bind _ fun _ => hcopy

theorem yields_cp (args : List String) : (cp args : Run C Result).Yields Unmixed := by
  unfold cp
  dsimp only
  split
  · exact Run.yields_andThen (fun _ => CopyPlan.ends_ofPaths .failure _ _ _) CopyPlan.yields_act
  · exact Run.yields_pure (.failure _)

theorem yields_mv (args : List String) : (mv args : Run C Result).Yields Unmixed := by
  unfold mv
  split
  · refine Run.yields_andThen (fun _ => ?_) fun ⟨id, plan⟩ => Run.yields_bind _ fun outcome => ?_
    · exact (MovePlan.ends_sourceOf .failure _).bind fun _ =>
        (MovePlan.ends_ofPaths .failure _ _ _).bind fun _ => .found trivial
    · split
      · exact Run.yields_pure .done
      · split
        · exact Run.yields_pure (.failure _)
        · exact Run.yields_throw _
  · exact Run.yields_pure (.failure _)

section

variable {P : Result → Prop} (hfailed : ∀ message, P (.failure message)) (hdone : P .done)

include hfailed

theorem Removal.ends_plan (force recursive : Bool) (path : String) :
    (plan force recursive path σ).Ends P := by
  refine (Ends.lift _).bind fun found => ?_
  cases found with
  | none => exact .ite (.found trivial) (.ended (hfailed _))
  | some found =>
    obtain ⟨place, node⟩ := found
    dsimp only
    split
    · exact .ite (.ended (hfailed _)) (.ite (.ended (hfailed _)) (.found trivial))
    · exact .ended (hfailed _)

include hdone

theorem Removal.yields_remove (force recursive : Bool) (path : String) :
    (remove force recursive path : Run C Result).Yields P := by
  refine Run.yields_andThen (fun _ => ends_plan hfailed _ _ _) fun found => ?_
  cases found with
  | none => exact Run.yields_pure hdone
  | some entry => exact Run.yields_bind _ fun _ => Run.yields_pure hdone

theorem Removal.yields_removeAll (force recursive : Bool) :
    ∀ paths, (removeAll force recursive paths : Run C Result).Yields P
  | [] => Run.yields_pure hdone
  | path :: rest => yields_untilFailure (yields_remove hfailed hdone force recursive path)
      (yields_removeAll force recursive rest)

end

theorem yields_rm (args : List String) : (rm args : Run C Result).Yields Unmixed := by
  unfold rm
  split
  · exact Run.yields_pure (.ask _)
  · dsimp only
    split
    · exact Run.yields_pure (.failure _)
    · exact Removal.yields_removeAll .failure .done _ _ _

/-! ## All commands -/

namespace Program

theorem yields_inquiry {p : Program} {args : List String} {stdin : String}
    {found : Session C → Inquiry Result} (h : p.inquiry? args stdin = some found) :
    (found σ).Yields Unmixed Unmixed := by
  cases p with
  | help | ver | whoami | env | echo | pwd => cases h; exact .found (.out _)
  | cls | exit => cases h; exact .found (.ask _)
  | date => cases h; exact yields_date
  | ls => cases h; exact yields_ls args
  | dir => cases h; exact yields_dir args
  | tree => cases h; exact yields_tree args
  | cat => cases h; exact yields_cat args stdin
  | head | tail => cases h; exact yields_excerpt .failure .out _ _ args stdin
  | wc => cases h; exact yields_wc .failure .out args stdin
  | sort => cases h; exact yields_sort .failure .out args stdin
  | uniq => cases h; exact yields_uniq .failure .out args stdin
  | grep => cases h; exact yields_grep .failure .out args stdin
  | find => cases h; exact yields_find args
  | color | cd | mkdir | touch | cp | mv | rm => cases h

theorem yields_act (p : Program) (args : List String) :
    (p.act args : Run C Result).Yields Unmixed := by
  cases p with
  | color => exact yields_color args
  | cd => exact yields_cd args
  | mkdir => exact yields_mkdir args
  | touch => exact yields_touch args
  | cp => exact yields_cp args
  | mv => exact yields_mv args
  | rm => exact yields_rm args
  | _ => exact Run.yields_pure .done

/-- What a built-in command answers has one of the four shapes. -/
theorem yields_run (p : Program) (args : List String) (stdin : String) :
    (p.run args stdin : Run C Reply).Yields fun reply => ∃ r, reply = .result r ∧ r.Unmixed := by
  unfold Program.run
  have hreply : ∀ r : Result, r.Unmixed →
      (pure (.result r) : Run C Reply).Yields fun reply => ∃ r, reply = .result r ∧ r.Unmixed :=
    fun r hr => Run.yields_pure ⟨r, rfl, hr⟩
  split
  · next found h => exact (Run.yields_toRun fun _ => yields_inquiry h).bind hreply
  · exact (yields_act p args).bind hreply

end Program
end Builtin

/-! ## Redirected output -/

/-- A command stands under this name in the table, and it is not disabled. -/
def Session.Offers (σ : Session C) (name : String) (command : C) : Prop :=
  σ.commands.get? (Text.lower name) = some command ∧
    ∀ names, σ.allowed = some names → Text.lower name ∈ names

theorem Result.limited_eq_self {limit : Option Int} {r : Result}
    (h : (r.limited limit).stdout ≠ "") : r.limited limit = r := by
  unfold limited at h ⊢
  split
  · rfl
  · split
    · rfl
    · next hover =>
      simp only [if_neg hover] at h
      exact absurd rfl h

theorem Redirect.ends_ofRedirect (r : Redirect) (text : String) (σ : Session C) :
    (Sink.ofRedirect r text σ).Ends fun w => w.exitCode = 1 := by
  have hstanding : (Sink.standing r.file σ).Ends fun w => w.exitCode = 1 :=
    (Inquiry.Ends.lift _).bind fun found => by cases found <;> exact .found trivial
  refine hstanding.bind fun found => ?_
  cases found with
  | some n => exact .ite (.ended rfl) (.ite (.ended rfl) (.found trivial))
  | none =>
    refine (Inquiry.Ends.lift _).bind fun ⟨parent, name⟩ => ?_
    cases parent with
    | none => exact .ended rfl
    | some parent => exact .ite (.ended rfl) (.found trivial)

/-- Output that is taken leaves an empty success. -/
theorem Redirect.yields_write (r : Redirect) (text : String) :
    (r.write text : Run C Result).Yields fun w => w = .done ∨ w.exitCode = 1 := by
  refine Run.yields_andThen (fun σ => ?_) fun sink => ?_
  · exact (r.ends_ofRedirect text σ).mono fun _ => .inr
  · cases sink with
    | replace id content => exact Run.yields_bind _ fun _ => Run.yields_pure (.inl rfl)
    | create parent name =>
      refine Run.yields_bind _ fun outcome => ?_
      split
      · exact Run.yields_pure (.inl rfl)
      · split
        · exact Run.yields_pure (.inr rfl)
        · exact Run.yields_throw _

namespace Engine

variable {run : C → List String → String → Run C Reply} {command : C} {σ ρ υ : Session C}
  {c : Command} {stdin : String} {r w : Result} {target : Redirect}

/-- A command of the table that may be run: its answer is settled, and a fault reported. -/
theorem runCommand_eq (h : σ.Offers c.name command) : runCommand run c stdin σ =
    match run command c.args stdin { σ with
      notes := .dispatch (Text.lower c.name) c.args.length :: σ.notes } with
    | .ok reply ρ => settle c.redirect reply.toResult ρ
    | .error f ρ => report (Text.lower c.name) f ρ := by
  obtain ⟨hentry, hallowed⟩ := h
  have henabled : ¬ (σ.allowed.any fun names => !names.contains (Text.lower c.name)) = true := by
    cases hnames : σ.allowed with
    | none => exact Bool.false_ne_true
    | some names => simpa using hallowed names hnames
  unfold runCommand
  simp only [bind, EStateM.bind, Run.get, hentry, if_neg henabled, Run.note, Run.attempt]
  cases run command c.args stdin { σ with
    notes := .dispatch (Text.lower c.name) c.args.length :: σ.notes } <;> rfl

theorem runCommand_of_offers (h : σ.Offers c.name command) {reply : Reply}
    (hrun : run command c.args stdin { σ with
      notes := .dispatch (Text.lower c.name) c.args.length :: σ.notes } = .ok reply ρ) :
    runCommand run c stdin σ = settle c.redirect reply.toResult ρ := by
  rw [runCommand_eq h, hrun]

/-- Without an effect, output goes into the file of a redirect, and all else stays as it is. -/
theorem settle_of_none (heffect : r.effect = .none) (target : Redirect) :
    settle (some target) r ρ =
      if (r.limited ρ.limit).stdout = "" then .ok (r.limited ρ.limit) ρ
      else target.write (r.limited ρ.limit).stdout ρ := by
  unfold settle
  simp only [heffect, Effect.signal?, bind, EStateM.bind, Run.get]
  split <;> rfl

/-- When output has gone into a file, an empty success is all of the result but the output. -/
theorem settle_of_written (hr : r.Unmixed) (heffect : r.effect = .none)
    (hout : (r.limited ρ.limit).stdout ≠ "") (hwrite : target.write r.stdout ρ = .ok w υ)
    (hw : w.exitCode = 0) : settle (some target) r ρ = .ok { r with stdout := "" } υ := by
  rw [settle_of_none heffect, if_neg hout, Result.limited_eq_self hout, hwrite]
  obtain rfl : w = .done := (target.yields_write r.stdout ρ w υ hwrite).resolve_right (by omega)
  rw [Result.limited_eq_self hout] at hout
  obtain ⟨hcode, herr⟩ := hr.laws.printed hout
  congr 1
  cases r
  simp_all [Result.done]

/-- A result with an error or a remark in it does not go into a file. -/
theorem settle_of_error (hr : r.Unmixed) (herror : r.exitCode ≠ 0 ∨ r.stderr ≠ "")
    (target : Redirect) : settle (some target) r ρ = .ok (r.limited ρ.limit) ρ := by
  have heffect : r.effect = .none := by
    cases hr with
    | ask => simp [Result.ask] at herror
    | _ => rfl
  have hempty : r.stdout = "" := by
    by_contra hout
    obtain ⟨hcode, herr⟩ := hr.laws.printed hout
    exact herror.elim (· hcode) (· herr)
  have hlimited : (r.limited ρ.limit).stdout = "" := by
    by_contra hout
    rw [Result.limited_eq_self hout] at hout
    exact hout hempty
  rw [settle_of_none heffect, if_pos hlimited]

/-- Whatever a built-in command is given, what it answers when it comes to its end has the exit code
0 or 1, no output beside a failure, no error beside output, and neither output nor an error beside a
request to the screen. So when output of a built-in command has gone into the file of a redirect,
the empty success that the engine goes on with is the answer without its output, and an answer with
an error in it is never replaced. -/
theorem unmixed_answers :
    (∀ (C : Type) (p : Program) (args : List String) (stdin : String) (σ τ : Session C)
      (reply : Reply), p.run args stdin σ = .ok reply τ →
        ∃ r, reply = .result r ∧ (r.exitCode = 0 ∨ r.exitCode = 1) ∧
          (r.exitCode ≠ 0 → r.stdout = "") ∧ (r.stdout ≠ "" → r.exitCode = 0 ∧ r.stderr = "") ∧
          (r.effect ≠ .none → r.stdout = "" ∧ r.stderr = "")) ∧
    ∀ (C : Type) (run : C → List String → String → Run C Reply) (command : C) (p : Program),
      (∀ args stdin, run command args stdin = p.run args stdin) →
      ∀ (σ ρ : Session C) (c : Command) (target : Redirect) (stdin : String) (r : Result),
        σ.Offers c.name command → c.redirect = some target →
        p.run c.args stdin { σ with
          notes := .dispatch (Text.lower c.name) c.args.length :: σ.notes } = .ok (.result r) ρ →
        (r.effect = .none → (r.limited ρ.limit).stdout ≠ "" →
          ∀ w υ, target.write r.stdout ρ = .ok w υ → w.exitCode = 0 →
            runCommand run c stdin σ = .ok { r with stdout := "" } υ) ∧
        (r.exitCode ≠ 0 ∨ r.stderr ≠ "" →
          runCommand run c stdin σ = .ok (r.limited ρ.limit) ρ) := by
  refine ⟨fun C p args stdin σ τ reply h => ?_, ?_⟩
  · obtain ⟨r, hreply, hr⟩ := p.yields_run args stdin σ reply τ h
    exact ⟨r, hreply, hr.laws.codes, hr.laws.failed, hr.laws.printed, hr.laws.asked⟩
  · intro C run command p hcommand σ ρ c target stdin r hoffers htarget hrun
    obtain ⟨r', hr', hunmixed⟩ := p.yields_run _ _ _ _ _ hrun
    obtain rfl := Reply.result.inj hr'
    rw [← hcommand] at hrun
    rw [runCommand_of_offers hoffers hrun, htarget]
    exact ⟨fun heffect hout w υ hwrite hw => settle_of_written hunmixed heffect hout hwrite hw,
      fun herror => settle_of_error hunmixed herror target⟩

end Engine

namespace Desktop

/-- Output of one command goes into a new file; the message of another does not. -/
theorem unmixed_answers_echo_cat : ∃ σ, session {} 0 (fun _ => .unset) = .ok σ ∧
    (∃ υ, Engine.runCommand Program.run ⟨"echo", ["hi"], some ⟨.overwrite, "f.txt"⟩⟩ "" σ =
      .ok .done υ) ∧
    ∃ r υ, Engine.runCommand Program.run ⟨"cat", ["g.txt"], some ⟨.overwrite, "f.txt"⟩⟩ "" σ =
      .ok r υ ∧ r.exitCode = 1 := by
  have htable : (session {} 0 fun _ => .unset).map (fun σ => (σ.allowed, σ.limit,
      σ.commands.get? (Text.lower "echo"), σ.commands.get? (Text.lower "cat"))) =
      .ok (none, none, some .echo, some .cat) := by
    decide +kernel
  have hrun : (session {} 0 fun _ => .unset).map (fun σ =>
      let before (name : String) := { σ with notes := .dispatch (Text.lower name) 1 :: σ.notes }
      ((Program.run .echo ["hi"] "").result? (before "echo"),
        (Program.run .cat ["g.txt"] "").result? (before "cat"),
        (Redirect.write ⟨.overwrite, "f.txt"⟩ "hi").result? (before "echo"))) =
      .ok (some (.result (.out "hi")),
        some (.result (.failure "cat: g.txt: No such file or directory")), some .done) := by
    decide +kernel
  obtain ⟨σ, hσ, -⟩ := exists_session {} 0 fun _ => .unset
  rw [hσ] at htable hrun
  obtain ⟨hallowed, htable⟩ := Prod.mk.inj (Except.ok.inj htable)
  obtain ⟨hlimit, htable⟩ := Prod.mk.inj htable
  obtain ⟨hecho, hcat⟩ := Prod.mk.inj htable
  obtain ⟨hout, hrun⟩ := Prod.mk.inj (Except.ok.inj hrun)
  obtain ⟨herror, hwrite⟩ := Prod.mk.inj hrun
  have hopen (name : String) : ∀ names, σ.allowed = some names → Text.lower name ∈ names :=
    fun names h => by rw [hallowed] at h; cases h
  have hunlimited (p : Program) (args : List String) (notes : List Note) (r : Result) :
      r.limited ((p.run args "").after { σ with notes }).limit = r := by
    rw [(p.sameSettings_run args "" { σ with notes }).limit, hlimit]
    rfl
  have hall := Engine.unmixed_answers.2 Program Program.run
  have hechoed := hall .echo .echo (fun _ _ => rfl) σ _ ⟨"echo", ["hi"], some ⟨.overwrite, "f.txt"⟩⟩
    _ "" _ ⟨hecho, hopen "echo"⟩ rfl (Run.eq_ok_of_result? hout)
  have hrefused := hall .cat .cat (fun _ _ => rfl) σ _
    ⟨"cat", ["g.txt"], some ⟨.overwrite, "f.txt"⟩⟩ _ "" _ ⟨hcat, hopen "cat"⟩ rfl
    (Run.eq_ok_of_result? herror)
  refine ⟨σ, hσ, ⟨_, hechoed.1 rfl ?_ _ _ (Run.eq_ok_of_result? hwrite) rfl⟩, _, _,
    hrefused.2 (.inl (by decide)), ?_⟩
  · rw [hunlimited]
    decide
  · rw [hunlimited]
    rfl

end Desktop
end DeskShell

import DeskShell.Proofs.CopiedTrees

/-!
# Copies of system items

`cp` refuses a system item that a path leads to. It does not look at what lies below the folder that
it copies, so a copy of a folder holds copies of the system items in it.

* `Store.systemIds`: the ids of the system items of a store.
* `Builtin.Copied`: the entries that a `cp` has come to copy.
* `Builtin.systemIds_cp`: there are as many new system items after it as there are among these.
-/
namespace DeskShell

variable {C : Type} {s t : Store} {σ τ υ : Session C}

namespace Store

def systemIds (s : Store) : List String := (s.nodes.filter (·.isSystem)).map (·.id)

theorem systemIds_adjust {id : String} {f : Node → Node} (hf : ∀ n, (f n).id = n.id)
    (hs : ∀ n, (f n).isSystem = n.isSystem) : (s.adjust id f).systemIds = s.systemIds := by
  unfold systemIds adjust
  rw [List.filter_map, List.map_map]
  have hsame : ((fun n : Node => n.isSystem) ∘ fun n => if n.id == id then f n else n) =
      fun n => n.isSystem := by
    funext n
    simp only [Function.comp_apply]
    split <;> simp [hs]
  rw [hsame]
  refine List.map_congr_left fun n _ => ?_
  simp only [Function.comp_apply]
  split <;> simp [hf]

/-- No system item is missing without an entry that is none. -/
theorem systemIds_without (hd : s.IdsDistinct) {removed : Option Node}
    (hplain : ∀ old, removed = some old → s.get? old.id = some old ∧ old.isSystem = false) :
    (s.without removed).systemIds = s.systemIds := by
  cases removed with
  | none => rfl
  | some old =>
    obtain ⟨hold, hsys⟩ := hplain old rfl
    have hunlisted : (s.unlisted old.id).systemIds = s.systemIds := by
      unfold unlisted
      split
      · rfl
      · exact systemIds_adjust (Node.id_dropChild old.id) fun _ => rfl
    have hstored : ∀ n ∈ (s.unlisted old.id).nodes, n.id = old.id → n.isSystem = false := by
      unfold unlisted
      split
      · intro n hn hid
        have hget := hd.get?_of_mem hn
        rw [hid, hold] at hget
        rwa [← Option.some.inj hget]
      · next p _ =>
        intro n hn hid
        obtain ⟨m, hm, rfl⟩ := List.mem_map.mp hn
        have hmid : m.id = old.id := by
          split at hid <;> exact hid
        have hget := hd.get?_of_mem hm
        rw [hmid, hold] at hget
        obtain rfl := Option.some.inj hget
        split <;> exact hsys
    rw [← hunlisted, without]
    unfold systemIds erase
    rw [List.filter_filter]
    refine congrArg (List.map _) (List.filter_congr fun n hn => ?_)
    by_cases hid : n.id = old.id
    · simp [hstored n hn hid]
    · simp [hid]

end Store

/-- The new system items are those among the new entries. -/
theorem Session.Grows.systemIds {parent : String} {tops : List String} {copies : List Node}
    (h : σ.Grows τ parent tops copies) : ∃ new, τ.store.systemIds = σ.store.systemIds ++ new ∧
      new.length = copies.countP (·.isSystem) ∧ new.Nodup ∧ ∀ id ∈ new, id ∉ σ.store.systemIds := by
  have hold : (σ.store.adjust parent (Node.pushAll tops)).systemIds = σ.store.systemIds :=
    Store.systemIds_adjust (Node.id_pushAll tops) fun _ => rfl
  refine ⟨(copies.filter (·.isSystem)).map (·.id), ?_, ?_, ?_, fun id hid hmem => ?_⟩
  · rw [← hold]
    unfold Store.systemIds
    rw [h.nodes, List.filter_append, List.map_append]
  · rw [List.length_map, List.countP_eq_length_filter]
  · exact (List.filter_sublist.map _).nodup h.distinct
  · obtain ⟨c, hc, rfl⟩ := List.mem_map.mp hid
    obtain ⟨m, hm, hmid⟩ := List.mem_map.mp hmem
    have hhas : σ.store.has c.id = true :=
      List.any_eq_true.mpr ⟨m, List.mem_of_mem_filter hm, by simpa using hmid⟩
    exact Store.ne_of_has hhas (h.fresh c (List.mem_of_mem_filter hc)) rfl

/-- There are as many copies of system items as there are system items among what has been copied. -/
theorem Store.CopiedPart.countP_systems {walk : List Node} {pairs : List (Node × Node)}
    (h : CopiedPart walk pairs) :
    (pairs.map Prod.snd).countP (·.isSystem) = (pairs.map Prod.fst).countP (·.isSystem) := by
  rw [List.countP_map, List.countP_map]
  refine List.countP_congr fun q hq => ?_
  simp [h.system q hq]

/-- Ids that are none of the old ones make no difference only if there are none. -/
theorem mem_append_iff_of_new {old new : List String} (h : ∀ id ∈ new, id ∉ old) :
    (∀ id, id ∈ old ++ new ↔ id ∈ old) ↔ new = [] := by
  constructor
  · intro hsame
    rw [List.eq_nil_iff_forall_not_mem]
    exact fun id hid => h id hid ((hsame id).mp (List.mem_append_right _ hid))
  · rintro rfl id
    rw [List.append_nil]

namespace Builtin

open Store

variable {plan : CopyPlan} {source dest : String} {recursive : Bool} {args : List String}

/-- Whatever becomes of a plan, it has copied the first entries that a walk from its source meets, and
all of them if it does not stop with a fault. -/
theorem CopyPlan.Fits.exists_part (F : Forest σ.store)
    (hleaf : ∀ n ∈ σ.store.nodes, n.kind = .file → n.childIds = []) (h : plan.Fits σ.store) :
    ∃ notes tops pairs,
      Session.Grows { σ with store := σ.store.without plan.existing, notes } (plan.act.after σ)
        plan.parent tops (pairs.map Prod.snd) ∧
      CopiedPart (σ.store.walkFrom σ.store.nodes.length plan.source) pairs ∧
      ∀ r τ, plan.act σ = .ok r τ →
        pairs.map Prod.fst = σ.store.walkFrom σ.store.nodes.length plan.source := by
  obtain ⟨notes, hrun, houtcome⟩ := h.act_outcome F hleaf
  have hvisits : σ.store.visits ((σ.store.without plan.existing).nodes.length + 1) plan.source =
      σ.store.walkFrom σ.store.nodes.length plan.source :=
    F.walkFrom_of_le h.source (length_without F.distinct plan.existing)
  simp only [Run.after, hrun, bind, EStateM.bind]
  cases hcopy : copyTree plan.source.id plan.parent plan.name
      { σ with store := σ.store.without plan.existing, notes } with
  | error f υ =>
    rw [hcopy] at houtcome
    obtain ⟨tops, pairs, hgrows, hpart⟩ := houtcome
    refine ⟨notes, tops, pairs, hgrows, hvisits ▸ hpart, fun r τ hact => ?_⟩
    cases hact
  | ok id υ =>
    rw [hcopy] at houtcome
    obtain ⟨pairs, -, hgrows, htree⟩ := houtcome
    exact ⟨notes, [id], pairs, hgrows, hvisits ▸ htree.part, fun _ _ _ => htree.walked.trans hvisits⟩

/-- The entries `copied` are what a `cp` has copied: nothing when it has no plan, or the first entries
that a walk from its source meets, and all of them when it does not fail. -/
inductive Copied (args : List String) (σ : Session C) : List Node → Prop
  | nothing (fails : (cp args).Fails σ σ) : Copied args σ []
  | part {source : String} {rest : List String} {place : Session.Place} {n : Node}
      {copied : List Node} (operands : (Args.parse args).operands = source :: rest)
      (found : σ.resolveNode (some source) = .ok (some (place, some n)))
      (plain : n.isSystem = false)
      (walked : copied <+: σ.store.walkFrom σ.store.nodes.length n)
      (all : ∀ r τ, cp args σ = .ok r τ →
        copied = σ.store.walkFrom σ.store.nodes.length n) : Copied args σ copied

/-- A `cp` keeps all system items. The ids of system items after it are the same if and only if no
system item is among the entries that it has copied; each of these has a copy with a new id. -/
theorem systemIds_cp (F : Forest σ.store)
    (hleaf : ∀ n ∈ σ.store.nodes, n.kind = .file → n.childIds = []) (args : List String) :
    ∃ copied new, Copied args σ copied ∧
      ((cp args).after σ).store.systemIds = σ.store.systemIds ++ new ∧
      new.length = copied.countP (·.isSystem) ∧ new.Nodup ∧ (∀ id ∈ new, id ∉ σ.store.systemIds) ∧
      ((∀ id, id ∈ ((cp args).after σ).store.systemIds ↔ id ∈ σ.store.systemIds) ↔
        ∀ m ∈ copied, m.isSystem = false) := by
  rcases cp_cases args σ with hfails | ⟨source, dest, rest, plan, hargs, hplan, hact⟩
  · have hafter := Run.eq_after_of_fails hfails
    refine ⟨[], [], .nothing hfails, ?_, rfl, List.nodup_nil, by simp, ?_⟩
    · rw [← hafter, List.append_nil]
    · simp [← hafter]
  · obtain ⟨⟨place, hsource⟩, -⟩ := CopyPlan.goal_of_ofPaths hplan
    have hfits := CopyPlan.fits_of_ofPaths F hplan
    obtain ⟨notes, tops, pairs, hgrows, hpart, hall⟩ := hfits.exists_part F hleaf
    have hafter : (cp args).after σ = plan.act.after σ := by
      unfold Run.after
      rw [hact]
    have hbase : (σ.store.without plan.existing).systemIds = σ.store.systemIds := by
      refine systemIds_without F.distinct fun old hold => ?_
      obtain ⟨hget, hfile, -⟩ := hfits.replaces old hold
      exact ⟨hget, by simp [Node.isSystem, hfile]⟩
    obtain ⟨new, hids, hlength, hnodup, hfresh⟩ := hgrows.systemIds
    rw [hbase] at hids hfresh
    rw [hpart.countP_systems] at hlength
    refine ⟨pairs.map Prod.fst, new, .part hargs hsource hfits.plain hpart.walked fun r τ h =>
      hall r τ (hact ▸ h), hafter ▸ hids, hlength, hnodup, hfresh, ?_⟩
    rw [hafter, hids, mem_append_iff_of_new hfresh, ← List.length_eq_zero_iff, hlength,
      List.countP_eq_zero]
    simp

end Builtin

namespace Desktop

/-- There is no system item in the folder of projects, so its copy leaves the system items alone. -/
theorem systemIds_cp_projects : ∃ σ, session {} 0 (fun _ => .unset) = .ok σ ∧
    Forest σ.store ∧ (∀ n ∈ σ.store.nodes, n.kind = .file → n.childIds = []) ∧
    let args := ["-r", "My Projects", "Copies"]
    ∃ copied, Builtin.Copied args σ copied ∧ (∀ m ∈ copied, m.isSystem = false) ∧
      ∀ id, id ∈ ((Builtin.cp args).after σ).store.systemIds ↔ id ∈ σ.store.systemIds := by
  have hrun : (session {} 0 fun _ => .unset).map (fun σ =>
      decide (((Builtin.cp ["-r", "My Projects", "Copies"]).after σ).store.systemIds =
        σ.store.systemIds)) = .ok true := by
    decide +kernel
  obtain ⟨σ, hσ, hin, -⟩ := exists_session {} 0 fun _ => .unset
  have hsame := of_decide_eq_true (eq_of_session hσ hrun)
  have F := hin.sound.toForest
  have hleaf := hin.sound.reliable.childIds_of_mem
  obtain ⟨copied, new, hcopied, -, -, -, -, hiff⟩ :=
    Builtin.systemIds_cp F hleaf ["-r", "My Projects", "Copies"]
  have hids : ∀ id, id ∈ ((Builtin.cp ["-r", "My Projects", "Copies"]).after σ).store.systemIds ↔
      id ∈ σ.store.systemIds := fun id => by rw [hsame]
  exact ⟨σ, hσ, F, hleaf, copied, hcopied, hiff.mp hids, hids⟩

/-- A folder with a system item in it, beside the recycle bin. -/
def deepItem : Store where
  nodes := [
    { nameless with
      id := "desktop", name := "Desktop", kind := .folder, children := some ["a", "recycle-bin"] },
    { nameless with id := "a", name := "a", kind := .folder, children := some ["s"] },
    { nameless with id := "s", name := "Sys", kind := .system },
    { nameless with
      id := "recycle-bin", name := "Recycle Bin", kind := .system, children := some [] }]
  rootId := "desktop"
  binId := "recycle-bin"

/-- The copy of the folder holds a second system item. -/
theorem not_systemIds_cp : ∃ σ r,
    (Session.start deepItem {} 0 : Except Fault (Session Builtin.Program)) = .ok σ ∧
    σ.store = deepItem ∧ Forest deepItem ∧ (∀ n ∈ deepItem.nodes, n.kind = .file → n.children = none) ∧
    Builtin.cp ["-r", "a", "b"] σ = .ok r ((Builtin.cp ["-r", "a", "b"]).after σ) ∧ r.exitCode = 0 ∧
    deepItem.systemIds = ["s", "recycle-bin"] ∧
    ((Builtin.cp ["-r", "a", "b"]).after σ).store.systemIds = ["s", "recycle-bin", "file-2"] := by
  have hrun : (Session.start deepItem {} 0 : Except Fault (Session Builtin.Program)).map
      (fun σ =>
        let x := Builtin.cp ["-r", "a", "b"]
        (decide (σ.store = deepItem), (x.result? σ).map (·.exitCode),
          (x.after σ).store.systemIds)) =
      .ok (true, some 0, ["s", "recycle-bin", "file-2"]) := by
    decide +kernel
  have forest : Forest deepItem := .of_order (by decide) (by decide) (by decide) (by decide)
  obtain ⟨σ, hσ, hrun⟩ := Session.exists_of_map_start hrun
  simp only [Prod.mk.injEq, decide_eq_true_eq] at hrun
  obtain ⟨hstore, hcode, hids⟩ := hrun
  obtain ⟨r, hr, hcode⟩ := Option.map_eq_some_iff.mp hcode
  exact ⟨σ, r, hσ, hstore, forest, by decide, Run.eq_ok_of_result? hr, hcode, by decide, hids⟩

end Desktop
end DeskShell

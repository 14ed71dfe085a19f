import DeskShell.Proofs.Edges
import DeskShell.Proofs.Numerals
import DeskShell.Store.Edit

/-!
# What the operations do to a store

The operations of a store are made of seven changes. Each change is a step between two stores under
the guards that the operations check before it; every operation, also one that stops with a fault,
runs through such steps.

* `Change`, `Store.Step`: the changes, and what each of them does.
* `Store.Trace`: a run of steps of some kinds.
* `Store.Named`: names are in `N` when the new ones are.
* `Store.has_idOf_freeNumber`: a fresh id is free.
* `Store.add_cases`, `Store.delete_cases`: what making and deleting an entry comes to.
* `Store.trace_add`, `Store.trace_update`, `Store.trace_rename`, `Store.trace_move`,
  `Store.trace_delete`, `Store.trace_purge`: the steps of each operation.
-/
namespace DeskShell

open Relation (ReflTransGen)

inductive Change
  | count
  | make
  | write
  | rename
  | move
  | recycle
  | drop
  deriving Repr, DecidableEq

/-- The changes that leave all folders where they are. -/
def Change.Quiet : Change → Prop
  | count | make | write | drop => True
  | rename | move | recycle => False

/-- A description that brings no children along. -/
def Record.Childless (r : Record) : Prop :=
  ∀ k, r.kindOf = .ok k → k.isContainer = false → r.children = none

namespace Store

/-- A change of the store. New names are in `N`. -/
inductive Step (N : String → Prop) : Change → Store → Store → Prop
  /-- Another number is tried first for the next fresh id. -/
  | count (s : Store) (k : Nat) : Step N .count s { s with counter := k }
  /-- A new entry, without children, comes last in the folder `p`. -/
  | make {s : Store} {p : String} {folder n : Node} (hp : s.get? p = some folder)
      (hk : folder.children.isSome) (hfree : s.childNamed p n.name = none)
      (hid : s.has n.id = false) (hc : n.children = if n.isContainer then some [] else none)
      (hN : N n.name) : Step N .make s ((s.insert n).adjust p (Node.pushChild n.id))
  /-- A file gets new content. -/
  | write {s : Store} {id : String} {n : Node} (hn : s.get? id = some n) (hf : n.isDir = false)
      (content : String) (now : Int) :
      Step N .write s (s.adjust id fun n => { n with content := some content, modified := now })
  /-- An entry gets a new name that no other entry of its folder has. -/
  | rename {s : Store} {id name : String} {n : Node} (hn : s.get? id = some n)
      (hsys : n.isSystem = false)
      (hfree : ∀ p m, s.parent? id = some p → s.childNamed p.id name = some m → m.id = id)
      (hN : N name) : Step N .rename s (s.adjust id fun n => { n with name := name })
  /-- An entry leaves the folder `p` for the folder `target`, which no walk from it meets. -/
  | move {s : Store} {id target : String} {n folder p : Node} (hn : s.get? id = some n)
      (hsys : n.isSystem = false) (ht : s.get? target = some folder) (hk : folder.children.isSome)
      (hne : id ≠ target) (hw : ∀ m ∈ s.walkFrom s.nodes.length n, m.id ≠ target)
      (hp : s.parent? id = some p) (hfree : s.childNamed target n.name = none) :
      Step N .move s ((s.adjust p.id (Node.dropChild id)).adjust target (Node.pushChild id))
  /-- An entry leaves the folder `p` for the recycle bin. -/
  | recycle {s : Store} {id : String} {n p bin : Node} (hn : s.get? id = some n)
      (hsys : n.isSystem = false) (hp : s.parent? id = some p) (hb : s.get? s.binId = some bin)
      (hk : bin.children.isSome) :
      Step N .recycle s ((s.adjust p.id (Node.dropChild id)).adjust s.binId (Node.pushChild id))
  /-- A file without children is taken out of the folder `p` and out of the store. -/
  | drop {s : Store} {id : String} {n p : Node} (hn : s.get? id = some n) (hf : n.isDir = false)
      (hc : n.childIds = []) (hp : s.parent? id = some p) :
      Step N .drop s ((s.adjust p.id (Node.dropChild id)).erase id)

/-- A run of steps whose changes are in `K`. -/
def Trace (N : String → Prop) (K : Change → Prop) : Store → Store → Prop :=
  ReflTransGen fun s t => ∃ c, K c ∧ Step N c s t

namespace Trace

variable {N : String → Prop} {K : Change → Prop} {s t u : Store}

theorem refl (s : Store) : Trace N K s s := ReflTransGen.refl

theorem trans (h : Trace N K s t) (h' : Trace N K t u) : Trace N K s u := ReflTransGen.trans h h'

theorem one {c : Change} (h : Step N c s t) (hc : K c) : Trace N K s t :=
  ReflTransGen.single ⟨c, hc, h⟩

theorem weaken {K' : Change → Prop} (hK : ∀ c, K c → K' c) (h : Trace N K s t) : Trace N K' s t :=
  ReflTransGen.mono (fun _ _ ⟨c, hc, hs⟩ => ⟨c, hK c hc, hs⟩) _ _ h

/-- What every step preserves, a run of steps preserves. -/
theorem preserves (h : Trace N K s t) {P : Store → Prop}
    (hstep : ∀ c s t, K c → Step N c s t → P s → P t) (hs : P s) : P t := by
  induction h with
  | refl => exact hs
  | tail _ hst ih =>
    obtain ⟨c, hc, hst⟩ := hst
    exact hstep c _ _ hc hst ih

end Trace

/-! ## Names -/

/-- All names of entries are in `N`. -/
def Named (N : String → Prop) (s : Store) : Prop := ∀ n ∈ s.nodes, N n.name

section Named

variable {N : String → Prop} {K : Change → Prop} {k : Change} {s t : Store}

theorem Named.adjust (h : s.Named N) {id : String} {f : Node → Node}
    (hf : ∀ n, N n.name → N (f n).name) : (s.adjust id f).Named N := by
  intro n hn
  obtain ⟨m, hm, rfl⟩ := List.mem_map.mp hn
  split
  · exact hf m (h m hm)
  · exact h m hm

theorem Named.insert (h : s.Named N) {n : Node} (hn : N n.name) : (s.insert n).Named N := by
  intro m hm
  rcases List.mem_append.mp hm with hm | hm
  · exact h m hm
  · obtain rfl := List.mem_singleton.mp hm
    exact hn

theorem Named.erase (h : s.Named N) (id : String) : (s.erase id).Named N :=
  fun n hn => h n (List.mem_of_mem_filter hn)

theorem Named.rehang (h : s.Named N) (p c q : String) :
    ((s.adjust p (Node.dropChild c)).adjust q (Node.pushChild c)).Named N := by
  have hdrop : (s.adjust p (Node.dropChild c)).Named N := h.adjust fun _ hn => hn
  exact hdrop.adjust fun _ hn => hn

theorem Step.named (h : Step N k s t) (hs : s.Named N) : t.Named N := by
  cases h with
  | count => exact hs
  | make _ _ _ _ _ hN => exact (hs.insert hN).adjust (f := Node.pushChild _) fun _ h => h
  | write _ _ content now => exact hs.adjust fun _ h => h
  | rename _ _ _ hN => exact hs.adjust fun _ _ => hN
  | move | recycle => exact hs.rehang _ _ _
  | drop => exact (hs.adjust (f := Node.dropChild _) fun _ h => h).erase _

theorem Trace.named (h : Trace N K s t) (hs : s.Named N) : t.Named N :=
  h.preserves (fun _ _ _ _ h hu => h.named hu) hs

end Named

/-! ## Fresh ids -/

theorem idOf_injective : Function.Injective idOf := by
  intro j k h
  have h : "file-" ++ toString j = "file-" ++ toString k := by simpa [idOf] using h
  have hlist := congrArg String.toList h
  rw [String.toList_append, String.toList_append, List.append_cancel_left_eq] at hlist
  exact Text.toString_inj (String.toList_inj.mp hlist)

/-- The number found is free, or all that were tried are taken. -/
theorem freeFrom_spec (s : Store) : ∀ fuel k, s.has (idOf (s.freeFrom fuel k)) = false ∨
    s.freeFrom fuel k = k + fuel ∧ ∀ i < fuel, s.has (idOf (k + i)) = true
  | 0, k => .inr ⟨rfl, by simp⟩
  | fuel + 1, k => by
    unfold freeFrom
    by_cases hk : s.has (idOf k) = true
    · rw [if_pos hk]
      rcases freeFrom_spec s fuel (k + 1) with h | ⟨he, hall⟩
      · exact .inl h
      · refine .inr ⟨by omega, fun i hi => ?_⟩
        cases i with
        | zero => exact hk
        | succ i =>
          have := hall i (by omega)
          rwa [Nat.add_right_comm] at this
    · rw [if_neg hk]
      exact .inl (by simpa using hk)

theorem has_idOf_freeNumber (s : Store) : s.has (idOf s.freeNumber) = false := by
  rcases freeFrom_spec s s.nodes.length s.counter with h | ⟨he, hall⟩
  · exact h
  · -- All numbers tried are taken. With one more there would be more taken ids than entries.
    by_contra hlast
    rw [Bool.not_eq_false] at hlast
    unfold freeNumber at hlast
    rw [he] at hlast
    let tried := (List.range (s.nodes.length + 1)).map fun i => idOf (s.counter + i)
    have hnd : tried.Nodup :=
      List.nodup_range.map fun i j h => by have := idOf_injective h; omega
    have hsub : tried ⊆ s.nodes.map (·.id) := by
      intro x hx
      obtain ⟨i, hi, rfl⟩ := List.mem_map.mp hx
      have hhas : s.has (idOf (s.counter + i)) = true := by
        rcases Nat.lt_succ_iff_lt_or_eq.mp (List.mem_range.mp hi) with hi | rfl
        · exact hall i hi
        · exact hlast
      obtain ⟨n, hn⟩ := has_iff.mp hhas
      exact List.mem_map.mpr ⟨n, mem_nodes_of_get? hn, id_of_get? hn⟩
    have := (hnd.subperm hsub).length_le
    simp only [tried, List.length_map, List.length_range] at this
    omega

end Store

/-! ## Runs of operations -/

/-- The store in which an operation ends, also when it stops with a fault. -/
def Edit.after {α : Type} (x : Edit α) (s : Store) : Store :=
  match x s with
  | .ok _ t => t
  | .error _ t => t

/-- What an operation answers and the store that it leaves, when it does not stop with a fault. -/
def Edit.result? {α : Type} (x : Edit α) (s : Store) : Option (α × Store) :=
  match x s with
  | .ok a t => some (a, t)
  | .error _ _ => none

namespace Edit

variable {α β : Type} {s t : Store}

theorem eq_ok_of_result? {x : Edit α} {a : α} (h : x.result? s = some (a, t)) :
    x s = .ok a t := by
  unfold result? at h
  split at h
  · next hx =>
    obtain ⟨rfl, rfl⟩ := Prod.mk.inj (Option.some.inj h)
    exact hx
  · cases h

@[simp] theorem after_apply (f : Store → Store) : (apply f).after s = f s := rfl

/-- A question changes nothing, so only its answers have to be looked at. -/
theorem ask_bind {Q : EStateM.Result Fault Store β → Prop} {f : Store → Except Fault α}
    {g : α → Edit β} (hfault : ∀ e, Q (.error e s)) (h : ∀ a, f s = .ok a → Q (g a s)) :
    Q ((ask f >>= g) s) := by
  simp only [bind, EStateM.bind, ask]
  cases hf : f s with
  | ok a => exact h a hf
  | error e => exact hfault e

theorem check_bind {Q : EStateM.Result Fault Store β → Prop} {fault : Fault} {p : Store → Bool}
    {g : Unit → Edit β} (hfault : Q (.error fault s)) (h : p s = true → Q (g () s)) :
    Q ((check fault p >>= g) s) := by
  simp only [bind, EStateM.bind, check]
  cases hp : p s with
  | true => exact h hp
  | false => exact hfault

end Edit

namespace Store

variable {N : String → Prop} {K : Change → Prop} {s : Store}

theorem require_eq_ok {id : String} {n : Node} : s.require id = .ok n ↔ s.get? id = some n := by
  unfold require
  cases s.get? id <;> simp

namespace Trace

variable {α β : Type}

theorem ask {f : Store → Except Fault β} {g : β → Edit α}
    (h : ∀ b, f s = .ok b → Trace N K s ((g b).after s)) :
    Trace N K s (Edit.after (Edit.ask f >>= g) s) := by
  refine Edit.ask_bind (Q := fun r => Trace N K s (Edit.after (fun _ => r) s)) (fun _ => refl s) ?_
  exact h

theorem check {fault : Fault} {p : Store → Bool} {g : Unit → Edit α}
    (h : p s = true → Trace N K s ((g ()).after s)) :
    Trace N K s (Edit.after (Edit.check fault p >>= g) s) := by
  refine Edit.check_bind (Q := fun r => Trace N K s (Edit.after (fun _ => r) s)) (refl s) ?_
  exact h

end Trace

theorem fields_of_ofRecord {r : Record} {id : String} {now : Int} {n : Node}
    (h : Node.ofRecord id r now = .ok n) : n.id = id ∧ r.name = some n.name ∧
      r.kindOf = .ok n.kind ∧ n.content = r.content ∧
      n.children = if n.isContainer then some (r.children.getD []) else r.children := by
  unfold Node.ofRecord at h
  split at h
  · cases h
  · next name hname =>
    split at h
    · cases h
    · next kind hkind =>
      obtain rfl := Except.ok.inj h
      exact ⟨rfl, hname, hkind, rfl, rfl⟩

/-- The entry `made` is the one that `add` makes in the folder `p`, stored under `parent`. -/
structure Makes (s : Store) (r : Record) (parent : String) (now : Int) (p made : Node) : Prop where
  folder : s.get? parent = some p
  holds : p.children.isSome
  free : s.childNamed parent made.name = none
  record : ∃ n, Node.ofRecord (idOf s.freeNumber) r now = .ok n ∧
    made = if n.isContainer then { n with children := some [] } else n

namespace Makes

variable {r : Record} {parent : String} {now : Int} {p made : Node}

theorem fields (h : Makes s r parent now p made) : made.id = idOf s.freeNumber ∧
    r.name = some made.name ∧ r.kindOf = .ok made.kind ∧ made.content = r.content := by
  obtain ⟨n, hn, rfl⟩ := h.record
  obtain ⟨hid, hname, hkind, hcontent, -⟩ := fields_of_ofRecord hn
  split <;> exact ⟨hid, hname, hkind, hcontent⟩

/-- What is made from a description that brings no children along. -/
theorem children (h : Makes s r parent now p made) (hr : r.Childless) :
    made.children = if made.isContainer then some [] else none := by
  obtain ⟨n, hn, rfl⟩ := h.record
  obtain ⟨-, -, hkind, -, hc⟩ := fields_of_ofRecord hn
  by_cases hn : n.isContainer
  · simp [Node.isContainer, show n.kind.isContainer = true from hn]
  · simp [hn, hc, hr n.kind hkind (by simpa [Node.isContainer] using hn)]

end Makes

/-- Nothing is made, or one entry in a folder that has no child of its name. -/
theorem add_cases (r : Record) (parent : String) (now : Int) (s : Store) :
    (∃ f, add r parent now s = .error f s) ∨
    (∃ f, add r parent now s = .error f { s with counter := s.freeNumber + 1 } ∧
      ∃ id, Node.ofRecord id r now = .error f) ∨
    ∃ p made, Makes s r parent now p made ∧ add r parent now s = .ok made.id
      (({ s with counter := s.freeNumber + 1 }.insert made).adjust parent
        (Node.pushChild made.id)) := by
  let Q : EStateM.Result Fault Store String → Prop := fun result =>
    (∃ f, result = .error f s) ∨
    (∃ f, result = .error f { s with counter := s.freeNumber + 1 } ∧
      ∃ id, Node.ofRecord id r now = .error f) ∨
    ∃ p made, Makes s r parent now p made ∧ result = .ok made.id
      (({ s with counter := s.freeNumber + 1 }.insert made).adjust parent
        (Node.pushChild made.id))
  have hfault : ∀ f, Q (.error f s) := fun f => .inl ⟨f, rfl⟩
  change Q (add r parent now s)
  unfold add
  refine Edit.ask_bind hfault fun p hp => Edit.check_bind (hfault _) fun hk =>
    Edit.ask_bind hfault fun name hname => Edit.check_bind (hfault _) fun hfree => ?_
  change Q ((Edit.ask (fun _ => Node.ofRecord (idOf s.freeNumber) r now) >>= _)
    { s with counter := s.freeNumber + 1 })
  cases hn : Node.ofRecord (idOf s.freeNumber) r now with
  | error f => exact .inr (.inl ⟨f, rfl, _, hn⟩)
  | ok n =>
    obtain ⟨made, hmade⟩ : ∃ made,
        made = if n.isContainer then { n with children := some [] } else n := ⟨_, rfl⟩
    obtain ⟨hid, hrn, -⟩ := fields_of_ofRecord hn
    have hmid : made.id = idOf s.freeNumber := by rw [hmade]; split <;> exact hid
    have hmname : made.name = n.name := by rw [hmade]; split <;> rfl
    rw [hrn] at hname
    obtain rfl := Except.ok.inj hname
    refine .inr (.inr ⟨p, made, ⟨require_eq_ok.mp hp, hk, ?_, n, hn, hmade⟩, ?_⟩)
    · rw [hmname]
      exact Option.isNone_iff_eq_none.mp hfree
    · rw [hmid, hmade]
      rfl

/-- Something is made when nothing speaks against it. -/
theorem exists_add {r : Record} {parent name : String} {now : Int} {p n : Node}
    (hp : s.get? parent = some p) (hk : p.children.isSome) (hname : r.name = some name)
    (hfree : s.childNamed parent name = none)
    (hr : Node.ofRecord (idOf s.freeNumber) r now = .ok n) :
    ∃ id t, add r parent now s = .ok id t := by
  unfold add
  simp only [bind, EStateM.bind, Edit.ask, Edit.check, require_eq_ok.mpr hp, hk, if_true, hname,
    Option.map_some, Option.getD_some, hfree, Option.isNone_none, freshId, hr]
  exact ⟨_, _, rfl⟩

theorem trace_add (hcount : K .count) (hmake : K .make) {r : Record} (hr : r.Childless)
    (hN : ∀ name, r.name = some name → N name) (parent : String) (now : Int) :
    Trace N K s ((add r parent now).after s) := by
  unfold Edit.after
  rcases add_cases r parent now s with ⟨f, h⟩ | ⟨f, h, -⟩ | ⟨p, made, hmade, h⟩
  · rw [h]
    exact .refl s
  · rw [h]
    exact .one (.count s _) hcount
  · rw [h]
    obtain ⟨hid, hname, -, -⟩ := hmade.fields
    refine .trans (.one (.count s (s.freeNumber + 1)) hcount) (.one (.make hmade.folder hmade.holds
      hmade.free ?_ (hmade.children hr) (hN _ hname)) hmake)
    rw [hid]
    exact s.has_idOf_freeNumber

theorem trace_update (hwrite : K .write) (id content : String) (now : Int) :
    Trace N K s ((update id content now).after s) := by
  unfold update
  refine .ask fun n hn => .check fun hf => ?_
  exact .one (.write (require_eq_ok.mp hn) (by simpa using hf) content now) hwrite

theorem trace_rename (hrename : K .rename) {name : String} (hN : N name) (id : String) :
    Trace N K s ((rename id name).after s) := by
  unfold rename guardSystem
  refine .ask fun n hn => .check fun hsys => .ask fun parent hparent => ?_
  have hn := require_eq_ok.mp hn
  have hsys : n.isSystem = false := by simpa using hsys
  obtain rfl := Except.ok.inj hparent
  split
  · next hp =>
    refine .one (.rename hn hsys (fun p m hp' => ?_) hN) hrename
    simp [hp] at hp'
  · next p hp =>
    refine .check fun hfree => .one (.rename hn hsys (fun q m hq hm => ?_) hN) hrename
    obtain rfl := Option.some.inj (hp.symm.trans hq)
    simpa [hm] using hfree

theorem trace_move (hmove : K .move) (id target : String) :
    Trace N K s ((move id target).after s) := by
  unfold move guardSystem
  refine .ask fun n hn => .check fun hsys => .ask fun folder ht => ?_
  have hn := require_eq_ok.mp hn
  split
  · exact .refl s
  · next hne =>
    refine .check fun hk => .ask fun below hw => .check fun hbelow => .ask fun parent hparent => ?_
    obtain rfl := Except.ok.inj hparent
    split
    · exact .refl s
    · next p hp =>
      split
      · exact .refl s
      · refine .check fun hfree => .one (.move hn (by simpa using hsys) (require_eq_ok.mp ht) hk hne
          (fun m hm => ?_) hp (Option.isNone_iff_eq_none.mp hfree)) hmove
        have hbelow' : s.walkFrom s.nodes.length n = below := by
          simpa [walk, require_eq_ok.mpr hn] using hw
        rw [hbelow'] at hm
        simp only [Bool.not_eq_true', List.any_eq_false] at hbelow
        simpa using hbelow m hm

/-- The recycle bin is stored and has a list to hold entries. -/
def HasBin (s : Store) : Prop := ∃ bin, s.get? s.binId = some bin ∧ bin.children.isSome

theorem hasBin_iff : s.HasBin ↔ ∃ ids, (s.get? s.binId).bind (·.children) = some ids := by
  unfold HasBin
  simp only [Option.isSome_iff_exists, Option.bind_eq_some_iff]
  constructor
  · rintro ⟨bin, hb, ids, hids⟩
    exact ⟨ids, bin, hb, hids⟩
  · rintro ⟨ids, bin, hb, hids⟩
    exact ⟨bin, hb, ids, hids⟩

/-- Taking an entry from a folder leaves the recycle bin in place. -/
theorem hasBin_dropChild (p c : String) :
    (s.adjust p (Node.dropChild c)).HasBin ↔ s.HasBin := by
  have hbin : (s.adjust p (Node.dropChild c)).binId = s.binId := rfl
  unfold HasBin
  rw [hbin, get?_adjust s p _ (Node.id_dropChild c)]
  split
  · next h => simp [h, Node.dropChild]
  · rfl

/-- An entry goes from the folder `parent` into the recycle bin, or out of the store with all below
it when no bin can hold it, or nothing is done. -/
theorem delete_cases (id parent : String) (s : Store) :
    (∃ f, delete id parent s = .error f s ∧
      ∀ n, s.get? id = some n → n.isSystem = false → s.get? parent = none) ∨
    ∃ n p, s.get? id = some n ∧ n.isSystem = false ∧ s.get? parent = some p ∧
      (s.HasBin ∧ delete id parent s =
          .ok true ((s.adjust parent (Node.dropChild id)).adjust s.binId (Node.pushChild id)) ∨
        ¬ s.HasBin ∧ delete id parent s =
          .ok false ((s.adjust parent (Node.dropChild id)).dropAll [id])) := by
  cases hn : s.get? id with
  | none =>
    refine .inl ⟨.noNode id, ?_, by simp⟩
    simp only [delete, bind, EStateM.bind, Edit.ask, require, hn]
  | some n =>
    cases hsys : n.isSystem with
    | true =>
      refine .inl ⟨.systemItem n.name, ?_, by simp [hsys]⟩
      simp only [delete, guardSystem, bind, EStateM.bind, Edit.ask, Edit.check, require, hn, hsys]
      rfl
    | false =>
      cases hp : s.get? parent with
      | none =>
        refine .inl ⟨.noNode parent, ?_, by simp⟩
        simp only [delete, guardSystem, bind, EStateM.bind, Edit.ask, Edit.check, require, hn, hsys,
          hp, Bool.not_false, if_true]
      | some p =>
        refine .inr ⟨n, p, rfl, hsys, rfl, ?_⟩
        -- Past the guards, only the bin decides.
        rw [← hasBin_dropChild parent id, hasBin_iff]
        simp only [delete, guardSystem, bind, EStateM.bind, Edit.ask, Edit.check, Edit.apply,
          require, hn, hsys, hp, Bool.not_false, if_true]
        cases ((s.adjust parent (Node.dropChild id)).get?
            (s.adjust parent (Node.dropChild id)).binId).bind (·.children) with
        | none => exact .inr ⟨by simp, rfl⟩
        | some ids => exact .inl ⟨⟨ids, rfl⟩, rfl⟩

theorem trace_delete (hrecycle : K .recycle) {id : String} {p bin : Node}
    (hp : s.parent? id = some p) (hb : s.get? s.binId = some bin) (hk : bin.children.isSome) :
    Trace N K s ((delete id p.id).after s) := by
  unfold Edit.after
  rcases delete_cases id p.id s with ⟨f, h, -⟩ | ⟨n, q, hn, hsys, -, ⟨-, h⟩ | ⟨hbin, -⟩⟩
  · rw [h]
    exact .refl s
  · rw [h]
    exact .one (.recycle hn hsys hp hb hk) hrecycle
  · exact absurd ⟨bin, hb, hk⟩ hbin

theorem dropAll_of_childless {id : String} {n : Node} (hn : s.get? id = some n)
    (hc : n.childIds = []) : s.dropAll [id] = s.erase id := by
  have hrest : ∀ t : Store, t.dropAll [] = t := fun t => by unfold dropAll; rfl
  unfold dropAll
  simp [has_of_get? hn, hn, hc, hrest]

/-- The store in which the folder that holds an entry mentions it no longer. -/
def unlisted (s : Store) (id : String) : Store :=
  match s.parent? id with
  | none => s
  | some p => s.adjust p.id (Node.dropChild id)

theorem after_purge_eq (id : String) : (purge id).after s = (s.unlisted id).dropAll [id] := by
  unfold purge unlisted
  rw [Edit.after_apply]
  cases s.parent? id <;> rfl

theorem after_purge {id : String} {n : Node} (hn : s.get? id = some n) (hc : n.childIds = []) :
    (purge id).after s = (s.unlisted id).erase id := by
  obtain ⟨m, hm, hmc⟩ : ∃ m, (s.unlisted id).get? id = some m ∧ m.childIds = [] := by
    unfold unlisted
    split
    · exact ⟨n, hn, hc⟩
    · next p _ =>
      rw [get?_adjust s p.id _ (Node.id_dropChild id)]
      split
      · next h =>
        refine ⟨n.dropChild id, by rw [← h, hn]; rfl, ?_⟩
        rw [Node.childIds_dropChild, hc, List.erase_nil]
      · exact ⟨n, hn, hc⟩
  rw [after_purge_eq, dropAll_of_childless hm hmc]

theorem trace_purge (hdrop : K .drop) {id : String} {n p : Node} (hn : s.get? id = some n)
    (hf : n.isDir = false) (hc : n.childIds = []) (hp : s.parent? id = some p) :
    Trace N K s ((purge id).after s) := by
  rw [after_purge hn hc]
  unfold unlisted
  simp only [hp]
  exact .one (.drop hn hf hc hp) hdrop

end Store
end DeskShell

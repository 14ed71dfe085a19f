import DeskShell.Proofs.Leads
import DeskShell.Proofs.WorkingFolder

/-!
# What redirected output leaves

Redirected output is looked up by its path and, where nothing is found, put under the last name in
the folder part of the path. Either way the path leads to it afterwards.

* `Session.Admits`: the path is one that output can go to. `Redirect.exists_write`: then it does.
* `Redirect.Lands`: the store that output leaves in the file with an id.
* `Redirect.write_cases`: output is refused and nothing is changed, or it lands where its path
  leads.
* `Redirect.Appends`: texts that are appended to a file one after the other.
* `Redirect.reads_back`: what is written is read back, and texts that are appended to a new file
  are its lines.
-/
namespace DeskShell

open Store (Linked Widens)

variable {C : Type} {σ τ : Session C} {r : Redirect} {text : String}

/-! ## Where output goes -/

/-- The path leads to a file, or it leads nowhere and its last name stands in a folder that can hold
an entry. -/
def Session.Admits (σ : Session C) (path : String) : Prop :=
  (∃ n, σ.LeadsTo path n.id ∧ σ.store.get? n.id = some n ∧ n.kind = .file) ∨
    σ.resolve (some path) = .ok none ∧ ∃ folder name,
      σ.resolveParent path = .ok (some folder.id, name) ∧ name ≠ "" ∧
        σ.store.get? folder.id = some folder ∧ folder.children.isSome

namespace Sink

/-- Output is refused, goes into a file that its path leads to, or is made into one in a folder. -/
inductive Chosen (r : Redirect) (text : String) (σ : Session C) : Inquiry Sink → Prop
  | fault (f : Fault) : Chosen r text σ (.error (.fault f))
  | refused {res : Result} (h : res.exitCode = 1) : Chosen r text σ (.error (.result res))
  | replace {n : Node} (hl : σ.LeadsTo r.file n.id) (hn : σ.store.get? n.id = some n)
      (hf : n.isDir = false) : Chosen r text σ (.ok (.replace n.id (r.mode.combine n.text text)))
  | create {found : Option Session.Place} {p name : String}
      (hr : σ.resolve (some r.file) = .ok found)
      (hnone : ∀ place, found = some place → σ.store.has place.id = false)
      (hparent : σ.resolveParent r.file = .ok (some p, name)) (hname : name ≠ "") :
      Chosen r text σ (.ok (.create p name))

theorem standing_eq (file : String) (σ : Session C) : standing file σ =
    match σ.resolve (some file) with
    | .error f => .error (.fault f)
    | .ok none => .ok none
    | .ok (some place) => .ok (σ.store.get? place.id) := by
  unfold standing Session.resolveNode
  cases σ.resolve (some file) with
  | error f => rfl
  | ok found => cases found <;> rfl

theorem chosen_absent {found : Option Session.Place} (hr : σ.resolve (some r.file) = .ok found)
    (hnone : ∀ place, found = some place → σ.store.has place.id = false)
    (hs : standing r.file σ = .ok none) : Chosen r text σ (ofRedirect r text σ) := by
  unfold ofRedirect
  rw [hs]
  cases hp : σ.resolveParent r.file with
  | error f => exact .fault f
  | ok parent =>
    obtain ⟨_ | p, name⟩ := parent
    · exact .refused rfl
    · by_cases hname : name = ""
      · subst hname
        exact .refused rfl
      · have h : Chosen r text σ _ := .create hr hnone hp hname
        simpa [hname, Inquiry.lift, bind, Except.bind, pure, Except.pure] using h

theorem chosen_present {n : Node} (hl : σ.LeadsTo r.file n.id) (hn : σ.store.get? n.id = some n)
    (hs : standing r.file σ = .ok (some n)) : Chosen r text σ (ofRedirect r text σ) := by
  unfold ofRedirect
  rw [hs]
  by_cases hsys : n.isSystem
  · simp only [hsys, bind, Except.bind]
    exact .refused rfl
  · by_cases hdir : n.isDir
    · simp only [hsys, hdir, bind, Except.bind]
      exact .refused rfl
    · have h : Chosen r text σ _ := .replace hl hn (by simpa using hdir)
      simpa [hsys, hdir, bind, Except.bind, pure, Except.pure] using h

theorem chosen (r : Redirect) (text : String) (σ : Session C) :
    Chosen r text σ (ofRedirect r text σ) := by
  have hs := standing_eq r.file σ
  cases hr : σ.resolve (some r.file) with
  | error f =>
    rw [hr] at hs
    unfold ofRedirect
    rw [hs]
    exact .fault f
  | ok found =>
    rw [hr] at hs
    cases found with
    | none => exact chosen_absent hr (fun _ h => nomatch h) hs
    | some place =>
      dsimp only at hs
      cases hn : σ.store.get? place.id with
      | none =>
        rw [hn] at hs
        refine chosen_absent hr (fun p hp => ?_) hs
        obtain rfl := Option.some.inj hp
        exact Store.get?_eq_none_iff.mp hn
      | some n =>
        rw [hn] at hs
        have hid := Store.id_of_get? hn
        exact chosen_present ⟨place, hr, hid.symm⟩ (hid ▸ hn) hs

end Sink

/-! ## What is done there -/

/-- New content, at a time. -/
def Node.fill (content : String) (now : Int) (n : Node) : Node :=
  { n with content := some content, modified := now }

theorem Node.id_fill (content : String) (now : Int) (n : Node) :
    (n.fill content now).id = n.id := rfl

theorem Run.update_of_file {id : String} {n : Node} (hn : σ.store.get? id = some n)
    (hf : n.isDir = false) (content : String) : ∃ notes, Run.update id content σ = .ok () { σ with
      store := σ.store.adjust id (Node.fill content σ.clock), notes } := by
  have h : Store.update id content σ.clock σ.store =
      .ok () (σ.store.adjust id (Node.fill content σ.clock)) := by
    simp [Store.update, Edit.ask, Edit.check, Edit.apply, Store.require_eq_ok.mpr hn, hf, bind,
      EStateM.bind]
    rfl
  refine ⟨.updated id content.length :: σ.notes, ?_⟩
  simp [Run.update, Run.get, Run.edit, Run.note, h, bind, EStateM.bind]

theorem Run.add_of_ok {s : Record} {parent id : String} {t : Store}
    (h : Store.add s parent σ.clock σ.store = .ok id t) :
    ∃ notes, Run.add s parent σ = .ok id { σ with store := t, notes } := by
  unfold Run.add Run.get Run.edit Run.note
  simp only [bind, EStateM.bind, h]
  cases t.get? id with
  | none => exact ⟨_, rfl⟩
  | some n => exact ⟨_, rfl⟩

theorem Run.add_of_error {s : Record} {parent : String} {f : Fault} {t : Store}
    (h : Store.add s parent σ.clock σ.store = .error f t) :
    Run.add s parent σ = .error f { σ with store := t } := by
  unfold Run.add Run.get Run.edit
  simp only [bind, EStateM.bind, h]

/-! ## What it leaves -/

/-- A store after output to a path, which is in the file `id` then. -/
inductive Redirect.Lands (r : Redirect) (text : String) (σ : Session C) (t : Store) (id : String) :
    Prop
  /-- The path led to a file, and only that has changed. -/
  | onto {n m : Node} (hl : σ.LeadsTo r.file id) (hn : σ.store.get? id = some n)
      (hk : n.kind = .file) (hm : t.get? id = some m)
      (hmn : m = { n with content := m.content, modified := m.modified })
      (hover : r.mode = .overwrite → m.content = some text)
      (happ : r.mode = .append → m.content = some
        (n.text ++ (if n.text = "" ∨ n.text.toList.getLast? = some '\n' then "" else "\n") ++ text))
      (rest : ∀ x, x ≠ id → t.get? x = σ.store.get? x)
  /-- The path led nowhere. There is a new file, last in one folder, and only that folder has
  changed. -/
  | anew {m p : Node} {ids : List String} (hr : σ.resolve (some r.file) = .ok none)
      (hid : σ.store.has id = false) (hm : t.get? id = some m) (hk : m.kind = .file)
      (hnone : m.children = none) (hc : m.content = some text) (hp : σ.store.get? p.id = some p)
      (hids : p.children = some ids)
      (hp' : t.get? p.id = some { p with children := some (ids ++ [id]) })
      (rest : ∀ x, x ≠ id → x ≠ p.id → t.get? x = σ.store.get? x)

theorem RedirectMode.combine_append (existing text : String) :
    RedirectMode.append.combine existing text = existing ++
      (if existing = "" ∨ existing.toList.getLast? = some '\n' then "" else "\n") ++ text := by
  unfold RedirectMode.combine
  dsimp only
  split
  · rw [String.append_empty]
  · rfl

/-- Output into a file that is there. -/
theorem Redirect.lands_update {n : Node} (hl : σ.LeadsTo r.file n.id)
    (hn : σ.store.get? n.id = some n) (hf : n.isDir = false) (now : Int) :
    r.Lands text σ (σ.store.adjust n.id (Node.fill (r.mode.combine n.text text) now)) n.id := by
  refine .onto hl hn (Node.kind_eq_file hf) (m := n.fill (r.mode.combine n.text text) now) ?_ rfl
    ?_ ?_ fun x hx => ?_
  · rw [Store.get?_adjust _ _ _ (Node.id_fill _ now), if_pos rfl, hn]
    rfl
  · intro hmode
    rw [hmode]
    rfl
  · intro hmode
    rw [hmode, ← RedirectMode.combine_append]
    rfl
  · rw [Store.get?_adjust _ _ _ (Node.id_fill _ now), if_neg hx]

/-- Output into a file that is made for it. -/
theorem Redirect.lands_make {s : Store} (hs : s.get? = σ.store.get?) {p m : Node}
    {ids : List String} (hr : σ.resolve (some r.file) = .ok none) (hid : σ.store.has m.id = false)
    (hk : m.kind = .file) (hnone : m.children = none) (hc : m.content = some text)
    (hp : σ.store.get? p.id = some p) (hids : p.children = some ids) :
    r.Lands text σ ((s.insert m).adjust p.id (Node.pushChild m.id)) m.id := by
  have hmp : m.id ≠ p.id := by
    intro he
    rw [he, Store.has_of_get? hp] at hid
    cases hid
  have hget : ∀ x, ((s.insert m).adjust p.id (Node.pushChild m.id)).get? x =
      if x = p.id then some (p.pushChild m.id)
      else (σ.store.get? x).or (if m.id = x then some m else none) := by
    intro x
    rw [Store.get?_adjust _ _ _ (Node.id_pushChild _), Store.get?_insert, Store.get?_insert, hs, hp]
    rfl
  refine .anew hr hid (m := m) (p := p) ?_ hk hnone hc hp hids ?_ fun x hx hxp => ?_
  · rw [hget, if_neg hmp, Store.get?_eq_none_iff.mpr hid, if_pos rfl]
    rfl
  · rw [hget, if_pos rfl, Node.pushChild, hids]
    rfl
  · rw [hget, if_neg hxp, if_neg (Ne.symm hx), Option.or_none]

theorem Sink.write_replace (text : String) (L : Linked σ.store) {n : Node}
    (hl : σ.LeadsTo r.file n.id) (hn : σ.store.get? n.id = some n) (hf : n.isDir = false) :
    ∃ τ, (Sink.replace n.id (r.mode.combine n.text text)).write r.file text σ = .ok .done τ ∧
      Linked τ.store ∧ τ.LeadsTo r.file n.id ∧ r.Lands text σ τ.store n.id := by
  obtain ⟨notes, h⟩ := Run.update_of_file hn hf (r.mode.combine n.text text)
  have hid := Node.id_fill (r.mode.combine n.text text) σ.clock
  refine ⟨{ σ with store := σ.store.adjust n.id (Node.fill _ σ.clock), notes }, ?_,
    L.adjust hid fun _ => rfl, ?_, r.lands_update hl hn hf σ.clock⟩
  · simp only [Sink.write, bind, EStateM.bind, h]
    rfl
  · exact hl.widens ⟨.adjust hid (fun _ => rfl) fun _ => rfl, rfl, rfl⟩ L (Store.has_of_get? hn)

/-- The file that is made for output, in a folder of the store. -/
theorem Sink.fields_of_makes {name p : String} {now : Int} {folder made : Node}
    (h : σ.store.Makes (Sink.record name text) p now folder made) :
    made.name = name ∧ made.kind = .file ∧ made.children = none ∧ made.content = some text ∧
      σ.store.has made.id = false := by
  obtain ⟨hid, hname, hkind, hcontent⟩ := h.fields
  have hkind : made.kind = .file := (Except.ok.inj hkind).symm
  refine ⟨(Option.some.inj hname).symm, hkind, ?_, hcontent, ?_⟩
  · rw [h.children fun _ _ _ => rfl, Node.isContainer, hkind]
    rfl
  · rw [hid]
    exact σ.store.has_idOf_freeNumber

/-- A path that led nowhere leads to the entry that has been made under its last name in the folder
part of it. -/
theorem Session.leadsTo_makes (L : Linked σ.store) {path p name : String}
    (hr : σ.resolve (some path) = .ok none)
    (hparent : σ.resolveParent path = .ok (some p, name)) (hname : name ≠ "") {rec : Record}
    {now : Int} {folder made : Node} (hmade : σ.store.Makes rec p now folder made)
    (hmname : made.name = name) (hc : made.childIds = []) {k : Nat} {t : Store}
    (ht : t = ({ σ.store with counter := k }.insert made).adjust p (Node.pushChild made.id))
    (notes : List Note) : { σ with store := t, notes }.LeadsTo path made.id := by
  have hp := hmade.folder
  have hid : σ.store.has made.id = false := by
    rw [hmade.fields.1]
    exact σ.store.has_idOf_freeNumber
  have L' := L.counter k
  have W : Widens σ.store t := ht ▸ (Widens.make L' hp hmade.holds hid hc).of_counter
  have hfound : t.childNamed p made.name = some made :=
    ht ▸ Store.childNamed_make L' hp hmade.holds hid hc hmade.free
  have hfollows : σ.Follows { σ with store := t, notes } := ⟨W, rfl, rfl⟩
  exact leadsTo_made hfollows L hr hparent hname (Store.has_of_get? hp) (hmname ▸ hfound)

/-- A path that led nowhere leads to the file that has been made for output. -/
theorem Redirect.lands_add (L : Linked σ.store) (hr : σ.resolve (some r.file) = .ok none)
    {p name : String} (hparent : σ.resolveParent r.file = .ok (some p, name)) (hname : name ≠ "")
    {now : Int} {folder made : Node}
    (hmade : σ.store.Makes (Sink.record name text) p now folder made) {k : Nat} {t : Store}
    (ht : t = ({ σ.store with counter := k }.insert made).adjust p (Node.pushChild made.id))
    (notes : List Note) :
    Linked t ∧ { σ with store := t, notes }.LeadsTo r.file made.id ∧ r.Lands text σ t made.id := by
  obtain ⟨hmname, hkind, hchildren, hcontent, hid⟩ := Sink.fields_of_makes hmade
  obtain ⟨ids, hids⟩ := Option.isSome_iff_exists.mp hmade.holds
  have hp := hmade.folder
  have hc : made.childIds = [] := by rw [Node.childIds, hchildren, Option.getD_none]
  refine ⟨ht ▸ (L.counter k).make hp hmade.holds hid hc,
    Session.leadsTo_makes L hr hparent hname hmade hmname hc ht notes, ?_⟩
  obtain rfl := Store.id_of_get? hp
  exact ht ▸ r.lands_make (s := { σ.store with counter := k }) rfl hr hid hkind hchildren hcontent
    hp hids

theorem Sink.write_create (text : String) (L : Linked σ.store) {found : Option Session.Place}
    {p name : String} (hr : σ.resolve (some r.file) = .ok found)
    (hnone : ∀ place, found = some place → σ.store.has place.id = false)
    (hparent : σ.resolveParent r.file = .ok (some p, name)) (hname : name ≠ "") :
    (∃ f, (Sink.create p name).write r.file text σ = .error f σ) ∨
    (∃ res, (Sink.create p name).write r.file text σ = .ok res σ ∧ res.exitCode = 1) ∨
    ∃ τ, (Sink.create p name).write r.file text σ = .ok .done τ ∧ σ.Admits r.file ∧
      Linked τ.store ∧ ∃ id, τ.LeadsTo r.file id ∧ r.Lands text σ τ.store id := by
  rcases Store.add_cases (Sink.record name text) p σ.clock σ.store with
    ⟨f, hadd⟩ | ⟨f, -, id, hrecord⟩ | ⟨folder, made, hmade, hadd⟩
  · have hrun := Run.add_of_error hadd
    simp only [Sink.write, bind, EStateM.bind, Run.attempt, hrun]
    by_cases hf : f.isExpected
    · rw [if_pos hf]
      exact .inr (.inl ⟨_, rfl, rfl⟩)
    · rw [if_neg hf]
      exact .inl ⟨f, rfl⟩
  · cases hrecord
  · obtain rfl := Session.eq_none_of_resolve L hr hnone hparent hname
      (Store.has_of_get? hmade.folder)
    obtain ⟨notes, hrun⟩ := Run.add_of_ok hadd
    obtain ⟨L', hl, hlands⟩ := r.lands_add L hr hparent hname hmade rfl notes
    have hp := hmade.folder
    obtain rfl := Store.id_of_get? hp
    refine .inr (.inr ⟨_, ?_, .inr ⟨hr, folder, name, hparent, hname, hp, hmade.holds⟩, L', made.id,
      hl, hlands⟩)
    simp only [Sink.write, bind, EStateM.bind, Run.attempt, hrun]
    rfl

/-- Output that is not refused lands where its path leads, and what is refused changes nothing. -/
theorem Redirect.write_cases (L : Linked σ.store) {res : Result}
    (h : r.write text σ = .ok res τ) : res.exitCode = 1 ∧ τ.store = σ.store ∨
      res = .done ∧ σ.Admits r.file ∧ Linked τ.store ∧
        ∃ id, τ.LeadsTo r.file id ∧ r.Lands text σ τ.store id := by
  have hchosen := Sink.chosen r text σ
  unfold Redirect.write Inquiry.andThen at h
  cases hsink : Sink.ofRedirect r text σ with
  | error stop =>
    rw [hsink] at h hchosen
    cases hchosen with
    | fault f => cases h
    | refused hres =>
      cases h
      exact .inl ⟨hres, rfl⟩
  | ok sink =>
    rw [hsink] at h hchosen
    dsimp only at h
    cases hchosen with
    | replace hl hn hf =>
      obtain ⟨τ', hwrite, L', hl', hlands⟩ := Sink.write_replace text L hl hn hf
      cases hwrite.symm.trans h
      exact .inr ⟨rfl, .inl ⟨_, hl, hn, Node.kind_eq_file hf⟩, L', _, hl', hlands⟩
    | create hr hnone hparent hname =>
      rcases Sink.write_create text L hr hnone hparent hname with
        ⟨f, hwrite⟩ | ⟨res', hwrite, hres⟩ | ⟨τ', hwrite, L', hlands⟩
      · cases hwrite.symm.trans h
      · cases hwrite.symm.trans h
        exact .inl ⟨hres, rfl⟩
      · cases hwrite.symm.trans h
        exact .inr ⟨rfl, L', hlands⟩

theorem Redirect.exists_write (L : Linked σ.store) (h : σ.Admits r.file) (text : String) :
    ∃ τ, r.write text σ = .ok .done τ := by
  have hs := Sink.standing_eq r.file σ
  unfold Redirect.write Inquiry.andThen Sink.ofRedirect
  rw [hs]
  rcases h with ⟨n, ⟨place, hr, hid⟩, hn, hk⟩ | ⟨hr, folder, name, hparent, hname, hp, hholds⟩
  · have hf : n.isDir = false := by rw [Node.isDir, hk]; rfl
    have hsys : n.isSystem = false := by rw [Node.isSystem, hk]; rfl
    obtain ⟨τ, hτ, -⟩ := Sink.write_replace text L ⟨place, hr, hid⟩ hn hf
    refine ⟨τ, ?_⟩
    rw [hr]
    dsimp only
    rw [hid, hn]
    simpa [hsys, hf, bind, Except.bind, pure, Except.pure] using hτ
  · have hfree : σ.store.childNamed folder.id name = none :=
      Session.childNamed_of_resolve_none L hr hparent hname (Store.has_of_get? hp)
    obtain ⟨id, t, hadd⟩ : ∃ id t, Store.add (Sink.record name text) folder.id σ.clock σ.store =
        .ok id t := Store.exists_add hp hholds rfl hfree rfl
    obtain ⟨notes, hrun⟩ := Run.add_of_ok hadd
    refine ⟨{ σ with store := t, notes }, ?_⟩
    rw [hr]
    simp [hparent, hname, Inquiry.lift, Sink.write, Run.attempt, hrun, bind, Except.bind,
      EStateM.bind, pure, Except.pure, EStateM.pure]

/-! ## Several texts -/

/-- Texts are appended to a file one after the other, each with success. Between them the accounts
of the session may change. -/
inductive Redirect.Appends (file : String) : Session C → List String → Session C → Prop
  | nil {σ τ : Session C} (h : σ.Alike τ) : Appends file σ [] τ
  | cons {σ σ' τ ρ : Session C} {t : String} {ts : List String} (h : σ.Alike σ')
      (hw : Redirect.write ⟨.append, file⟩ t σ' = .ok .done τ) (hts : Appends file τ ts ρ) :
      Appends file σ (t :: ts) ρ

namespace Text

/-- A text whose last line has begun and not ended. -/
def Open (s : String) : Prop := s ≠ "" ∧ s.toList.getLast? ≠ some '\n'

theorem open_of_line {t : String} (hne : t ≠ "") (hline : '\n' ∉ t.toList) : Open t :=
  ⟨hne, fun h => hline (List.mem_of_getLast? h)⟩

theorem Open.append {t : String} (h : Open t) (s : String) : Open (s ++ t) := by
  have hne : t.toList ≠ [] := by simpa using h.1
  refine ⟨fun he => h.1 ?_, ?_⟩
  · simp_all
  · rw [String.toList_append, List.getLast?_append_of_ne_nil _ hne]
    exact h.2

theorem unlines_cons_cons (s t : String) (ts : List String) :
    unlines (s :: t :: ts) = unlines ((s ++ "\n" ++ t) :: ts) := by
  unfold unlines glue
  cases ts with
  | nil => simp [String.intercalate_cons_cons]
  | cons u ts => simp [String.intercalate_cons_cons, String.append_assoc]

end Text

namespace Session

theorem Alike.resolve_eq (h : σ.Alike τ) (path : Option String) :
    τ.resolve path = σ.resolve path := by
  unfold resolve
  rw [h.store, h.folder, h.shown]

theorem Alike.leadsTo (h : σ.Alike τ) {path id : String} (hl : σ.LeadsTo path id) :
    τ.LeadsTo path id := by
  unfold LeadsTo
  rw [h.resolve_eq]
  exact hl

theorem LeadsTo.unique {path id id' : String} (h : σ.LeadsTo path id) (h' : σ.LeadsTo path id') :
    id = id' := by
  obtain ⟨place, hr, rfl⟩ := h
  obtain ⟨place', hr', rfl⟩ := h'
  rw [hr] at hr'
  cases hr'
  rfl

/-- The path leads to a file with that content. -/
def Shows (σ : Session C) (path content : String) : Prop :=
  ∃ id n, σ.LeadsTo path id ∧ σ.store.get? id = some n ∧ n.kind = .file ∧ n.content = some content

theorem Alike.shows (h : σ.Alike τ) {path content : String} (hs : σ.Shows path content) :
    τ.Shows path content := by
  obtain ⟨id, n, hl, hn, hk, hc⟩ := hs
  exact ⟨id, n, h.leadsTo hl, by rw [h.store]; exact hn, hk, hc⟩

end Session

namespace Redirect

/-- Output to a path that led nowhere makes a file of it. -/
theorem shows_of_resolve (L : Linked σ.store) (hr : σ.resolve (some r.file) = .ok none)
    (h : r.write text σ = .ok .done τ) : Linked τ.store ∧ τ.Shows r.file text := by
  rcases write_cases L h with ⟨hres, -⟩ | ⟨-, -, L', id, hl, hlands⟩
  · cases hres
  · refine ⟨L', id, ?_⟩
    cases hlands with
    | onto hl₂ =>
      obtain ⟨place, hplace, -⟩ := hl₂
      rw [hr] at hplace
      cases hplace
    | anew _ _ hm hk _ hc => exact ⟨_, hl, hm, hk, hc⟩

/-- A text that is appended to a file whose last line has not ended is a line of its own. -/
theorem shows_append {file content : String} (L : Linked σ.store) (hs : σ.Shows file content)
    (hopen : Text.Open content) (h : Redirect.write ⟨.append, file⟩ text σ = .ok .done τ) :
    Linked τ.store ∧ τ.Shows file (content ++ "\n" ++ text) := by
  rcases write_cases L h with ⟨hres, -⟩ | ⟨-, -, L', id', hl', hlands⟩
  · cases hres
  · obtain ⟨id, n, hl, hn, hk, hc⟩ := hs
    refine ⟨L', id', ?_⟩
    cases hlands with
    | onto hl₂ hn₂ _ hm hmn _ happ _ =>
      obtain rfl := hl.unique hl₂
      obtain rfl := Option.some.inj (hn.symm.trans hn₂)
      have htext : n.text = content := by rw [Node.text, hc, Option.getD_some]
      refine ⟨_, hl', hm, by rw [hmn]; exact hk, ?_⟩
      rw [happ rfl, htext, if_neg (by rintro (he | he); exacts [hopen.1 he, hopen.2 he])]
    | anew hr =>
      obtain ⟨place, hplace, -⟩ := hl
      rw [hr] at hplace
      cases hplace

theorem shows_appends {file : String} {ts : List String} (h : Appends file σ ts τ) :
    ∀ {content : String}, Linked σ.store → σ.Shows file content → Text.Open content →
      (∀ t ∈ ts, t ≠ "" ∧ '\n' ∉ t.toList) → τ.Shows file (Text.unlines (content :: ts)) := by
  induction h with
  | nil ha => exact fun _ hs _ _ => ha.shows hs
  | @cons σ σ' τ ρ t ts ha hw _ ih =>
    intro content L hs hopen hts
    obtain ⟨hne, hline⟩ := hts t List.mem_cons_self
    obtain ⟨L', hτ⟩ := shows_append (ha.store ▸ L) (ha.shows hs) hopen hw
    rw [Text.unlines_cons_cons]
    exact ih L' hτ ((Text.open_of_line hne hline).append _) fun u hu =>
      hts u (List.mem_cons_of_mem t hu)

/-- Output is refused with a failure and nothing is changed, or it ends in silence, and its path
leads to the file that it is in. It is taken if and only if the path admits it. Lines that are
appended to a path that led nowhere are the lines of the file that the path leads to. -/
theorem reads_back (L : Linked σ.store) :
    (∀ (r : Redirect) (text : String) (res : Result) (τ : Session C),
      r.write text σ = .ok res τ → res.exitCode ≠ 0 ∧ τ.store = σ.store ∨
        res = .done ∧ ∃ id, τ.LeadsTo r.file id ∧ r.Lands text σ τ.store id) ∧
    (∀ (r : Redirect) (text : String),
      (∃ τ, r.write text σ = .ok .done τ) ↔ σ.Admits r.file) ∧
    ∀ (file : String) (ts : List String) (τ : Session C),
      σ.resolve (some file) = .ok none → Appends file σ ts τ → ts ≠ [] →
      (∀ t ∈ ts, t ≠ "" ∧ '\n' ∉ t.toList) → ∃ id n, τ.LeadsTo file id ∧
        τ.store.get? id = some n ∧ n.kind = .file ∧ n.content = some (Text.unlines ts) := by
  refine ⟨fun r text res τ h => ?_, fun r text => ⟨?_, fun h => exists_write L h text⟩,
    fun file ts τ hr h hne hts => ?_⟩
  · rcases write_cases L h with ⟨hres, hτ⟩ | ⟨hres, -, -, hlands⟩
    · exact .inl ⟨by omega, hτ⟩
    · exact .inr ⟨hres, hlands⟩
  · rintro ⟨τ, h⟩
    rcases write_cases L h with ⟨hres, -⟩ | ⟨-, hadmits, -⟩
    · cases hres
    · exact hadmits
  · cases h with
    | nil => exact absurd rfl hne
    | @cons _ σ' υ _ t ts ha hw hrest =>
      obtain ⟨htne, hline⟩ := hts t List.mem_cons_self
      obtain ⟨L', hs⟩ := shows_of_resolve (ha.store ▸ L) ((ha.resolve_eq _).trans hr) hw
      exact shows_appends hrest L' hs (Text.open_of_line htne hline) fun u hu =>
        hts u (List.mem_cons_of_mem t hu)

end Redirect

namespace Desktop

/-- On a fresh desktop two lines are appended to a file that is not there. -/
theorem reads_back_two_lines : ∃ σ, session {} 0 (fun _ => .unset) = .ok σ ∧ ∃ τ ρ,
    Redirect.write ⟨.append, "f.txt"⟩ "a" σ = .ok .done τ ∧
      (∃ id, τ.LeadsTo "f.txt" id ∧ Redirect.Lands ⟨.append, "f.txt"⟩ "a" σ τ.store id) ∧
      Redirect.Appends "f.txt" σ ["a", "b"] ρ ∧ ∃ id n, ρ.LeadsTo "f.txt" id ∧
        ρ.store.get? id = some n ∧ n.kind = .file ∧ n.content = some "a\nb" := by
  have hrun : (session {} 0 fun _ => .unset).map (fun σ => (σ.resolve (some "f.txt"),
      (Redirect.write ⟨.append, "f.txt"⟩ "a").result? σ,
      (Redirect.write ⟨.append, "f.txt"⟩ "b").result?
        ((Redirect.write ⟨.append, "f.txt"⟩ "a").after σ))) =
      .ok (.ok none, some .done, some .done) := by
    decide +kernel
  obtain ⟨σ, hσ, horder, -⟩ := exists_session {} 0 fun _ => .unset
  rw [hσ] at hrun
  obtain ⟨hr, hrun⟩ := Prod.mk.inj (Except.ok.inj hrun)
  obtain ⟨ha, hb⟩ := Prod.mk.inj hrun
  have ha := Run.eq_ok_of_result? ha
  have hb := Run.eq_ok_of_result? hb
  have hab := Redirect.Appends.cons (.refl σ) ha (.cons (.refl _) hb (.nil (.refl _)))
  obtain ⟨hone, -, hall⟩ := Redirect.reads_back (Store.linked_of_forest horder.sound.toForest)
  refine ⟨σ, hσ, _, _, ha, ?_, hab, hall _ _ _ hr hab (by decide) (by decide)⟩
  exact ((hone _ _ _ _ ha).resolve_left fun h => h.1 rfl).2

end Desktop
end DeskShell

import DeskShell.Proofs.Answers
import DeskShell.Proofs.HalfMoves
import DeskShell.Proofs.Leads

/-!
# What a successful move does

A plan of `mv` is a move, or a move and a rename in one of the two orders. When it is carried out,
the order no longer shows.

* `Store.moved`: where a move takes an entry. `Store.of_move_eq_ok`: a move that is not refused does
  that.
* `Store.Relocated`: an entry at its new place, and what else is then different.
* `Builtin.MovePlan.store_of_act`: the store that a plan leaves, in whichever order.
  `Builtin.MovePlan.act_place_iff`: when a plan can be carried out.
* `Builtin.exists_act_of_mv`: exit code 0 means that a plan was carried out, as faults of a plan are
  reported (`Builtin.MovePlan.expected_of_act`).
* `Session.Goal`: what the second path asks for. `Builtin.mv_relocates`: an `mv` that succeeds has
  done it, and nothing else.
-/
namespace DeskShell

open Relation (TransGen)

variable {C : Type} {s t : Store} {σ τ υ : Session C} {f : Fault}

/-! ## Faults of a file system in use -/

/-- Whatever stops the operation belongs to the normal use of a file system. -/
def Edit.Ordinary {α : Type} (x : Edit α) : Prop := ∀ s f t, x s = .error f t → f.isExpected = true

theorem Sure.ordinary {α : Type} {x : Edit α} (hx : Sure x) : x.Ordinary := by
  intro s f t h
  obtain ⟨a, u, hu⟩ := hx s
  rw [hu] at h
  cases h

namespace Edit

variable {α β : Type}

theorem Ordinary.bind {x : Edit α} {g : α → Edit β} (hx : x.Ordinary) (hg : ∀ a, (g a).Ordinary) :
    (x >>= g).Ordinary := by
  intro s f t h
  simp only [Bind.bind, EStateM.bind] at h
  cases hres : x s with
  | ok a u =>
    rw [hres] at h
    exact hg a u f t h
  | error e u =>
    rw [hres] at h
    cases h
    exact hx s f t hres

theorem ordinary_ask {q : Store → Except Fault α}
    (hq : ∀ s f, q s = .error f → f.isExpected = true) : (ask q).Ordinary := by
  intro s f t h
  unfold ask at h
  cases hres : q s with
  | ok a =>
    rw [hres] at h
    cases h
  | error e =>
    rw [hres] at h
    cases h
    exact hq s f hres

theorem ordinary_check {fault : Fault} (hfault : fault.isExpected = true) (p : Store → Bool) :
    (check fault p).Ordinary := by
  intro s f t h
  unfold check at h
  split at h
  · cases h
  · cases h
    exact hfault

end Edit

namespace Store

open Edit (ordinary_ask ordinary_check sure_apply ask_bind_ok ask_bind_of_ok check_bind_of_true)

theorem expected_of_require {id : String} (s : Store) (f : Fault) (h : s.require id = .error f) :
    f.isExpected = true := by
  unfold require at h
  split at h
  · cases h
  · cases h
    rfl

theorem expected_of_walk {id : String} (s : Store) (f : Fault) (h : s.walk id = .error f) :
    f.isExpected = true := by
  unfold walk at h
  cases hid : s.require id with
  | ok n =>
    rw [hid] at h
    cases h
  | error e =>
    rw [hid] at h
    cases h
    exact expected_of_require s f hid

theorem ordinary_rename (id name : String) : (rename id name).Ordinary := by
  have hwrite : ∀ old : String, Edit.Ordinary (do
      Edit.apply (·.adjust id fun n => { n with name := name })
      return old) :=
    fun old => ((sure_apply _).bind fun _ => sure_pure old).ordinary
  unfold rename guardSystem
  refine (ordinary_ask expected_of_require).bind fun n => (ordinary_check rfl _).bind fun _ =>
    (sure_askOk _).ordinary.bind fun parent => ?_
  split
  · exact hwrite n.name
  · exact (ordinary_check rfl _).bind fun _ => hwrite n.name

theorem ordinary_move (id target : String) : (move id target).Ordinary := by
  unfold move guardSystem
  refine (ordinary_ask expected_of_require).bind fun n => (ordinary_check rfl _).bind fun _ =>
    (ordinary_ask expected_of_require).bind fun folder => ?_
  split
  · exact (sure_pure _).ordinary
  · refine (ordinary_check rfl _).bind fun _ => (ordinary_ask expected_of_walk).bind fun below =>
      (ordinary_check rfl _).bind fun _ => (sure_askOk _).ordinary.bind fun parent => ?_
    split
    · exact (sure_pure _).ordinary
    · split
      · exact (sure_pure _).ordinary
      · refine (ordinary_check rfl _).bind fun _ => Sure.ordinary ?_
        exact (sure_apply _).bind fun _ => sure_pure _

/-! ## Where an entry goes -/

/-- The store after `id` has gone to the end of the folder `target`. It stays where it is when that
is the entry itself or the folder in which it is, and when it is in none. -/
def moved (s : Store) (id target : String) : Store :=
  if id = target then s
  else
    match (s.parent? id).map (·.id) with
    | none => s
    | some p =>
      if p = target then s
      else (s.adjust p (Node.dropChild id)).adjust target (Node.pushChild id)

/-- An entry with a list of children is stored under `id`. -/
def HasList (s : Store) (id : String) : Prop := ∃ n, s.get? id = some n ∧ n.children.isSome

/-- The entry `n` is let into `target`: into itself, which is nothing to be done, or into an entry
with a list of children that no walk from `n` meets. -/
def Receives (s : Store) (n : Node) (target : String) : Prop :=
  n.id = target ∨ s.HasList target ∧ ¬ s.Inside n target

/-- What a move that is not refused has found and done. -/
theorem of_move_eq_ok {id target : String} {left : Option String}
    (h : move id target s = .ok left t) :
    ∃ n, s.get? id = some n ∧ s.Receives n target ∧ t = s.moved id target := by
  let Q : EStateM.Result Fault Store (Option String) → Prop := fun result =>
    ∀ left t, result = .ok left t →
      ∃ n, s.get? id = some n ∧ s.Receives n target ∧ t = s.moved id target
  have hfault : ∀ f, Q (.error f s) := fun f left t h => by cases h
  suffices hQ : Q (move id target s) from hQ left t h
  unfold move guardSystem
  refine Edit.ask_bind hfault fun n hn => Edit.check_bind (hfault _) fun _ =>
    Edit.ask_bind hfault fun folder ht => ?_
  have hn := require_eq_ok.mp hn
  split
  · next heq =>
    rintro _ _ ⟨⟩
    exact ⟨n, hn, .inl ((id_of_get? hn).trans heq), by rw [moved, if_pos heq]⟩
  · next hne =>
    refine Edit.check_bind (hfault _) fun hk => Edit.ask_bind hfault fun below hbelow =>
      Edit.check_bind (hfault _) fun hout => ?_
    have hreceives : s.Receives n target := by
      refine .inr ⟨⟨folder, require_eq_ok.mp ht, hk⟩, ?_⟩
      rintro ⟨-, m, hm, hid⟩
      rw [walk_eq_ok hn] at hbelow
      obtain rfl := Except.ok.inj hbelow
      have hany : (s.walkFrom s.nodes.length n).any (·.id == target) = true :=
        List.any_eq_true.mpr ⟨m, hm, by simpa using hid⟩
      simp [hany] at hout
    rw [ask_bind_ok]
    cases hp : s.parent? id with
    | none =>
      rintro _ _ ⟨⟩
      exact ⟨n, hn, hreceives, by rw [moved, if_neg hne, hp, Option.map_none]⟩
    | some p =>
      dsimp only
      split
      · next hpt =>
        rintro _ _ ⟨⟩
        exact ⟨n, hn, hreceives, by simp [moved, hne, hp, hpt]⟩
      · next hpt =>
        refine Edit.check_bind (hfault _) fun _ => ?_
        rintro _ _ ⟨⟩
        exact ⟨n, hn, hreceives, by simp [moved, hne, hp, hpt]⟩

/-- A walk from an entry meets below it what is reached through containers. -/
theorem inside_iff (F : Forest s) {n : Node} (hn : s.get? n.id = some n) (target : String) :
    s.Inside n target ↔ TransGen s.Opens n.id target := by
  constructor
  · rintro ⟨hne, m, hm, rfl⟩
    have hreached := opens_of_mem_walkFrom _ n hn hm
    exact (Relation.reflTransGen_iff_eq_or_transGen.mp hreached).resolve_left (Ne.symm hne)
  · intro h
    refine ⟨fun hid => ?_, F.exists_mem_walk hn h⟩
    subst hid
    exact F.acyclic _ (below_of_opens h)

theorem look_moved (id target x : String) : (s.moved id target).look x = s.look x := by
  unfold moved
  split
  · rfl
  · split
    · rfl
    · split
      · rfl
      · exact look_rehang _ target id x

theorem move_self {n : Node} (hn : s.get? n.id = some n) (hsys : n.isSystem = false) :
    move n.id n.id s = .ok none s := by
  unfold move guardSystem
  rw [ask_bind_of_ok (require_eq_ok.mpr hn), check_bind_of_true (by simp [hsys]),
    ask_bind_of_ok (require_eq_ok.mpr hn), if_pos rfl]
  rfl

/-- An entry that has been let into a folder can have there each name that no other child of the
folder has, and where it stays as it is each name that is free for it. -/
theorem nameFree_moved (T : Tidy s) {n : Node} {target name : String}
    (hn : s.get? n.id = some n) (hreceives : s.Receives n target)
    (hother : ∀ m, s.childNamed target name = some m → m.id = n.id)
    (hself : target = n.id → s.NameFree n.id name) :
    (s.moved n.id target).NameFree n.id name := by
  unfold moved
  split
  · next heq => exact hself heq.symm
  · next hne =>
    obtain ⟨⟨folder, ht, hk⟩, -⟩ := hreceives.resolve_left hne
    cases hp : s.parent? n.id with
    | none =>
      intro p m hp'
      cases hp.symm.trans hp'
    | some p =>
      dsimp only [Option.map_some]
      split
      · next hpt =>
        intro q m hq hm
        obtain rfl := Option.some.inj (hp.symm.trans hq)
        exact hother m (hpt ▸ hm)
      · next hpt =>
        obtain ⟨hpg, hpc⟩ := T.parent?_eq_some_iff.mp hp
        refine nameFree_rehang T hn ht hk hp ?_
        cases hm : s.childNamed target name with
        | none => rfl
        | some m =>
          -- The only such child would be the entry itself, which is in another folder.
          have hl := (childNamed_eq_some hm).1
          rw [hother m hm] at hl
          exact absurd (T.parent_unique ⟨p, hpg, hpc⟩ hl) hpt

/-! ## Moves and renames in either order -/

theorem adjust_comm {a b : String} {f g : Node → Node} (hf : ∀ n, (f n).id = n.id)
    (hg : ∀ n, (g n).id = n.id) (hfg : ∀ n, f (g n) = g (f n)) :
    (s.adjust a f).adjust b g = (s.adjust b g).adjust a f := by
  simp only [adjust, List.map_map]
  congr 1
  refine List.map_congr_left fun n _ => ?_
  cases ha : n.id == a <;> cases hb : n.id == b <;>
    simp only [Function.comp_apply, ha, hb, hf, hg, hfg, if_true, Bool.false_eq_true, if_false]

/-- It makes no difference whether a name is given before the move or after it. -/
theorem moved_rename (id target c name : String) :
    (s.moved id target).adjust c (fun n => { n with name := name }) =
      (s.adjust c fun n => { n with name := name }).moved id target := by
  let rename (n : Node) : Node := { n with name := name }
  change (s.moved id target).adjust c rename = (s.adjust c rename).moved id target
  have hparent : ((s.adjust c rename).parent? id).map (·.id) = (s.parent? id).map (·.id) :=
    Fixed.parent_adjust (fun _ => rfl) fun _ => rfl
  unfold moved
  rw [hparent]
  split
  · rfl
  · split
    · rfl
    · split
      · rfl
      · rw [adjust_comm (f := Node.pushChild id) (g := rename) (Node.id_pushChild id)
            (fun _ => rfl) fun _ => rfl,
          adjust_comm (f := Node.dropChild id) (g := rename) (Node.id_dropChild id)
            (fun _ => rfl) fun _ => rfl]

theorem adjust_name_self (hd : s.IdsDistinct) {n : Node} (hn : s.get? n.id = some n) :
    (s.adjust n.id fun m => { m with name := n.name }) = s :=
  hd.adjust_of_get? hn rfl

/-! ## An entry at its new place -/

/-- `t` is `s` with the entry `n` under the name `name` in the folder `folder`: at the end of its
children, and gone from those of `p`, or at the old place among them when `p` is that folder. Nothing
else is different. -/
structure Relocated (s t : Store) (n p : Node) (folder name : String) : Prop where
  frame : t = { s with nodes := t.nodes }
  ids : t.nodes.map (·.id) = s.nodes.map (·.id)
  entry : t.get? n.id = some { n with name := name }
  parent : (t.parent? n.id).map (·.id) = some folder
  kept : p.id = folder → t.get? p.id = some p
  left : p.id ≠ folder → t.get? p.id = some (p.dropChild n.id)
  entered : p.id ≠ folder → ∃ dir, s.get? folder = some dir ∧ dir.children.isSome ∧
    t.get? folder = some (dir.pushChild n.id)
  others : ∀ x, x ≠ n.id → x ≠ p.id → x ≠ folder → t.get? x = s.get? x

/-- A new name leaves every entry in its folder. -/
theorem parent_rename (id name x : String) :
    ((s.adjust id fun n => { n with name := name }).parent? x).map (·.id) =
      (s.parent? x).map (·.id) :=
  Fixed.parent_adjust (f := fun n => { n with name := name }) (fun _ => rfl) fun _ => rfl

theorem get?_rename (id name x : String) :
    (s.adjust id fun n => { n with name := name }).get? x =
      if x = id then (s.get? id).map fun n => { n with name := name } else s.get? x :=
  get?_adjust s id (fun n => { n with name := name }) (fun _ => rfl) x

theorem get?_rehang {c p q : String} {m dir : Node} (hp : s.get? p = some m)
    (hq : s.get? q = some dir) (hne : p ≠ q) (x : String) :
    ((s.adjust p (Node.dropChild c)).adjust q (Node.pushChild c)).get? x =
      if x = q then some (dir.pushChild c)
      else if x = p then some (m.dropChild c) else s.get? x := by
  rw [get?_adjust _ q _ (Node.id_pushChild c), get?_adjust _ p _ (Node.id_dropChild c),
    get?_adjust _ p _ (Node.id_dropChild c), if_neg hne.symm, hq, hp, Option.map_some,
    Option.map_some]

section Relocated

variable (F : Forest s) {n p : Node} {folder name : String} (hn : s.get? n.id = some n)
  (hp : s.parent? n.id = some p)

include F hn hp

theorem relocated_same : Relocated s (s.adjust n.id fun m => { m with name := name }) n p p.id
    name := by
  obtain ⟨hpg, hpc⟩ := F.parent?_eq_some_iff.mp hp
  have hpn : p.id ≠ n.id := fun h => F.acyclic n.id (.single ⟨p, h ▸ hpg, hpc⟩)
  refine ⟨rfl, map_id_adjust fun _ => rfl, ?_, ?_, fun _ => ?_, fun h => absurd rfl h,
    fun h => absurd rfl h, fun x hx _ _ => ?_⟩
  · rw [get?_rename, if_pos rfl, hn, Option.map_some]
  · rw [parent_rename, hp, Option.map_some]
  · rw [get?_rename, if_neg hpn, hpg]
  · rw [get?_rename, if_neg hx]

/-- The entry is at its new place: another folder, or the old one under the new name. -/
theorem relocated_moved (hne : folder ≠ n.id) (hlist : s.HasList folder) : Relocated s
    ((s.adjust n.id fun m => { m with name := name }).moved n.id folder) n p folder name := by
  obtain ⟨hpg, hpc⟩ := F.parent?_eq_some_iff.mp hp
  have hsame : Relocated s (s.adjust n.id fun m => { m with name := name }) n p p.id name :=
    relocated_same F hn hp
  have hT : Tidy (s.adjust n.id fun m => { m with name := name }) :=
    F.tidy.adjust (f := fun m => { m with name := name }) (fun _ => rfl) fun _ => rfl
  have hdir := get?_rename (s := s) n.id name folder
  generalize (s.adjust n.id fun m => { m with name := name }) = u at hsame hT hdir ⊢
  unfold moved
  rw [if_neg hne.symm, hsame.parent]
  dsimp only
  split
  · next hpf => exact hpf ▸ hsame
  · next hpf =>
    obtain ⟨dir, hstored, hk⟩ := hlist
    rw [if_neg hne, hstored] at hdir
    have hpn : p.id ≠ n.id := fun h => F.acyclic n.id (.single ⟨p, h ▸ hpg, hpc⟩)
    have hpu := hsame.kept rfl
    have hget := get?_rehang (c := n.id) hpu hdir hpf
    have hT' := hT.rehang hsame.entry hpu hdir hk fun a ha => hT.parent_unique ha ⟨p, hpu, hpc⟩
    refine ⟨?_, ?_, ?_, ?_, fun h => absurd h hpf, fun _ => ?_, fun _ => ⟨dir, hstored, hk, ?_⟩,
      fun x hxn hxp hxf => ?_⟩
    · rw [hsame.frame]
      rfl
    · rw [map_id_adjust (Node.id_pushChild n.id), map_id_adjust (Node.id_dropChild n.id),
        hsame.ids]
    · rw [hget, if_neg hne.symm, if_neg hpn.symm, hsame.entry]
    · have hq := (hget folder).trans (if_pos rfl)
      rw [hT'.parent?_of_lists hq (by rw [Node.childIds_pushChild hk]; simp), Option.map_some,
        id_of_get? hq]
    · rw [hget, if_neg hpf, if_pos rfl]
    · rw [hget, if_pos rfl]
    · rw [hget, if_neg hxf, if_neg hxp, hsame.others x hxn hxp hxp]

end Relocated

end Store

/-! ## Plans that are carried out -/

theorem Run.of_move_eq_ok {id target : String} (h : Run.move id target σ = .ok () τ) :
    ∃ left, Store.move id target σ.store = .ok left τ.store := by
  cases hmove : Store.move id target σ.store with
  | error g u =>
    rw [move_of_error hmove] at h
    cases h
  | ok left u =>
    obtain ⟨notes, hok, -⟩ := move_of_ok hmove
    rw [hok] at h
    obtain ⟨-, rfl⟩ := EStateM.Result.ok.inj h
    exact ⟨left, rfl⟩

theorem Run.of_rename_eq_ok {id name : String} (h : Run.rename id name σ = .ok () τ) :
    ∃ n, σ.store.get? id = some n ∧ σ.store.NameFree id name ∧ τ = σ.renamed n name := by
  rcases Store.rename_cases id name σ.store with ⟨g, hg⟩ | ⟨n, hn, hfree, hg⟩
  · simp only [rename, bind, EStateM.bind, edit, hg] at h
    cases h
  · rw [rename_of_ok hg] at h
    obtain ⟨-, rfl⟩ := EStateM.Result.ok.inj h
    obtain rfl := Store.id_of_get? hn
    exact ⟨n, hn, hfree, rfl⟩

theorem Run.bind_of_ok {α β : Type} {x : Run C α} {g : α → Run C β} {a : α} {b : β}
    (hx : x σ = .ok a υ) (hg : g a υ = .ok b τ) : (x >>= g) σ = .ok b τ := by
  simp only [bind, EStateM.bind, hx, hg]

namespace Builtin.MovePlan

open Store

/-- The folder into which an entry is to come. -/
def folder : MovePlan → String
  | into folder => folder
  | place folder _ _ => folder

/-- The name that `n` is to have there. -/
def nameFor (n : Node) : MovePlan → String
  | into _ => n.name
  | place _ name _ => name

variable {n : Node} {plan : MovePlan}

theorem hasList_renamed {target name : String} (h : (σ.renamed n name).store.HasList target) :
    σ.store.HasList target := by
  obtain ⟨m, hm, hk⟩ := h
  rw [Session.get?_renamed] at hm
  split at hm
  · next heq =>
    obtain ⟨m', hm', rfl⟩ := Option.map_eq_some_iff.mp hm
    exact ⟨m', heq ▸ hm', hk⟩
  · exact ⟨m, hm, hk⟩

/-- What a plan that is carried out has done, in whichever order. -/
theorem store_of_act (hd : σ.store.IdsDistinct) (hn : σ.store.get? n.id = some n)
    (h : plan.act n.id σ = .ok () τ) : σ.store.Receives n plan.folder ∧ τ.store =
      (σ.store.adjust n.id fun m => { m with name := plan.nameFor n }).moved n.id plan.folder := by
  cases plan with
  | into folder =>
    obtain ⟨left, hmove⟩ := Run.of_move_eq_ok h
    obtain ⟨m, hm, hreceives, hstore⟩ := of_move_eq_ok hmove
    obtain rfl := Option.some.inj (hn.symm.trans hm)
    refine ⟨hreceives, hstore.trans ?_⟩
    rw [nameFor, adjust_name_self hd hn]
    rfl
  | place folder name first =>
    cases first with
    | false =>
      obtain ⟨_, υ, hmove, hrename⟩ := Engine.bind_eq_ok h
      obtain ⟨left, hmove⟩ := Run.of_move_eq_ok hmove
      obtain ⟨m, hm, hreceives, hstore⟩ := of_move_eq_ok hmove
      obtain rfl := Option.some.inj (hn.symm.trans hm)
      obtain ⟨k, hk, -, rfl⟩ := Run.of_rename_eq_ok hrename
      refine ⟨hreceives, ?_⟩
      rw [← moved_rename]
      unfold Session.renamed
      rw [hstore, id_of_get? hk]
      rfl
    | true =>
      obtain ⟨_, υ, hrename, hmove⟩ := Engine.bind_eq_ok h
      obtain ⟨m, hm, -, rfl⟩ := Run.of_rename_eq_ok hrename
      obtain rfl := Option.some.inj (hn.symm.trans hm)
      obtain ⟨left, hmove⟩ := Run.of_move_eq_ok hmove
      obtain ⟨k, hk, hreceives, hstore⟩ := of_move_eq_ok hmove
      obtain rfl := Option.some.inj ((Session.get?_renamed_self hn name).symm.trans hk)
      refine ⟨hreceives.imp id ?_, hstore⟩
      rintro ⟨hlist, hout⟩
      exact ⟨hasList_renamed hlist, fun h => hout (inside_rename.mpr h)⟩

/-- A move that comes first leaves the name free, so that the rename succeeds too. -/
theorem exists_act_move_first (T : Tidy σ.store) (hn : σ.store.get? n.id = some n)
    (hsys : n.isSystem = false) {folder name : String}
    (hfits : (place folder name false).Fits σ.store n) (hreceives : σ.store.Receives n folder)
    (hself : folder = n.id → σ.store.NameFree n.id name) :
    ∃ τ, (place folder name false).act n.id σ = .ok () τ := by
  obtain ⟨left, t, hmove⟩ : ∃ left t, Store.move n.id folder σ.store = .ok left t := by
    rcases hreceives with rfl | ⟨⟨dir, hdir, hk⟩, hout⟩
    · exact ⟨none, _, move_self hn hsys⟩
    · refine Store.exists_move hn hsys hdir hk hout fun p hp hne => ?_
      obtain ⟨hpg, hpc⟩ := T.parent?_eq_some_iff.mp hp
      exact childNamed_of_not_other hfits.2 fun h => hne (T.parent_unique ⟨p, hpg, hpc⟩ h)
  obtain ⟨-, -, -, rfl⟩ := of_move_eq_ok hmove
  have hfree : (σ.store.moved n.id folder).NameFree n.id name := by
    refine nameFree_moved T hn hreceives (fun m hm => ?_) hself
    have hother := hfits.1
    rw [hm] at hother
    simpa [isOther] using hother
  obtain ⟨m, hm, -, hkind, -⟩ := get?_of_look (look_moved n.id folder n.id).symm hn
  have hmsys : m.isSystem = false := by
    unfold Node.isSystem at hsys ⊢
    rw [hkind, hsys]
  obtain ⟨notes, hmove, -⟩ := Run.move_of_ok hmove
  have hrename := Run.rename_of_ok (σ := { σ with store := σ.store.moved n.id folder, notes := notes })
    (Store.rename_eq_ok hm hmsys hfree)
  exact ⟨_, Run.bind_of_ok hmove hrename⟩

/-- A rename that comes first does not change whether the folder lets the entry in. -/
theorem exists_act_rename_first (T : Tidy σ.store) (hn : σ.store.get? n.id = some n)
    (hsys : n.isSystem = false) {folder name : String}
    (hfits : (place folder name true).Fits σ.store n) (hreceives : σ.store.Receives n folder)
    (hfree : σ.store.NameFree n.id name) :
    ∃ τ, (place folder name true).act n.id σ = .ok () τ := by
  have hrename : Run.rename n.id name σ = .ok () (σ.renamed n name) :=
    Run.rename_of_ok (Store.rename_eq_ok hn hsys hfree)
  obtain ⟨left, t, hmove⟩ :
      ∃ left t, Store.move n.id folder (σ.renamed n name).store = .ok left t := by
    rcases hreceives with rfl | ⟨-, hout⟩
    · exact ⟨none, _, move_self (n := { n with name := name })
        (Session.get?_renamed_self hn name) hsys⟩
    · obtain ⟨dir, hdir, hk⟩ := exists_folder_renamed hfits
      exact exists_move_renamed T hn hsys hdir hk hfits.1 hout
  obtain ⟨notes, hmove, -⟩ := Run.move_of_ok hmove
  exact ⟨_, Run.bind_of_ok hrename hmove⟩

/-- A new place and name are given exactly when the folder lets the entry in and, where the rename
is made at the old place, the name is free there. -/
theorem act_place_iff (T : Tidy σ.store) (hn : σ.store.get? n.id = some n)
    (hsys : n.isSystem = false) {folder name : String} {first : Bool}
    (hfits : (place folder name first).Fits σ.store n) :
    (∃ τ, (place folder name first).act n.id σ = .ok () τ) ↔ σ.store.Receives n folder ∧
      (first = true ∨ folder = n.id → σ.store.NameFree n.id name) := by
  constructor
  · rintro ⟨τ, h⟩
    refine ⟨(store_of_act T.distinct hn h).1, ?_⟩
    cases first with
    | false =>
      rintro (hfirst | rfl)
      · cases hfirst
      · obtain ⟨_, υ, hmove, hrename⟩ := Engine.bind_eq_ok h
        obtain ⟨left, hmove⟩ := Run.of_move_eq_ok hmove
        rw [move_self hn hsys] at hmove
        obtain ⟨-, hstore⟩ := EStateM.Result.ok.inj hmove
        obtain ⟨-, -, hfree, -⟩ := Run.of_rename_eq_ok hrename
        exact hstore ▸ hfree
    | true =>
      intro _
      obtain ⟨_, υ, hrename, -⟩ := Engine.bind_eq_ok h
      obtain ⟨-, -, hfree, -⟩ := Run.of_rename_eq_ok hrename
      exact hfree
  · rintro ⟨hreceives, hfree⟩
    cases first with
    | false => exact exists_act_move_first T hn hsys hfits hreceives fun h => hfree (.inr h)
    | true => exact exists_act_rename_first T hn hsys hfits hreceives (hfree (.inl rfl))

/-- A plan is stopped by nothing but what belongs to the normal use of a file system. -/
theorem expected_of_act (h : plan.act n.id σ = .error f τ) : f.isExpected = true := by
  have hmove : ∀ folder υ, Run.move n.id folder υ = .error f τ → f.isExpected = true := by
    intro folder υ h
    have h := error_of_bind_sure (fun left => Run.sure_noteMoved n.id folder left) h
    obtain ⟨s, hs, -⟩ := Run.error_of_edit h
    exact ordinary_move _ _ _ _ _ hs
  have hrename : ∀ name υ, Run.rename n.id name υ = .error f τ → f.isExpected = true := by
    intro name υ h
    have h := error_of_bind_sure (fun _ => Run.sure_note _) h
    obtain ⟨s, hs, -⟩ := Run.error_of_edit h
    exact ordinary_rename _ _ _ _ _ hs
  cases plan with
  | into folder => exact hmove folder σ h
  | place folder name first =>
    cases first with
    | false =>
      rcases Engine.bind_eq_error h with h | ⟨_, υ, -, h⟩
      · exact hmove folder σ h
      · exact hrename name υ h
    | true =>
      rcases Engine.bind_eq_error h with h | ⟨_, υ, -, h⟩
      · exact hrename name σ h
      · exact hmove folder υ h

theorem perform_of_ok {id source dest : String} (h : plan.act id σ = .ok () τ) :
    plan.perform id source dest σ = .ok .done τ := by
  simp only [perform, bind, EStateM.bind, Run.attempt, h]
  rfl

theorem perform_of_error {source dest : String} (h : plan.act n.id σ = .error f τ) :
    plan.perform n.id source dest σ = .ok (.failure (refusal source dest f.message)) τ := by
  simp only [perform, bind, EStateM.bind, Run.attempt, h, expected_of_act h, if_true]
  rfl

/-- What is found out about the source of a move whose path leads to `n`. -/
theorem sourceOf_of_resolveNode {source : String} {place : Session.Place}
    (h : σ.resolveNode (some source) = .ok (some (place, some n))) :
    sourceOf source σ = if n.isSystem then
      Inquiry.fail s!"mv: cannot move '{source}': Permission denied" else .ok n := by
  simp only [sourceOf, Session.locate, h]
  rfl

/-- A path that leads to nothing, or to the entry that is to be moved when that is no container,
stands for a new place and name. -/
theorem ofPaths_eq_placeFor {source dest : String} {found : Option (Session.Place × Option Node)}
    (h : σ.resolveNode (some dest) = .ok found)
    (hd : ∀ d ∈ found.bind (·.2), d.isContainer = false ∧ d.id = n.id) :
    ofPaths n source dest σ = placeFor n source dest σ := by
  simp only [ofPaths, h, Inquiry.lift, bind, Except.bind]
  cases hfound : found.bind (·.2) with
  | none => rfl
  | some d =>
    obtain ⟨hcont, hid⟩ := hd d hfound
    simp [hcont, hid]

theorem placeFor_nameless {source dest folder : String}
    (hparent : σ.resolveParent dest = .ok (some folder, "")) : placeFor n source dest σ =
      Inquiry.fail (refusal source dest "No such file or directory") := by
  simp only [placeFor, hparent, Inquiry.lift, bind, Except.bind, if_true]

theorem placeFor_eq_place {source dest folder name : String}
    (hparent : σ.resolveParent dest = .ok (some folder, name)) (hname : name ≠ "")
    (hother : isOther (σ.store.childNamed folder name) n.id = false) :
    placeFor n source dest σ =
      .ok (.place folder name (isOther (σ.store.childNamed folder n.name) n.id)) := by
  simp only [placeFor, hparent, Inquiry.lift, bind, Except.bind, hname, if_false, hother,
    Bool.false_eq_true]
  rfl

end Builtin.MovePlan

/-! ## The command -/

/-- The last name on a path is the last of its segments. -/
theorem Path.getLast?_segments {path : String} (h : (Path.splitParent path).2 ≠ "") :
    (Path.segments (Path.normalize path)).getLast? = some (Path.splitParent path).2 := by
  obtain ⟨name, k, hne, hmem, ⟨hpath, hsplit⟩ | ⟨head, hpath, hsplit⟩⟩ := Path.splitParent_cases path h
  · rw [← String.ofList_toList (s := Path.normalize path), hpath, Path.segments_name hmem hne, hsplit]
    rfl
  · rw [← String.ofList_toList (s := Path.normalize path), hpath, Path.segments_append_sep,
      Path.segments_name hmem hne, hsplit, List.getLast?_concat]

theorem Session.resolveNode_of_resolve {path : Option String} {place : Session.Place} {n : Node}
    (h : σ.resolve path = .ok (some place)) (hn : σ.store.get? place.id = some n) :
    σ.resolveNode path = .ok (some (place, some n)) := by
  simp only [resolveNode, h, hn]

theorem Session.get?_of_resolveNode {path : Option String} {place : Session.Place} {n : Node}
    (h : σ.resolveNode path = .ok (some (place, some n))) : σ.store.get? n.id = some n := by
  have hget := (resolveNode_eq_ok h).2
  rw [Store.id_of_get? hget.symm, ← hget]

/-- What the path `dest` asks for when `n` is moved: to come into the container to which it leads,
under the old name, or else to be the last segment of the path in the folder part of it. -/
inductive Session.Goal (σ : Session C) (n : Node) (dest : String) : String → String → Prop
  | into {place : Session.Place} {d : Node}
      (found : σ.resolveNode (some dest) = .ok (some (place, some d)))
      (container : d.isContainer = true) : Goal σ n dest d.id n.name
  | place {folder word name : String}
      (none : ∀ place d, σ.resolveNode (some dest) = .ok (some (place, some d)) →
        d.isContainer = false)
      (parent : σ.resolveParent dest = .ok (some folder, word))
      (last : (Path.segments (Path.normalize dest)).getLast? = some name) :
      Goal σ n dest folder name

namespace Builtin

open MovePlan (sourceOf ofPaths)

variable {args rest : List String} {source dest folder name : String} {n p : Node} {r : Result}

theorem MovePlan.goal_eq {plan : MovePlan} (h : ofPaths n source dest σ = .ok plan)
    (hgoal : σ.Goal n dest folder name) : plan.folder = folder ∧ plan.nameFor n = name := by
  rcases cases_of_ofPaths h with ⟨place, d, hd, hcont, rfl⟩ |
    ⟨hnone, folder', word, hparent, hword, -, rfl⟩
  · cases hgoal with
    | into hd' _ =>
      rw [hd] at hd'
      obtain ⟨-, hd'⟩ := Prod.mk.inj (Option.some.inj (Except.ok.inj hd'))
      obtain rfl := Option.some.inj hd'
      exact ⟨rfl, rfl⟩
    | place hnone =>
      rw [hnone place d hd] at hcont
      cases hcont
  · cases hgoal with
    | into hd hcont =>
      rw [hnone _ _ hd] at hcont
      cases hcont
    | place _ hparent' hlast =>
      rw [hparent] at hparent'
      obtain ⟨hfolder, -⟩ := Prod.mk.inj (Except.ok.inj hparent')
      obtain rfl := Option.some.inj hfolder
      have hname := Session.name_of_resolveParent hparent
      rw [Path.getLast?_segments (hname ▸ hword), ← hname] at hlast
      exact ⟨rfl, Option.some.inj hlast⟩

/-- An `mv` that has found no plan ends with the result that says why. -/
theorem mv_of_stop (hargs : (Args.parse args).operands = source :: dest :: rest)
    (h : sourceOf source σ = .error (.result r) ∨
      ∃ n, sourceOf source σ = .ok n ∧ ofPaths n source dest σ = .error (.result r)) :
    mv args σ = .ok r σ := by
  unfold mv
  rcases h with h | ⟨n, hsource, hplan⟩
  · simp only [hargs, Inquiry.andThen, h, bind, Except.bind]
  · simp only [hargs, Inquiry.andThen, hsource, hplan, bind, Except.bind]

/-- An `mv` that ends with exit code 0 has carried out its plan. -/
theorem exists_act_of_mv (hargs : (Args.parse args).operands = source :: dest :: rest)
    (h : mv args σ = .ok r τ) (hcode : r.exitCode = 0) :
    ∃ n plan, sourceOf source σ = .ok n ∧ ofPaths n source dest σ = .ok plan ∧
      plan.act n.id σ = .ok () τ := by
  let failed (r : Result) : Prop := r.exitCode ≠ 0
  have hfailed : ∀ message, failed (.failure message) := fun _ =>
    (by decide : (1 : Int) ≠ 0)
  have hends : Inquiry.Ends failed (do
      let n ← sourceOf source σ
      return (n.id, ← ofPaths n source dest σ) : Inquiry (String × MovePlan)) :=
    (MovePlan.ends_sourceOf hfailed _).bind fun _ =>
      (MovePlan.ends_ofPaths hfailed _ _ _).bind fun _ => .found trivial
  unfold mv at h
  simp only [hargs, Inquiry.andThen] at h
  cases hfound : (do
      let n ← sourceOf source σ
      return (n.id, ← ofPaths n source dest σ) : Inquiry (String × MovePlan)) with
  | error stop =>
    rw [hfound] at h hends
    cases hends with
    | ended hr =>
      obtain ⟨rfl, -⟩ := EStateM.Result.ok.inj h
      exact absurd hcode hr
    | fault f => cases h
  | ok found =>
    rw [hfound] at h
    obtain ⟨n, hsource, hfound⟩ := Inquiry.bind_eq_ok hfound
    obtain ⟨plan, hplan, hfound⟩ := Inquiry.bind_eq_ok hfound
    obtain rfl := Except.ok.inj hfound
    refine ⟨n, plan, hsource, hplan, ?_⟩
    dsimp only at h
    cases hact : plan.act n.id σ with
    | ok a υ =>
      rw [MovePlan.perform_of_ok hact] at h
      obtain ⟨-, rfl⟩ := EStateM.Result.ok.inj h
      rfl
    | error g υ =>
      rw [MovePlan.perform_of_error hact] at h
      obtain ⟨rfl, -⟩ := EStateM.Result.ok.inj h
      cases hcode

/-- An `mv` that ends with exit code 0 takes the entry from its folder to the one that is asked for,
gives it the name that is asked for and changes nothing else, unless it is to come into itself. -/
theorem mv_relocates (F : Forest σ.store)
    (hargs : (Args.parse args).operands = source :: dest :: rest) {place : Session.Place}
    (hsource : σ.resolveNode (some source) = .ok (some (place, some n)))
    (hparent : σ.store.parent? n.id = some p) (hgoal : σ.Goal n dest folder name)
    (hne : folder ≠ n.id) (hmv : mv args σ = .ok r τ) (hcode : r.exitCode = 0) :
    σ.store.Relocated τ.store n p folder name := by
  obtain ⟨m, plan, hm, hplan, hact⟩ := exists_act_of_mv hargs hmv hcode
  rw [MovePlan.sourceOf_of_resolveNode hsource] at hm
  split at hm
  · cases hm
  · obtain rfl := Except.ok.inj hm
    obtain ⟨rfl, rfl⟩ := MovePlan.goal_eq hplan hgoal
    have hn := Session.get?_of_resolveNode hsource
    obtain ⟨hreceives, hstore⟩ := MovePlan.store_of_act F.distinct hn hact
    obtain ⟨hlist, -⟩ := hreceives.resolve_left hne.symm
    rw [hstore]
    exact Store.relocated_moved F hn hparent hne hlist

end Builtin

namespace Desktop

/-- A file goes to a folder in which another one has its old name, under a new name. -/
theorem mv_relocates_blocked : ∃ σ, session {} 0 (fun _ => .unset) = .ok σ ∧
    let τ := σ.play [⟨"mkdir s", 1⟩, ⟨"touch s/a a", 2⟩]
    ∃ n p r υ, τ.store.get? "file-3" = some n ∧ n.name = "a" ∧
      τ.store.parent? "file-3" = some p ∧ p.id = "desktop" ∧
      Builtin.mv ["a", "s/b"] τ = .ok r υ ∧ r.exitCode = 0 ∧
      τ.store.Relocated υ.store n p "file-1" "b" := by
  let ts : List Typed := [⟨"mkdir s", 1⟩, ⟨"touch s/a a", 2⟩]
  have hrun : (session {} 0 fun _ => .unset).map (fun σ =>
      let τ := σ.play ts
      (τ.resolve (some "a"), τ.resolve (some "s/b"), τ.resolveParent "s/b")) =
      .ok (.ok (some ⟨"file-3", "C:\\Desktop\\a"⟩), .ok none, .ok (some "file-1", "b")) := by
    decide +kernel
  have hmove : (session {} 0 fun _ => .unset).map (fun σ =>
      let τ := σ.play ts
      ((τ.store.get? "file-3").map (·.name), (τ.store.parent? "file-3").map (·.id),
        ((Builtin.mv ["a", "s/b"]).result? τ).map (·.exitCode))) =
      .ok (some "a", some "desktop", some 0) := by
    decide +kernel
  obtain ⟨σ, hσ, S⟩ := exists_play ts
  refine ⟨σ, hσ, ?_⟩
  have hrun := eq_of_session hσ hrun
  have hmove := eq_of_session hσ hmove
  dsimp only at hrun hmove ⊢
  generalize σ.play ts = τ at S hrun hmove ⊢
  simp only [Prod.mk.injEq] at hrun hmove
  obtain ⟨hsource, hdest, hfolder⟩ := hrun
  obtain ⟨hname, hp, hcode⟩ := hmove
  obtain ⟨n, hn, hname⟩ := Option.map_eq_some_iff.mp hname
  obtain ⟨p, hp, hpid⟩ := Option.map_eq_some_iff.mp hp
  obtain ⟨r, hr, hcode⟩ := Option.map_eq_some_iff.mp hcode
  have hmv := Run.eq_ok_of_result? hr
  have hfound := Session.resolveNode_of_resolve hsource hn
  refine ⟨n, p, r, _, hn, hname, hp, hpid, hmv, hcode, ?_⟩
  have hid := Store.id_of_get? hn
  have hgoal : τ.Goal n "s/b" "file-1" "b" := by
    refine .place (fun place d h => ?_) hfolder (by decide +kernel)
    simp [Session.resolveNode, hdest] at h
  have hne : "file-1" ≠ n.id := by
    rw [hid]
    decide
  rw [← hid] at hp
  exact Builtin.mv_relocates S.toForest rfl hfound hp hgoal hne hmv hcode

end Desktop
end DeskShell

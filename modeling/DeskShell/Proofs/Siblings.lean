import DeskShell.Proofs.Removals
import DeskShell.Proofs.Requests
import DeskShell.Proofs.WorkingFolder

/-!
# Names that tell siblings apart

The operations that make, rename and move an entry look first whether its folder has a child of that
name. Putting an entry into the recycle bin does not, so two entries of one name can meet there and
nowhere else.

* `Store.Apart`: the stored children of an entry have different names, in any case.
* `Store.Bears`: an entry has a child of a name; `Store.apart_iff` puts names in these terms.
* `Store.KeepsApart`: a change after which names tell siblings apart wherever they did before.
  `Store.ApartUnless` is the same but for two entries of one name that meet in the bin.
* `Store.Thins.keepsApart`, `Store.OnlyAt.apart`: taking entries out, and changes of one entry.
* `Store.Step.keepsApart`: the changes of a store, putting into the bin excepted.
* `Call.apartUnless_change`: what one call does to names. `Call.Doubles` are the calls that bring
  two entries of one name together.
* `Session.apart_exchanges_iff`: names along a row of calls.
-/
namespace DeskShell

variable {s t u : Store}

namespace Store

/-- The stored children of `p` have different names, in any case. -/
def Apart (s : Store) (p : String) : Prop := ((s.contents p).map fun n => Text.lower n.name).Nodup

instance (p : String) : Decidable (s.Apart p) := inferInstanceAs (Decidable (List.Nodup _))

/-- It is enough to look at the stored entries. -/
theorem forall_apart_of_nodes (h : ∀ n ∈ s.nodes, s.Apart n.id) (p : String) : s.Apart p := by
  cases hp : s.get? p with
  | none => simp [Apart, contents, hp]
  | some n => exact id_of_get? hp ▸ h n (mem_nodes_of_get? hp)

/-- The stored entry `c` has the name `name` in lower case. -/
def Called (s : Store) (c name : String) : Prop :=
  ∃ n, s.get? c = some n ∧ Text.lower n.name = name

/-- The entry `p` has the stored child `c`, whose name is `name` in lower case. -/
def Bears (s : Store) (p c name : String) : Prop := s.Lists p c ∧ s.Called c name

theorem called_iff_of_get? {c name : String} {n : Node} (hn : s.get? c = some n) :
    s.Called c name ↔ Text.lower n.name = name := by
  simp [Called, hn]

theorem called_of_look {c name : String} (hlook : t.look c = s.look c) (h : t.Called c name) :
    s.Called c name := by
  obtain ⟨n, hn, hname⟩ := h
  obtain ⟨m, hm, hmn, -⟩ := get?_of_look hlook hn
  exact ⟨m, hm, hmn ▸ hname⟩

theorem mem_contents_of_bears {p c name : String} (h : s.Bears p c name) :
    ∃ n ∈ s.contents p, n.id = c ∧ Text.lower n.name = name := by
  obtain ⟨hl, n, hn, hname⟩ := h
  obtain rfl := id_of_get? hn
  exact ⟨n, mem_contents.mpr ⟨hl, hn⟩, rfl, hname⟩

theorem bears_of_mem_contents {p : String} {n : Node} (h : n ∈ s.contents p) :
    s.Bears p n.id (Text.lower n.name) := by
  obtain ⟨hl, hn⟩ := mem_contents.mp h
  exact ⟨hl, n, hn, rfl⟩

theorem not_bears_of_childNamed {p name : String} (h : s.childNamed p name = none) (c : String) :
    ¬ s.Bears p c (Text.lower name) := by
  rintro ⟨hl, n, hn, hname⟩
  exact childNamed_eq_none_iff.mp h c n hl hn hname

theorem bears_of_childNamed {p name : String} {n : Node} (h : s.childNamed p name = some n) :
    s.Bears p n.id (Text.lower name) := by
  obtain ⟨hl, hn, hname⟩ := childNamed_eq_some h
  exact ⟨hl, n, hn, hname⟩

/-- Names tell siblings apart when two children of one name are one entry. -/
theorem apart_iff (T : Tidy s) {p : String} :
    s.Apart p ↔ ∀ c d name, s.Bears p c name → s.Bears p d name → c = d := by
  unfold Apart
  rw [List.nodup_map_iff_inj_on (T.nodup_contents p)]
  constructor
  · intro h c d name hc hd
    obtain ⟨m, hm, rfl, hmn⟩ := mem_contents_of_bears hc
    obtain ⟨n, hn, rfl, hnn⟩ := mem_contents_of_bears hd
    rw [h m hm n hn (hmn.trans hnn.symm)]
  · intro h m hm n hn hname
    have hn' := bears_of_mem_contents hn
    rw [← hname] at hn'
    have hid := h m.id n.id _ (bears_of_mem_contents hm) hn'
    have hget := (mem_contents.mp hm).2
    rw [hid, (mem_contents.mp hn).2] at hget
    exact (Option.some.inj hget).symm

/-- With the names in the recycle bin told apart, names tell all siblings in a sound store apart. -/
theorem Sound.apart {home : String} (S : s.Sound home) (hbin : s.Apart s.binId) (p : String) :
    s.Apart p := by
  by_cases hp : p = s.binId
  · exact hp ▸ hbin
  · rw [apart_iff S.toForest.tidy]
    rintro c d name ⟨hc, m, hm, hmn⟩ ⟨hd, n, hn, hnn⟩
    exact S.siblings p c d m n hp hc hd hm hn (hmn.trans hnn.symm)

/-! ## Names across changes -/

/-- `t` is tidy, and names tell siblings apart wherever they did in `s`. -/
structure KeepsApart (s t : Store) : Prop where
  bin : t.binId = s.binId
  tidy : Tidy t
  apart : ∀ p, s.Apart p → t.Apart p

theorem KeepsApart.refl (T : Tidy s) : KeepsApart s s := ⟨rfl, T, fun _ h => h⟩

theorem KeepsApart.trans (h : KeepsApart s t) (h' : KeepsApart t u) : KeepsApart s u :=
  ⟨h'.bin.trans h.bin, h'.tidy, fun p hp => h'.apart p (h.apart p hp)⟩

/-- As `KeepsApart`, but `doubled` says whether two entries of one name meet in the recycle bin. -/
structure ApartUnless (doubled : Prop) (s t : Store) : Prop where
  bin : t.binId = s.binId
  tidy : Tidy t
  apart : ∀ p, s.Apart p → (t.Apart p ↔ ¬ (p = s.binId ∧ doubled))

theorem KeepsApart.unless (h : KeepsApart s t) {doubled : Prop} (hno : ¬ doubled) :
    ApartUnless doubled s t := by
  refine ⟨h.bin, h.tidy, fun p hp => iff_of_true (h.apart p hp) ?_⟩
  rintro ⟨-, hd⟩
  exact hno hd

theorem Thins.keepsApart (h : Thins s t) (Ts : Tidy s) (Tt : Tidy t) : KeepsApart s t := by
  have hbears : ∀ p c name, t.Bears p c name → s.Bears p c name := by
    rintro p c name ⟨hl, n, hn, hname⟩
    obtain ⟨m, hm, hmn⟩ := h.named c n hn
    exact ⟨h.lists p c hl, m, hm, hmn ▸ hname⟩
  refine ⟨h.bin, Tt, fun p hs => ?_⟩
  rw [apart_iff Ts] at hs
  rw [apart_iff Tt]
  intro c d name hc hd
  exact hs c d name (hbears p c name hc) (hbears p d name hd)

namespace OnlyAt

variable {c : String}

theorem bears_iff (h : OnlyAt c s t) {p x name : String} (hx : x ≠ c) :
    t.Bears p x name ↔ s.Bears p x name := by
  unfold Bears
  rw [h.edges p x hx]
  exact and_congr_right fun _ => ⟨called_of_look (h.look x hx), called_of_look (h.look x hx).symm⟩

/-- After a change of the entry `c`, names still tell siblings apart when `c` bears the name of no
sibling. -/
theorem apart (h : OnlyAt c s t) (Ts : Tidy s) (Tt : Tidy t) {p : String} (hs : s.Apart p)
    (hfree : ∀ x name, x ≠ c → t.Bears p c name → ¬ s.Bears p x name) : t.Apart p := by
  rw [apart_iff Ts] at hs
  rw [apart_iff Tt]
  intro a b name ha hb
  by_cases hac : a = c
  · by_cases hbc : b = c
    · rw [hac, hbc]
    · subst hac
      exact absurd ((h.bears_iff hbc).mp hb) (hfree b name hbc ha)
  · by_cases hbc : b = c
    · subst hbc
      exact absurd ((h.bears_iff hac).mp ha) (hfree a name hac hb)
    · exact hs a b name ((h.bears_iff hac).mp ha) ((h.bears_iff hbc).mp hb)

end OnlyAt

theorem keepsApart_make (T : Tidy s) {p : String} {folder n : Node} (hp : s.get? p = some folder)
    (hk : folder.children.isSome) (hfree : s.childNamed p n.name = none)
    (hid : s.has n.id = false) (hc : n.childIds = []) :
    KeepsApart s ((s.insert n).adjust p (Node.pushChild n.id)) := by
  have hT := T.make hp hk hid hc
  refine ⟨rfl, hT, fun a hs => ?_⟩
  refine (OnlyAt.of_make hp hk hid hc).apart T hT hs fun x name _ ⟨hl, hcalled⟩ hx => ?_
  have hget : (s.insert n).get? n.id = some n := by
    rw [get?_insert, get?_eq_none_iff.mpr hid]
    simp
  rcases (lists_make hp hk hid hc a n.id).mp hl with h | ⟨rfl, -⟩
  · have hstored := T.stored a n.id h
    simp [hid] at hstored
  · have hname := (called_iff_of_get? hget).mp (called_of_look (look_pushChild a n.id n.id) hcalled)
    rw [← hname] at hx
    exact not_bears_of_childNamed hfree x hx

theorem keepsApart_write (T : Tidy s) (c content : String) (now : Int) :
    KeepsApart s (s.adjust c fun n => { n with content := some content, modified := now }) := by
  have hthins : Thins s (s.adjust c fun n => { n with content := some content, modified := now }) :=
    .adjust (fun _ => rfl) (fun _ => rfl) fun _ => List.Subset.refl _
  exact hthins.keepsApart T (T.adjust (fun _ => rfl) fun _ => rfl)

theorem keepsApart_rename (T : Tidy s) {c name : String}
    (hfree : ∀ p m, s.parent? c = some p → s.childNamed p.id name = some m → m.id = c) :
    KeepsApart s (s.adjust c fun n => { n with name := name }) := by
  have hf : ∀ n : Node, ({ n with name := name } : Node).id = n.id := fun _ => rfl
  have hc : ∀ n : Node, ({ n with name := name } : Node).childIds = n.childIds := fun _ => rfl
  have hT : Tidy (s.adjust c fun n => { n with name := name }) := T.adjust hf hc
  refine ⟨rfl, hT, fun p hs => ?_⟩
  refine (OnlyAt.of_adjust hf hc).apart T hT hs fun x other hx ⟨hl, hcalled⟩ hxo => ?_
  have hother : Text.lower name = other := by
    obtain ⟨n, hn, rfl⟩ := hcalled
    rw [get?_adjust s c _ hf, if_pos rfl] at hn
    obtain ⟨m, -, rfl⟩ := Option.map_eq_some_iff.mp hn
    rfl
  obtain ⟨q, hq, hqc⟩ := (lists_adjust_of_childIds hf hc p c).mp hl
  have hparent := T.parent?_of_lists hq hqc
  obtain rfl := id_of_get? hq
  rw [← hother] at hxo
  cases hfound : s.childNamed q.id name with
  | none => exact not_bears_of_childNamed hfound x hxo
  | some m =>
    -- The first child of that name is the entry itself, so `x` bore its name before.
    have hm := bears_of_childNamed hfound
    rw [hfree q m hparent hfound] at hm
    exact hx ((apart_iff T).mp hs x c _ hxo hm)

/-- After an entry has gone from its folder to the end of `q`, names tell siblings apart unless
another child of `q` has its name. -/
theorem apart_rehang_iff (T : Tidy s) {c p q : String} {n m folder : Node}
    (hn : s.get? c = some n) (hp : s.get? p = some m) (hq : s.get? q = some folder)
    (hk : folder.children.isSome) (honly : ∀ a, s.Lists a c → a = p) {a : String}
    (hs : s.Apart a) :
    ((s.adjust p (Node.dropChild c)).adjust q (Node.pushChild c)).Apart a ↔
      (a = q → ∀ x, x ≠ c → ¬ s.Bears q x (Text.lower n.name)) := by
  have hT := T.rehang hn hp hq hk honly
  have hat := OnlyAt.of_rehang (c := c) T hp hq hk
  have hl := T.lists_rehang (c := c) hp hq hk
  have hcalled : s.Called c (Text.lower n.name) := (called_iff_of_get? hn).mpr rfl
  constructor
  · rintro h rfl x hx hbears
    have hc : ((s.adjust p (Node.dropChild c)).adjust a (Node.pushChild c)).Bears a c
        (Text.lower n.name) :=
      ⟨(hl a c).mpr (.inr ⟨rfl, rfl⟩), called_of_look (look_rehang p a c c).symm hcalled⟩
    exact hx ((apart_iff hT).mp h x c _ ((hat.bears_iff hx).mpr hbears) hc)
  · intro hfree
    refine hat.apart T hT hs fun x name hx ⟨hac, hc⟩ hbears => ?_
    have hname := (called_iff_of_get? hn).mp (called_of_look (look_rehang p q c c) hc)
    rcases (hl a c).mp hac with ⟨h, hne⟩ | ⟨rfl, -⟩
    · exact hne ⟨honly a h, rfl⟩
    · exact hfree rfl x hx (hname ▸ hbears)

theorem keepsApart_move (T : Tidy s) {c target : String} {n folder p : Node}
    (hn : s.get? c = some n) (ht : s.get? target = some folder) (hk : folder.children.isSome)
    (hp : s.parent? c = some p) (hfree : s.childNamed target n.name = none) :
    KeepsApart s ((s.adjust p.id (Node.dropChild c)).adjust target (Node.pushChild c)) := by
  obtain ⟨hpg, hpc⟩ := T.parent?_eq_some_iff.mp hp
  have honly : ∀ a, s.Lists a c → a = p.id := fun a h => T.parent_unique h ⟨p, hpg, hpc⟩
  refine ⟨rfl, T.rehang hn hpg ht hk honly, fun a hs => ?_⟩
  rw [apart_rehang_iff T hn hpg ht hk honly hs]
  rintro rfl x - hx
  exact not_bears_of_childNamed hfree x hx

/-! ## Runs of changes -/

variable {N : String → Prop} {k : Change}

/-- Every change but putting an entry into the recycle bin keeps siblings apart. -/
theorem Step.keepsApart (h : Step N k s t) (hk : k ≠ .recycle) (T : Tidy s) : KeepsApart s t := by
  cases h with
  | count _ number => exact ⟨rfl, T.counter number, fun _ h => h⟩
  | make hp hc hfree hid hnew _ =>
    exact keepsApart_make T hp hc hfree hid (Node.childIds_of_new hnew)
  | write _ _ content now => exact keepsApart_write T _ content now
  | rename _ _ hfree _ => exact keepsApart_rename T hfree
  | move hn _ ht hc _ _ hp hfree => exact keepsApart_move T hn ht hc hp hfree
  | recycle => exact absurd rfl hk
  | drop _ _ _ hp =>
    obtain ⟨hpg, hpc⟩ := T.parent?_eq_some_iff.mp hp
    refine ((Thins.dropChild _ _).trans (Thins.erase _)).keepsApart T ?_
    refine (T.unhang hpg).erase fun a h => ?_
    obtain ⟨h, hne⟩ := (T.lists_unhang hpg a _).mp h
    exact hne ⟨T.parent_unique h ⟨_, hpg, hpc⟩, rfl⟩

theorem Trace.keepsApart (h : Trace N (· ≠ .recycle) s t) (T : Tidy s) : KeepsApart s t :=
  h.preserves (P := fun u => KeepsApart s u)
    (fun _ _ _ hk hstep hu => hu.trans (hstep.keepsApart hk hu.tidy)) (.refl T)

end Store

/-! ## Calls -/

/-- A record that brings no children along for an entry that is no container. -/
def Record.Bare (r : Record) : Prop :=
  ∀ k ∈ r.kindOf.toOption, k.isContainer = false → r.children.getD [] = []

instance (r : Record) : Decidable r.Bare :=
  inferInstanceAs (Decidable (∀ k ∈ r.kindOf.toOption, _ → _))

theorem Record.Childless.bare {r : Record} (h : r.Childless) : r.Bare := by
  intro k hk hplain
  cases hkind : r.kindOf with
  | error f => simp [hkind, Except.toOption] at hk
  | ok kind =>
    obtain rfl : kind = k := by simpa [hkind, Except.toOption] using hk
    rw [h kind hkind hplain, Option.getD_none]

theorem Store.Makes.childIds {r : Record} {parent : String} {now : Int} {p made : Node}
    (h : s.Makes r parent now p made) (hr : r.Bare) : made.childIds = [] := by
  obtain ⟨n, hn, rfl⟩ := h.record
  obtain ⟨-, -, hkind, -, hc⟩ := Store.fields_of_ofRecord hn
  by_cases hn : n.isContainer
  · simp [hn, Node.childIds]
  · have hnew := hr n.kind (by simp [hkind, Except.toOption]) (by simpa [Node.isContainer] using hn)
    simp [hn, Node.childIds, hc, hnew]

namespace Call

/-- A call that leaves the edges of a tidy store in order: what it makes has no children, and what
it deletes it takes from the folder that holds it. -/
def Proper (s : Store) : Call → Prop
  | add r _ => r.Bare
  | delete id folder => ∀ p ∈ s.parent? id, p.id = folder
  | _ => True

/-- A call that puts an entry into the recycle bin while another one of its name is in it. -/
def Doubles (s : Store) : Call → Prop
  | delete id folder => s.has folder = true ∧ ∃ n ∈ s.get? id, n.isSystem = false ∧
      ∃ m ∈ s.contents s.binId, m.id ≠ id ∧ Text.lower m.name = Text.lower n.name
  | _ => False

instance (s : Store) : (call : Call) → Decidable (call.Proper s)
  | add r _ => inferInstanceAs (Decidable r.Bare)
  | delete id folder => inferInstanceAs (Decidable (∀ p ∈ s.parent? id, p.id = folder))
  | get _ | contents _ | parent _ | path _ | find _ | walk _ | child .. | update .. | rename ..
  | move .. | purge _ | restore _ | emptyBin => .isTrue trivial

instance (s : Store) : (call : Call) → Decidable (call.Doubles s)
  | delete id folder => inferInstanceAs (Decidable (s.has folder = true ∧ ∃ n ∈ s.get? id,
      n.isSystem = false ∧ ∃ m ∈ s.contents s.binId, _ ∧ Text.lower m.name = Text.lower n.name))
  | get _ | contents _ | parent _ | path _ | find _ | walk _ | child .. | add .. | update ..
  | rename .. | move .. | purge _ | restore _ | emptyBin => .isFalse id

open Store

theorem keepsApart_add (T : Tidy s) {r : Record} (hr : r.Bare) (folder : String) (now : Int) :
    KeepsApart s ((Store.add r folder now).after s) := by
  unfold Edit.after
  have hcounter : ∀ number, KeepsApart s { s with counter := number } :=
    fun number => ⟨rfl, T.counter number, fun _ h => h⟩
  rcases add_cases r folder now s with ⟨f, h⟩ | ⟨f, h, -⟩ | ⟨p, made, hmade, h⟩
  · rw [h]
    exact .refl T
  · rw [h]
    exact hcounter _
  · rw [h]
    have hid : s.has made.id = false := by
      rw [hmade.fields.1]
      exact s.has_idOf_freeNumber
    exact (hcounter (s.freeNumber + 1)).trans <| keepsApart_make (T.counter _) hmade.folder
      hmade.holds hmade.free hid (hmade.childIds hr)

theorem keepsApart_purgeAll (T : Tidy s) (ids : List String) :
    KeepsApart s ((Store.purgeAll ids).after s) :=
  (Thins.purgeAll ids).keepsApart T (T.purgeAll ids)

theorem keepsApart_move (T : Tidy s) (id target : String) :
    KeepsApart s ((Store.move id target).after s) :=
  Trace.keepsApart (N := fun _ => True) (trace_move (by simp) id target) T

/-- Every proper call but `delete` keeps siblings apart. -/
theorem keepsApart_change (T : Tidy s) {call : Call} (hproper : call.Proper s)
    (hdelete : ∀ id folder, call ≠ .delete id folder) (now : Int) :
    KeepsApart s (call.change now s) := by
  cases call with
  | get | contents | parent | path | find | walk | child => exact .refl T
  | add r folder => exact keepsApart_add T hproper folder now
  | update id content =>
    exact Trace.keepsApart (N := fun _ => True) (trace_update (by simp) id content now) T
  | rename id name =>
    exact Trace.keepsApart (N := fun _ => True) (trace_rename (by simp) trivial id) T
  | move id target => exact keepsApart_move T id target
  | delete id folder => exact absurd rfl (hdelete id folder)
  | purge id => exact keepsApart_purgeAll T [id]
  | restore id => exact keepsApart_move T id s.rootId
  | emptyBin =>
    simp only [change, after_emptyBin]
    exact keepsApart_purgeAll T _

/-- A delete from the right folder. -/
theorem apartUnless_delete (T : Tidy s) {id folder : String}
    (hfolder : ∀ p ∈ s.parent? id, p.id = folder) :
    ApartUnless ((delete id folder).Doubles s) s ((Store.delete id folder).after s) := by
  have honly : ∀ a, s.Lists a id → a = folder := by
    rintro a ⟨p, hp, hc⟩
    rw [← hfolder p (T.parent?_of_lists hp hc), id_of_get? hp]
  unfold Edit.after
  rcases delete_cases id folder s with ⟨f, h, hno⟩ | ⟨n, p, hn, hsys, hp, ⟨hbin, h⟩ | ⟨hbin, h⟩⟩
  · rw [h]
    refine (KeepsApart.refl T).unless ?_
    rintro ⟨hfolder, n, hn, hsys, -⟩
    rw [get?_eq_none_iff.mp (hno n hn hsys)] at hfolder
    cases hfolder
  · rw [h]
    obtain ⟨bin, hb, hk⟩ := hbin
    refine ⟨rfl, T.rehang hn hp hb hk honly, fun a hs => ?_⟩
    rw [apart_rehang_iff T hn hp hb hk honly hs]
    constructor
    · rintro hfree ⟨ha, -, m, hm, -, k, hkm, hkid, hname⟩
      obtain rfl := Option.some.inj (hn.symm.trans hm)
      exact hfree ha k.id hkid (hname ▸ bears_of_mem_contents hkm)
    · rintro hnot ha x hx hbears
      obtain ⟨k, hk, rfl, hname⟩ := mem_contents_of_bears hbears
      exact hnot ⟨ha, has_of_get? hp, n, hn, hsys, k, hk, hx, hname⟩
  · rw [h]
    have hT : Tidy ((s.adjust folder (Node.dropChild id)).dropAll [id]) := by
      refine (T.unhang hp).dropAll [id] fun c hc a hl => ?_
      obtain rfl := List.mem_singleton.mp hc
      obtain ⟨hl, hne⟩ := (T.lists_unhang hp a c).mp hl
      exact hne ⟨honly a hl, rfl⟩
    refine (((Thins.dropChild folder id).trans (Thins.dropAll [id])).keepsApart T hT).unless ?_
    -- Without a list of children the bin has nothing in it.
    rintro ⟨-, _, -, -, m, hm, -⟩
    obtain ⟨⟨bin, hb, hc⟩, -⟩ := mem_contents.mp hm
    exact hbin ⟨bin, hb, Node.isSome_children hc⟩

/-- Every proper call keeps siblings apart, but for one that puts a second entry of some name into
the recycle bin. -/
theorem apartUnless_change (T : Tidy s) {call : Call} (hproper : call.Proper s) (now : Int) :
    ApartUnless (call.Doubles s) s (call.change now s) := by
  cases call with
  | delete id folder => exact apartUnless_delete T hproper
  | _ =>
    refine (keepsApart_change T hproper (fun _ _ h => ?_) now).unless fun hdoubles => hdoubles
    cases h

end Call

/-! ## Rows of calls -/

namespace Session

open Store

variable {C : Type} {σ : Session C} {requests : List Request}

theorem apartUnless_exchange {e : Exchange C} (he : e ∈ σ.exchanges requests)
    (T : Tidy e.before.store) (hproper : e.call.Proper e.before.store) :
    ApartUnless (e.call.Doubles e.before.store) e.before.store e.after.store := by
  obtain ⟨now, hafter⟩ := store_after_exchange he
  rw [hafter]
  exact Call.apartUnless_change T hproper now

/-- Along a row of proper calls the store stays tidy, and names tell siblings apart outside the
recycle bin. -/
theorem tidy_exchanges (T : Tidy σ.store) (hapart : ∀ p ≠ σ.store.binId, σ.store.Apart p)
    (hproper : ∀ e ∈ σ.exchanges requests, e.call.Proper e.before.store) :
    ∀ e ∈ σ.exchanges requests, Tidy e.before.store ∧
      ∀ p ≠ σ.store.binId, e.after.store.Apart p := by
  let I : Store → Prop := fun s =>
    s.binId = σ.store.binId ∧ Tidy s ∧ ∀ p ≠ σ.store.binId, s.Apart p
  have hkeep : ∀ e ∈ σ.exchanges requests, I e.before.store → I e.after.store := by
    rintro e he ⟨hbin, hT, hbefore⟩
    have h := apartUnless_exchange he hT (hproper e he)
    refine ⟨h.bin.trans hbin, h.tidy, fun p hp => (h.apart p (hbefore p hp)).mpr ?_⟩
    rintro ⟨rfl, -⟩
    exact hp hbin
  intro e he
  obtain ⟨⟨-, hT, -⟩, -, -, hafter⟩ := exchanges_invariant ⟨rfl, T, hapart⟩ hkeep e he
  exact ⟨hT, hafter⟩

theorem forall_apart_iff (T : Tidy σ.store) (hapart : ∀ p, σ.store.Apart p)
    (hproper : ∀ e ∈ σ.exchanges requests, e.call.Proper e.before.store) :
    (∀ e ∈ σ.exchanges requests, ∀ p, e.after.store.Apart p) ↔
      ∀ e ∈ σ.exchanges requests, ¬ e.call.Doubles e.before.store := by
  induction requests generalizing σ with
  | nil => simp [exchanges]
  | cons r rest ih =>
    simp only [exchanges, List.forall_mem_cons] at hproper ⊢
    have hmem : ⟨r.call, σ.clocked r.now, σ.serve r⟩ ∈ σ.exchanges (r :: rest) :=
      List.mem_cons_self
    have hfirst : ApartUnless (r.call.Doubles σ.store) σ.store (σ.serve r).store :=
      apartUnless_exchange hmem T hproper.1
    have hall : (∀ p, (σ.serve r).store.Apart p) ↔ ¬ r.call.Doubles σ.store := by
      constructor
      · intro h hdoubles
        exact (hfirst.apart _ (hapart _)).mp (h _) ⟨rfl, hdoubles⟩
      · intro hno p
        exact (hfirst.apart p (hapart p)).mpr fun h => hno h.2
    constructor
    · rintro ⟨hafter, hrest⟩
      exact ⟨hall.mp hafter, (ih hfirst.tidy hafter hproper.2).mp hrest⟩
    · rintro ⟨hno, hrest⟩
      have hafter := hall.mpr hno
      exact ⟨hafter, (ih hfirst.tidy hafter hproper.2).mpr hrest⟩

/-- From a forest in which names tell siblings apart, any row of proper calls keeps them apart
outside the recycle bin. In the bin too they stay apart all along if and only if no call puts an
entry there while another one of its name is in it. -/
theorem apart_exchanges_iff (F : Forest σ.store) (hapart : ∀ p, σ.store.Apart p)
    (requests : List Request)
    (hproper : ∀ e ∈ σ.exchanges requests, e.call.Proper e.before.store) :
    (∀ e ∈ σ.exchanges requests, ∀ p ≠ σ.store.binId, e.after.store.Apart p) ∧
      ((∀ e ∈ σ.exchanges requests, ∀ p, e.after.store.Apart p) ↔
        ∀ e ∈ σ.exchanges requests, ¬ e.call.Doubles e.before.store) := by
  refine ⟨fun e he => ?_, forall_apart_iff F.tidy hapart hproper⟩
  exact (tidy_exchanges F.tidy (fun p _ => hapart p) hproper e he).2

end Session

namespace Desktop

/-- On the desktop as it is delivered names tell all siblings apart. -/
theorem apart_store {now : Int} (hs : store now = .ok s) (p : String) : s.Apart p := by
  obtain ⟨t, ht, -, -, h⟩ := exists_store now
  obtain rfl := Except.ok.inj (hs.symm.trans ht)
  rw [Store.apart_iff (forest_nodes h).tidy]
  rintro c d name ⟨hc, m, hm, hmn⟩ ⟨hd, n, hn, hnn⟩
  exact siblings_nodes h hc hd hm hn (hmn.trans hnn.symm)

end Desktop

namespace Session

/-- The case of a fresh desktop on which an entry is deleted and comes back. -/
theorem apart_exchanges_restore : ∃ σ, Desktop.session {} 0 (fun _ => .unset) = .ok σ ∧
    ∀ e ∈ σ.exchanges [⟨.delete "about" "desktop", 1⟩, ⟨.restore "about", 2⟩,
      ⟨.delete "about" "desktop", 3⟩], ∀ p, e.after.store.Apart p := by
  let requests : List Request := [⟨.delete "about" "desktop", 1⟩, ⟨.restore "about", 2⟩,
    ⟨.delete "about" "desktop", 3⟩]
  have hrun : (Desktop.session {} 0 fun _ => .unset).map (fun σ =>
      (σ.exchanges requests).all fun e =>
        e.call.Proper e.before.store ∧ ¬ e.call.Doubles e.before.store) = .ok true := by
    decide +kernel
  obtain ⟨σ, hσ, -⟩ := Desktop.exists_session {} 0 fun _ => .unset
  have hstore := Desktop.store_of_session hσ
  rw [hσ] at hrun
  have hcalls := List.all_eq_true.mp (Except.ok.inj hrun)
  simp only [decide_eq_true_eq] at hcalls
  have hiff := (apart_exchanges_iff (Desktop.sound_store hstore).toForest
    (Desktop.apart_store hstore) requests fun e he => (hcalls e he).1).2
  exact ⟨σ, hσ, hiff.mpr fun e he => (hcalls e he).2⟩

end Session

namespace Desktop

/-- Two entries of one name that are deleted one after the other meet in the recycle bin. -/
theorem not_apart_delete : ∃ σ, session {} 0 (fun _ => .unset) = .ok σ ∧
    Forest σ.store ∧ (∀ p, σ.store.Apart p) ∧
    let exchanges := σ.exchanges [⟨.delete "about" "desktop", 1⟩,
      ⟨.add { name := some "About Me.txt" } "desktop", 2⟩, ⟨.delete "file-1" "desktop", 3⟩]
    (∀ e ∈ exchanges, e.call.Proper e.before.store) ∧
      ¬ ∀ e ∈ exchanges, ∀ p, e.after.store.Apart p := by
  let requests : List Request := [⟨.delete "about" "desktop", 1⟩,
    ⟨.add { name := some "About Me.txt" } "desktop", 2⟩, ⟨.delete "file-1" "desktop", 3⟩]
  have hrun : (session {} 0 fun _ => .unset).map (fun σ =>
      ((σ.exchanges requests).all fun e => e.call.Proper e.before.store,
        (σ.exchanges requests).all fun e => e.after.store.Apart binId)) = .ok (true, false) := by
    decide +kernel
  obtain ⟨σ, hσ, -⟩ := exists_session {} 0 fun _ => .unset
  have hstore := store_of_session hσ
  rw [hσ] at hrun
  obtain ⟨hproper, hapart⟩ := Prod.mk.inj (Except.ok.inj hrun)
  refine ⟨σ, hσ, (sound_store hstore).toForest, apart_store hstore, fun e he => ?_, fun h => ?_⟩
  · simpa using List.all_eq_true.mp hproper e he
  · rw [List.all_eq_false] at hapart
    obtain ⟨e, he, hnot⟩ := hapart
    exact hnot (by simpa using h e he binId)

end Desktop
end DeskShell

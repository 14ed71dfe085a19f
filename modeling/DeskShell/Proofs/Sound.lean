import DeskShell.Proofs.Steps

/-!
# Sound stores

A desktop in use stays in order: its entries form trees, names tell siblings apart, and the places
that the shell relies on are there.

* `Store.Sound`: what order means.
* `Store.Sound.not_below_systemFolder`: a system item with a list of children lies below nothing
  that can be moved.
* `Store.Sound.exists_mem_walk`: a walk from an entry that can be moved meets all that is below it,
  so that a move never closes a cycle.
* `Store.Safe`: a change at one entry that does no harm; `Store.Step.safe` says that all changes but
  that of the supply of ids are of this kind.
* `Store.Trace.sound`: runs of steps keep a store sound, its parentless entries and its folders.
-/
namespace DeskShell

open Relation (TransGen ReflTransGen)

theorem Node.kind_ne_system {n : Node} (h : n.isSystem = false) : n.kind ≠ .system := by
  simpa [Node.isSystem] using h

theorem Node.kind_eq_file {n : Node} (h : n.isDir = false) : n.kind = .file := by
  simpa [Node.isDir, Kind.isDir] using h

namespace Store

variable {s t : Store} {home : String}

structure Sound (s : Store) (home : String) : Prop extends Forest s where
  leaf : ∀ id n, s.get? id = some n → n.kind = .file → n.children = none
  /-- Outside the recycle bin, names tell the children of an entry apart. -/
  siblings : ∀ p c d m n, p ≠ s.binId → s.Lists p c → s.Lists p d → s.get? c = some m →
    s.get? d = some n → Text.lower m.name = Text.lower n.name → c = d
  bin : ∃ n, s.get? s.binId = some n ∧ n.kind = .system ∧ n.children.isSome
  systems : ∀ id n, s.get? id = some n → n.kind = .system → n.children.isSome →
    s.Parentless id ∨ ∃ p, s.Lists p id ∧ s.Parentless p
  root : s.HasDir s.rootId
  home : s.HasDir home

/-! ## What lies below -/

theorem Lists.not_parentless {p c : String} (h : s.Lists p c) (F : Forest s) : ¬ s.Parentless c :=
  fun hc => (parent?_eq_none_iff F.distinct).mp hc.2 p h

namespace Sound

/-- A system item with a list of children is at the top or right below it, so it does not lie below
an entry that has something above it. -/
theorem not_below_systemFolder (S : s.Sound home) {p c b : String} {n : Node} (hp : s.Lists p c)
    (hb : s.get? b = some n) (hk : n.kind = .system) (hc : n.children.isSome) : ¬ s.Below c b := by
  intro hcb
  obtain ⟨q, hcq, hqb⟩ := TransGen.tail'_iff.mp hcb
  have hq : ∃ r, s.Lists r q := by
    rcases Relation.reflTransGen_iff_eq_or_transGen.mp hcq with rfl | hcq
    · exact ⟨p, hp⟩
    · obtain ⟨r, -, hr⟩ := TransGen.tail'_iff.mp hcq
      exact ⟨r, hr⟩
  rcases S.systems b n hb hk hc with hb | ⟨r, hr, hr'⟩
  · exact hqb.not_parentless S.toForest hb
  · obtain rfl := S.parent_unique hr hqb
    obtain ⟨x, hx⟩ := hq
    exact hx.not_parentless S.toForest hr'

/-- What has something below it, and is not a system item, is a container. -/
theorem isContainer_of_lists (S : s.Sound home) {a b : String} {n : Node} (hn : s.get? a = some n)
    (hsys : n.kind ≠ .system) (h : s.Lists a b) : n.isContainer = true := by
  have hb := (lists_iff_of_get? hn).mp h
  unfold Node.isContainer
  cases hk : n.kind with
  | file => simp [Node.childIds, S.leaf a n hn hk] at hb
  | system => exact absurd hk hsys
  | folder | systemFolder | drive => rfl

/-- Only containers are on the way down from an entry that can be moved. -/
theorem opens_of_below (S : s.Sound home) {p c target : String} {n : Node} (hn : s.get? c = some n)
    (hsys : n.kind ≠ .system) (hp : s.Lists p c) (hb : s.Below c target) :
    TransGen s.Opens c target := by
  have hstep : ∀ {a b}, a = c ∨ s.Below c a → s.Lists a b → s.Opens a b := by
    rintro a b ha ⟨m, hm, hmb⟩
    have hkind : m.kind ≠ .system := by
      rcases ha with rfl | ha
      · obtain rfl := Option.some.inj (hn.symm.trans hm)
        exact hsys
      · intro hk
        exact S.not_below_systemFolder hp hm hk (Node.isSome_children hmb) ha
    exact ⟨m, hm, S.isContainer_of_lists hm hkind ⟨m, hm, hmb⟩, hmb⟩
  induction hb with
  | single h => exact .single (hstep (.inl rfl) h)
  | tail hab h ih => exact ih.tail (hstep (.inr hab) h)

/-- The walk from an entry that can be moved meets all that is below it. -/
theorem exists_mem_walk (S : s.Sound home) {p c target : String} {n : Node}
    (hn : s.get? c = some n) (hsys : n.kind ≠ .system) (hp : s.Lists p c)
    (hb : s.Below c target) : ∃ m ∈ s.walkFrom s.nodes.length n, m.id = target := by
  have hopens := S.opens_of_below hn hsys hp hb
  obtain rfl := id_of_get? hn
  exact S.toForest.exists_mem_walk hn hopens

end Sound

/-! ## Changes at one entry -/

/-- What a store has under an id, apart from content, stamps and the children themselves. -/
def look (s : Store) (id : String) : Option (String × Kind × Bool) :=
  (s.get? id).map fun n => (n.name, n.kind, n.children.isSome)

theorem get?_of_look {id : String} {n : Node} (h : t.look id = s.look id)
    (hn : t.get? id = some n) : ∃ m, s.get? id = some m ∧ m.name = n.name ∧ m.kind = n.kind ∧
      m.children.isSome = n.children.isSome := by
  unfold look at h
  rw [hn, Option.map_some] at h
  obtain ⟨m, hm, he⟩ := Option.map_eq_some_iff.mp h.symm
  simp only [Prod.mk.injEq] at he
  exact ⟨m, hm, he⟩

theorem has_of_look {id : String} (h : t.look id = s.look id) : t.has id = s.has id := by
  have hiff : ∀ u : Store, u.has id = (u.look id).isSome := fun u => by
    rw [Bool.eq_iff_iff, has_iff, look, Option.isSome_map, Option.isSome_iff_exists]
  rw [hiff, hiff, h]

theorem look_adjust_of_ne {id x : String} {f : Node → Node} (hf : ∀ n, (f n).id = n.id)
    (hx : x ≠ id) : (s.adjust id f).look x = s.look x := by
  rw [look, look, get?_adjust s id f hf, if_neg hx]

theorem look_adjust {id : String} {f : Node → Node} (hf : ∀ n, (f n).id = n.id)
    (hl : ∀ n, (f n).name = n.name ∧ (f n).kind = n.kind ∧
      (f n).children.isSome = n.children.isSome) (x : String) :
    (s.adjust id f).look x = s.look x := by
  by_cases hx : x = id
  · subst hx
    rw [look, look, get?_adjust s x f hf, if_pos rfl, Option.map_map]
    congr 1
    funext n
    simp [hl]
  · exact look_adjust_of_ne hf hx

theorem look_pushChild (id c x : String) : (s.adjust id (Node.pushChild c)).look x = s.look x :=
  look_adjust (Node.id_pushChild c) (fun n => by simp [Node.pushChild]) x

theorem look_dropChild (id c x : String) : (s.adjust id (Node.dropChild c)).look x = s.look x :=
  look_adjust (Node.id_dropChild c) (fun n => by simp [Node.dropChild]) x

theorem look_rehang (p q c x : String) :
    ((s.adjust p (Node.dropChild c)).adjust q (Node.pushChild c)).look x = s.look x :=
  (look_pushChild q c x).trans (look_dropChild p c x)

theorem look_insert_of_ne {n : Node} {x : String} (hx : x ≠ n.id) :
    (s.insert n).look x = s.look x := by
  rw [look, look, get?_insert, if_neg (Ne.symm hx), Option.or_none]

theorem look_erase_of_ne {c x : String} (hx : x ≠ c) : (s.erase c).look x = s.look x := by
  rw [look, look, get?_erase, if_neg hx]

theorem parentless_congr {x : String} (Ft : Forest t) (Fs : Forest s) (hl : t.look x = s.look x)
    (he : ∀ p, t.Lists p x ↔ s.Lists p x) : t.Parentless x ↔ s.Parentless x := by
  unfold Parentless
  rw [parent?_eq_none_iff Ft.distinct, parent?_eq_none_iff Fs.distinct, has_of_look hl]
  simp only [he]

/-- `t` is `s` with changes of the entry `c` alone: of what it is and of where it hangs. -/
structure OnlyAt (c : String) (s t : Store) : Prop where
  root : t.rootId = s.rootId
  bin : t.binId = s.binId
  look : ∀ x, x ≠ c → t.look x = s.look x
  edges : ∀ p x, x ≠ c → (t.Lists p x ↔ s.Lists p x)

namespace OnlyAt

variable {c : String}

theorem of_adjust {f : Node → Node} (hf : ∀ n, (f n).id = n.id)
    (hc : ∀ n, (f n).childIds = n.childIds) : OnlyAt c s (s.adjust c f) where
  root := rfl
  bin := rfl
  look _ hx := look_adjust_of_ne hf hx
  edges p x _ := lists_adjust_of_childIds hf hc p x

theorem of_make {p : String} {folder n : Node} (hp : s.get? p = some folder)
    (hk : folder.children.isSome) (hid : s.has n.id = false) (hc : n.childIds = []) :
    OnlyAt n.id s ((s.insert n).adjust p (Node.pushChild n.id)) where
  root := rfl
  bin := rfl
  look x hx := by rw [look_pushChild, look_insert_of_ne hx]
  edges a x hx := by simp [lists_make hp hk hid hc, hx]

theorem of_rehang (T : Tidy s) {p q : String} {m folder : Node} (hp : s.get? p = some m)
    (hq : s.get? q = some folder) (hk : folder.children.isSome) :
    OnlyAt c s ((s.adjust p (Node.dropChild c)).adjust q (Node.pushChild c)) where
  root := rfl
  bin := rfl
  look x _ := look_rehang p q c x
  edges a x hx := by simp [T.lists_rehang hp hq hk, hx]

theorem of_drop (T : Tidy s) {p : String} {m n : Node} (hp : s.get? p = some m)
    (hn : s.get? c = some n) (hc : n.childIds = []) :
    OnlyAt c s ((s.adjust p (Node.dropChild c)).erase c) where
  root := rfl
  bin := rfl
  look x hx := by rw [look_erase_of_ne hx, look_dropChild]
  edges a x hx := by
    have hleaf : ¬ s.Lists c x := fun h => by simp [lists_iff_of_get? hn, hc] at h
    rw [lists_erase, T.lists_unhang hp]
    refine ⟨fun h => h.2.1, fun h => ⟨?_, h, by simp [hx]⟩⟩
    rintro rfl
    exact hleaf h

end OnlyAt

/-- A change of the entry `c` alone that keeps a sound store sound. -/
structure Safe (c : String) (s t : Store) : Prop extends OnlyAt c s t where
  forest : Forest t
  parentless : t.Parentless c ↔ s.Parentless c
  leaf : ∀ n, t.get? c = some n → n.kind = .file → n.children = none
  system : ∀ n, t.get? c = some n → n.kind = .system → n.children = none
  dir : s.HasDir c → t.HasDir c
  notBin : c ≠ s.binId
  siblings : ∀ p x m n, p ≠ s.binId → t.Lists p c → x ≠ c → s.Lists p x → s.get? x = some m →
    t.get? c = some n → Text.lower m.name ≠ Text.lower n.name

namespace Safe

variable {c : String}

theorem parentless_iff (h : Safe c s t) (F : Forest s) (x : String) :
    t.Parentless x ↔ s.Parentless x := by
  by_cases hx : x = c
  · subst hx
    exact h.parentless
  · exact parentless_congr h.forest F (h.look x hx) (h.edges · x hx)

theorem hasDir (h : Safe c s t) {x : String} (hx : s.HasDir x) : t.HasDir x := by
  by_cases hxc : x = c
  · subst hxc
    exact h.dir hx
  · obtain ⟨n, hn, hd⟩ := hx
    obtain ⟨m, hm, -, hk, -⟩ := get?_of_look (h.look x hxc).symm hn
    exact ⟨m, hm, by rw [← hd, Node.isDir, Node.isDir, hk]⟩

theorem sound (h : Safe c s t) (S : s.Sound home) : t.Sound home where
  toForest := h.forest
  leaf id n hn hk := by
    by_cases hid : id = c
    · subst hid
      exact h.leaf n hn hk
    · obtain ⟨m, hm, -, hkm, hcm⟩ := get?_of_look (h.look id hid) hn
      have := S.leaf id m hm (hkm.trans hk)
      simpa [this] using hcm.symm
  siblings p a b m n hp ha hb hm hn he := by
    rw [h.bin] at hp
    by_cases hac : a = c
    · by_cases hbc : b = c
      · rw [hac, hbc]
      · subst hac
        obtain ⟨n', hn', hname, -⟩ := get?_of_look (h.look b hbc) hn
        exact absurd (hname ▸ he.symm)
          (h.siblings p b n' m hp ha hbc ((h.edges p b hbc).mp hb) hn' hm)
    · obtain ⟨m', hm', hname, -⟩ := get?_of_look (h.look a hac) hm
      have ha := (h.edges p a hac).mp ha
      by_cases hbc : b = c
      · subst hbc
        exact absurd (hname ▸ he) (h.siblings p a m' n hp hb hac ha hm' hn)
      · obtain ⟨n', hn', hname', -⟩ := get?_of_look (h.look b hbc) hn
        exact S.siblings p a b m' n' hp ha ((h.edges p b hbc).mp hb) hm' hn'
          (by rw [hname, hname', he])
  bin := by
    obtain ⟨n, hn, hk, hc⟩ := S.bin
    obtain ⟨m, hm, -, hkm, hcm⟩ := get?_of_look (h.look _ h.notBin.symm).symm hn
    exact ⟨m, h.bin ▸ hm, hkm.trans hk, hcm.trans hc⟩
  systems id n hn hk hc := by
    by_cases hid : id = c
    · subst hid
      simp [h.system n hn hk] at hc
    · obtain ⟨m, hm, -, hkm, hcm⟩ := get?_of_look (h.look id hid) hn
      rcases S.systems id m hm (hkm.trans hk) (hcm.trans hc) with hp | ⟨p, hp, hp'⟩
      · exact .inl ((h.parentless_iff S.toForest id).mpr hp)
      · exact .inr ⟨p, (h.edges p id hid).mpr hp, (h.parentless_iff S.toForest p).mpr hp'⟩
  root := h.root ▸ h.hasDir S.root
  home := h.hasDir S.home

end Safe

/-! ## Each change does no harm -/

namespace Sound

theorem ne_binId (S : s.Sound home) {c : String} {n : Node} (hn : s.get? c = some n)
    (hk : n.kind ≠ .system) : c ≠ s.binId := by
  rintro rfl
  obtain ⟨m, hm, hkm, -⟩ := S.bin
  obtain rfl := Option.some.inj (hn.symm.trans hm)
  exact hk hkm

theorem safe_make (S : s.Sound home) {p : String} {folder n : Node} (hp : s.get? p = some folder)
    (hk : folder.children.isSome) (hfree : s.childNamed p n.name = none)
    (hid : s.has n.id = false) (hc : n.children = if n.isContainer then some [] else none) :
    Safe n.id s ((s.insert n).adjust p (Node.pushChild n.id)) := by
  have hstored : ∀ x, s.has x = true → x ≠ n.id := by
    rintro x hx rfl
    simp [hid] at hx
  have hpn : p ≠ n.id := hstored p (has_of_get? hp)
  have hcids := Node.childIds_of_new hc
  have hp' : (s.insert n).get? p = some folder := by rw [get?_insert, hp, Option.some_or]
  have hl := lists_make hp hk hid hcids
  have hnot : ∀ a, ¬ s.Lists a n.id := fun a h => hstored _ (S.stored a _ h) rfl
  have hget : ((s.insert n).adjust p (Node.pushChild n.id)).get? n.id = some n := by
    rw [get?_adjust _ _ _ (Node.id_pushChild n.id), if_neg hpn.symm, get?_insert,
      get?_eq_none_iff.mpr hid]
    simp
  have forest : Forest ((s.insert n).adjust p (Node.pushChild n.id)) := by
    refine (S.toForest.insert hid hcids).hang hp' hk ((has_insert n n.id).mpr (.inr rfl))
      (fun a h => hnot a ((lists_insert hid hcids a _).mp h)) hpn fun h => ?_
    -- Nothing is below the new entry.
    obtain ⟨x, hx, -⟩ := TransGen.head'_iff.mp h
    exact hstored _ ((lists_insert hid hcids _ x).mp hx).has rfl
  refine ⟨.of_make hp hk hid hcids, forest, ?_, ?_, ?_, ?_, ?_, ?_⟩
  · have hlists := (hl p n.id).mpr (.inr ⟨rfl, rfl⟩)
    exact iff_of_false (hlists.not_parentless forest) fun h => hstored _ h.1 rfl
  · intro m hm hkm
    obtain rfl := Option.some.inj (hget.symm.trans hm)
    simpa [Node.isContainer, Kind.isContainer, hkm] using hc
  · intro m hm hkm
    obtain rfl := Option.some.inj (hget.symm.trans hm)
    simpa [Node.isContainer, Kind.isContainer, hkm] using hc
  · rintro ⟨m, hm, -⟩
    exact absurd rfl (hstored _ (has_of_get? hm))
  · obtain ⟨m, hm, -⟩ := S.bin
    exact (hstored _ (has_of_get? hm)).symm
  · intro q x m k _ hq _ hx hm hk'
    obtain rfl := Option.some.inj (hget.symm.trans hk')
    rcases (hl q n.id).mp hq with h | ⟨rfl, -⟩
    · exact absurd h (hnot q)
    · exact childNamed_eq_none_iff.mp hfree x m hx hm

/-- A change of an entry where it hangs, which leaves its kind and its children. -/
theorem safe_adjust (S : s.Sound home) {c : String} {n : Node} (hn : s.get? c = some n)
    (hsys : n.kind ≠ .system) {f : Node → Node} (hf : ∀ n, (f n).id = n.id)
    (hk : ∀ n, (f n).kind = n.kind) (hc : ∀ n, (f n).children = n.children)
    (hfree : ∀ p x m, p ≠ s.binId → s.Lists p c → x ≠ c → s.Lists p x → s.get? x = some m →
      Text.lower m.name ≠ Text.lower (f n).name) : Safe c s (s.adjust c f) := by
  have hcids : ∀ n, (f n).childIds = n.childIds := fun n => by simp [Node.childIds, hc]
  have hl : ∀ a b, (s.adjust c f).Lists a b ↔ s.Lists a b := lists_adjust_of_childIds hf hcids
  have forest : Forest (s.adjust c f) := S.toForest.adjust hf hcids
  have hget : (s.adjust c f).get? c = some (f n) := by
    rw [get?_adjust s c f hf, if_pos rfl, hn, Option.map_some]
  refine ⟨.of_adjust hf hcids, forest, ?_, ?_, ?_, ?_, S.ne_binId hn hsys, ?_⟩
  · unfold Parentless
    rw [parent?_eq_none_iff forest.distinct, parent?_eq_none_iff S.distinct, has_adjust hf]
    simp only [hl]
  · intro m hm hkm
    obtain rfl := Option.some.inj (hget.symm.trans hm)
    rw [hc]
    exact S.leaf c n hn ((hk n).symm.trans hkm)
  · intro m hm hkm
    obtain rfl := Option.some.inj (hget.symm.trans hm)
    exact absurd ((hk n).symm.trans hkm) hsys
  · rintro ⟨m, hm, hd⟩
    obtain rfl := Option.some.inj (hn.symm.trans hm)
    exact ⟨f n, hget, by rw [← hd, Node.isDir, Node.isDir, hk]⟩
  · intro p x m k hp hpc hxc hpx hm hk'
    obtain rfl := Option.some.inj (hget.symm.trans hk')
    exact hfree p x m hp ((hl p c).mp hpc) hxc hpx hm

theorem safe_write (S : s.Sound home) {c : String} {n : Node} (hn : s.get? c = some n)
    (hf : n.isDir = false) (content : String) (now : Int) :
    Safe c s (s.adjust c fun n => { n with content := some content, modified := now }) := by
  have hkind := Node.kind_eq_file hf
  refine S.safe_adjust hn (by simp [hkind]) (fun _ => rfl) (fun _ => rfl) (fun _ => rfl) ?_
  intro p x m hp hpc hxc hpx hm he
  exact hxc (S.siblings p x c m n hp hpx hpc hm hn he)

theorem safe_rename (S : s.Sound home) {c name : String} {n : Node} (hn : s.get? c = some n)
    (hsys : n.kind ≠ .system)
    (hfree : ∀ p m, s.parent? c = some p → s.childNamed p.id name = some m → m.id = c) :
    Safe c s (s.adjust c fun n => { n with name := name }) := by
  refine S.safe_adjust hn hsys (fun _ => rfl) (fun _ => rfl) (fun _ => rfl) ?_
  intro p x m hp ⟨q, hq, hqc⟩ hxc hpx hm (he : Text.lower m.name = Text.lower name)
  have hparent := S.parent?_of_lists hq hqc
  obtain rfl := id_of_get? hq
  cases hfound : s.childNamed q.id name with
  | none => exact childNamed_eq_none_iff.mp hfound x m hpx hm he
  | some k =>
    -- The first child of that name is the entry itself, so `x` bore its name before.
    obtain ⟨-, hk, hke⟩ := childNamed_eq_some hfound
    rw [hfree q k hparent hfound] at hk
    obtain rfl := Option.some.inj (hn.symm.trans hk)
    exact hxc (S.siblings q.id x c m n hp hpx ⟨q, hq, hqc⟩ hm hn (he.trans hke.symm))

/-- An entry leaves its folder `p` for the end of `q`. -/
theorem safe_rehang (S : s.Sound home) {c q : String} {n p folder : Node} (hn : s.get? c = some n)
    (hsys : n.kind ≠ .system) (hp : s.parent? c = some p) (hq : s.get? q = some folder)
    (hk : folder.children.isSome) (hne : c ≠ q) (hup : ¬ s.Below c q)
    (hfree : q ≠ s.binId → s.childNamed q n.name = none) :
    Safe c s ((s.adjust p.id (Node.dropChild c)).adjust q (Node.pushChild c)) := by
  obtain ⟨hpg, hpc⟩ := S.parent?_eq_some_iff.mp hp
  have honly : ∀ a, s.Lists a c → a = p.id := fun a h => S.parent_unique h ⟨p, hpg, hpc⟩
  have hl := S.tidy.lists_rehang (c := c) hpg hq hk
  have hlook := look_rehang (s := s) p.id q c
  have forest : Forest ((s.adjust p.id (Node.dropChild c)).adjust q (Node.pushChild c)) := by
    obtain ⟨folder', hq', hk'⟩ := Tidy.exists_folder_unhang (c := c) (p := p.id) hq hk
    have hlu := S.tidy.lists_unhang (c := c) hpg
    refine (S.toForest.unhang hpg).hang hq' hk' ?_ (fun a h => ?_) hne.symm fun h => ?_
    · rw [has_adjust (Node.id_dropChild c)]
      exact has_of_get? hn
    · exact ((hlu a c).mp h).2 ⟨honly a ((hlu a c).mp h).1, rfl⟩
    · exact hup (TransGen.mono (fun a b h => ((hlu a b).mp h).1) _ _ h)
  refine ⟨.of_rehang S.tidy hpg hq hk, forest, ?_, ?_, ?_, ?_, S.ne_binId hn hsys, ?_⟩
  · have hlists := (hl q c).mpr (.inr ⟨rfl, rfl⟩)
    exact iff_of_false (hlists.not_parentless forest)
      (Lists.not_parentless ⟨p, hpg, hpc⟩ S.toForest)
  · intro m hm hkm
    obtain ⟨k, hk, -, hkk, hck⟩ := get?_of_look (hlook c) hm
    simpa [S.leaf c k hk (hkk.trans hkm)] using hck.symm
  · intro m hm hkm
    obtain ⟨k, hk, -, hkk, -⟩ := get?_of_look (hlook c) hm
    obtain rfl := Option.some.inj (hn.symm.trans hk)
    exact absurd (hkk.trans hkm) hsys
  · rintro ⟨m, hm, hd⟩
    obtain ⟨k, hk, -, hkk, -⟩ := get?_of_look (hlook c).symm hm
    exact ⟨k, hk, by rw [← hd, Node.isDir, Node.isDir, hkk]⟩
  · intro a x m k ha hac hxc hax hm hk
    obtain ⟨k', hk', hname, -⟩ := get?_of_look (hlook c) hk
    obtain rfl := Option.some.inj (hn.symm.trans hk')
    rcases (hl a c).mp hac with ⟨h, hne⟩ | ⟨rfl, -⟩
    · exact absurd ⟨honly a h, rfl⟩ hne
    · exact hname ▸ childNamed_eq_none_iff.mp (hfree ha) x m hax hm

theorem safe_drop (S : s.Sound home) {c : String} {n p : Node} (hn : s.get? c = some n)
    (hf : n.isDir = false) (hc : n.childIds = []) (hp : s.parent? c = some p) :
    Safe c s ((s.adjust p.id (Node.dropChild c)).erase c) := by
  obtain ⟨hpg, hpc⟩ := S.parent?_eq_some_iff.mp hp
  have hkind := Node.kind_eq_file hf
  have hlu := S.tidy.lists_unhang (c := c) hpg
  have hnot : ∀ a, ¬ (s.adjust p.id (Node.dropChild c)).Lists a c := fun a h => by
    obtain ⟨h, hne⟩ := (hlu a c).mp h
    exact hne ⟨S.parent_unique h ⟨p, hpg, hpc⟩, rfl⟩
  have hgone : ((s.adjust p.id (Node.dropChild c)).erase c).get? c = none := by
    rw [get?_erase, if_pos rfl]
  refine ⟨.of_drop S.tidy hpg hn hc, (S.toForest.unhang hpg).erase hnot, ?_, ?_, ?_, ?_,
    S.ne_binId hn (by simp [hkind]), ?_⟩
  · refine iff_of_false (fun h => ?_) (Lists.not_parentless ⟨p, hpg, hpc⟩ S.toForest)
    obtain ⟨m, hm⟩ := has_iff.mp h.1
    simp [hgone] at hm
  · intro m hm
    simp [hgone] at hm
  · intro m hm
    simp [hgone] at hm
  · rintro ⟨m, hm, hd⟩
    obtain rfl := Option.some.inj (hn.symm.trans hm)
    simp [hf] at hd
  · intro a x m k _ hac
    exact absurd ((lists_erase c a c).mp hac).2 (hnot a)

end Sound

/-! ## Runs of steps -/

variable {N : String → Prop} {K : Change → Prop} {k : Change}

theorem not_hasDir_of_get? {c : String} {n : Node} (hn : s.get? c = some n) (hf : n.isDir = false) :
    ¬ s.HasDir c := by
  rintro ⟨m, hm, hd⟩
  obtain rfl := Option.some.inj (hn.symm.trans hm)
  simp [hf] at hd

/-- Every change but that of the supply of ids is a harmless one at one entry, which is a folder
only if the change is not a quiet one. -/
theorem Step.safe (h : Step N k s t) (S : s.Sound home) :
    (∃ c, Safe c s t ∧ (k.Quiet → ¬ s.HasDir c)) ∨ ∃ number, t = { s with counter := number } := by
  cases h with
  | count _ number => exact .inr ⟨number, rfl⟩
  | make hp hk hfree hid hc _ =>
    refine .inl ⟨_, S.safe_make hp hk hfree hid hc, fun _ ⟨m, hm, _⟩ => ?_⟩
    simp [has_of_get? hm] at hid
  | write hn hf content now =>
    exact .inl ⟨_, S.safe_write hn hf content now, fun _ => not_hasDir_of_get? hn hf⟩
  | rename hn hsys hfree _ =>
    exact .inl ⟨_, S.safe_rename hn (Node.kind_ne_system hsys) hfree, False.elim⟩
  | move hn hsys ht hk hne hw hp hfree =>
    have hsys := Node.kind_ne_system hsys
    refine .inl ⟨_, S.safe_rehang hn hsys hp ht hk hne (fun hb => ?_) fun _ => hfree, False.elim⟩
    obtain ⟨hpg, hpc⟩ := S.parent?_eq_some_iff.mp hp
    obtain ⟨m, hm, hid⟩ := S.exists_mem_walk hn hsys ⟨_, hpg, hpc⟩ hb
    exact hw m hm hid
  | recycle hn hsys hp hb hk =>
    have hsys := Node.kind_ne_system hsys
    obtain ⟨bin, hbin, hkind, -⟩ := S.bin
    obtain rfl := Option.some.inj (hb.symm.trans hbin)
    obtain ⟨hpg, hpc⟩ := S.parent?_eq_some_iff.mp hp
    exact .inl ⟨_, S.safe_rehang hn hsys hp hb hk (S.ne_binId hn hsys)
      (S.not_below_systemFolder ⟨_, hpg, hpc⟩ hb hkind hk) fun h => absurd rfl h, False.elim⟩
  | drop hn hf hc hp => exact .inl ⟨_, S.safe_drop hn hf hc hp, fun _ => not_hasDir_of_get? hn hf⟩

theorem Step.sound (h : Step N k s t) (S : s.Sound home) : t.Sound home := by
  rcases h.safe S with ⟨c, hc, -⟩ | ⟨number, rfl⟩
  · exact hc.sound S
  · exact ⟨⟨S.distinct, S.stored, S.once, S.acyclic⟩, S.leaf, S.siblings, S.bin, S.systems, S.root,
      S.home⟩

theorem Step.parentless_iff (h : Step N k s t) (S : s.Sound home) (x : String) :
    t.Parentless x ↔ s.Parentless x := by
  rcases h.safe S with ⟨c, hc, -⟩ | ⟨number, rfl⟩
  · exact hc.parentless_iff S.toForest x
  · exact Iff.rfl

theorem Step.hasDir (h : Step N k s t) (S : s.Sound home) {x : String} (hx : s.HasDir x) :
    t.HasDir x := by
  rcases h.safe S with ⟨c, hc, -⟩ | ⟨number, rfl⟩
  · exact hc.hasDir hx
  · exact hx

/-- What a run of steps keeps of a sound store. -/
theorem Trace.sound (h : Trace N K s t) (S : s.Sound home) : t.Sound home ∧
    (∀ x, t.Parentless x ↔ s.Parentless x) ∧ ∀ x, s.HasDir x → t.HasDir x := by
  refine h.preserves (P := fun u => u.Sound home ∧ (∀ x, u.Parentless x ↔ s.Parentless x) ∧
    ∀ x, s.HasDir x → u.HasDir x) (fun c u v _ huv ⟨hu, hpu, hdu⟩ => ?_)
    ⟨S, fun _ => Iff.rfl, fun _ hx => hx⟩
  exact ⟨huv.sound hu, fun x => (huv.parentless_iff hu x).trans (hpu x),
    fun x hx => huv.hasDir hu (hdu x hx)⟩

end Store
end DeskShell

import DeskShell.Proofs.SystemItems

/-!
# Stores that widen

A store in which nothing is lost, renamed or hung elsewhere finds every child under the names under
which it was found before, and every entry on the way on which it was found.

* `Store.Widens`: a store that holds all that another one does. `Store.Linked` is what it takes for
  a folder to hold stored entries only.
* `Store.childNamed_adjust`: what is found by name after a change of one entry.
* `Store.Widens.adjust`, `Store.Widens.make`: the two changes that widen; `Store.childNamed_make`
  finds the new entry.
* `Store.follow_widens`: the same way leads to the same entry.
-/
namespace DeskShell

namespace Store

variable {s t : Store}

/-! ## More entries -/

/-- `t` has the entries of `s` under their names, each in the folder in which it was and found there
under every name under which it was. -/
structure Widens (s t : Store) : Prop where
  root : t.rootId = s.rootId
  entry : ∀ id n, s.get? id = some n → ∃ m, t.get? id = some m ∧ m.name = n.name
  parent : ∀ id, s.has id = true → (t.parent? id).map (·.id) = (s.parent? id).map (·.id)
  child : ∀ p name n, s.childNamed p name = some n →
    ∃ m, t.childNamed p name = some m ∧ m.id = n.id ∧ m.name = n.name

/-- Ids name one entry each, and every listed id is stored. -/
structure Linked (s : Store) : Prop where
  distinct : s.IdsDistinct
  stored : ∀ p c, s.Lists p c → s.has c = true

theorem linked_of_forest (F : Forest s) : Linked s := ⟨F.distinct, F.stored⟩

theorem Linked.has_of_parent? (L : Linked s) {c : String} {p : Node} (h : s.parent? c = some p) :
    s.has c = true ∧ s.has p.id = true := by
  obtain ⟨hp, hc⟩ := lists_of_parent? L.distinct h
  exact ⟨L.stored p.id c ⟨p, hp, hc⟩, has_of_get? hp⟩

theorem Widens.refl (s : Store) : Widens s s :=
  ⟨rfl, fun _ n hn => ⟨n, hn, rfl⟩, fun _ _ => rfl, fun _ _ n hn => ⟨n, hn, rfl, rfl⟩⟩

theorem Widens.has (W : Widens s t) {id : String} (h : s.has id = true) : t.has id = true := by
  obtain ⟨n, hn⟩ := has_iff.mp h
  obtain ⟨m, hm, -⟩ := W.entry id n hn
  exact has_of_get? hm

theorem Widens.parent_cases (W : Widens s t) {id : String} (hid : s.has id = true) :
    s.parent? id = none ∧ t.parent? id = none ∨
      ∃ p q, s.parent? id = some p ∧ t.parent? id = some q ∧ q.id = p.id := by
  have h := W.parent id hid
  cases hp : s.parent? id with
  | none =>
    rw [hp] at h
    exact .inl ⟨rfl, by simpa using h⟩
  | some p =>
    rw [hp] at h
    obtain ⟨q, hq, hqp⟩ := Option.map_eq_some_iff.mp h
    exact .inr ⟨p, q, rfl, hq, hqp⟩

/-! ## The children of a changed entry -/

section Adjust

variable {id : String} {f : Node → Node} (hf : ∀ n, (f n).id = n.id)

include hf

theorem get?_adjust_eq_map (x : String) :
    (s.adjust id f).get? x = (s.get? x).map fun n => if n.id = id then f n else n := by
  rw [get?_adjust s id f hf]
  cases hx : s.get? x with
  | none => split <;> simp_all
  | some n =>
    obtain rfl := id_of_get? hx
    rw [Option.map_some]
    split
    · next h => rw [← h, hx, Option.map_some]
    · rfl

/-- The children of an entry in a changed store, when the change adds the ids `new` to its list. -/
theorem contents_adjust {p : String} {new : List String}
    (hnew : (s.adjust id f).listed p = s.listed p ++ new) :
    (s.adjust id f).contents p = (s.contents p).map (fun n => if n.id = id then f n else n) ++
      new.filterMap (s.adjust id f).get? := by
  rw [contents_eq, hnew, List.filterMap_append, contents_eq, List.map_filterMap]
  congr 1
  exact List.filterMap_congr fun c _ => get?_adjust_eq_map hf c

/-- What is found by name, when the change leaves names and adds the ids `new` to a list. -/
theorem childNamed_adjust (hname : ∀ n, (f n).name = n.name) {p : String} {new : List String}
    (hnew : (s.adjust id f).listed p = s.listed p ++ new) (name : String) :
    (s.adjust id f).childNamed p name =
      ((s.childNamed p name).map fun n => if n.id = id then f n else n).or
        ((new.filterMap (s.adjust id f).get?).find? fun n => Text.sameName n.name name) := by
  unfold childNamed
  rw [contents_adjust hf hnew, List.find?_append, List.find?_map]
  congr 3
  funext n
  by_cases hn : n.id = id <;> simp [hn, hname]

theorem listed_adjust (hc : ∀ n, (f n).childIds = n.childIds) (p : String) :
    (s.adjust id f).listed p = s.listed p := by
  unfold listed
  rw [get?_adjust_eq_map hf, Option.map_map]
  congr 2
  funext n
  by_cases hn : n.id = id <;> simp [hn, hc]

end Adjust

theorem listed_pushChild {p c : String} {folder : Node} (hp : s.get? p = some folder)
    (hk : folder.children.isSome) (q : String) :
    (s.adjust p (Node.pushChild c)).listed q = s.listed q ++ if q = p then [c] else [] := by
  unfold listed
  rw [get?_adjust s p _ (Node.id_pushChild c)]
  by_cases hq : q = p
  · subst hq
    simp [hp, Node.childIds_pushChild hk]
  · simp [hq]

theorem contents_insert (L : Linked s) {m : Node} (hc : m.childIds = []) (p : String) :
    (s.insert m).contents p = s.contents p := by
  have hlisted : (s.insert m).listed p = s.listed p := by
    unfold listed
    rw [get?_insert]
    cases s.get? p with
    | some n => rw [Option.some_or]
    | none => by_cases hm : m.id = p <;> simp [hm, hc]
  rw [contents_eq, contents_eq, hlisted]
  refine List.filterMap_congr fun c hmem => ?_
  obtain ⟨n, hn⟩ := has_iff.mp (L.stored p c (mem_listed.mp hmem))
  rw [get?_insert, hn, Option.some_or]

/-! ## Two changes that widen -/

namespace Widens

theorem adjust {id : String} {f : Node → Node} (hf : ∀ n, (f n).id = n.id)
    (hname : ∀ n, (f n).name = n.name) (hc : ∀ n, (f n).childIds = n.childIds) :
    Widens s (s.adjust id f) where
  root := rfl
  entry x n hn := by
    refine ⟨_, by rw [get?_adjust_eq_map hf, hn, Option.map_some], ?_⟩
    split <;> simp [hname]
  parent x _ := Fixed.parent_adjust hf fun n => by simp [Node.lists, hc]
  child p name n hn := by
    have hnew : (s.adjust id f).listed p = s.listed p ++ [] := by
      rw [listed_adjust hf hc, List.append_nil]
    refine ⟨_, by rw [childNamed_adjust hf hname hnew, hn, Option.map_some, Option.some_or], ?_⟩
    split <;> simp [hf, hname]

/-- A new entry in the folder `p`. -/
theorem make (L : Linked s) {p : String} {folder m : Node} (hp : s.get? p = some folder)
    (hk : folder.children.isSome) (hid : s.has m.id = false) (hc : m.childIds = []) :
    Widens s ((s.insert m).adjust p (Node.pushChild m.id)) := by
  have hp' : (s.insert m).get? p = some folder := by rw [get?_insert, hp, Option.some_or]
  have hfixed : ∀ x, s.has x = true → Fixed x s ((s.insert m).adjust p (Node.pushChild m.id)) := by
    intro x hx
    refine (Fixed.insert hc).trans (.pushChild ?_ p)
    rintro rfl
    simp [hx] at hid
  refine ⟨rfl, fun x n hn => ?_, fun x hx => (hfixed x hx).parent, fun q name n hn => ?_⟩
  · obtain ⟨n', hn', he⟩ := (hfixed x (has_of_get? hn)).entry n hn
    exact ⟨n', hn', by rw [he]⟩
  · have hn' : (s.insert m).childNamed q name = some n := by
      unfold childNamed
      rw [contents_insert L hc]
      exact hn
    refine ⟨_, by rw [childNamed_adjust (Node.id_pushChild m.id) (fun _ => rfl)
      (listed_pushChild hp' hk q), hn', Option.map_some, Option.some_or], ?_⟩
    split <;> exact ⟨rfl, rfl⟩

end Widens

/-- Whether a store is in order does not depend on its supply of ids. -/
theorem Linked.counter (L : Linked s) (k : Nat) : Linked { s with counter := k } :=
  ⟨L.distinct, L.stored⟩

theorem Widens.of_counter {k : Nat} (W : Widens { s with counter := k } t) : Widens s t :=
  ⟨W.root, W.entry, W.parent, W.child⟩

theorem Linked.adjust (L : Linked s) {id : String} {f : Node → Node} (hf : ∀ n, (f n).id = n.id)
    (hc : ∀ n, (f n).childIds = n.childIds) : Linked (s.adjust id f) := by
  refine ⟨L.distinct.adjust hf, fun p c h => ?_⟩
  rw [has_adjust hf]
  exact L.stored p c ((lists_adjust_of_childIds hf hc p c).mp h)

theorem Linked.make (L : Linked s) {p : String} {folder m : Node} (hp : s.get? p = some folder)
    (hk : folder.children.isSome) (hid : s.has m.id = false) (hc : m.childIds = []) :
    Linked ((s.insert m).adjust p (Node.pushChild m.id)) := by
  have hp' : (s.insert m).get? p = some folder := by rw [get?_insert, hp, Option.some_or]
  refine ⟨(L.distinct.insert hid).adjust (Node.id_pushChild _), fun q c h => ?_⟩
  rw [has_adjust (Node.id_pushChild _), has_insert]
  rcases (lists_pushChild hp' hk q c).mp h with h | ⟨-, rfl⟩
  · exact .inl (L.stored q c ((lists_insert hid hc q c).mp h))
  · exact .inr rfl

/-- The new entry is found by its name. -/
theorem childNamed_make (L : Linked s) {p : String} {folder m : Node} (hp : s.get? p = some folder)
    (hk : folder.children.isSome) (hid : s.has m.id = false) (hc : m.childIds = [])
    (hfree : s.childNamed p m.name = none) :
    ((s.insert m).adjust p (Node.pushChild m.id)).childNamed p m.name = some m := by
  have hp' : (s.insert m).get? p = some folder := by rw [get?_insert, hp, Option.some_or]
  have hmp : m.id ≠ p := by
    rintro rfl
    simp [has_of_get? hp] at hid
  have hm : ((s.insert m).adjust p (Node.pushChild m.id)).get? m.id = some m := by
    rw [get?_adjust _ p _ (Node.id_pushChild _), if_neg hmp, get?_insert,
      get?_eq_none_iff.mpr hid, if_pos rfl]
    rfl
  have hfree' : (s.insert m).childNamed p m.name = none := by
    unfold childNamed
    rw [contents_insert L hc]
    exact hfree
  rw [childNamed_adjust (Node.id_pushChild m.id) (fun _ => rfl) (listed_pushChild hp' hk p),
    hfree', if_pos rfl]
  simp [hm, Text.sameName]

/-! ## Ways -/

theorem follow_append {xs : List String} (ys : List String) {here n : Node}
    (h : s.follow here xs = some n) : s.follow here (xs ++ ys) = s.follow n ys := by
  fun_induction s.follow here xs with
  | case1 here =>
    obtain rfl := Option.some.inj h
    rfl
  | case2 here parts ih =>
    rw [List.cons_append, follow, if_pos rfl, ih h]
  | case3 here parts hne ih =>
    rw [List.cons_append, follow, if_neg hne, if_pos rfl, ih h]
  | case4 here part parts hdot hup hnone => cases h
  | case5 here part parts hdot hup child hchild ih =>
    rw [List.cons_append, follow, if_neg hdot, if_neg hup, hchild]
    exact ih h

/-- The way from a stored entry leads to the entry of the same id. -/
theorem follow_widens (W : Widens s t) (L : Linked s) {xs : List String} {here n : Node}
    (hs : s.has here.id = true) (h : s.follow here xs = some n) {here' : Node}
    (hid : here'.id = here.id) :
    s.has n.id = true ∧ ∃ n', t.follow here' xs = some n' ∧ n'.id = n.id := by
  fun_induction s.follow here xs generalizing here' with
  | case1 here =>
    obtain rfl := Option.some.inj h
    exact ⟨hs, here', rfl, hid⟩
  | case2 here parts ih =>
    rw [follow, if_pos rfl]
    exact ih hs h hid
  | case3 here parts hdot ih =>
    rw [follow, if_neg hdot, if_pos rfl]
    rcases W.parent_cases hs with ⟨hp, hq⟩ | ⟨p, q, hp, hq, hqp⟩
    · rw [hp] at ih h
      rw [hid, hq]
      exact ih hs h hid
    · rw [hp] at ih h
      rw [hid, hq]
      exact ih (L.has_of_parent? hp).2 h hqp
  | case4 here part parts hdot hup hnone => cases h
  | case5 here part parts hdot hup child hchild ih =>
    obtain ⟨child', hchild', hcid, -⟩ := W.child _ _ _ hchild
    rw [follow, if_neg hdot, if_neg hup, hid, hchild']
    exact ih (has_of_get? (childNamed_eq_some hchild).2.1) h hcid

end Store
end DeskShell

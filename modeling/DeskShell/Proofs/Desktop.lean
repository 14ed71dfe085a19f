import DeskShell.Proofs.Sound
import DeskShell.Store.Desktop

/-!
# The delivered desktop is sound

* `Desktop.outline`: its entries without content and stamps.
* `Desktop.exists_store`: the desktop can be made at any time and has that outline.
* `Desktop.sound_store`: it is a sound store.
-/
namespace DeskShell

open Relation (TransGen)

/-- An entry without its content and its stamps. -/
structure Outline where
  id : String
  name : String
  kind : Kind
  children : Option (List String)
  deriving Repr, DecidableEq

def Node.outline (n : Node) : Outline := ⟨n.id, n.name, n.kind, n.children⟩

namespace Desktop

def outline : List Outline := [
  ⟨"desktop", "Desktop", .folder,
    some ["about", "projects", "contact", "skills", "recycle-bin"]⟩,
  ⟨"about", "About Me.txt", .file, none⟩,
  ⟨"projects", "My Projects", .folder, some ["project-1", "project-2", "project-3"]⟩,
  ⟨"contact", "Contact.txt", .file, none⟩,
  ⟨"skills", "My Computer", .system, none⟩,
  ⟨"recycle-bin", "Recycle Bin", .system, some []⟩,
  ⟨"internet-explorer", "Internet Explorer", .system, none⟩,
  ⟨"project-1", "Project Alpha", .file, none⟩,
  ⟨"project-2", "Project Beta", .file, none⟩,
  ⟨"project-3", "Retro OS Website", .file, none⟩]

theorem exists_store (now : Int) : ∃ s, store now = .ok s ∧ s.rootId = rootId ∧ s.binId = binId ∧
    s.nodes.map Node.outline = outline := ⟨_, rfl, rfl, rfl, rfl⟩

variable {s : Store}

/-! ## Reading the outline -/

section

variable (h : s.nodes.map Node.outline = outline)

include h

theorem map_id_nodes : s.nodes.map (·.id) = outline.map (·.id) := by
  rw [← h, List.map_map]
  rfl

theorem distinct_nodes : s.IdsDistinct := by
  unfold Store.IdsDistinct
  rw [map_id_nodes h]
  decide

theorem mem_outline {id : String} {n : Node} (hn : s.get? id = some n) : n.outline ∈ outline := by
  rw [← h]
  exact List.mem_map_of_mem (Store.mem_nodes_of_get? hn)

theorem get?_of_mem_outline {o : Outline} (ho : o ∈ outline) :
    ∃ n, s.get? o.id = some n ∧ n.outline = o := by
  rw [← h] at ho
  obtain ⟨n, hn, rfl⟩ := List.mem_map.mp ho
  exact ⟨n, (distinct_nodes h).get?_of_mem hn, rfl⟩

theorem mem_children_of_lists {p c : String} (hl : s.Lists p c) :
    ∃ o ∈ outline, o.id = p ∧ c ∈ o.children.getD [] := by
  obtain ⟨n, hn, hc⟩ := hl
  exact ⟨n.outline, mem_outline h hn, Store.id_of_get? hn, hc⟩

theorem lists_of_mem_outline {o : Outline} {c : String} (ho : o ∈ outline)
    (hc : c ∈ o.children.getD []) : s.Lists o.id c := by
  obtain ⟨n, hn, rfl⟩ := get?_of_mem_outline h ho
  exact ⟨n, hn, hc⟩

/-- In the outline, children come after their parents. -/
theorem idxOf_lt_of_below {a b : String} (hab : s.Below a b) :
    (outline.map (·.id)).idxOf a < (outline.map (·.id)).idxOf b := by
  have hstep : ∀ p c, s.Lists p c →
      (outline.map (·.id)).idxOf p < (outline.map (·.id)).idxOf c := by
    intro p c hl
    obtain ⟨o, ho, rfl, hc⟩ := mem_children_of_lists h hl
    have hall : ∀ o ∈ outline, ∀ c ∈ o.children.getD [],
        (outline.map (·.id)).idxOf o.id < (outline.map (·.id)).idxOf c := by decide
    exact hall o ho c hc
  induction hab with
  | single hl => exact hstep _ _ hl
  | tail _ hl ih => exact Nat.lt_trans ih (hstep _ _ hl)

theorem forest_nodes : Forest s where
  distinct := distinct_nodes h
  stored p c hl := by
    obtain ⟨o, ho, -, hc⟩ := mem_children_of_lists h hl
    have hall : ∀ o ∈ outline, ∀ c ∈ o.children.getD [], ∃ o' ∈ outline, o'.id = c := by decide
    obtain ⟨o', ho', rfl⟩ := hall o ho c hc
    obtain ⟨n, hn, -⟩ := get?_of_mem_outline h ho'
    exact Store.has_of_get? hn
  once := by
    have hids : s.nodes.flatMap Node.childIds = outline.flatMap (·.children.getD []) := by
      rw [← h, List.flatMap_map]
      rfl
    rw [hids]
    decide
  acyclic id hb := by
    have := idxOf_lt_of_below h hb
    omega

theorem parentless_root : s.Parentless rootId := by
  obtain ⟨n, hn, -⟩ := get?_of_mem_outline h (List.mem_cons_self)
  refine ⟨Store.has_of_get? hn, ?_⟩
  refine (Store.parent?_eq_none_iff (distinct_nodes h)).mpr fun p hl => ?_
  obtain ⟨o, ho, -, hc⟩ := mem_children_of_lists h hl
  have hall : ∀ o ∈ outline, rootId ∉ o.children.getD [] := by decide
  exact hall o ho hc

theorem siblings_nodes {p c d : String} {m n : Node} (hc : s.Lists p c) (hd : s.Lists p d)
    (hm : s.get? c = some m) (hn : s.get? d = some n) (he : Text.lower m.name = Text.lower n.name) :
    c = d := by
  obtain ⟨o, ho, rfl, hoc⟩ := mem_children_of_lists h hc
  obtain ⟨o', ho', hid, hod⟩ := mem_children_of_lists h hd
  have hsame : ∀ o ∈ outline, ∀ o' ∈ outline, o'.id = o.id → o' = o := by decide
  obtain rfl := hsame o ho o' ho' hid
  have hall : ∀ o ∈ outline, ∀ a ∈ outline, ∀ b ∈ outline, a.id ∈ o.children.getD [] →
      b.id ∈ o.children.getD [] → Text.lower a.name = Text.lower b.name → a.id = b.id := by
    decide +kernel
  obtain rfl := Store.id_of_get? hm
  obtain rfl := Store.id_of_get? hn
  exact hall o' ho _ (mem_outline h hm) _ (mem_outline h hn) hoc hod he

end

/-- The desktop as it is delivered is in order, whenever it is made. -/
theorem sound_store {now : Int} (hs : store now = .ok s) : s.Sound s.rootId := by
  obtain ⟨t, ht, hroot, hbin, h⟩ := exists_store now
  obtain rfl := Except.ok.inj (hs.symm.trans ht)
  have forest := forest_nodes h
  have hget : ∀ o ∈ outline, ∃ n, s.get? o.id = some n ∧ n.outline = o :=
    fun _ => get?_of_mem_outline h
  have dir : s.HasDir s.rootId := by
    obtain ⟨n, hn, ho⟩ := hget _ (List.mem_cons_self)
    refine ⟨n, hroot ▸ hn, ?_⟩
    rw [Node.isDir, show n.kind = .folder from congrArg Outline.kind ho]
    rfl
  refine ⟨forest, fun id n hn hk => ?_, fun p c d m n _ => siblings_nodes h, ?_,
    fun id n hn hk hc => ?_, dir, dir⟩
  · have hall : ∀ o ∈ outline, o.kind = .file → o.children = none := by decide
    exact hall n.outline (mem_outline h hn) hk
  · have hmem : (⟨"recycle-bin", "Recycle Bin", .system, some []⟩ : Outline) ∈ outline := by decide
    obtain ⟨n, hn, ho⟩ := hget _ hmem
    refine ⟨n, hbin ▸ hn, congrArg Outline.kind ho, ?_⟩
    rw [show n.children = some [] from congrArg Outline.children ho]
    rfl
  · -- The recycle bin is the only such item, and it is on the desktop itself.
    have hall : ∀ o ∈ outline, o.kind = .system → o.children.isSome → o.id = binId := by decide
    have hid : id = binId := by
      rw [← Store.id_of_get? hn]
      exact hall n.outline (mem_outline h hn) hk hc
    subst hid
    obtain ⟨n, hn, ho⟩ := hget _ (List.mem_cons_self)
    refine .inr ⟨rootId, ⟨n, hn, ?_⟩, parentless_root h⟩
    rw [Node.childIds, show n.children = _ from congrArg Outline.children ho]
    decide

end Desktop
end DeskShell

import DeskShell.Builtin.Find
import DeskShell.Builtin.Tree
import DeskShell.Proofs.Forest
import DeskShell.Proofs.Leads
import DeskShell.Proofs.HalfMoves

/-!
# What is visited below an entry

`find`, `tree` and a walk of the store each go down from an entry on their own: the first with the
paths of the entries, the second with indents and counts. All three meet the same entries in the
same order.

* `Store.Preorder`: an order in which each entry is followed by what is below it.
* `Store.Reaches`: what is below an entry through containers; the entry itself may be none.
* `Store.inside`: the entries that are met, with `Forest.preorder_inside`, `Forest.nodup_inside` and
  `Forest.mem_inside`.
* `Forest.map_visited`, `Forest.shows_draw`, `Forest.walk_eq`: the three ways down.
* `Builtin.same_visits`: what the two commands write.
-/
namespace DeskShell

open Relation (ReflTransGen)

variable {C : Type} {s : Store}

namespace Store

/-- `L` is the entries of `row`, each with what is below it directly behind it. -/
inductive Preorder (s : Store) : List Node → List Node → Prop
  | nil : Preorder s [] []
  | leaf {e : Node} {row L : List Node} (hleaf : e.isContainer = false) (rest : Preorder s row L) :
      Preorder s (e :: row) (e :: L)
  | container {e : Node} {row below L : List Node} (hcont : e.isContainer = true)
      (inner : Preorder s (s.contents e.id) below) (rest : Preorder s row L) :
      Preorder s (e :: row) (e :: (below ++ L))

/-- `id` is a child of the entry `r`, of whatever kind that is, or below a child through
containers. -/
def Reaches (s : Store) (r id : String) : Prop := ∃ c, s.Lists r c ∧ ReflTransGen s.Opens c id

/-- What walks from the children of an entry meet. -/
def inside (s : Store) (id : String) : List Node :=
  (s.contents id).flatMap (s.walkFrom s.nodes.length)

end Store

open Store

/-! ## The entries below an entry -/

namespace Forest

/-- The depth of the walk has to suffice for what is below. -/
theorem preorder_flatMap (F : Forest s) : ∀ (fuel : Nat) (row : List Node),
    (∀ e ∈ row, s.nodes.length ≤ (s.ancestors e.id).length + fuel + 1) →
    s.Preorder row (row.flatMap (s.walkFrom fuel))
  | _, [], _ => .nil
  | 0, e :: row, h => by
    obtain ⟨he, hrow⟩ := List.forall_mem_cons.mp h
    have rest := F.preorder_flatMap 0 row hrow
    cases hcont : e.isContainer with
    | false => exact .leaf hcont rest
    | true =>
      have inner : s.Preorder (s.contents e.id) [] := by
        rw [F.contents_eq_nil he]
        exact .nil
      exact .container hcont inner rest
  | fuel + 1, e :: row, h => by
    obtain ⟨he, hrow⟩ := List.forall_mem_cons.mp h
    have rest := F.preorder_flatMap (fuel + 1) row hrow
    rw [List.flatMap_cons, walkFrom, List.cons_append]
    cases hcont : e.isContainer with
    | false => exact .leaf hcont rest
    | true =>
      refine .container hcont (F.preorder_flatMap fuel _ fun x hx => ?_) rest
      have hup := F.length_ancestors_of_lists (mem_contents.mp hx).1
      omega
  termination_by fuel row => (fuel, row.length)

/-- Walks from the children of an entry need not go as deep as there are entries. -/
theorem flatMap_walkFrom (F : Forest s) {fuel : Nat} (hle : s.nodes.length ≤ fuel + 1)
    (id : String) : (s.contents id).flatMap (s.walkFrom fuel) = s.inside id :=
  List.flatMap_congr fun _ he => F.walkFrom_of_le (mem_contents.mp he).2 hle

theorem preorder_inside (F : Forest s) (id : String) :
    s.Preorder (s.contents id) (s.inside id) :=
  F.preorder_flatMap _ _ fun _ _ => by omega

theorem nodup_inside (F : Forest s) (id : String) : ((s.inside id).map (·.id)).Nodup :=
  F.nodup_flatMap_walkFrom _ id fun c hc => F.nodup_walkFrom _ c (mem_contents.mp hc).2

theorem mem_inside (F : Forest s) {r : String} {m : Node} :
    m ∈ s.inside r ↔ s.get? m.id = some m ∧ s.Reaches r m.id := by
  unfold inside
  rw [List.mem_flatMap]
  constructor
  · rintro ⟨c, hc, hm⟩
    obtain ⟨hl, hget⟩ := mem_contents.mp hc
    obtain ⟨hm, hopens⟩ := (F.mem_walkFrom_iff hget).mp hm
    exact ⟨hm, c.id, hl, hopens⟩
  · rintro ⟨hm, c, hl, hopens⟩
    obtain ⟨k, hk⟩ := has_iff.mp (F.stored r c hl)
    obtain rfl := id_of_get? hk
    exact ⟨k, mem_contents.mpr ⟨hl, hk⟩, (F.mem_walkFrom_iff hk).mpr ⟨hm, hopens⟩⟩

/-- A walk from a container goes on with what is inside it. -/
theorem walk_eq (F : Forest s) {id : String} {n : Node} (hn : s.get? id = some n)
    (hcont : n.isContainer = true) : s.walk id = .ok (n :: s.inside id) := by
  have hwalk : s.walkFrom s.nodes.length n = n :: s.inside n.id := by
    obtain ⟨k, hk⟩ : ∃ k, s.nodes.length = k + 1 :=
      Nat.exists_eq_succ_of_ne_zero fun h => by
        have := mem_nodes_of_get? hn
        rw [List.length_eq_zero_iff.mp h] at this
        cases this
    rw [hk, walkFrom, if_pos hcont, F.flatMap_walkFrom (by omega)]
  rw [walk, require, hn]
  dsimp only
  rw [hwalk, id_of_get? hn]

end Forest

/-! ## With paths -/

namespace Builtin

/-- What `find` visits from the entry `r` when the start is written `start`. -/
def visited (s : Store) (start r : String) : List (String × Node) :=
  below s s.nodes.length (startPath start) r

theorem map_visitAll (within : String → String → List (String × Node)) (path : String)
    (row : List Node) : (visitAll within path row).map (·.2) = row.flatMap fun e =>
      e :: if e.isContainer then (within (path ++ "/" ++ e.name) e.id).map (·.2) else [] := by
  induction row with
  | nil => rfl
  | cons e row ih =>
    rw [visitAll, List.map_cons, List.map_append, ih, List.flatMap_cons, List.cons_append]
    split <;> rfl

theorem map_below (s : Store) : ∀ (fuel : Nat) (path id : String),
    (below s (fuel + 1) path id).map (·.2) = (s.contents id).flatMap (s.walkFrom fuel)
  | 0, path, id => by
    rw [below, map_visitAll]
    refine List.flatMap_congr fun e _ => ?_
    cases e.isContainer <;> rfl
  | fuel + 1, path, id => by
    rw [below, map_visitAll]
    refine List.flatMap_congr fun e _ => ?_
    rw [map_below s fuel, walkFrom]

theorem map_visited (F : Forest s) (start r : String) :
    (visited s start r).map (·.2) = s.inside r := by
  unfold visited
  cases hlen : s.nodes.length with
  | zero =>
    rw [inside, F.contents_eq_nil (by omega)]
    rfl
  | succ fuel => rw [map_below, F.flatMap_walkFrom (by omega)]

/-! ## With indents -/

/-- `indent` stands before what is drawn `depth` folders below the start. -/
inductive Indent : Nat → String → Prop
  | top : Indent 0 ""
  | deeper {depth : Nat} {indent gap : String} (h : Indent depth indent)
      (hgap : gap = "    " ∨ gap = "│   ") : Indent (depth + 1) (indent ++ gap)

/-- `line` is the one on which the entry `e` is drawn below `r`. -/
def Draws (s : Store) (r line : String) (e : Node) : Prop :=
  ∃ depth indent branch, (s.ancestors e.id).length = (s.ancestors r).length + depth + 1 ∧
    Indent depth indent ∧ (branch = "├── " ∨ branch = "└── ") ∧ line = indent ++ branch ++ e.name

namespace Drawing

/-- The drawing has a line for each entry of `L`, and its counts are those of `L`. -/
structure Shows (s : Store) (r : String) (d : Drawing) (L : List Node) : Prop where
  lines : List.Forall₂ (Draws s r) d.lines L
  dirs : d.dirs = (L.filter (·.isContainer)).length
  files : d.files = (L.filter (!·.isContainer)).length

variable {r : String} {d d' : Drawing} {L L' : List Node}

theorem Shows.append (h : Shows s r d L) (h' : Shows s r d' L') :
    Shows s r (d.append d') (L ++ L') where
  lines := List.rel_append h.lines h'.lines
  dirs := by rw [List.filter_append, List.length_append, ← h.dirs, ← h'.dirs]; rfl
  files := by rw [List.filter_append, List.length_append, ← h.files, ← h'.files]; rfl

theorem shows_nil : Shows s r {} [] := ⟨.nil, rfl, rfl⟩

end Drawing

open Drawing (Shows shows_nil)

/-- The entries of one folder are shown if what is inside each of them is. -/
theorem shows_drawAll {r indent : String} {depth : Nat} (hindent : Indent depth indent)
    {within : String → String → Drawing} {inner : Node → List Node} : ∀ row : List Node,
    (∀ e ∈ row, (s.ancestors e.id).length = (s.ancestors r).length + depth + 1) →
    (∀ e ∈ row, ∀ deeper, Indent (depth + 1) deeper → Shows s r (within deeper e.id) (inner e)) →
    Shows s r (drawAll within indent row)
      (row.flatMap fun e => e :: if e.isContainer then inner e else [])
  | [], _, _ => shows_nil
  | e :: row, hdepth, hinner => by
    obtain ⟨he, hrow⟩ := List.forall_mem_cons.mp hdepth
    obtain ⟨hin, hinrow⟩ := List.forall_mem_cons.mp hinner
    have rest := shows_drawAll hindent row hrow hinrow
    have hline : Draws s r (indent ++ (if row.isEmpty then "└── " else "├── ") ++ e.name) e := by
      refine ⟨depth, indent, _, he, hindent, ?_, rfl⟩
      split
      · exact .inr rfl
      · exact .inl rfl
    have hdeeper : Indent (depth + 1) (indent ++ if row.isEmpty then "    " else "│   ") := by
      refine .deeper hindent ?_
      split
      · exact .inl rfl
      · exact .inr rfl
    unfold drawAll
    rw [List.flatMap_cons]
    refine Shows.append ?_ rest
    cases hcont : e.isContainer with
    | false => exact ⟨.cons hline .nil, by simp [hcont], by simp [hcont]⟩
    | true =>
      have hfirst : Shows s r ⟨[_], 1, 0⟩ [e] :=
        ⟨.cons hline .nil, by simp [hcont], by simp [hcont]⟩
      exact hfirst.append (hin _ hdeeper)

theorem shows_draw_succ (F : Forest s) {r : String} : ∀ (fuel : Nat) {depth : Nat}
    {indent : String} (id : String), Indent depth indent →
    (s.ancestors id).length = (s.ancestors r).length + depth →
    Shows s r (draw s (fuel + 1) indent id) ((s.contents id).flatMap (s.walkFrom fuel))
  | 0, depth, indent, id, hindent, hid => by
    have hwalk : (s.contents id).flatMap (s.walkFrom 0) = (s.contents id).flatMap fun e =>
        e :: if e.isContainer then [] else [] := by simp [walkFrom]
    rw [hwalk, draw]
    refine shows_drawAll hindent _ (fun e he => ?_) fun _ _ _ _ => shows_nil
    rw [F.length_ancestors_of_lists (mem_contents.mp he).1, hid]
  | fuel + 1, depth, indent, id, hindent, hid => by
    have hdepth : ∀ e ∈ s.contents id,
        (s.ancestors e.id).length = (s.ancestors r).length + depth + 1 := fun e he => by
      rw [F.length_ancestors_of_lists (mem_contents.mp he).1, hid]
    exact shows_drawAll hindent _ hdepth fun e he deeper hdeeper =>
      shows_draw_succ F fuel e.id hdeeper (hdepth e he)

theorem shows_draw (F : Forest s) (r : String) :
    Shows s r (draw s s.nodes.length "" r) (s.inside r) := by
  cases hlen : s.nodes.length with
  | zero =>
    rw [inside, F.contents_eq_nil (by omega)]
    exact shows_nil
  | succ fuel =>
    rw [← F.flatMap_walkFrom (by omega : s.nodes.length ≤ fuel + 1)]
    exact shows_draw_succ F fuel r .top rfl

/-! ## The two commands -/

/-- The text that the search starts at. -/
def Search.origin (q : Search) : String :=
  let given := q.start.getD ""
  if given = "" then "." else given

variable {σ : Session C} {r : String} {args : List String}

theorem leadsTo_dot : σ.LeadsTo "." σ.folder := by
  have hdot : Path.segments (Path.normalize ".") = ["."] := by decide
  unfold Session.LeadsTo
  rw [Session.resolve_relative (by decide) (by decide), hdot]
  exact ⟨_, rfl, rfl⟩

/-- An empty start leads where the dot leads. -/
theorem leadsTo_origin {q : Search} (h : σ.LeadsTo (q.start.getD ".") r) :
    σ.LeadsTo q.origin r := by
  unfold Search.origin
  cases hstart : q.start with
  | none => rwa [hstart] at h
  | some start =>
    rw [hstart] at h
    dsimp only [Option.getD_some] at h ⊢
    split
    · next hempty =>
      subst hempty
      obtain ⟨place, hplace, rfl⟩ := h
      obtain rfl := Option.some.inj (Except.ok.inj hplace)
      exact leadsTo_dot
    · exact h

/-- `find` writes the paths of those that it visits and the search admits. -/
theorem find_of_leadsTo {q : Search} (hq : Search.ofArgs args = .ok q)
    (h : σ.LeadsTo (q.start.getD ".") r) : find args σ =
      .ok (.out (Text.unlines (((visited σ.store q.origin r).filter fun e =>
        q.admits e.2).map (·.1)))) := by
  obtain ⟨place, hplace, rfl⟩ := leadsTo_origin h
  have hfound := Session.locate_of_resolve hplace
  unfold Search.origin at hfound ⊢
  simp only [find, hq, hfound, bind, Except.bind, pure, Except.pure, visited]

theorem tree_of_leadsTo {n : Node} (hn : σ.store.get? r = some n)
    (h : σ.LeadsTo ((Args.parse args).operands.head?.getD ".") r) : tree args σ =
      let d := draw σ.store σ.store.nodes.length "" r
      .ok (.out (Text.unlines (n.name :: d.lines) ++ "\n\n" ++
        s!"{d.dirs} directories, {d.files} files")) := by
  obtain ⟨place, hplace, rfl⟩ := h
  simp only [tree, Session.locate_of_resolve hplace, hn, bind, Except.bind, pure, Except.pure,
    Option.map_some, Option.getD_some]

theorem Search.admits_of_unnamed {q : Search} (hname : q.name.getD "" = "") (n : Node) :
    q.admits n = match q.only with
      | none => true
      | some t => t.admits n := by
  unfold admits
  cases hq : q.name with
  | none => exact Bool.and_true _
  | some pattern =>
    obtain rfl : pattern = "" := by simpa [hq] using hname
    exact Bool.and_true _

/-- In a forest, `find` without a name, `tree` and a walk of the store meet the same entries below
an entry `r`, once each and parents first: all that are reached from it through containers. The type
asked of `find` splits them into containers and others, which `tree` counts. -/
theorem same_visits {n : Node} (F : Forest σ.store) (hn : σ.store.get? r = some n) :
    let s := σ.store
    let L := s.inside r
    let dirs := L.filter (·.isContainer)
    let files := L.filter (!·.isContainer)
    s.Preorder (s.contents r) L ∧ (L.map (·.id)).Nodup ∧
    (∀ m, m ∈ L ↔ s.get? m.id = some m ∧ s.Reaches r m.id) ∧ (dirs ++ files).Perm L ∧
    (∀ args q, Search.ofArgs args = .ok q → q.name.getD "" = "" →
      σ.LeadsTo (q.start.getD ".") r →
      let V := visited s q.origin r
      let dirs' := V.filter (·.2.isContainer)
      let files' := V.filter (!·.2.isContainer)
      V.map (·.2) = L ∧ dirs'.map (·.2) = dirs ∧ files'.map (·.2) = files ∧
      find args σ = .ok (.out (Text.unlines (List.map (·.1) <|
        match q.only with
        | none => V
        | some .folders => dirs'
        | some .files => files')))) ∧
    (∀ args, σ.LeadsTo ((Args.parse args).operands.head?.getD ".") r →
      ∃ lines, List.Forall₂ (Draws s r) lines L ∧
        tree args σ = .ok (.out (Text.unlines (n.name :: lines) ++ "\n\n" ++
          s!"{dirs.length} directories, {files.length} files"))) ∧
    (n.isContainer = true → s.walk r = .ok (n :: L)) := by
  intro s L dirs files
  refine ⟨F.preorder_inside r, F.nodup_inside r, fun m => F.mem_inside,
    List.filter_append_perm _ L, ?_, ?_, F.walk_eq hn⟩
  · intro args q hq hname h V dirs' files'
    have hV : V.map (·.2) = L := map_visited F q.origin r
    have hkept : ∀ p : Node → Bool, (V.filter fun e => p e.2).map (·.2) = L.filter p := fun p => by
      rw [← hV, List.filter_map]
      rfl
    refine ⟨hV, hkept _, hkept fun m => !m.isContainer, ?_⟩
    rw [find_of_leadsTo hq h]
    simp only [Search.admits_of_unnamed hname]
    rcases q.only with _ | _ | _
    · rw [List.filter_true]
    · rfl
    · rfl
  · intro args h
    have hshows := shows_draw F r
    refine ⟨_, hshows.lines, ?_⟩
    rw [tree_of_leadsTo hn h]
    dsimp only
    rw [hshows.dirs, hshows.files]

end Builtin

namespace Desktop

open Builtin (find tree)

/-- The delivered desktop from its root: the system items on it are no containers. -/
theorem same_visits_delivered : ∃ σ n, session {} 0 (fun _ => .unset) = .ok σ ∧
    (Forest σ.store ∧ σ.store.get? "desktop" = some n ∧ n.isContainer = true ∧
      σ.LeadsTo "." "desktop") ∧
    (σ.store.inside "desktop").map (·.id) = ["about", "projects", "project-1", "project-2",
      "project-3", "contact", "skills", "recycle-bin"] ∧
    find ["-type", "d"] σ = .ok (.out "./My Projects") ∧
    find [".", "-type=f", "-name="] σ = .ok (.out ("./About Me.txt\n" ++
      "./My Projects/Project Alpha\n./My Projects/Project Beta\n" ++
      "./My Projects/Retro OS Website\n./Contact.txt\n./My Computer\n./Recycle Bin")) ∧
    (∃ lines, lines.length = 8 ∧ tree [] σ = .ok (.out (Text.unlines ("Desktop" :: lines) ++
      "\n\n" ++ "1 directories, 7 files"))) ∧
    σ.store.walk "desktop" = .ok (n :: σ.store.inside "desktop") := by
  have hrun : (session {} 0 fun _ => .unset).map (fun σ =>
      let V := Builtin.visited σ.store "." "desktop"
      ((σ.store.get? "desktop").map fun n => (n.name, n.isContainer), σ.resolve (some "."),
        (σ.store.inside "desktop").map (·.id), (V.filter (·.2.isContainer)).map (·.1),
        (V.filter (!·.2.isContainer)).map (·.1))) =
      .ok (some ("Desktop", true), .ok (some ⟨"desktop", "C:\\Desktop"⟩), ["about", "projects",
        "project-1", "project-2", "project-3", "contact", "skills", "recycle-bin"],
        ["./My Projects"], ["./About Me.txt", "./My Projects/Project Alpha",
          "./My Projects/Project Beta", "./My Projects/Retro OS Website", "./Contact.txt",
          "./My Computer", "./Recycle Bin"]) := by
    decide +kernel
  obtain ⟨σ, hσ, hin, -⟩ := exists_session {} 0 fun _ => .unset
  have hrun := eq_of_session hσ hrun
  simp only [Prod.mk.injEq] at hrun
  obtain ⟨hdesktop, hplace, hids, hdirpaths, hotherpaths⟩ := hrun
  obtain ⟨n, hn, hnode⟩ := Option.map_eq_some_iff.mp hdesktop
  obtain ⟨hname, hcont⟩ := Prod.mk.inj hnode
  have hdot : σ.LeadsTo "." "desktop" := ⟨_, hplace, rfl⟩
  obtain ⟨-, -, -, -, hfind, htree, hwalk⟩ := Builtin.same_visits hin.sound.toForest hn
  obtain ⟨-, hdirs, -, hfolders⟩ := hfind ["-type", "d"] { only := some .folders } rfl rfl hdot
  obtain ⟨-, -, hothers, hfiles⟩ := hfind [".", "-type=f", "-name="]
    { start := some ".", name := some "", only := some .files } rfl rfl hdot
  obtain ⟨lines, hlines, htree⟩ := htree [] hdot
  refine ⟨σ, n, hσ, ⟨hin.sound.toForest, hn, hcont, hdot⟩, hids, hfolders.trans ?_,
    hfiles.trans ?_, ⟨lines, ?_, htree.trans ?_⟩, hwalk hcont⟩
  · exact congrArg (fun paths => Except.ok (Result.out (Text.unlines paths))) hdirpaths
  · exact congrArg (fun paths => Except.ok (Result.out (Text.unlines paths))) hotherpaths
  · simpa [hlines.length_eq] using congrArg List.length hids
  · have hdirs : ((σ.store.inside "desktop").filter (·.isContainer)).length = 1 := by
      rw [← hdirs, List.length_map, ← List.length_map (f := (·.1))]
      exact congrArg List.length hdirpaths
    have hothers : ((σ.store.inside "desktop").filter (!·.isContainer)).length = 7 := by
      rw [← hothers, List.length_map, ← List.length_map (f := (·.1))]
      exact congrArg List.length hotherpaths
    rw [hname, hdirs, hothers]
    rfl

end Desktop
end DeskShell

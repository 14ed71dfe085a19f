import DeskShell.Proofs.RoundTrips
import DeskShell.Proofs.Addresses
import DeskShell.Proofs.Visits

/-!
# Paths that are found

`find` puts the path of an entry together from the start as it was typed, less the separators at its
end, and the names on the way. Read again as a path, it leads to the start first and then down by
these names.

* `Store.Between`: the entries on the way down from a start.
* `Builtin.descent_of_mem_below`: what is written behind the start are the names of a descent.
* `Path.segments_behind_start`: what is put behind a start adds its segments to those of the start.
* `Path.Started`: a start behind which nothing gets absolute; `Path.Started.isAbsolute_append`.
* `Session.leadsTo_behind`: names of a descent behind a start lead to the end of the descent.
* `Builtin.leads_back`: the paths that are printed.
-/
namespace DeskShell

open Relation (ReflTransGen)

variable {C : Type} {s : Store} {σ : Session C} {id last : String}

/-! ## The way down -/

namespace Store

/-- The entry `m` stands on the way from `r` down to `id`; `r` itself does not. -/
structure Between (s : Store) (r id : String) (m : Node) : Prop where
  stored : s.get? m.id = some m
  above : s.Below r m.id
  below : ReflTransGen s.Lists m.id id

/-- On the way from `r` down to `id`, names stand for themselves and no siblings share them. -/
def Spelled (s : Store) (r id : String) : Prop :=
  ∀ m, s.Between r id m → Path.Plain m.name ∧ s.Sole m

theorem Spelled.lower {p c : String} (h : s.Spelled p id) (hl : s.Lists p c) : s.Spelled c id :=
  fun m hm => h m ⟨hm.stored, .head hl hm.above, hm.below⟩

theorem Descent.reached {names shown : List String} (D : s.Descent id names shown last) :
    ReflTransGen s.Lists id last := by
  induction D with
  | stay => exact .refl
  | down first _ ih => exact .head (childNamed_eq_some first).1 ih

end Store

open Store

namespace Builtin

theorem mem_visitAll {within : String → String → List (String × Node)} {path : String}
    {x : String × Node} {row : List Node} (h : x ∈ visitAll within path row) :
    ∃ e ∈ row, x = (path ++ "/" ++ e.name, e) ∨ x ∈ within (path ++ "/" ++ e.name) e.id := by
  induction row with
  | nil => cases h
  | cons e row ih =>
    rw [visitAll, List.mem_cons, List.mem_append] at h
    rcases h with hhere | hin | hrest
    · exact ⟨e, List.mem_cons_self, .inl hhere⟩
    · split at hin
      · exact ⟨e, List.mem_cons_self, .inr hin⟩
      · cases hin
    · obtain ⟨k, hk, hx⟩ := ih hrest
      exact ⟨k, List.mem_cons_of_mem e hk, hx⟩

/-- What stands behind the path of the start are the names down to the entry. -/
theorem descent_of_mem_below {text : String} {e : Node} : ∀ (fuel : Nat) (path id : String),
    (text, e) ∈ below s fuel path id → s.Spelled id e.id →
    ∃ names, names ≠ [] ∧ text = path ++ "/" ++ Text.glue '/' names ∧
      (∀ name ∈ names, Path.Plain name) ∧ s.Descent id names names e.id
  | 0, _, _, h, _ => by cases h
  | fuel + 1, path, id, h, hspelled => by
    obtain ⟨c, hc, hx⟩ := mem_visitAll h
    obtain ⟨hl, hget⟩ := mem_contents.mp hc
    have hown : ReflTransGen s.Lists c.id e.id →
        Path.Plain c.name ∧ s.childNamed id c.name = some c := fun hreach =>
      have hc := hspelled c ⟨hget, .single hl, hreach⟩
      ⟨hc.1, childNamed_of_sole hl hget hc.2⟩
    rcases hx with hhere | hin
    · obtain ⟨rfl, rfl⟩ := Prod.mk.inj hhere
      obtain ⟨hplain, hchild⟩ := hown .refl
      exact ⟨[e.name], List.cons_ne_nil _ _, by rw [Text.glue, String.intercalate_singleton],
        by simpa using hplain, .down hchild .stay⟩
    · obtain ⟨names, hne, rfl, hnames, D⟩ :=
        descent_of_mem_below fuel _ c.id hin (hspelled.lower hl)
      obtain ⟨hplain, hchild⟩ := hown D.reached
      refine ⟨c.name :: names, List.cons_ne_nil _ _, ?_,
        List.forall_mem_cons.mpr ⟨hplain, hnames⟩, .down hchild D⟩
      obtain ⟨name, rest, rfl⟩ := List.exists_cons_of_ne_nil hne
      rw [Text.glue, Text.glue, String.intercalate_cons_cons]
      simp only [String.append_assoc]
      rfl

end Builtin

/-! ## The start -/

namespace Path

open Builtin (startPath)

/-- A start that is relative and does not turn into the drive without the separators at its end. -/
structure Started (start : String) : Prop where
  nonempty : start ≠ ""
  relative : isAbsolute start = false
  upper : startPath start ≠ "C:"
  lower : startPath start ≠ "c:"

/-- The separators that are left out at the end are those of the path in normal form. -/
theorem normalize_startPath (start : String) : (normalize (startPath start)).toList =
    dropTrailing (· == sep) (normalize start).toList := by
  have hsep : ((· == sep) ∘ normalizeChar : Char → Bool) = fun c => c == '/' || c == '\\' := by
    funext c
    by_cases hc : c = '/'
    · subst hc
      rfl
    · simp [normalizeChar, hc, sep]
  unfold startPath normalize dropTrailing
  simp only [String.toList_ofList, ← List.map_reverse, List.dropWhile_map, hsep]

theorem exists_normalize_start (start : String) : ∃ k,
    (normalize start).toList = (normalize (startPath start)).toList ++ List.replicate k sep := by
  rw [normalize_startPath]
  exact dropTrailing_append _

theorem normalize_behind (base rest : String) : (normalize (base ++ "/" ++ rest)).toList =
    (normalize base).toList ++ sep :: (normalize rest).toList := by
  rw [normalize_append, normalize_append, String.toList_append, String.toList_append,
    List.append_assoc]
  rfl

/-- A text whose normal form has no separators is its normal form. -/
theorem eq_normalize {text : String} (h : sep ∉ (normalize text).toList) :
    normalize text = text := by
  refine normalize_eq_self fun hslash => h ?_
  unfold normalize
  rw [String.toList_ofList]
  exact List.mem_map_of_mem (f := normalizeChar) hslash

section Start

variable {start : String}

/-- What is put behind a start adds its segments to those of the start. -/
theorem segments_behind_start (start rest : String) :
    segments (normalize (startPath start ++ "/" ++ rest)) =
      segments (normalize start) ++ segments (normalize rest) := by
  obtain ⟨k, hk⟩ := exists_normalize_start start
  have hstart : segments (normalize start) = segments (normalize (startPath start)) := by
    rw [← String.ofList_toList (s := normalize start), hk, segments_append_replicate,
      String.ofList_toList]
  rw [← String.ofList_toList (s := normalize (startPath start ++ "/" ++ rest)), normalize_behind,
    segments_append_sep, String.ofList_toList, String.ofList_toList, hstart]

namespace Started

variable (h : Started start)

include h

theorem ne_nil : (normalize (startPath start)).toList ≠ [] := by
  intro hnil
  obtain ⟨k, hk⟩ := exists_normalize_start start
  rw [hnil, List.nil_append] at hk
  cases k with
  | zero =>
    rw [List.replicate_zero] at hk
    have hself : normalize start = start := eq_normalize (hk ▸ List.not_mem_nil)
    rw [hself] at hk
    exact h.nonempty (String.toList_inj.mp hk)
  | succ k =>
    have habs := h.relative
    rw [isAbsolute, hk] at habs
    cases habs

theorem isAbsoluteList_sep (b : List Char) :
    isAbsoluteList ((normalize (startPath start)).toList ++ sep :: b) =
      isAbsoluteList (normalize (startPath start)).toList := by
  have hdrive : ∀ drive : String, sep ∉ drive.toList → startPath start ≠ drive →
      (normalize (startPath start)).toList ≠ drive.toList := by
    intro drive hbare hne heq
    rw [eq_normalize (by rwa [heq])] at heq
    exact hne (String.toList_inj.mp heq)
  exact isAbsoluteList_append h.ne_nil (hdrive "C:" (by decide) h.upper)
    (hdrive "c:" (by decide) h.lower) b

/-- What is put behind a relative start is relative. -/
theorem isAbsolute_append (rest : String) :
    isAbsolute (startPath start ++ "/" ++ rest) = false := by
  obtain ⟨k, hk⟩ := exists_normalize_start start
  have hrel := h.relative
  rw [isAbsolute, hk] at hrel
  rw [isAbsolute, normalize_behind, h.isAbsoluteList_sep]
  cases k with
  | zero => rwa [List.replicate_zero, List.append_nil] at hrel
  | succ k => rwa [List.replicate_succ, h.isAbsoluteList_sep] at hrel

end Started
end Start
end Path

/-! ## From the start to what is found -/

/-- The names of a descent lead down from where the start leads. -/
theorem Session.leadsTo_behind {start r : String} {names shown : List String}
    (hstart : Path.Started start) (hl : σ.LeadsTo start r) (hne : names ≠ [])
    (hplain : ∀ name ∈ names, Path.Plain name) (D : σ.store.Descent r names shown last) :
    σ.LeadsTo (Builtin.startPath start ++ "/" ++ Text.glue '/' names) last := by
  obtain ⟨place, hr, rfl⟩ := hl
  rw [Session.resolve_relative hstart.nonempty hstart.relative] at hr
  obtain ⟨parts, hrest⟩ := Session.followShown_append hr
  have hway := Session.followShown_descent D hplain parts []
  rw [List.append_nil] at hway
  have hsegs : Path.segments (Path.normalize (Text.glue '/' names)) = names :=
    Path.segments_normalize_glue hne fun name hname =>
      ⟨(hplain name hname).nonempty, (hplain name hname).bare, (hplain name hname).slashless⟩
  refine ⟨⟨last, Path.display (parts ++ shown)⟩, ?_, rfl⟩
  rw [Session.resolve_relative ?_ (hstart.isAbsolute_append _), Path.segments_behind_start, hrest,
    hsegs, hway]
  · rfl
  · intro hempty
    have hlist := congrArg String.toList hempty
    simp at hlist

namespace Builtin

/-- A start that is given as an empty text is the dot. -/
theorem started_origin {q : Search} (hrel : Path.isAbsolute (q.start.getD ".") = false)
    (hdrive : startPath (q.start.getD ".") ∉ ["C:", "c:"]) : Path.Started q.origin := by
  have hdot : Path.Started "." := ⟨by decide, by decide, by decide, by decide⟩
  unfold Search.origin
  cases hstart : q.start with
  | none => exact hdot
  | some start =>
    rw [hstart] at hrel hdrive
    dsimp only [Option.getD_some] at hrel hdrive ⊢
    split
    · exact hdot
    · next hne =>
      exact ⟨hne, hrel, fun h => hdrive (by simp [h]), fun h => hdrive (by simp [h])⟩

/-- In a forest, and from a start that is relative and is not the drive, `find` visits what is reached
from the start, and the path that it writes for an entry leads back to the entry if the names on the
way down to it stand for themselves and are not shared by siblings. -/
theorem leads_back (F : Forest σ.store) {args : List String} {q : Search} {r : String}
    (hq : Search.ofArgs args = .ok q) (hl : σ.LeadsTo (q.start.getD ".") r)
    (hrel : Path.isAbsolute (q.start.getD ".") = false)
    (hdrive : startPath (q.start.getD ".") ∉ ["C:", "c:"]) :
    let V := visited σ.store q.origin r
    find args σ = .ok (.out (Text.unlines ((V.filter fun e => q.admits e.2).map (·.1)))) ∧
    (∀ e, (∃ text, (text, e) ∈ V) ↔ σ.store.get? e.id = some e ∧ σ.store.Reaches r e.id) ∧
    ∀ text e, (text, e) ∈ V → σ.store.Spelled r e.id → σ.LeadsTo text e.id := by
  intro V
  refine ⟨find_of_leadsTo hq hl, fun e => ?_, fun text e he hspelled => ?_⟩
  · rw [← F.mem_inside, ← map_visited F q.origin r, List.mem_map]
    exact ⟨fun ⟨text, h⟩ => ⟨(text, e), h, rfl⟩, fun ⟨⟨text, _⟩, h, heq⟩ => ⟨text, heq ▸ h⟩⟩
  · obtain ⟨names, hne, rfl, hplain, D⟩ := descent_of_mem_below _ _ r he hspelled
    exact Session.leadsTo_behind (started_origin hrel hdrive) (leadsTo_origin hl) hne hplain D

end Builtin

namespace Desktop

/-- A folder of the delivered desktop, typed in another case and with separators behind it. -/
theorem leads_back_projects : ∃ σ, ∃ e : Node, session {} 0 (fun _ => .unset) = .ok σ ∧
    (Forest σ.store ∧ σ.LeadsTo "my PROJECTS/\\" "projects" ∧
      Path.isAbsolute "my PROJECTS/\\" = false ∧
      Builtin.startPath "my PROJECTS/\\" ∉ ["C:", "c:"]) ∧
    Builtin.find ["my PROJECTS/\\"] σ = .ok (.out ("my PROJECTS/Project Alpha\n" ++
      "my PROJECTS/Project Beta\nmy PROJECTS/Retro OS Website")) ∧
    e.id = "project-2" ∧ σ.store.Spelled "projects" e.id ∧
    σ.LeadsTo "my PROJECTS/Project Beta" e.id := by
  have hrun : (session {} 0 fun _ => .unset).map (fun σ =>
      (σ.resolve (some "my PROJECTS/\\"), (Builtin.visited σ.store "my PROJECTS/\\" "projects").map
        fun x => (x.1, x.2.id))) =
      .ok (.ok (some ⟨"projects", "C:\\Desktop\\My Projects"⟩), [
        ("my PROJECTS/Project Alpha", "project-1"), ("my PROJECTS/Project Beta", "project-2"),
        ("my PROJECTS/Retro OS Website", "project-3")]) := by
    decide +kernel
  obtain ⟨σ, hσ, hin, -⟩ := exists_session {} 0 fun _ => .unset
  have hrun := eq_of_session hσ hrun
  obtain ⟨hplace, hvisited⟩ := Prod.mk.inj hrun
  obtain ⟨s, hs, -, -, houtline⟩ := exists_store 0
  obtain rfl := Except.ok.inj (hs.symm.trans (store_of_session hσ))
  have hstart : σ.LeadsTo "my PROJECTS/\\" "projects" := ⟨_, hplace, rfl⟩
  have hrel : Path.isAbsolute "my PROJECTS/\\" = false := by decide
  have hdrive : Builtin.startPath "my PROJECTS/\\" ∉ ["C:", "c:"] := by decide
  have hq : Builtin.Search.ofArgs ["my PROJECTS/\\"] = .ok { start := some "my PROJECTS/\\" } := rfl
  obtain ⟨hfind, -, hback⟩ := Builtin.leads_back hin.sound.toForest hq hstart hrel hdrive
  simp only [Builtin.Search.admits, Bool.and_self, List.filter_true] at hfind
  have hpaths := congrArg (List.map (·.1)) hvisited
  rw [List.map_map] at hpaths
  obtain ⟨⟨text, e⟩, hmem, hentry⟩ : ∃ x ∈ Builtin.visited σ.store "my PROJECTS/\\" "projects",
      (x.1, x.2.id) = ("my PROJECTS/Project Beta", "project-2") := by
    rw [← List.mem_map, hvisited]
    decide
  obtain ⟨rfl, hid⟩ := Prod.mk.inj hentry
  have hspelled : σ.store.Spelled "projects" e.id := fun m hm =>
    ⟨plain_nodes houtline hm.stored, sole_nodes houtline hm.stored⟩
  refine ⟨σ, e, hσ, ⟨hin.sound.toForest, hstart, hrel, hdrive⟩, hfind.trans ?_, hid, hspelled,
    hback _ e hmem hspelled⟩
  exact congrArg (fun paths => Except.ok (Result.out (Text.unlines paths))) hpaths

end Desktop
end DeskShell

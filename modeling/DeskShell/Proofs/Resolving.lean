import DeskShell.Proofs.WorkingFolder

/-!
# Which paths can be resolved

A step up from an entry with a parent takes a part off the displayed path. The displayed path may be
another than the real one, so the parts may run out before the top is reached.

* `Session.exists_followShown`: with a part for each entry above, no path runs out of them.
* `Session.followShown_up`: with fewer parts, going up once more than there are parts does.
* `Session.forall_resolve_iff`: for a session in order, every path is resolved if and only if there
  are enough parts, and `Session.InSync.length_le` says that there are when the displayed path is
  right.
* `Desktop.forall_resolve_play_iff`: what this means for sessions on the delivered desktop.
-/
namespace DeskShell

variable {C : Type} {N : String → Prop} {σ : Session C}

/-! ## Ways up as texts -/

namespace Path

/-- The path that goes up `k` times. -/
def up (k : Nat) : String := display (List.replicate k "..")

theorem up_succ (k : Nat) : up (k + 2) = ".." ++ String.singleton sep ++ up (k + 1) := by
  unfold up display Text.glue
  rw [List.replicate_succ, List.replicate_succ, String.intercalate_cons_cons]

theorem toList_up_succ (k : Nat) : ∃ rest, (up (k + 1)).toList = '.' :: '.' :: rest := by
  cases k with
  | zero => exact ⟨[], rfl⟩
  | succ k =>
    refine ⟨sep :: (up (k + 1)).toList, ?_⟩
    rw [up_succ, String.toList_append, String.toList_append]
    rfl

theorem normalize_append (a b : String) : normalize (a ++ b) = normalize a ++ normalize b := by
  simp [normalize]

theorem normalize_up : ∀ k, normalize (up k) = up k
  | 0 => rfl
  | 1 => rfl
  | k + 2 => by
    rw [up_succ, normalize_append, normalize_append, normalize_up (k + 1)]
    rfl

theorem isAbsolute_up (k : Nat) : isAbsolute (up (k + 1)) = false := by
  obtain ⟨rest, hrest⟩ := toList_up_succ k
  unfold isAbsolute
  rw [normalize_up, hrest]
  rfl

theorem segments_up (k : Nat) : segments (up (k + 1)) = List.replicate (k + 1) ".." := by
  refine segments_display_of_bare (by simp) fun name hname => ?_
  obtain rfl := List.eq_of_mem_replicate hname
  decide

end Path

namespace Session

open Store

/-! ## Following parts -/

theorem exists_followShown {s : Store} (F : Forest s) : ∀ (segs : List String) (id : String)
    (parts : List String), (s.ancestors id).length ≤ parts.length →
    ∃ found, followShown s id parts segs = .ok found
  | [], id, parts, _ => ⟨_, rfl⟩
  | seg :: segs, id, parts, hle => by
    unfold followShown
    split
    · exact exists_followShown F segs id parts hle
    · split
      · split
        · exact exists_followShown F segs id parts hle
        · next p hp =>
          have hup := F.length_ancestors_of_parent hp
          rw [if_neg (by cases parts <;> simp_all)]
          refine exists_followShown F segs p.id parts.dropLast ?_
          rw [List.length_dropLast]
          omega
      · split
        · exact ⟨_, rfl⟩
        · next child hchild =>
          have hdown := F.length_ancestors_of_lists (childNamed_eq_some hchild).1
          refine exists_followShown F segs child.id (parts ++ [child.name]) ?_
          rw [List.length_append, List.length_singleton]
          omega

theorem exists_parent {s : Store} {id : String} (h : 0 < (s.ancestors id).length) :
    ∃ p, s.parent? id = some p := by
  cases hp : s.parent? id with
  | none => simp [Forest.ancestors_of_root hp] at h
  | some p => exact ⟨p, rfl⟩

/-- Going up once more than there are parts, below as many entries, runs out of parts. The induction
is on the number of parts. -/
theorem followShown_up {s : Store} (F : Forest s) : ∀ (k : Nat) (id : String) (parts : List String),
    parts.length = k → k < (s.ancestors id).length →
    followShown s id parts (List.replicate (k + 1) "..") = .error .pathExhausted := by
  intro k
  induction k with
  | zero =>
    intro id parts hk hlt
    obtain rfl := List.length_eq_zero_iff.mp hk
    obtain ⟨p, hp⟩ := exists_parent hlt
    simp [followShown, hp]
  | succ k ih =>
    intro id parts hk hlt
    obtain ⟨p, hp⟩ : ∃ p, s.parent? id = some p := exists_parent (by omega)
    have hup := F.length_ancestors_of_parent hp
    have hne : parts.isEmpty = false := by cases parts <;> simp_all
    have hrest := ih p.id parts.dropLast (by rw [List.length_dropLast]; omega) (by omega)
    rw [List.replicate_succ]
    simp [followShown, hp, hne, hrest]

theorem error_of_followShown {s : Store} : ∀ (segs : List String) (id : String)
    (parts : List String) {f : Fault}, followShown s id parts segs = .error f →
    f = .pathExhausted
  | [], _, _, f, h => by cases h
  | seg :: segs, id, parts, f, h => by
    unfold followShown at h
    split at h
    · exact error_of_followShown segs id parts h
    · split at h
      · split at h
        · exact error_of_followShown segs id parts h
        · split at h
          · exact (Except.error.inj h).symm
          · exact error_of_followShown segs _ _ h
      · split at h
        · cases h
        · exact error_of_followShown segs _ _ h

/-! ## Resolving paths -/

theorem exists_resolveAbsolute {s : Store} {home : String} (S : s.Sound home) (path : String) :
    ∃ found, resolveAbsolute s path = .ok found := by
  obtain ⟨root, hroot, -⟩ := S.root
  have hfind : ∃ found, s.find path = .ok found := by
    unfold find
    rw [hroot]
    dsimp only
    split <;> exact ⟨_, rfl⟩
  obtain ⟨found, hfound⟩ := hfind
  unfold resolveAbsolute
  rw [hfound]
  cases found with
  | none => exact ⟨none, rfl⟩
  | some n =>
    obtain ⟨m, hm⟩ := has_iff.mp (S.has_of_placed (S.placed_find hfound))
    dsimp only
    rw [path_of_get? hm]
    exact ⟨_, rfl⟩

/-- For a session in order, every path is resolved if and only if the displayed path has a part for
each entry above the working folder. -/
theorem forall_resolve_iff (hσ : σ.InOrder N) : (∀ path, ∃ found, σ.resolve path = .ok found) ↔
    (σ.store.ancestors σ.folder).length ≤ (Text.pieces Path.sep σ.shown).length := by
  constructor
  · intro hall
    by_contra hlt
    obtain ⟨found, hfound⟩ := hall (some (Path.up ((Text.pieces Path.sep σ.shown).length + 1)))
    have hne : Path.up ((Text.pieces Path.sep σ.shown).length + 1) ≠ "" := by
      intro he
      obtain ⟨rest, hrest⟩ := Path.toList_up_succ (Text.pieces Path.sep σ.shown).length
      simp [he] at hrest
    unfold resolve at hfound
    simp only [hne, Path.normalize_up, Path.isAbsolute_up, Path.segments_up, if_false,
      Bool.false_eq_true] at hfound
    rw [followShown_up hσ.sound.toForest _ _ _ rfl (by omega)] at hfound
    cases hfound
  · intro hle path
    rcases σ.resolve_cases path with hr | ⟨target, hr⟩ | ⟨segs, hr⟩
    · exact ⟨_, hr⟩
    · rw [hr]
      exact exists_resolveAbsolute hσ.sound target
    · rw [hr]
      exact exists_followShown hσ.sound.toForest segs _ _ hle

theorem error_of_resolve (hσ : σ.InOrder N) {path : Option String} {f : Fault}
    (h : σ.resolve path = .error f) : f = .pathExhausted := by
  rcases σ.resolve_cases path with hr | ⟨target, hr⟩ | ⟨segs, hr⟩
  · rw [hr] at h
    cases h
  · obtain ⟨found, hfound⟩ := exists_resolveAbsolute hσ.sound target
    rw [hr, hfound] at h
    cases h
  · rw [hr] at h
    exact error_of_followShown segs _ _ h

/-- The right path has more parts than there are entries above the folder. -/
theorem InSync.length_le (h : σ.InSync) (hσ : σ.InOrder Path.Bare) :
    (σ.store.ancestors σ.folder).length ≤ (Text.pieces Path.sep σ.shown).length := by
  obtain ⟨n, hn, -⟩ := hσ.folder
  rw [h.pieces_shown hσ hn, length_trail, id_of_get? hn]
  omega

end Session

namespace Desktop

/-- Whatever is typed into a session on a fresh desktop, every path is resolved afterwards if and
only if there are no more entries above the working folder than the displayed path has parts, and it
is so when all commands leave the path of the folder that they are carried out in. Running out of
parts is the only fault there is. -/
theorem forall_resolve_play_iff (o : Session.Options) (now : Int) (hooks : Signal → Hook) :
    ∃ σ, session { o with home := "" } now hooks = .ok σ ∧ ∀ ts : List Typed,
      let τ := σ.play ts
      ((∀ path, ∃ found, τ.resolve path = .ok found) ↔
        (τ.store.ancestors τ.folder).length ≤ (Text.pieces Path.sep τ.shown).length) ∧
      (∀ path f, τ.resolve path = .error f → f = .pathExhausted) ∧
      ((∀ d ∈ σ.deeds ts, d.Stays) → ∀ path, ∃ found, τ.resolve path = .ok found) := by
  obtain ⟨σ, hsession, hσ, hs⟩ := exists_session o now hooks
  refine ⟨σ, hsession, fun ts => ?_⟩
  have hτ := Session.inOrder_play Path.bare_splitParent hσ ts
  refine ⟨Session.forall_resolve_iff hτ, fun path f => Session.error_of_resolve hτ,
    fun hstays => (Session.forall_resolve_iff hτ).mpr ?_⟩
  have hsync : (σ.play ts).InSync := (Session.chain_play ts σ).inSync hσ hs hstays
  exact hsync.length_le hτ

/-- A session that moves its working folder to a place three folders down displays too few parts to
go up from there. -/
theorem resolve_up_mv : ∃ σ, session {} 0 (fun _ => .unset) = .ok σ ∧
    (σ.play [⟨"mkdir a b b/c b/c/d", 1⟩, ⟨"cd a", 2⟩, ⟨"mv . ../b/c/d", 3⟩]).resolve
      (some "../../../..") = .error .pathExhausted := by
  have hrun : (session {} 0 fun _ => .unset).map (fun σ =>
      (σ.play [⟨"mkdir a b b/c b/c/d", 1⟩, ⟨"cd a", 2⟩, ⟨"mv . ../b/c/d", 3⟩]).resolve
        (some "../../../..")) = .ok (.error .pathExhausted) := by
    decide +kernel
  obtain ⟨σ, hσ, -⟩ := exists_session {} 0 fun _ => .unset
  rw [hσ] at hrun
  exact ⟨σ, hσ, Except.ok.inj hrun⟩

end Desktop
end DeskShell

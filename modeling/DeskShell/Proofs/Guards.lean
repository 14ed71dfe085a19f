import DeskShell.Proofs.Answers
import DeskShell.Proofs.HalfMoves
import DeskShell.Proofs.Lowering

/-!
# The guard of `rm`

`rm` tells from its bare arguments whether they look like an attempt to wipe the disk, and asks for
the blue screen then. Whether it removes folders it tells from the flags that the arguments set. The
two readings differ: a flag in two dashes sets what the guard does not see.

* `Args.Sets`: an argument gives a flag a value; `Args.sets_of_get?`: every flag that is found after
  reading has been set by one of the arguments.
* `Builtin.HidesDepth`: the flags in two dashes that the guard does not know.
* `Builtin.asksDepth_or_hidesDepth`: there are no others.
* `Builtin.looksDestructive_iff`: what the guard looks for, in the arguments one by one.
* `Builtin.rm_in_depth_iff`: when removal in depth of a path with a separator is refused.
-/
namespace DeskShell

variable {C : Type} {σ : Session C}

/-! ## Which arguments set a flag -/

namespace Args

/-- The argument gives the flag a value. A letter may have taken the next argument as its text. -/
inductive Sets (arg : String) : String → FlagValue → Prop
  | long {body : List Char} (hshape : shapeOf arg = .long body) : Sets arg (String.ofList body) .on
  | longText {name value : List Char} (hshape : shapeOf arg = .long (name ++ '=' :: value)) :
      Sets arg (String.ofList name) (.text (String.ofList value))
  | letter {c l : Char} {others : List Char} (hshape : shapeOf arg = .letters c others)
      (hl : l ∈ c :: others) : Sets arg (String.singleton l) .on
  | taken {c : Char} {value : String} (hshape : shapeOf arg = .letters c [])
      (hc : takesText c = true) : Sets arg (String.singleton c) (.text value)

variable {a : Args} {args : List String} {arg name : String} {v : FlagValue}

theorem sets_of_setFlag {flag : String} {value : FlagValue} (hsets : Sets arg flag value)
    (h : (a.setFlag flag value).get? name = some v) : a.get? name = some v ∨ Sets arg name v := by
  have h : (if flag = name then some value else a.get? name) = some v :=
    (Table.get?_put _ _ _ _).symm.trans h
  split at h
  · next hname =>
    obtain rfl := Option.some.inj h
    exact .inr (hname ▸ hsets)
  · exact .inl h

theorem sets_of_setLong {body : List Char} (hshape : shapeOf arg = .long body)
    (h : (a.setLong body).get? name = some v) : a.get? name = some v ∨ Sets arg name v := by
  have hbody := List.takeWhile_append_dropWhile (p := (· != '=')) (l := body)
  unfold setLong at h
  dsimp only at h
  split at h
  · next hnone =>
    rw [hnone, List.append_nil] at hbody
    rw [hbody] at h
    exact sets_of_setFlag (.long hshape) h
  · next c value hsome =>
    have hc : c = '=' := by
      have hhead := List.head?_dropWhile_not (· != '=') body
      rw [hsome] at hhead
      simpa using hhead
    rw [hsome, hc] at hbody
    exact sets_of_setFlag (.longText (hshape.trans (congrArg Shape.long hbody.symm))) h

theorem sets_of_setLetters {c : Char} {others letters : List Char}
    (hshape : shapeOf arg = .letters c others) (hsub : letters ⊆ c :: others)
    (h : (a.setLetters letters).get? name = some v) : a.get? name = some v ∨ Sets arg name v := by
  induction letters generalizing a with
  | nil => exact .inl h
  | cons l letters ih =>
    rcases ih (fun x hx => hsub (List.mem_cons_of_mem l hx)) h with h | h
    · exact sets_of_setFlag (.letter hshape (hsub List.mem_cons_self)) h
    · exact .inr h

theorem sets_of_setText {c : Char} {value : String} (hshape : shapeOf arg = .letters c [])
    (hc : takesText c = true) (h : (a.setText c value).get? name = some v) :
    a.get? name = some v ∨ Sets arg name v :=
  sets_of_setFlag (.taken hshape hc) h

/-- What the first argument may have set and what the others may have set, together. -/
theorem sets_of_cons {b : Args} {rest : List String}
    (hrest : b.get? name = some v ∨ ∃ other ∈ rest, Sets other name v)
    (hfirst : b.get? name = some v → a.get? name = some v ∨ Sets arg name v) :
    a.get? name = some v ∨ ∃ other ∈ arg :: rest, Sets other name v := by
  rcases hrest with hb | ⟨other, hother, hsets⟩
  · exact (hfirst hb).imp_right fun hsets => ⟨arg, List.mem_cons_self, hsets⟩
  · exact .inr ⟨other, List.mem_cons_of_mem arg hother, hsets⟩

/-- A flag that is found after reading was there before, or one of the arguments has set it. -/
theorem sets_of_readFrom (h : (readFrom a args).get? name = some v) :
    a.get? name = some v ∨ ∃ arg ∈ args, Sets arg name v := by
  fun_induction readFrom a args with
  | case1 a => exact .inl h
  | case2 a arg rest body hshape ih => exact sets_of_cons (ih h) (sets_of_setLong hshape)
  | case3 a arg rest hshape ih => exact sets_of_cons (ih h) .inl
  | case4 a arg c others hshape =>
    exact sets_of_cons (.inl h) (sets_of_setLetters hshape (List.Subset.refl _))
  | case5 a arg c others hshape next after htakes ih =>
    simp only [Bool.and_eq_true, List.isEmpty_iff] at htakes
    obtain ⟨⟨rfl, hc⟩, -⟩ := htakes
    refine sets_of_cons ((ih h).imp_right ?_) (sets_of_setText hshape hc)
    exact fun ⟨other, hother, hsets⟩ => ⟨other, List.mem_cons_of_mem next hother, hsets⟩
  | case6 a arg c others hshape next after htakes ih =>
    exact sets_of_cons (ih h) (sets_of_setLetters hshape (List.Subset.refl _))

theorem sets_of_get? (h : (parse args).get? name = some v) : ∃ arg ∈ args, Sets arg name v :=
  (sets_of_readFrom h).resolve_left fun hnone => by cases hnone

theorem toList_of_long {body : List Char} (h : shapeOf arg = .long body) :
    arg.toList = '-' :: '-' :: body := by
  unfold shapeOf at h
  split at h
  · next hlist =>
    obtain rfl := Shape.long.inj h
    exact hlist
  · cases h
  · cases h

theorem toList_of_letters {c : Char} {others : List Char} (h : shapeOf arg = .letters c others) :
    arg.toList = '-' :: c :: others ∧ c ≠ '-' := by
  unfold shapeOf at h
  split at h
  · cases h
  · next hdash hlist =>
    obtain ⟨rfl, rfl⟩ := Shape.letters.inj h
    exact ⟨hlist, hdash⟩
  · cases h

/-- A text comes from two dashes or from a letter by itself. -/
theorem toList_of_sets_text {text : String} (h : Sets arg name (.text text)) :
    (∃ body, arg.toList = '-' :: '-' :: body) ∨
      ∃ c, arg.toList = ['-', c] ∧ takesText c = true := by
  cases h with
  | longText hshape => exact .inl ⟨_, toList_of_long hshape⟩
  | taken hshape hc => exact .inr ⟨_, (toList_of_letters hshape).1, hc⟩

end Args

namespace Builtin

/-! ## What the guard sees -/

/-- A flag for removal in depth that is written with two dashes, other than the plain long one. -/
def HidesDepth (arg : String) : Prop :=
  arg = "--r" ∨ arg = "--R" ∨
    ∃ name ∈ ["r", "R", "recursive"], ∃ value, value ≠ "" ∧ arg = "--" ++ name ++ "=" ++ value

/-- Letters behind one dash ask for removal in depth if there is an r among them, in either case. -/
theorem asksDepth_of_letters {arg : String} {c l : Char} {others : List Char}
    (hshape : Args.shapeOf arg = .letters c others) (hl : l ∈ c :: others)
    (hr : l = 'r' ∨ l = 'R') : asksDepth arg = true := by
  obtain ⟨hlist, hc⟩ := Args.toList_of_letters hshape
  have hmem : l ∈ arg.toList := by
    rw [hlist]
    exact List.mem_cons_of_mem _ hl
  have hlower : 'r' ∈ (Text.lower arg).toList := by
    rcases hr with rfl | rfl <;> exact Text.mem_lower hmem (by decide) (by decide)
  unfold asksDepth
  rw [Bool.or_eq_true, hlist]
  right
  split
  · next hdashes =>
    exact absurd (List.cons.inj (List.cons.inj hdashes).2).1 hc
  · simpa using hlower
  · next hdash => exact absurd rfl (hdash _)

/-- An argument that sets a flag for removal in depth is one that the guard looks for, or hides. -/
theorem asksDepth_or_hidesDepth {arg name : String} {v : FlagValue} (h : Args.Sets arg name v)
    (hset : v.isSet = true) (hname : name ∈ ["r", "R", "recursive"]) :
    asksDepth arg = true ∨ HidesDepth arg := by
  have hletter {l : Char} (h : String.singleton l ∈ ["r", "R", "recursive"]) :
      l = 'r' ∨ l = 'R' := by
    simpa [← String.toList_inj] using h
  cases h with
  | @long body hshape =>
    have harg : arg = "--" ++ String.ofList body := by
      rw [← String.toList_inj]
      simpa using Args.toList_of_long hshape
    simp only [List.mem_cons, List.not_mem_nil, or_false] at hname
    rcases hname with hname | hname | hname
    · exact .inr (.inl (by rw [harg, hname]; rfl))
    · exact .inr (.inr (.inl (by rw [harg, hname]; rfl)))
    · rw [harg, hname]
      exact .inl (by decide)
  | @longText body value hshape =>
    have hvalue : String.ofList value ≠ "" := by simpa [FlagValue.isSet] using hset
    refine .inr (.inr (.inr ⟨_, hname, String.ofList value, hvalue, ?_⟩))
    rw [← String.toList_inj]
    simpa using Args.toList_of_long hshape
  | letter hshape hl => exact .inl (asksDepth_of_letters hshape hl (hletter hname))
  | taken hshape hc =>
    rcases hletter hname with rfl | rfl <;> cases hc

/-- Lower case has the separators of the text, so the guard sees those of the arguments. -/
theorem looksDestructive_iff (args : List String) : looksDestructive args = true ↔
    mentions "system32".toList (Text.lower (Text.glue ' ' args)).toList = true ∨
      (∃ arg ∈ args, asksDepth arg = true) ∧
        ∃ arg ∈ args, '/' ∈ arg.toList ∨ '\\' ∈ arg.toList := by
  have hslash : '/' ∈ (Text.lower (Text.glue ' ' args)).toList ↔ ∃ arg ∈ args, '/' ∈ arg.toList :=
    (Text.mem_lower_iff (by decide) _).trans (Text.mem_glue_iff (by decide) args)
  have hsep : '\\' ∈ (Text.lower (Text.glue ' ' args)).toList ↔ ∃ arg ∈ args, '\\' ∈ arg.toList :=
    (Text.mem_lower_iff (by decide) _).trans (Text.mem_glue_iff (by decide) args)
  unfold looksDestructive
  simp only [Bool.or_eq_true, Bool.and_eq_true, List.any_eq_true, List.contains_iff_mem, hslash,
    hsep, ← exists_or, ← and_or_left]

/-! ## What the guard lets through -/

theorem rm_of_guard {args : List String} (h : looksDestructive args = true) :
    rm args σ = .ok (.ask .blueScreen) σ := by
  unfold rm
  rw [if_pos h]
  rfl

/-- What gets past the guard does not ask for the blue screen, whatever becomes of it. -/
theorem effect_rm {args : List String} (h : looksDestructive args = false) :
    (rm args : Run C Result).Yields fun r => r.effect = .none := by
  unfold rm
  rw [if_neg (by simp [h])]
  dsimp only
  split
  · exact Run.yields_pure rfl
  · exact Removal.yields_removeAll (P := fun r => r.effect = .none) (fun _ => rfl) rfl _ _ _

variable {args : List String}

/-- With a flag for removal in depth and a separator in its arguments, `rm` asks for the blue screen
and changes nothing if and only if the arguments mention the system folder or one of them is a flag
that the guard looks for. All flags for removal in depth are, but those in two dashes that it does
not know. -/
theorem rm_in_depth_iff (hdepth : (Args.parse args).has ["r", "R", "recursive"] = true)
    (hsep : ∃ arg ∈ args, '/' ∈ arg.toList ∨ '\\' ∈ arg.toList) :
    (rm args σ = .ok (.ask .blueScreen) σ ↔
      mentions "system32".toList (Text.lower (Text.glue ' ' args)).toList = true ∨
        ∃ arg ∈ args, asksDepth arg = true) ∧
    ((∀ arg ∈ args, ¬ HidesDepth arg) → rm args σ = .ok (.ask .blueScreen) σ) := by
  have hguard : looksDestructive args = true ↔
      mentions "system32".toList (Text.lower (Text.glue ' ' args)).toList = true ∨
        ∃ arg ∈ args, asksDepth arg = true := by
    rw [looksDestructive_iff, and_iff_left hsep]
  constructor
  · rw [← hguard]
    refine ⟨fun hrm => ?_, rm_of_guard⟩
    by_contra hnot
    have heffect := effect_rm (by simpa using hnot) σ _ _ hrm
    cases heffect
  · intro hplain
    obtain ⟨name, hname, hset⟩ := List.any_eq_true.mp hdepth
    cases hv : (Args.parse args).get? name with
    | none =>
      rw [hv] at hset
      cases hset
    | some v =>
      rw [hv] at hset
      obtain ⟨arg, harg, hsets⟩ := Args.sets_of_get? hv
      have hasks := (asksDepth_or_hidesDepth hsets hset hname).resolve_right (hplain arg harg)
      exact rm_of_guard (hguard.mpr (.inr ⟨arg, harg, hasks⟩))

end Builtin

namespace Desktop

/-- A bundle of letters with an r among them, for a file in a folder. -/
theorem rm_in_depth_project : ∃ σ, session {} 0 (fun _ => .unset) = .ok σ ∧
    let args := ["-vR", "My Projects\\Project Alpha"]
    (Args.parse args).has ["r", "R", "recursive"] = true ∧
      (∃ arg ∈ args, '/' ∈ arg.toList ∨ '\\' ∈ arg.toList) ∧
      Builtin.rm args σ = .ok (.ask .blueScreen) σ := by
  obtain ⟨σ, hσ, -⟩ := exists_session {} 0 fun _ => .unset
  have hsep : ∃ arg ∈ ["-vR", "My Projects\\Project Alpha"],
      '/' ∈ arg.toList ∨ '\\' ∈ arg.toList := by
    decide
  exact ⟨σ, hσ, by decide, hsep,
    (Builtin.rm_in_depth_iff (by decide) hsep).1.mpr (.inr ⟨"-vR", by decide, by decide +kernel⟩)⟩

/-- The same letter behind two dashes is a flag too, with which a folder goes into the bin. -/
theorem rm_in_depth_unseen : ∃ σ, session {} 0 (fun _ => .unset) = .ok σ ∧
    let args := ["--r", "/My Projects"]
    (Args.parse args).has ["r", "R", "recursive"] = true ∧
      (∃ arg ∈ args, '/' ∈ arg.toList ∨ '\\' ∈ arg.toList) ∧
      ∃ τ, Builtin.rm args σ = .ok .done τ ∧ ¬ σ.store.Lists binId "projects" ∧
        τ.store.Lists binId "projects" := by
  have hrun : (session {} 0 fun _ => .unset).map (fun σ =>
      let x := Builtin.rm ["--r", "/My Projects"]
      (x.result? σ, decide ("projects" ∈ σ.store.listed binId),
        decide ("projects" ∈ (x.after σ).store.listed binId))) = .ok (some .done, false, true) := by
    decide +kernel
  obtain ⟨σ, hσ, -⟩ := exists_session {} 0 fun _ => .unset
  have hrun := eq_of_session hσ hrun
  simp only [Prod.mk.injEq, decide_eq_true_eq, decide_eq_false_iff_not, Store.mem_listed] at hrun
  obtain ⟨hr, hbefore, hafter⟩ := hrun
  exact ⟨σ, hσ, by decide, by decide, _, Run.eq_ok_of_result? hr, hbefore, hafter⟩

end Desktop
end DeskShell

import DeskShell.Proofs.HalfMoves
import DeskShell.Proofs.Losses
import DeskShell.Proofs.Redirects
import DeskShell.Proofs.Sequences
import Mathlib.Data.List.Dedup

/-!
# The supply of ids

A new entry is given an id with the first number, from a counter on, that makes an id that nothing
is stored under. The counter only goes up, also when an entry is not made in the end and when
entries go out of the store, so an id that was given out once is not given out again.

* `Store.Tries`: the search for a free number, one number after the other.
* `Store.Tries.le_length`: it tries at most one number more than there are ids in use.
* `Store.exists_tries`: the search that is run, which stops at a bound, is that search.
* `Store.counter_change`: no call takes the counter back.
* `Exchange.Gives`: a call that gives out an id; `Session.counter_le_of_gives` says from where on.
* `Session.fresh_ids`: one search, and a row of calls.
* `Desktop.fresh_ids_deleted`: two files of one name, one made when the other is deleted.
-/
namespace DeskShell

variable {C : Type} {s : Store}

namespace Store

/-! ## The search -/

/-- The search from `k` on tries that many numbers. All but the last of them make ids in use; the
last, `found`, makes a free one. -/
inductive Tries (s : Store) : Nat → Nat → Nat → Prop
  | free {k : Nat} (h : s.has (idOf k) = false) : Tries s k 1 k
  | taken {k tries found : Nat} (h : s.has (idOf k) = true) (rest : Tries s (k + 1) tries found) :
    Tries s k (tries + 1) found

/-- The ids in use, once each. -/
def idsInUse (s : Store) : List String := (s.nodes.map (·.id)).dedup

theorem mem_idsInUse {id : String} : id ∈ s.idsInUse ↔ s.has id = true := by
  simp [idsInUse, has]

namespace Tries

variable {k tries found : Nat}

theorem free_found (h : s.Tries k tries found) : s.has (idOf found) = false := by
  induction h with
  | free h => exact h
  | taken _ _ ih => exact ih

theorem found_eq (h : s.Tries k tries found) : k + tries = found + 1 := by
  induction h with
  | free => rfl
  | taken _ _ ih => omega

theorem has_of_lt (h : s.Tries k tries found) {i : Nat} (hk : k ≤ i) (hi : i < found) :
    s.has (idOf i) = true := by
  induction h with
  | free => omega
  | @taken j _ _ h _ ih =>
    rcases Nat.eq_or_lt_of_le hk with rfl | hlt
    · exact h
    · exact ih hlt hi

/-- The ids that were tried in vain are different ones, and all in use. -/
theorem le_length (h : s.Tries k tries found) : tries ≤ s.idsInUse.length + 1 := by
  let vain := (List.range (tries - 1)).map fun i => idOf (k + i)
  have hnodup : vain.Nodup := by
    refine List.nodup_range.map fun i j hij => ?_
    have := idOf_injective hij
    omega
  have hsub : vain ⊆ s.idsInUse := by
    intro id hid
    obtain ⟨i, hi, rfl⟩ := List.mem_map.mp hid
    have hi := List.mem_range.mp hi
    have hend := h.found_eq
    exact mem_idsInUse.mpr (h.has_of_lt (by omega) (by omega))
  have hle := (hnodup.subperm hsub).length_le
  simp only [vain, List.length_map, List.length_range] at hle
  omega

end Tries

/-- A search that ends on a free number before its bound has looked at one number after the other.
-/
theorem exists_tries_freeFrom (s : Store) : ∀ fuel k, s.has (idOf (s.freeFrom fuel k)) = false →
    ∃ tries, s.Tries k tries (s.freeFrom fuel k)
  | 0, k, h => ⟨1, .free h⟩
  | fuel + 1, k, h => by
    unfold freeFrom at h ⊢
    split at h
    · next hk =>
      rw [if_pos hk]
      obtain ⟨tries, htries⟩ := exists_tries_freeFrom s fuel (k + 1) h
      exact ⟨tries + 1, .taken hk htries⟩
    · next hk =>
      rw [if_neg hk]
      exact ⟨1, .free h⟩

theorem exists_tries (s : Store) : ∃ tries, s.Tries s.counter tries s.freeNumber :=
  exists_tries_freeFrom s _ _ s.has_idOf_freeNumber

/-! ## The counter -/

theorem counter_dropAll (s : Store) (pending : List String) :
    (s.dropAll pending).counter = s.counter := by
  fun_induction Store.dropAll s pending with
  | case1 => rfl
  | case2 _ _ _ _ _ ih => exact ih
  | case3 _ _ _ _ ih => exact ih

theorem counter_purge (s : Store) (id : String) : ((purge id).after s).counter = s.counter := by
  rw [after_purge_eq, counter_dropAll]
  unfold unlisted
  split <;> rfl

theorem counter_purgeAll (s : Store) (ids : List String) :
    ((purgeAll ids).after s).counter = s.counter := by
  induction ids generalizing s with
  | nil => rfl
  | cons id rest ih => rw [after_purgeAll_cons, ih, counter_purge]

theorem counter_delete (s : Store) (id parent : String) :
    ((delete id parent).after s).counter = s.counter := by
  unfold Edit.after
  rcases delete_cases id parent s with ⟨f, h, -⟩ | ⟨n, p, -, -, -, ⟨-, h⟩ | ⟨-, h⟩⟩
  · rw [h]
  · rw [h]
    rfl
  · rw [h]
    exact counter_dropAll _ _

/-- A call may take numbers from the supply but puts none back. -/
theorem counter_change (s : Store) (call : Call) (now : Int) :
    s.counter ≤ (call.change now s).counter := by
  have hsteps {t : Store} (h : Trace (fun _ => True) (fun k => ¬ k.Quiet) s t) :
      s.counter ≤ t.counter := by
    have hspares : Spares none none s t := h.spares
    exact hspares.counter
  have hmove (id target : String) : s.counter ≤ ((move id target).after s).counter :=
    hsteps (trace_move not_false id target)
  cases call with
  | get | contents | parent | path | find | walk | child => exact Nat.le_refl _
  | add r folder =>
    have hadd : Spares none none s ((add r folder now).after s) := spares_add r folder now
    exact hadd.counter
  | update id content =>
    have hupdate : Spares none (some id) s ((update id content now).after s) :=
      spares_update id content now
    exact hupdate.counter
  | rename id name => exact hsteps (trace_rename not_false trivial id)
  | move id target => exact hmove id target
  | delete id folder => exact (s.counter_delete id folder).ge
  | purge id => exact (s.counter_purge id).ge
  | restore id => exact hmove id s.rootId
  | emptyBin =>
    simp only [Call.change, after_emptyBin]
    exact (s.counter_purgeAll _).ge

end Store

/-! ## Rows of calls -/

/-- What a call answers, if it does not stop with a fault. -/
def Exchange.answer (e : Exchange C) : Option Answer :=
  match e.call.run e.before with
  | .ok a _ => some a
  | .error _ _ => none

/-- The call makes an entry and answers with its id. -/
def Exchange.Gives (e : Exchange C) (id : String) : Prop :=
  ∃ r folder, e.call = .add r folder ∧ e.call.run e.before = .ok (.text id) e.after

namespace Exchange

variable {e : Exchange C} {id : String}

/-- The id that is given out is free before and in use afterwards, and its number is used up. -/
theorem Gives.fresh (h : e.Gives id) :
    e.before.store.has id = false ∧ e.after.store.has id = true ∧
      ∃ k, e.before.store.counter ≤ k ∧ k < e.after.store.counter ∧ id = Store.idOf k := by
  obtain ⟨r, folder, hcall, hrun⟩ := h
  rw [hcall] at hrun
  obtain ⟨id', τ, hadd, hτ⟩ := Engine.bind_eq_ok hrun
  cases hτ
  rcases Store.add_cases r folder e.before.clock e.before.store with
    ⟨f, h⟩ | ⟨f, h, -⟩ | ⟨p, made, hmakes, h⟩
  · cases (Run.add_of_error h).symm.trans hadd
  · cases (Run.add_of_error h).symm.trans hadd
  · obtain ⟨notes, h⟩ := Run.add_of_ok h
    obtain ⟨rfl, hafter⟩ := EStateM.Result.ok.inj (h.symm.trans hadd)
    have hid := hmakes.fields.1
    rw [← hafter]
    refine ⟨?_, ?_, e.before.store.freeNumber, Store.le_freeFrom _ _ _, Nat.lt_succ_self _, hid⟩
    · rw [hid]
      exact e.before.store.has_idOf_freeNumber
    · rw [Store.has_adjust (Node.id_pushChild _)]
      exact (Store.has_insert made made.id).mpr (.inr rfl)

end Exchange

namespace Session

variable {σ : Session C} {requests : List Request}

/-- Along a row of calls only numbers from the counter on are given out. -/
theorem counter_le_of_gives : ∀ {requests : List Request} {σ : Session C} {e : Exchange C}
    {id : String}, e ∈ σ.exchanges requests → e.Gives id →
    ∃ k, σ.store.counter ≤ k ∧ id = Store.idOf k
  | [], _, _, _, he, _ => by cases he
  | r :: rest, σ, e, id, he, hgives => by
    rcases List.mem_cons.mp he with rfl | he
    · obtain ⟨-, -, k, hk, -, hid⟩ := hgives.fresh
      exact ⟨k, hk, hid⟩
    · obtain ⟨k, hk, hid⟩ := counter_le_of_gives he hgives
      rw [σ.store_serve r] at hk
      exact ⟨k, Nat.le_trans (σ.store.counter_change r.call r.now) hk, hid⟩

theorem pairwise_gives : ∀ (requests : List Request) (σ : Session C),
    (σ.exchanges requests).Pairwise fun e e' => ∀ id, e.Gives id → ¬ e'.Gives id
  | [], _ => .nil
  | r :: rest, σ => by
    refine .cons (fun e' he' id hgives hagain => ?_) (pairwise_gives rest (σ.serve r))
    obtain ⟨-, -, k, -, hk, hid⟩ := hgives.fresh
    obtain ⟨j, hj, hid'⟩ := counter_le_of_gives he' hagain
    -- The second number comes from what the first has left.
    have hsame := Store.idOf_injective (hid.symm.trans hid')
    have hlt : k < (σ.serve r).store.counter := hk
    omega

/-- Whatever ids are in use and wherever the counter stands, the search for a fresh id tries at most
one number more than there are ids in use, and what it comes to is not in use. Along any row of
calls, also of such that fail or take entries out of the store, an id that is given out is free
before, and none is given out twice. -/
theorem fresh_ids (σ : Session C) (requests : List Request) :
    (∀ s : Store, ∃ tries found, s.Tries s.counter tries found ∧ tries ≤ s.idsInUse.length + 1 ∧
      Store.freshId s = .ok (Store.idOf found) { s with counter := found + 1 } ∧
      s.has (Store.idOf found) = false) ∧
    (∀ e ∈ σ.exchanges requests, ∀ id, e.Gives id →
      e.before.store.has id = false ∧ e.after.store.has id = true) ∧
    (σ.exchanges requests).Pairwise fun e e' => ∀ id, e.Gives id → ¬ e'.Gives id := by
  refine ⟨fun s => ?_, fun e _ id hgives => ?_, pairwise_gives requests σ⟩
  · obtain ⟨tries, htries⟩ := s.exists_tries
    exact ⟨tries, s.freeNumber, htries, htries.le_length, rfl, htries.free_found⟩
  · obtain ⟨hbefore, hafter, -⟩ := hgives.fresh
    exact ⟨hbefore, hafter⟩

end Session

namespace Desktop

/-- A new file is deleted, and a call for an entry of an unknown kind fails after it has taken a
number. The next file of the same name is given neither number again. -/
theorem fresh_ids_deleted : ∃ σ, session {} 0 (fun _ => .unset) = .ok σ ∧
    let exchanges := σ.exchanges [⟨.add { name := some "a.txt" } "desktop", 1⟩,
      ⟨.delete "file-1" "desktop", 2⟩,
      ⟨.add { name := some "b", kind := some (some "disk") } "desktop", 3⟩,
      ⟨.add { name := some "a.txt" } "desktop", 4⟩]
    exchanges.map Exchange.answer =
      [some (.text "file-1"), some .nothing, none, some (.text "file-3")] ∧
    exchanges.Pairwise fun e e' => ∀ id, e.Gives id → ¬ e'.Gives id := by
  let requests : List Request := [⟨.add { name := some "a.txt" } "desktop", 1⟩,
    ⟨.delete "file-1" "desktop", 2⟩,
    ⟨.add { name := some "b", kind := some (some "disk") } "desktop", 3⟩,
    ⟨.add { name := some "a.txt" } "desktop", 4⟩]
  have hrun : (session {} 0 fun _ => .unset).map (fun σ =>
      (σ.exchanges requests).map Exchange.answer) =
      .ok [some (.text "file-1"), some .nothing, none, some (.text "file-3")] := by
    decide +kernel
  obtain ⟨σ, hσ, -⟩ := exists_session {} 0 fun _ => .unset
  exact ⟨σ, hσ, eq_of_session hσ hrun, (Session.fresh_ids σ requests).2.2⟩

end Desktop
end DeskShell

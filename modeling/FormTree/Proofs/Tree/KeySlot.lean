import FormTree.Proofs.Tree.Edit
import FormTree.Tree.KeySlot

/-!
# Calls on the key slot

When a call succeeds and what it leaves, one equivalence for each call; and that a call that fails
leaves the slot as it was. Everything later that is said about a pending edit rests on these.
-/

namespace FormTree

namespace KeySlot

theorem ensureIdle_eq_ok {slot : KeySlot} : slot.ensureIdle = .ok () ↔ slot = .idle := by
  cases slot <;> simp [ensureIdle]

theorem expect_eq_ok {slot : KeySlot} {path : KeyPath} {pending : PendingEdit} :
    slot.expect path = .ok pending ↔ slot = .editing pending ∧ pending.path = path := by
  cases slot with
  | idle => simp [expect]
  | editing held =>
    by_cases hpath : held.path = path
    · simp only [expect, if_pos hpath, Except.ok.injEq, editing.injEq]
      constructor
      · rintro rfl
        exact ⟨rfl, hpath⟩
      · exact fun h => h.1
    · simp only [expect, if_neg hpath, editing.injEq, reduceCtorEq, false_iff, not_and]
      rintro rfl
      exact hpath

namespace Call

open Program

variable {root next : Value} {path : KeyPath} {slot left : KeySlot}

theorem beginAdd_eq_ok : (beginAdd root path).start slot = (.ok next, left) ↔
    slot = .idle ∧ ∃ pending, Edit.addKey root path = .ok (next, pending) ∧
      left = .editing pending := by
  simp only [beginAdd, start_get_bind, start_liftM_bind_eq_ok, start_set_bind, start_pure,
    Prod.mk.injEq, Except.ok.injEq]
  constructor
  · rintro ⟨_, hidle, ⟨added, pending⟩, hadd, rfl, rfl⟩
    exact ⟨ensureIdle_eq_ok.1 hidle, pending, hadd, rfl⟩
  · rintro ⟨rfl, pending, hadd, rfl⟩
    exact ⟨(), rfl, (next, pending), hadd, rfl, rfl⟩

theorem beginRename_eq_ok : (beginRename root path).start slot = (.ok (), left) ↔
    slot = .idle ∧ path ≠ [] ∧ ∃ current, root.get? path = some current ∧
      left = .editing ⟨path, current⟩ := by
  simp only [beginRename, start_get_bind, start_liftM_bind_eq_ok, Edit.node_eq_ok]
  constructor
  · rintro ⟨_, hidle, current, hnode, hset⟩
    split at hset
    · simp at hset
    · next hpath =>
      simp only [start_set, Prod.mk.injEq, true_and] at hset
      exact ⟨ensureIdle_eq_ok.1 hidle, by simpa using hpath, current, hnode, hset.symm⟩
  · rintro ⟨rfl, hpath, current, hnode, rfl⟩
    refine ⟨(), rfl, current, hnode, ?_⟩
    rw [if_neg (by simpa using hpath), start_set]

theorem commitRename_eq_ok {newKey : String} :
    (commitRename root path newKey).start slot = (.ok next, left) ↔
      (∃ pending, slot = .editing pending ∧ pending.path = path) ∧
        Edit.renameKey root path newKey = .ok next ∧ left = .idle := by
  simp only [commitRename, start_get_bind, start_liftM_bind_eq_ok, start_set_bind, start_pure,
    Prod.mk.injEq, Except.ok.injEq, expect_eq_ok]
  constructor
  · rintro ⟨pending, hpending, _, hrename, rfl, rfl⟩
    exact ⟨⟨pending, hpending⟩, hrename, rfl⟩
  · rintro ⟨⟨pending, hpending⟩, hrename, rfl⟩
    exact ⟨pending, hpending, next, hrename, rfl, rfl⟩

theorem abandon_eq_ok : (abandon root path).start slot = (.ok next, left) ↔
    (∃ pending, slot = .editing pending ∧ pending.path = path ∧
      Edit.abandonKeyEdit root pending = .ok next) ∧ left = .idle := by
  simp only [abandon, start_get_bind, start_liftM_bind_eq_ok, start_set_bind, start_pure,
    Prod.mk.injEq, Except.ok.injEq, expect_eq_ok]
  constructor
  · rintro ⟨pending, ⟨hslot, hpath⟩, _, habandon, rfl, rfl⟩
    exact ⟨⟨pending, hslot, hpath, habandon⟩, rfl⟩
  · rintro ⟨⟨pending, hslot, hpath, habandon⟩, rfl⟩
    exact ⟨pending, ⟨hslot, hpath⟩, next, habandon, rfl, rfl⟩

/-! ### A call that fails leaves the slot as it was -/

theorem atomic_beginAdd (root : Value) (path : KeyPath) : (beginAdd root path).Atomic := by
  refine .after reads_get fun slot => .after (reads_liftM _) fun _ => .after (reads_liftM _) ?_
  intro added
  exact ((succeeds_set _).bind fun _ => succeeds_pure _).atomic

theorem atomic_beginRename (root : Value) (path : KeyPath) : (beginRename root path).Atomic := by
  refine .after reads_get fun slot => .after (reads_liftM _) fun _ => .after (reads_liftM _) ?_
  intro current
  split
  · exact (reads_throw _).atomic
  · exact (succeeds_set _).atomic

theorem atomic_commitRename (root : Value) (path : KeyPath) (newKey : String) :
    (commitRename root path newKey).Atomic := by
  refine .after reads_get fun slot => .after (reads_liftM _) fun _ => .after (reads_liftM _) ?_
  intro next
  exact ((succeeds_set _).bind fun _ => succeeds_pure _).atomic

theorem atomic_abandon (root : Value) (path : KeyPath) : (abandon root path).Atomic := by
  refine .after reads_get fun slot => .after (reads_liftM _) fun pending => ?_
  refine .after (reads_liftM _) fun next => ?_
  exact ((succeeds_set _).bind fun _ => succeeds_pure _).atomic

end Call

end KeySlot

end FormTree

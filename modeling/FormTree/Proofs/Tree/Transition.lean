import FormTree.Proofs.Tree.KeySlot

/-!
# The key slot as a state machine

The slot is idle or holds one edit, and the calls are its only transitions: `Moves` lists them, each
with what it needs. A call that succeeds is such a transition (`moves_of_start`), and a call that
fails leaves the slot alone. None of this depends on the root that a call is given, so it holds of
every sequence of calls, also if the value changed behind the slot.

Of the edit that is held only one thing has to be carried along a run: its path is not the root's.
-/

namespace FormTree

namespace KeySlot

/-- A call and what it is given. -/
inductive Request where
  | beginAdd (root : Value) (path : KeyPath)
  | beginRename (root : Value) (path : KeyPath)
  | commitRename (root : Value) (path : KeyPath) (newKey : String)
  | abandon (root : Value) (path : KeyPath)

namespace Request

/-- The call, with the root that it returns. A rename that begins returns none. -/
def call : Request → Call (Option Value)
  | .beginAdd root path => do return some (← Call.beginAdd root path)
  | .beginRename root path => do
    Call.beginRename root path
    return none
  | .commitRename root path newKey => do return some (← Call.commitRename root path newKey)
  | .abandon root path => do return some (← Call.abandon root path)

/-- The call is to begin an edit; the others are to end one. -/
def begins : Request → Bool
  | .beginAdd _ _ | .beginRename _ _ => true
  | .commitRename _ _ _ | .abandon _ _ => false

end Request

/-- The slot after a sequence of calls, some of which may have failed. -/
def after (slot : KeySlot) : List Request → KeySlot
  | [] => slot
  | request :: rest => (request.call.start slot).2.after rest

/-- The transitions of the slot. An edit begins in the idle slot at a node of the given root, which
is saved, and ends by a call at its own path. -/
inductive Moves : KeySlot → Request → KeySlot → Prop where
  | beginAdd {root old : Value} {path : KeyPath} : root.get? path = some old →
    Moves .idle (.beginAdd root path) (.editing ⟨path ++ [""], old⟩)
  | beginRename {root current : Value} {path : KeyPath} : path ≠ [] →
    root.get? path = some current →
    Moves .idle (.beginRename root path) (.editing ⟨path, current⟩)
  | commitRename (pending : PendingEdit) (root : Value) (newKey : String) :
    Moves (.editing pending) (.commitRename root pending.path newKey) .idle
  | abandon (pending : PendingEdit) (root : Value) :
    Moves (.editing pending) (.abandon root pending.path) .idle

open Program

variable {slot left : KeySlot} {request : Request} {answer : Option Value}

/-! ### One call -/

theorem atomic_call (request : Request) : request.call.Atomic := by
  cases request with
  | beginAdd root path => exact (Call.atomic_beginAdd root path).bind fun _ => succeeds_pure _
  | beginRename root path => exact (Call.atomic_beginRename root path).bind fun _ => succeeds_pure _
  | commitRename root path newKey =>
    exact (Call.atomic_commitRename root path newKey).bind fun _ => succeeds_pure _
  | abandon root path => exact (Call.atomic_abandon root path).bind fun _ => succeeds_pure _

theorem moves_of_start (h : request.call.start slot = (.ok answer, left)) :
    Moves slot request left := by
  cases request with
  | beginAdd root path =>
    obtain ⟨next, mid, hcall, hanswer⟩ := start_bind_eq_ok.1 h
    obtain ⟨rfl, pending, hadd, rfl⟩ := Call.beginAdd_eq_ok.1 hcall
    obtain ⟨old, hold, -, -, rfl⟩ := Edit.addKey_eq_ok.1 hadd
    obtain ⟨-, rfl⟩ := Prod.mk.inj hanswer
    exact .beginAdd hold
  | beginRename root path =>
    obtain ⟨⟨⟩, mid, hcall, hanswer⟩ := start_bind_eq_ok.1 h
    obtain ⟨rfl, hne, current, hcurrent, rfl⟩ := Call.beginRename_eq_ok.1 hcall
    obtain ⟨-, rfl⟩ := Prod.mk.inj hanswer
    exact .beginRename hne hcurrent
  | commitRename root path newKey =>
    obtain ⟨next, mid, hcall, hanswer⟩ := start_bind_eq_ok.1 h
    obtain ⟨⟨pending, rfl, rfl⟩, -, rfl⟩ := Call.commitRename_eq_ok.1 hcall
    obtain ⟨-, rfl⟩ := Prod.mk.inj hanswer
    exact .commitRename pending root newKey
  | abandon root path =>
    obtain ⟨next, mid, hcall, hanswer⟩ := start_bind_eq_ok.1 h
    obtain ⟨⟨pending, rfl, rfl, -⟩, rfl⟩ := Call.abandon_eq_ok.1 hcall
    obtain ⟨-, rfl⟩ := Prod.mk.inj hanswer
    exact .abandon pending root

theorem start_of_ends (hends : request.begins = false) :
    request.call.start .idle = (.error .noPendingEdit, .idle) := by
  cases request with
  | beginAdd root path | beginRename root path => exact Bool.noConfusion hends
  | commitRename root path newKey | abandon root path => rfl

theorem start_of_begins (pending : PendingEdit) (hbegins : request.begins = true) :
    request.call.start (.editing pending) =
      (.error (.editInProgress pending.encodedPath), .editing pending) := by
  cases request with
  | beginAdd root path | beginRename root path => rfl
  | commitRename root path newKey | abandon root path => exact Bool.noConfusion hbegins

/-! ### Sequences of calls -/

/-- The path of a held edit ends in a key. -/
def Keyed (slot : KeySlot) : Prop := ∀ pending, slot = .editing pending → pending.path ≠ []

theorem keyed_idle : Keyed .idle := fun _ h => KeySlot.noConfusion h

theorem keyed_of_moves (h : Moves slot request left) : left.Keyed := by
  intro pending hleft
  cases h with
  | beginAdd _ =>
    obtain rfl := editing.inj hleft
    exact List.concat_ne_nil _ _
  | beginRename hne _ =>
    obtain rfl := editing.inj hleft
    exact hne
  | commitRename _ _ _ | abandon _ _ => exact KeySlot.noConfusion hleft

theorem keyed_step (h : slot.Keyed) (request : Request) : (request.call.start slot).2.Keyed := by
  rcases hstart : request.call.start slot with ⟨answer, left⟩
  cases answer with
  | ok answer => exact keyed_of_moves (moves_of_start hstart)
  | error fault => exact atomic_call request slot fault left hstart ▸ h

theorem keyed_after (h : slot.Keyed) (requests : List Request) : (slot.after requests).Keyed := by
  induction requests generalizing slot with
  | nil => exact h
  | cons request rest ih => exact ih (keyed_step h request)

/-- Whatever was called before, and on whatever roots: the edit that is held is not of the root, a
call that fails leaves the slot as it is, and one that succeeds is a transition of the machine. In
the idle slot an edit cannot be ended, and while one is held none can begin. -/
theorem calls_follow_the_machine (requests : List Request) :
    let slot := KeySlot.idle.after requests
    (∀ pending, slot = .editing pending → pending.path ≠ []) ∧
      (∀ (request : Request) fault left,
        request.call.start slot = (.error fault, left) → left = slot) ∧
      (∀ (request : Request) answer left,
        request.call.start slot = (.ok answer, left) → Moves slot request left) ∧
      (slot = .idle → ∀ request : Request, request.begins = false →
        request.call.start slot = (.error .noPendingEdit, slot)) ∧
      ∀ pending, slot = .editing pending → ∀ request : Request, request.begins = true →
        request.call.start slot =
          (.error (.editInProgress (Dotted.encode pending.path)), slot) := by
  intro slot
  refine ⟨keyed_after keyed_idle requests, fun request => atomic_call request slot,
    fun request answer left => moves_of_start, ?_, ?_⟩
  · intro hidle request hends
    rw [hidle]
    exact start_of_ends hends
  · intro pending hheld request hbegins
    rw [hheld]
    exact start_of_begins pending hbegins

end KeySlot

end FormTree

import FormTree.Program
import FormTree.Tree.Edit

/-!
# The key slot

At most one key is being named at a time. The slot is idle or holds the pending edit; an edit begins
only in an idle slot, and only the edit that is pending can be finished or given up. The calls are
programs on the slot, which they write to as their last step.
-/

namespace FormTree

inductive KeySlot where
  | idle
  | editing (pending : PendingEdit)

namespace KeySlot

def pending? : KeySlot → Option PendingEdit
  | .idle => none
  | .editing pending => some pending

def isIdle : KeySlot → Bool
  | .idle => true
  | .editing _ => false

def ensureIdle : KeySlot → Except FieldError Unit
  | .idle => .ok ()
  | .editing pending => .error (.editInProgress pending.encodedPath)

/-- The pending edit, provided that it is at `path`. -/
def expect (slot : KeySlot) (path : KeyPath) : Except FieldError PendingEdit :=
  match slot with
  | .idle => .error .noPendingEdit
  | .editing pending =>
    if pending.path = path then .ok pending
    else .error (.pendingPathMismatch pending.encodedPath (Dotted.encode path))

abbrev Call := Program KeySlot

namespace Call

/-- Begins with a new, empty key at the node at `path`. -/
def beginAdd (root : Value) (path : KeyPath) : Call Value := do
  (← get).ensureIdle
  let (next, pending) ← Edit.addKey root path
  set (KeySlot.editing pending)
  return next

/-- Begins with a key that is there. The root is no key. -/
def beginRename (root : Value) (path : KeyPath) : Call Unit := do
  (← get).ensureIdle
  let current ← Edit.node root path
  if path.isEmpty then throw (.notFound "")
  else set (KeySlot.editing ⟨path, current⟩)

/-- Finishes the pending edit with a name. -/
def commitRename (root : Value) (path : KeyPath) (newKey : String) : Call Value := do
  let _ ← (← get).expect path
  let next ← Edit.renameKey root path newKey
  set KeySlot.idle
  return next

/-- Gives the pending edit up. -/
def abandon (root : Value) (path : KeyPath) : Call Value := do
  let pending ← (← get).expect path
  let next ← Edit.abandonKeyEdit root pending
  set KeySlot.idle
  return next

end Call

/-! ### The calls as functions

Each gives the slot and the root after a call that succeeds. -/

def beginAdd (slot : KeySlot) (root : Value) (path : KeyPath) :
    Except FieldError (KeySlot × Value) :=
  (Call.beginAdd root path).success slot

def beginRename (slot : KeySlot) (root : Value) (path : KeyPath) : Except FieldError KeySlot :=
  ((Call.beginRename root path).success slot).map Prod.fst

def commitRename (slot : KeySlot) (root : Value) (path : KeyPath) (newKey : String) :
    Except FieldError (KeySlot × Value) :=
  (Call.commitRename root path newKey).success slot

def abandon (slot : KeySlot) (root : Value) (path : KeyPath) :
    Except FieldError (KeySlot × Value) :=
  (Call.abandon root path).success slot

end KeySlot

end FormTree

import FormTree.Members
import FormTree.Number.Basic

/-!
# Values

The content of a form: a JSON value. The members of a mapping are listed in the order of their keys;
`Value.Ordered` says so of a whole value, and every reader and every edit of this library yields
ordered values.

`same` is the equality that decides whether an edit changed anything. It differs from identity of
data in one point: the two zeros of binary64 are the same.
-/

namespace FormTree

inductive Value where
  | null
  | bool (b : Bool)
  | num (n : Number)
  | str (s : String)
  | arr (items : List Value)
  | obj (members : List (String × Value))

namespace Value

instance : Inhabited Value := ⟨.null⟩

mutual

/-- The same content at every place. -/
def same : Value → Value → Bool
  | .null, .null => true
  | .bool a, .bool b => a == b
  | .num m, .num n => m.same n
  | .str s, .str t => decide (s = t)
  | .arr xs, .arr ys => sameItems xs ys
  | .obj ms, .obj ns => sameMembers ms ns
  | _, _ => false

def sameItems : List Value → List Value → Bool
  | [], [] => true
  | x :: xs, y :: ys => same x y && sameItems xs ys
  | _, _ => false

def sameMembers : List (String × Value) → List (String × Value) → Bool
  | [], [] => true
  | (k, x) :: xs, (l, y) :: ys => decide (k = l) && same x y && sameMembers xs ys
  | _, _ => false

end

mutual

/-- Equal as amounts: as `same`, but a number is only how much it is, so `1` equals `1.0`. -/
def equal : Value → Value → Bool
  | .null, .null => true
  | .bool a, .bool b => a == b
  | .num m, .num n => m.equal n
  | .str s, .str t => decide (s = t)
  | .arr xs, .arr ys => equalItems xs ys
  | .obj ms, .obj ns => equalMembers ms ns
  | _, _ => false

def equalItems : List Value → List Value → Bool
  | [], [] => true
  | x :: xs, y :: ys => equal x y && equalItems xs ys
  | _, _ => false

def equalMembers : List (String × Value) → List (String × Value) → Bool
  | [], [] => true
  | (k, x) :: xs, (l, y) :: ys => decide (k = l) && equal x y && equalMembers xs ys
  | _, _ => false

end

mutual

/-- Every mapping in the value lists its members in strictly increasing order of keys. -/
def Ordered : Value → Prop
  | .arr items => OrderedItems items
  | .obj members => Members.Ordered members ∧ OrderedMembers members
  | _ => True

def OrderedItems : List Value → Prop
  | [] => True
  | x :: rest => Ordered x ∧ OrderedItems rest

def OrderedMembers : List (String × Value) → Prop
  | [] => True
  | (_, x) :: rest => Ordered x ∧ OrderedMembers rest

end

mutual

/-- The value with every mapping put in order; of members with one key the last stays. -/
def ordered : Value → Value
  | .arr items => .arr (orderedItems items)
  | .obj members => .obj (Members.ofEntries (orderedMembers members))
  | v => v

def orderedItems : List Value → List Value
  | [] => []
  | x :: rest => ordered x :: orderedItems rest

def orderedMembers : List (String × Value) → List (String × Value)
  | [] => []
  | (k, x) :: rest => (k, ordered x) :: orderedMembers rest

end

theorem orderedMembers_iff {members : List (String × Value)} :
    OrderedMembers members ↔ ∀ entry ∈ members, Ordered entry.2 := by
  induction members with
  | nil => simp [OrderedMembers]
  | cons entry rest ih => simp [OrderedMembers, ih]

mutual

/-- Putting a value in order makes it ordered. -/
theorem ordered_ordered : (v : Value) → Ordered (ordered v)
  | .null => trivial
  | .bool _ => trivial
  | .num _ => trivial
  | .str _ => trivial
  | .arr items => orderedItems_orderedItems items
  | .obj members =>
    ⟨Members.ordered_ofEntries _, orderedMembers_iff.2
      (Members.forall_mem_ofEntries (orderedMembers_orderedMembers members))⟩

theorem orderedItems_orderedItems : (items : List Value) → OrderedItems (orderedItems items)
  | [] => trivial
  | x :: rest => ⟨ordered_ordered x, orderedItems_orderedItems rest⟩

theorem orderedMembers_orderedMembers : (members : List (String × Value)) →
    ∀ entry ∈ orderedMembers members, Ordered entry.2
  | [] => by simp [orderedMembers]
  | (k, x) :: rest => by
    simp only [orderedMembers, List.forall_mem_cons]
    exact ⟨ordered_ordered x, orderedMembers_orderedMembers rest⟩

end

def isNull : Value → Bool
  | .null => true
  | _ => false

/-- A container has rows of its own: a mapping, never an array. -/
def isContainer : Value → Bool
  | .obj _ => true
  | _ => false

def members? : Value → Option (List (String × Value))
  | .obj members => some members
  | _ => none

def string? : Value → Option String
  | .str s => some s
  | _ => none

/-- The member at `key`, if the value is a mapping that has one. -/
def member? (v : Value) (key : String) : Option Value :=
  v.members?.bind (Members.find? key)

end Value

end FormTree

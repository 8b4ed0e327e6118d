import FormTree.Proofs.Value.Lookup
import FormTree.Tree.Growth

/-!
# Growing

`opened` is what a node becomes when growing comes to it, and one step of growing enters a key, if
it is not there yet, and goes on at the node there (`grow_cons_of_find?`,
`grow_cons_of_find?_eq_none`).

`GrowsTo` says that one value has all that another one has, with room for more.
-/

namespace FormTree

namespace Members

variable {α : Type} {key : String} {members : List (String × α)}

theorem assign_enter (first second : α) (h : has key members = false) :
    assign key second (enter key first members) = enter key second members := by
  induction members with
  | nil => simp only [enter, assign, if_true]
  | cons entry rest ih =>
    obtain ⟨k, v⟩ := entry
    obtain ⟨hne, hrest⟩ := has_cons_eq_false_iff.1 h
    by_cases hlt : key < k
    · simp only [enter, if_pos hlt, assign, if_true]
    · simp only [enter, if_neg hlt, assign, if_neg hne, ih hrest]

theorem put_put (first second : α) :
    put key second (put key first members) = put key second members := by
  have hthere : has key (put key first members) = true :=
    has_eq_true_iff.2 ⟨first, find?_put_self key first members⟩
  rw [put, if_pos hthere, put, put]
  split
  · exact assign_assign first second
  · next h => exact assign_enter first second (by simpa using h)

theorem put_find? {v : α} (h : find? key members = some v) : put key v members = members := by
  rw [put, if_pos (has_eq_true_iff.2 ⟨v, h⟩), assign_find? h]

theorem mem_keys_of_find? {v : α} (h : find? key members = some v) : key ∈ keys members :=
  has_iff_mem_keys.1 (has_eq_true_iff.2 ⟨v, h⟩)

theorem exists_find?_of_mem_keys (h : key ∈ keys members) : ∃ v, find? key members = some v :=
  has_eq_true_iff.1 (has_iff_mem_keys.2 h)

theorem mem_keys_put_iff {other : String} (new : α) :
    other ∈ keys (put key new members) ↔ other = key ∨ other ∈ keys members := by
  rw [put]
  split
  · next hhas =>
    rw [keys_assign]
    refine ⟨.inr, fun h => h.elim (fun heq => ?_) id⟩
    rw [heq]
    exact has_iff_mem_keys.1 hhas
  · exact mem_keys_enter

end Members

namespace Value

variable {v w x y : Value} {key : String} {path : KeyPath} {members : List (String × Value)}

theorem member?_obj (members : List (String × Value)) (key : String) :
    (Value.obj members).member? key = Members.find? key members := rfl

theorem replace?_append_of_get? (h : v.get? path = some x) (below : KeyPath) (new : Value) :
    v.replace? (path ++ below) new = (x.replace? below new).bind (v.replace? path ·) := by
  induction path generalizing v with
  | nil =>
    rw [get?_nil, Option.some.injEq] at h
    subst h
    simp only [List.nil_append, replace?_nil, Option.bind_fun_some]
  | cons k rest ih =>
    rw [get?_cons, Option.bind_eq_some_iff] at h
    obtain ⟨child, hchild, hrest⟩ := h
    simp only [List.cons_append, replace?, hchild, Option.bind_some, ih hrest, Option.map_bind]
    rfl

theorem replace?_concat (h : v.get? path = some (.obj members)) (hkey : Members.has key members)
    (new : Value) :
    v.replace? (path ++ [key]) new = v.replace? path (.obj (Members.put key new members)) := by
  obtain ⟨x, hx⟩ := Members.has_eq_true_iff.1 hkey
  have hmember : (Value.obj members).replace? [key] new =
      some (.obj (Members.put key new members)) := by
    simp only [replace?, member?_obj, hx, Option.bind_some, Option.map_some, withMember,
      Members.put, if_pos hkey]
  rw [replace?_append_of_get? h, hmember, Option.bind_some]

theorem get?_concat_replace? (h : v.replace? path (.obj members) = some w) (key : String) :
    w.get? (path ++ [key]) = Members.find? key members := by
  rw [get?_replace?_append h, get?_cons, member?_obj]
  simp only [get?_nil, Option.bind_fun_some]

/-! ### Opening a node -/

/-- The node that growing makes of what is held: where there is nothing, or `null`, a container is
opened if one is wanted. -/
def opened (container : Bool) : Option Value → Value
  | none | some .null => if container then .obj [] else .null
  | some v => v

theorem opened_some (container : Bool) (v : Value) :
    opened container (some v) = if container && v.isNull then .obj [] else v := by
  cases v <;> cases container <;> rfl

theorem isNull_eq_true_iff : v.isNull = true ↔ v = .null := by
  cases v <;> simp [isNull]

theorem isContainer_eq_true_iff : v.isContainer = true ↔ ∃ members, v = .obj members := by
  cases v <;> simp [isContainer]

theorem opened_of_not_null (container : Bool) (h : v.isNull = false) :
    opened container (some v) = v := by
  rw [opened_some, h, Bool.and_false]
  rfl

@[simp] theorem opened_leaf (v : Value) : opened false (some v) = v := by
  cases v <;> rfl

theorem opened_leaf_eq_getD (held : Option Value) : opened false held = held.getD .null := by
  cases held with
  | none => rfl
  | some v => exact opened_leaf v

theorem isNull_opened (held : Option Value) : (opened true held).isNull = false := by
  cases held with
  | none => rfl
  | some v => cases v <;> rfl

theorem member?_opened (container : Bool) (held : Option Value) (key : String) :
    (opened container held).member? key = held.bind (·.member? key) := by
  cases held with
  | none => cases container <;> rfl
  | some v => cases v <;> cases container <;> rfl

theorem opened_opened (container : Bool) (held : Option Value) :
    opened container (some (opened container held)) = opened container held := by
  cases held with
  | none => cases container <;> rfl
  | some v => cases v <;> cases container <;> rfl

/-! ### One step of growing -/

theorem grow_cons_of_find? {rest : KeyPath} {child : Value}
    (hfind : Members.find? key members = some child) (container : Bool) (done : KeyPath) :
    grow container done (.obj members) (key :: rest) =
      (.obj (Members.put key (grow container (done ++ [key]) child rest).1 members),
        (grow container (done ++ [key]) child rest).2) := by
  have hhas : Members.has key members = true := Members.has_eq_true_iff.2 ⟨child, hfind⟩
  rw [Members.put, if_pos hhas, grow]
  simp only [roomFor?, hhas, hfind, Bool.not_true, Bool.false_eq_true, if_false, Bool.false_or]
  cases (grow container (done ++ [key]) child rest).2 <;> rfl

/-- One step into a member that is not there: it is entered, so it is there then. -/
theorem grow_cons_of_find?_eq_none {rest : KeyPath} {opened : Bool}
    (hroom : v.roomFor? = some (members, opened)) (hfind : Members.find? key members = none)
    (container : Bool) (done : KeyPath) : grow container done v (key :: rest) =
      (.obj (Members.put key
          (grow container (done ++ [key]) (fresh container rest.isEmpty) rest).1 members),
        (grow container (done ++ [key]) (fresh container rest.isEmpty) rest).2.map
          fun _ => true) := by
  have hhas : Members.has key members = false := Members.has_eq_false_iff.2 hfind
  have hthere : Members.has key (Members.put key (fresh container rest.isEmpty) members) = true :=
    Members.has_eq_true_iff.2 ⟨_, Members.find?_put_self _ _ _⟩
  rw [grow, hroom, ← Members.put_put (fresh container rest.isEmpty), Members.put, if_pos hthere]
  simp only [hhas, Bool.not_false, if_true, Members.find?_put_self, Bool.or_true, Bool.true_or]

/-! ### Values with room for more -/

/-- Wherever `v` has a mapping, `w` has one with these keys and perhaps others; what `v` has that is
neither a mapping nor `null`, `w` has as it is. -/
def GrowsTo (v w : Value) : Prop :=
  ∀ path, (∀ members, v.get? path = some (.obj members) →
      ∃ more, w.get? path = some (.obj more) ∧
        ∀ key ∈ Members.keys members, key ∈ Members.keys more) ∧
    ∀ x, v.get? path = some x → x.isNull = false → x.isContainer = false → w.get? path = some x

theorem GrowsTo.refl (v : Value) : v.GrowsTo v :=
  fun _ => ⟨fun members h => ⟨members, h, fun _ hkey => hkey⟩, fun _ h _ _ => h⟩

theorem GrowsTo.trans (hvw : v.GrowsTo w) (hwx : w.GrowsTo x) : v.GrowsTo x := by
  intro path
  constructor
  · intro members h
    obtain ⟨some, hsome, hkeys⟩ := (hvw path).1 members h
    obtain ⟨more, hmore, hmorekeys⟩ := (hwx path).1 some hsome
    exact ⟨more, hmore, fun key hkey => hmorekeys key (hkeys key hkey)⟩
  · intro y h hnull hleaf
    exact (hwx path).2 y ((hvw path).2 y h hnull hleaf) hnull hleaf

theorem GrowsTo.of_null (w : Value) : Value.null.GrowsTo w := by
  intro path
  cases path with
  | nil =>
    refine ⟨fun members h => by simp at h, fun x h hnull _ => ?_⟩
    rw [get?_nil, Option.some.injEq] at h
    subst h
    exact absurd hnull (by decide)
  | cons key rest =>
    exact ⟨fun members h => by simp [get?_cons, member?, members?] at h,
      fun x h => by simp [get?_cons, member?, members?] at h⟩

theorem GrowsTo.member {members more : List (String × Value)}
    (h : (Value.obj members).GrowsTo (.obj more)) (hx : Members.find? key members = some x)
    (hy : Members.find? key more = some y) : x.GrowsTo y := by
  intro path
  have hpath := h (key :: path)
  simpa only [get?_cons, member?_obj, hx, hy, Option.bind_some] using hpath

theorem GrowsTo.keys {members more : List (String × Value)}
    (h : (Value.obj members).GrowsTo (.obj more)) :
    ∀ key ∈ Members.keys members, key ∈ Members.keys more := by
  obtain ⟨more', hmore, hkeys⟩ := (h []).1 members rfl
  rw [get?_nil, Option.some.injEq, Value.obj.injEq] at hmore
  exact hmore ▸ hkeys

/-- Setting a key lets a mapping grow if it lets the entry grow that was there. -/
theorem growsTo_put (h : ∀ x, Members.find? key members = some x → x.GrowsTo y) :
    (Value.obj members).GrowsTo (.obj (Members.put key y members)) := by
  intro path
  cases path with
  | nil =>
    refine ⟨fun before hbefore => ?_, fun x hx hnull hleaf => ?_⟩
    · rw [get?_nil, Option.some.injEq, Value.obj.injEq] at hbefore
      exact ⟨_, rfl, fun k hk => (Members.mem_keys_put_iff y).2 (.inr (hbefore ▸ hk))⟩
    · rw [get?_nil, Option.some.injEq] at hx
      subst hx
      simp [isContainer] at hleaf
  | cons k rest =>
    simp only [get?_cons, member?_obj]
    by_cases hk : k = key
    · subst hk
      rw [Members.find?_put_self]
      cases hfind : Members.find? k members with
      | none => simp
      | some x => simpa using h x hfind rest
    · rw [Members.find?_put_of_ne y members hk]
      cases hfind : Members.find? k members with
      | none => simp
      | some x => simpa using GrowsTo.refl x rest

theorem growsTo_opened (container : Bool) (v : Value) : v.GrowsTo (opened container (some v)) := by
  cases hnull : v.isNull with
  | false =>
    rw [opened_of_not_null container hnull]
    exact .refl v
  | true =>
    rw [isNull_eq_true_iff.1 hnull]
    exact .of_null _

end Value

end FormTree

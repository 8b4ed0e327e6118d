import FormTree.Value.Lookup

/-!
# Looking up and replacing

`get?` and `replace?` are the two sides of a lens: what is put at a path is found there, what is
found there can be put back, of two replacements at one path the second stays, and a path that
branches off leads where it led. None of this needs the members of a mapping to be in order or their
keys to be distinct, as both sides stop at the first member with a key.

`Value.same` respects lookups: where one of two values that are the same has a node, the other has
one.
-/

namespace FormTree

namespace Members

variable {α : Type} {key : String} {members : List (String × α)}

theorem has_eq_true_iff : has key members = true ↔ ∃ v, find? key members = some v := by
  rw [has, Option.isSome_iff_exists]

theorem has_eq_false_iff : has key members = false ↔ find? key members = none := by
  rw [has, Option.isSome_eq_false_iff, Option.isNone_iff_eq_none]

theorem find?_eq_none_iff : find? key members = none ↔ key ∉ keys members := by
  rw [← has_eq_false_iff, ← has_iff_mem_keys, Bool.not_eq_true]

theorem assign_find? {v : α} (h : find? key members = some v) : assign key v members = members := by
  induction members with
  | nil => simp at h
  | cons entry rest ih =>
    obtain ⟨k, w⟩ := entry
    by_cases hk : k = key
    · simp only [find?, if_pos hk, Option.some.injEq] at h
      simp only [assign, if_pos hk, h]
    · simp only [find?, if_neg hk] at h
      simp only [assign, if_neg hk, ih h]

theorem assign_assign (first second : α) :
    assign key second (assign key first members) = assign key second members := by
  induction members with
  | nil => rfl
  | cons entry rest ih =>
    obtain ⟨k, w⟩ := entry
    by_cases hk : k = key
    · simp only [assign, if_pos hk]
    · simp only [assign, if_neg hk, ih]

theorem sizeOf_find? [SizeOf α] {v : α} (h : find? key members = some v) :
    sizeOf v < sizeOf members := by
  induction members with
  | nil => simp at h
  | cons entry rest ih =>
    obtain ⟨k, w⟩ := entry
    by_cases hk : k = key
    · simp only [find?, if_pos hk, Option.some.injEq] at h
      rw [h, List.cons.sizeOf_spec, Prod.mk.sizeOf_spec]
      omega
    · simp only [find?, if_neg hk] at h
      have hrest := ih h
      rw [List.cons.sizeOf_spec]
      omega

end Members

namespace Value

variable {v w x y : Value} {key : String} {path : KeyPath}

/-! ### One step down -/

theorem member?_eq_some_iff : v.member? key = some x ↔
    ∃ members, v = .obj members ∧ Members.find? key members = some x := by
  cases v <;> simp [member?, members?]

theorem member?_withMember (new : Value) (h : v.member? key = some x) :
    (v.withMember key new).member? key = some new := by
  obtain ⟨members, rfl, hfind⟩ := member?_eq_some_iff.1 h
  have hhas : Members.has key members = true := Members.has_eq_true_iff.2 ⟨x, hfind⟩
  simp only [withMember, member?, members?, Option.bind_some]
  exact Members.find?_assign_self new hhas

theorem member?_withMember_of_ne {other : String} (new : Value) (h : other ≠ key) :
    (v.withMember key new).member? other = v.member? other := by
  cases v with
  | obj members =>
    simp only [withMember, member?, members?, Option.bind_some]
    exact Members.find?_assign_of_ne members new h
  | _ => rfl

theorem withMember_member? (h : v.member? key = some x) : v.withMember key x = v := by
  obtain ⟨members, rfl, hfind⟩ := member?_eq_some_iff.1 h
  rw [withMember, Members.assign_find? hfind]

theorem withMember_withMember (first second : Value) :
    (v.withMember key first).withMember key second = v.withMember key second := by
  cases v with
  | obj members => simp only [withMember, Members.assign_assign]
  | _ => rfl

theorem sizeOf_member? (h : v.member? key = some x) : sizeOf x < sizeOf v := by
  obtain ⟨members, rfl, hfind⟩ := member?_eq_some_iff.1 h
  have hlt := Members.sizeOf_find? hfind
  rw [Value.obj.sizeOf_spec]
  omega

/-! ### The lens -/

theorem replace?_cons_eq_some {rest : KeyPath} : v.replace? (key :: rest) x = some w ↔
    ∃ child grown, v.member? key = some child ∧ child.replace? rest x = some grown ∧
      v.withMember key grown = w := by
  simp only [replace?, Option.bind_eq_some_iff, Option.map_eq_some_iff]
  constructor
  · rintro ⟨child, hchild, grown, hgrown, hw⟩
    exact ⟨child, grown, hchild, hgrown, hw⟩
  · rintro ⟨child, grown, hchild, hgrown, hw⟩
    exact ⟨child, hchild, grown, hgrown, hw⟩

theorem exists_replace? (h : v.get? path = some x) (new : Value) :
    ∃ w, v.replace? path new = some w := by
  rw [← Option.isSome_iff_exists, isSome_replace?, h]
  rfl

theorem get?_replace?_append (h : v.replace? path x = some w) (below : KeyPath) :
    w.get? (path ++ below) = x.get? below := by
  induction path generalizing v w with
  | nil =>
    rw [replace?_nil, Option.some.injEq] at h
    rw [h, List.nil_append]
  | cons key rest ih =>
    obtain ⟨child, grown, hchild, hgrown, rfl⟩ := replace?_cons_eq_some.1 h
    rw [List.cons_append, get?_cons, member?_withMember grown hchild, Option.bind_some, ih hgrown]

theorem get?_replace? (h : v.replace? path x = some w) : w.get? path = some x := by
  have hself := get?_replace?_append h []
  rwa [List.append_nil, get?_nil] at hself

theorem replace?_get? (h : v.get? path = some x) : v.replace? path x = some v := by
  induction path generalizing v with
  | nil =>
    rw [get?_nil, Option.some.injEq] at h
    rw [replace?_nil, h]
  | cons key rest ih =>
    rw [get?_cons, Option.bind_eq_some_iff] at h
    obtain ⟨child, hchild, hrest⟩ := h
    exact replace?_cons_eq_some.2 ⟨child, child, hchild, ih hrest, withMember_member? hchild⟩

theorem replace?_replace? (h : v.replace? path x = some w) :
    w.replace? path y = v.replace? path y := by
  induction path generalizing v w with
  | nil => rfl
  | cons key rest ih =>
    obtain ⟨child, grown, hchild, hgrown, rfl⟩ := replace?_cons_eq_some.1 h
    simp only [replace?, member?_withMember grown hchild, hchild, Option.bind_some, ih hgrown,
      withMember_withMember]

/-- A path that branches off is not reached by what is put, and leads where it led. -/
theorem get?_replace?_of_diverging {other : KeyPath} (h : v.replace? path x = some w)
    (hother : ¬ other <+: path) (hpath : ¬ path <+: other) : w.get? other = v.get? other := by
  induction path generalizing v w other with
  | nil => exact absurd List.nil_prefix hpath
  | cons key rest ih =>
    obtain ⟨child, grown, hchild, hgrown, rfl⟩ := replace?_cons_eq_some.1 h
    cases other with
    | nil => exact absurd List.nil_prefix hother
    | cons first below =>
      rw [get?_cons, get?_cons]
      by_cases hfirst : first = key
      · -- The paths part further down, in the child that both go through.
        subst hfirst
        rw [List.prefix_cons_inj] at hother hpath
        rw [member?_withMember grown hchild, hchild]
        exact ih hgrown hother hpath
      · rw [member?_withMember_of_ne grown hfirst]

theorem get?_append_of_get? (h : v.get? path = some x) (below : KeyPath) :
    v.get? (path ++ below) = x.get? below := by
  rw [get?_append, h, Option.bind_some]

theorem get?_concat_eq_some_iff : v.get? (path ++ [key]) = some x ↔
    ∃ members, v.get? path = some (.obj members) ∧ Members.find? key members = some x := by
  rw [get?_append, Option.bind_eq_some_iff]
  constructor
  · rintro ⟨parent, hparent, hchild⟩
    rw [get?_cons, Option.bind_eq_some_iff] at hchild
    obtain ⟨child, hmember, hx⟩ := hchild
    obtain ⟨members, rfl, hfind⟩ := member?_eq_some_iff.1 hmember
    rw [get?_nil, Option.some.injEq] at hx
    exact ⟨members, hparent, hx ▸ hfind⟩
  · rintro ⟨members, hparent, hfind⟩
    refine ⟨.obj members, hparent, ?_⟩
    rw [get?_cons, member?_eq_some_iff.2 ⟨members, rfl, hfind⟩, Option.bind_some, get?_nil]

theorem exists_get?_replicate_eq_none (v : Value) (key : String) :
    ∃ n, v.get? (List.replicate n key) = none := by
  cases hmember : v.member? key with
  | none => exact ⟨1, by rw [List.replicate_one, get?_cons, hmember, Option.bind_none]⟩
  | some child =>
    have hsmaller : sizeOf child < sizeOf v := sizeOf_member? hmember
    obtain ⟨n, hn⟩ := exists_get?_replicate_eq_none child key
    exact ⟨n + 1, by rw [List.replicate_succ, get?_cons, hmember, Option.bind_some, hn]⟩
termination_by sizeOf v

/-! ### Values that are the same have nodes at the same paths -/

mutual

theorem same_self : (v : Value) → v.same v = true
  | .null => rfl
  | .bool b => by simp [same]
  | .num n => by simp [same]
  | .str s => by simp [same]
  | .arr items => sameItems_self items
  | .obj members => sameMembers_self members

theorem sameItems_self : (items : List Value) → sameItems items items = true
  | [] => rfl
  | x :: rest => by simp only [sameItems, same_self x, sameItems_self rest, Bool.and_self]

theorem sameMembers_self : (members : List (String × Value)) → sameMembers members members = true
  | [] => rfl
  | (k, x) :: rest => by
    simp only [sameMembers, same_self x, sameMembers_self rest, decide_true, Bool.and_self]

end

theorem ne_of_not_same (h : v.same w = false) : v ≠ w := by
  rintro rfl
  rw [same_self] at h
  exact absurd h (by decide)

theorem find?_of_sameMembers {ms ns : List (String × Value)}
    (h : sameMembers ms ns = true) (key : String) :
    (∃ x y, Members.find? key ms = some x ∧ Members.find? key ns = some y ∧ x.same y = true) ∨
      Members.find? key ms = none ∧ Members.find? key ns = none := by
  induction ms generalizing ns with
  | nil =>
    cases ns with
    | nil => exact .inr ⟨rfl, rfl⟩
    | cons entry rest => simp [sameMembers] at h
  | cons first ms ih =>
    cases ns with
    | nil => simp [sameMembers] at h
    | cons second ns =>
      obtain ⟨k, x⟩ := first
      obtain ⟨l, y⟩ := second
      simp only [sameMembers, Bool.and_eq_true, decide_eq_true_eq] at h
      obtain ⟨⟨rfl, hxy⟩, hrest⟩ := h
      by_cases hk : k = key
      · exact .inl ⟨x, y, by simp only [Members.find?, if_pos hk],
          by simp only [Members.find?, if_pos hk], hxy⟩
      · simpa only [Members.find?, if_neg hk] using ih hrest

theorem keys_of_sameMembers {ms ns : List (String × Value)} (h : sameMembers ms ns = true) :
    Members.keys ms = Members.keys ns := by
  induction ms generalizing ns with
  | nil =>
    cases ns with
    | nil => rfl
    | cons entry rest => simp [sameMembers] at h
  | cons first ms ih =>
    cases ns with
    | nil => simp [sameMembers] at h
    | cons second ns =>
      simp only [sameMembers, Bool.and_eq_true, decide_eq_true_eq] at h
      obtain ⟨⟨hkey, -⟩, hrest⟩ := h
      simp only [Members.keys, List.map_cons, List.cons.injEq]
      exact ⟨hkey, ih hrest⟩

theorem exists_members_of_same {ns : List (String × Value)} (h : v.same (.obj ns) = true) :
    ∃ ms, v = .obj ms ∧ sameMembers ms ns = true := by
  cases v with
  | obj ms => exact ⟨ms, rfl, h⟩
  | _ => simp [same] at h

theorem isNull_of_same (h : v.same w = true) : v.isNull = w.isNull := by
  cases v <;> cases w <;> simp_all [same, isNull]

theorem get?_of_same (h : v.same w = true) (path : KeyPath) :
    (∃ x y, v.get? path = some x ∧ w.get? path = some y ∧ x.same y = true) ∨
      v.get? path = none ∧ w.get? path = none := by
  induction path generalizing v w with
  | nil => exact .inl ⟨v, w, rfl, rfl, h⟩
  | cons key rest ih =>
    cases v <;> cases w <;> simp only [same, Bool.false_eq_true] at h <;>
      try exact .inr ⟨rfl, rfl⟩
    next ms ns =>
      simp only [get?_cons, member?, members?, Option.bind_some]
      obtain ⟨x, y, hx, hy, hxy⟩ | ⟨hx, hy⟩ := find?_of_sameMembers h key
      · rw [hx, hy, Option.bind_some, Option.bind_some]
        exact ih hxy
      · rw [hx, hy]
        exact .inr ⟨rfl, rfl⟩

theorem isSome_get?_of_same (h : v.same w = true) (path : KeyPath) :
    (v.get? path).isSome = (w.get? path).isSome := by
  obtain ⟨x, y, hx, hy, -⟩ | ⟨hx, hy⟩ := get?_of_same h path
  · rw [hx, hy]
    rfl
  · rw [hx, hy]

theorem not_same_of_isSome_get?_ne (h : (v.get? path).isSome ≠ (w.get? path).isSome) :
    v.same w = false := by
  rw [Bool.eq_false_iff]
  exact fun hsame => h (isSome_get?_of_same hsame path)

/-- To put a member in the place of its mapping is a change: a value that stayed the same would hold
its own copy, and so go down for ever under that key. -/
theorem not_same_of_replace?_member {child : Value} (hchild : v.get? (path ++ [key]) = some child)
    (hreplace : v.replace? path child = some w) : w.same v = false := by
  rw [Bool.eq_false_iff]
  intro hsame
  have hdown : ∀ n, (child.get? (List.replicate n key)).isSome = true := by
    intro n
    -- `w` has `child` where `v` has it one key further down, so each depth gives the next one.
    induction n with
    | zero => rfl
    | succ n ih =>
      have hpath := isSome_get?_of_same hsame (path ++ List.replicate (n + 1) key)
      have hbelow : v.get? (path ++ List.replicate (n + 1) key) =
          child.get? (List.replicate n key) := by
        rw [List.replicate_succ, ← List.singleton_append, ← List.append_assoc,
          get?_append_of_get? hchild]
      rw [get?_replace?_append hreplace, hbelow, ih] at hpath
      exact hpath
  obtain ⟨n, hn⟩ := exists_get?_replicate_eq_none child key
  have hsome := hdown n
  rw [hn] at hsome
  exact absurd hsome (by decide)

end Value

end FormTree

/-!
# Members

A mapping is a list of keyed entries. `Members` has the look-up and the three ways to change an
entry, each with its equation through `find?`. The order of keys is a predicate of its own,
`Ordered`: the operations work on any list, and keep an ordered one ordered.
-/

namespace FormTree.Members

variable {α : Type}

/-- The entry at `key`; of two entries with one key, the first. -/
def find? (key : String) : List (String × α) → Option α
  | [] => none
  | (k, v) :: rest => if k = key then some v else find? key rest

def has (key : String) (members : List (String × α)) : Bool := (find? key members).isSome

def keys (members : List (String × α)) : List String := members.map Prod.fst

/-- Changes the entry at a key that is there; without the key nothing changes. -/
def assign (key : String) (new : α) : List (String × α) → List (String × α)
  | [] => []
  | (k, v) :: rest => if k = key then (k, new) :: rest else (k, v) :: assign key new rest

/-- Enters a key that is not there yet, before the first greater key. -/
def enter (key : String) (new : α) : List (String × α) → List (String × α)
  | [] => [(key, new)]
  | (k, v) :: rest => if key < k then (key, new) :: (k, v) :: rest else (k, v) :: enter key new rest

/-- Sets the entry at `key`, whether it is there or not. -/
def put (key : String) (new : α) (members : List (String × α)) : List (String × α) :=
  if has key members then assign key new members else enter key new members

/-- Takes every entry at `key` out. -/
def remove (key : String) : List (String × α) → List (String × α)
  | [] => []
  | (k, v) :: rest => if k = key then remove key rest else (k, v) :: remove key rest

/-- The members that a list of entries stands for: ordered by key, of equal keys the last. -/
def ofEntries (entries : List (String × α)) : List (String × α) :=
  entries.foldl (fun members entry => put entry.1 entry.2 members) []

/-- Strictly increasing keys, in code point order. -/
def Ordered (members : List (String × α)) : Prop := (keys members).Pairwise (· < ·)

instance (members : List (String × α)) : Decidable (Ordered members) :=
  inferInstanceAs (Decidable (List.Pairwise (· < ·) (keys members)))

/-! ### What a look-up sees after each change -/

@[simp] theorem find?_nil (key : String) : find? key ([] : List (String × α)) = none := rfl

theorem find?_assign_self {key : String} {members : List (String × α)} (new : α)
    (h : has key members = true) : find? key (assign key new members) = some new := by
  induction members with
  | nil => simp [has] at h
  | cons entry rest ih =>
    obtain ⟨k, v⟩ := entry
    by_cases hk : k = key
    · simp [assign, find?, hk]
    · simp only [assign, find?, hk, if_false] at h ⊢
      exact ih (by simpa [has, find?, hk] using h)

theorem find?_assign_of_ne {key other : String} (members : List (String × α)) (new : α)
    (h : other ≠ key) : find? other (assign key new members) = find? other members := by
  induction members with
  | nil => rfl
  | cons entry rest ih =>
    obtain ⟨k, v⟩ := entry
    by_cases hk : k = key
    · simp [assign, find?, hk, show ¬ key = other from fun e => h e.symm]
    · simp [assign, find?, hk, ih]

theorem has_cons_eq_false_iff {key k : String} {v : α} {members : List (String × α)} :
    has key ((k, v) :: members) = false ↔ k ≠ key ∧ has key members = false := by
  by_cases hk : k = key <;> simp [has, find?, hk]

theorem find?_enter_self {key : String} {members : List (String × α)} (new : α)
    (h : has key members = false) : find? key (enter key new members) = some new := by
  induction members with
  | nil => simp [enter, find?]
  | cons entry rest ih =>
    obtain ⟨k, v⟩ := entry
    obtain ⟨hk, hrest⟩ := has_cons_eq_false_iff.1 h
    by_cases hlt : key < k <;> simp [enter, find?, hlt, hk, ih hrest]

theorem find?_enter_of_ne {key other : String} (members : List (String × α)) (new : α)
    (h : other ≠ key) : find? other (enter key new members) = find? other members := by
  have hne : ¬ key = other := fun e => h e.symm
  induction members with
  | nil => simp [enter, find?, hne]
  | cons entry rest ih =>
    obtain ⟨k, v⟩ := entry
    by_cases hlt : key < k <;> simp [enter, find?, hlt, hne, ih]

@[simp] theorem find?_put_self (key : String) (new : α) (members : List (String × α)) :
    find? key (put key new members) = some new := by
  unfold put
  split
  · next h => exact find?_assign_self new h
  · next h => exact find?_enter_self new (by simpa using h)

theorem find?_put_of_ne {key other : String} (new : α) (members : List (String × α))
    (h : other ≠ key) : find? other (put key new members) = find? other members := by
  unfold put
  split
  · exact find?_assign_of_ne members new h
  · exact find?_enter_of_ne members new h

@[simp] theorem find?_remove_self (key : String) (members : List (String × α)) :
    find? key (remove key members) = none := by
  induction members with
  | nil => rfl
  | cons entry rest ih =>
    obtain ⟨k, v⟩ := entry
    by_cases hk : k = key <;> simp [remove, find?, hk, ih]

theorem find?_remove_of_ne {key other : String} (members : List (String × α)) (h : other ≠ key) :
    find? other (remove key members) = find? other members := by
  induction members with
  | nil => rfl
  | cons entry rest ih =>
    obtain ⟨k, v⟩ := entry
    by_cases hk : k = key
    · simp [remove, find?, hk, ih, show ¬ key = other from fun e => h e.symm]
    · simp [remove, find?, hk, ih]

theorem has_iff_mem_keys {key : String} {members : List (String × α)} :
    has key members = true ↔ key ∈ keys members := by
  induction members with
  | nil => simp [has, keys]
  | cons entry rest ih =>
    obtain ⟨k, v⟩ := entry
    by_cases hk : k = key
    · simp [has, find?, keys, hk]
    · have hk' : ¬ key = k := fun e => hk e.symm
      simpa [has, find?, keys, hk, hk'] using ih

/-! ### Where entries come from -/

theorem mem_assign {key : String} {new : α} {members : List (String × α)} {entry : String × α}
    (h : entry ∈ assign key new members) : entry.2 = new ∨ entry ∈ members := by
  induction members with
  | nil => simp [assign] at h
  | cons first rest ih =>
    obtain ⟨k, v⟩ := first
    by_cases hk : k = key
    · simp only [assign, hk, if_true, List.mem_cons] at h
      rcases h with rfl | h
      · exact Or.inl rfl
      · exact Or.inr (List.mem_cons_of_mem _ h)
    · simp only [assign, hk, if_false, List.mem_cons] at h ⊢
      grind

theorem mem_enter {key : String} {new : α} {members : List (String × α)} {entry : String × α}
    (h : entry ∈ enter key new members) : entry.2 = new ∨ entry ∈ members := by
  induction members with
  | nil => simp_all [enter]
  | cons first rest ih =>
    obtain ⟨k, v⟩ := first
    by_cases hlt : key < k
    · simp only [enter, hlt, if_true, List.mem_cons] at h ⊢
      grind
    · simp only [enter, hlt, if_false, List.mem_cons] at h ⊢
      grind

theorem mem_put {key : String} {new : α} {members : List (String × α)} {entry : String × α}
    (h : entry ∈ put key new members) : entry.2 = new ∨ entry ∈ members := by
  unfold put at h
  split at h
  · exact mem_assign h
  · exact mem_enter h

/-- What holds of all entries holds of all members made from them. -/
theorem forall_mem_ofEntries {P : α → Prop} {entries : List (String × α)}
    (h : ∀ entry ∈ entries, P entry.2) : ∀ entry ∈ ofEntries entries, P entry.2 := by
  suffices hall : ∀ members : List (String × α), (∀ entry ∈ members, P entry.2) →
      ∀ entry ∈ entries.foldl (fun members entry => put entry.1 entry.2 members) members,
        P entry.2 from hall [] (by simp)
  induction entries with
  | nil => exact fun _ hmembers => hmembers
  | cons first rest ih =>
    intro members hmembers
    refine ih (fun entry hentry => h entry (List.mem_cons_of_mem _ hentry)) _ fun entry hentry => ?_
    rcases mem_put hentry with hnew | hold
    · exact hnew ▸ h first List.mem_cons_self
    · exact hmembers entry hold

/-! ### Order is kept -/

theorem mem_keys_enter {key other : String} {new : α} {members : List (String × α)} :
    other ∈ keys (enter key new members) ↔ other = key ∨ other ∈ keys members := by
  induction members with
  | nil => simp [enter, keys]
  | cons entry rest ih =>
    obtain ⟨k, v⟩ := entry
    by_cases hlt : key < k
    · simp [enter, hlt, keys]
    · simp only [keys] at ih
      simp only [enter, hlt, if_false, keys, List.map_cons, List.mem_cons, ih]
      grind

theorem keys_assign (key : String) (new : α) (members : List (String × α)) :
    keys (assign key new members) = keys members := by
  induction members with
  | nil => rfl
  | cons entry rest ih =>
    obtain ⟨k, v⟩ := entry
    simp only [keys] at ih
    by_cases hk : k = key <;> simp [assign, keys, hk, ih]

theorem keys_remove (key : String) (members : List (String × α)) :
    keys (remove key members) = (keys members).filter (· ≠ key) := by
  induction members with
  | nil => rfl
  | cons entry rest ih =>
    obtain ⟨k, v⟩ := entry
    simp only [keys] at ih
    by_cases hk : k = key <;> simp [remove, keys, hk, ih]

theorem Ordered.assign {members : List (String × α)} (key : String) (new : α)
    (h : Ordered members) : Ordered (assign key new members) := by
  simpa [Ordered, keys_assign] using h

theorem Ordered.remove {members : List (String × α)} (key : String) (h : Ordered members) :
    Ordered (remove key members) := by
  simp only [Ordered, keys_remove]
  exact List.Pairwise.filter _ h

theorem Ordered.enter {key : String} {members : List (String × α)} (new : α)
    (h : Ordered members) (hnew : has key members = false) : Ordered (enter key new members) := by
  induction members with
  | nil => simp [Members.enter, Ordered, keys]
  | cons entry rest ih =>
    obtain ⟨k, v⟩ := entry
    obtain ⟨hne, hrest⟩ := has_cons_eq_false_iff.1 hnew
    obtain ⟨hhead, htail⟩ := List.pairwise_cons.1 h
    by_cases hlt : key < k
    · simp only [Members.enter, hlt, if_true]
      refine List.pairwise_cons.2 ⟨fun other hother => ?_, h⟩
      rcases List.mem_cons.1 hother with rfl | hother
      · exact hlt
      · exact String.lt_trans hlt (hhead other hother)
    · simp only [Members.enter, hlt, if_false]
      refine List.pairwise_cons.2 ⟨fun other hother => ?_, ih htail hrest⟩
      rcases mem_keys_enter.1 hother with rfl | hother
      · exact Decidable.byContradiction fun hgt =>
          hne (String.le_antisymm (String.not_lt.1 hlt) (String.not_lt.1 hgt))
      · exact hhead other hother

theorem Ordered.put {members : List (String × α)} (key : String) (new : α)
    (h : Ordered members) : Ordered (put key new members) := by
  unfold Members.put
  split
  · exact h.assign key new
  · next hnew => exact h.enter new (by simpa using hnew)

theorem ordered_ofEntries (entries : List (String × α)) : Ordered (ofEntries entries) := by
  suffices h : ∀ members : List (String × α), Ordered members →
      Ordered (entries.foldl (fun members entry => put entry.1 entry.2 members) members) from
    h [] List.Pairwise.nil
  induction entries with
  | nil => exact fun _ h => h
  | cons entry rest ih => exact fun members h => ih _ (h.put entry.1 entry.2)

end FormTree.Members

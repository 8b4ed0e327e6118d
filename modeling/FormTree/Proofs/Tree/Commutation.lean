import FormTree.Proofs.Tree.Seen

/-!
# Edits at paths apart

Two edits at paths of which neither leads to the other can be made in any order. They may still meet
above: both may open the same `null`, or enter their keys in the same mapping.

An edit is one update of what is seen, at its path, below and above (`amended`), and two such
updates at paths apart commute (`amended_comm`). Whether an edit is accepted is decided by what is
seen on the way to its path, so another edit that only opens mappings there is not in its way
(`Operation.accepted_after`).
-/

namespace FormTree

namespace Value

variable {v w new : Value} {path above p q done : KeyPath}

/-! ### Updates of what is seen -/

/-- What is seen once `held` is at a path, or nothing is there. Above there are mappings. -/
def amended (path : KeyPath) (held : Option Value) (sight : KeyPath → Option Value)
    (other : KeyPath) : Option Value :=
  if path <+: other then held.bind (seen · (other.drop path.length))
  else if other <+: path then some (.obj [])
  else sight other

theorem amended_comm (hpq : ¬ p <+: q) (hqp : ¬ q <+: p) (x y : Option Value)
    (sight : KeyPath → Option Value) :
    amended p x (amended q y sight) = amended q y (amended p x sight) := by
  have hapart : ∀ other, p <+: other → ¬ q <+: other := fun other hp hq =>
    (List.prefix_or_prefix_of_prefix hp hq).elim hpq hqp
  funext other
  by_cases hp : p <+: other
  · have habove : ¬ other <+: q := fun hother => hpq (hp.trans hother)
    simp only [amended, hp, hapart other hp, habove, if_true, if_false]
  · by_cases hq : q <+: other
    · have habove : ¬ other <+: p := fun hother => hqp (hq.trans hother)
      simp only [amended, hp, hq, habove, if_true, if_false]
    · -- What is above both paths is a mapping in either order.
      simp only [amended, hp, hq, if_false]
      split <;> split <;> rfl

/-- On the way to a path apart nothing is changed but what is opened. -/
theorem amended_of_prefix (hpq : ¬ p <+: q) (habove : above <+: q) (held : Option Value)
    (sight : KeyPath → Option Value) : amended p held sight above =
      if above <+: p then some (.obj []) else sight above :=
  if_neg fun hp => hpq (hp.trans habove)

/-- A store is seen at its path and below, and above it as mappings. -/
theorem seen_storeFrom (h : storeFrom done v path new = .ok w) :
    w.seen = amended path (some new) v.seen := by
  funext other
  rw [amended]
  split
  · next hpath =>
    obtain ⟨below, rfl⟩ := hpath
    rw [List.drop_left, seen, get?_storeFrom_append h]
    rfl
  · next hpath =>
    split
    · next habove =>
      obtain ⟨below, rfl⟩ := habove
      cases below with
      | nil =>
        rw [List.append_nil] at hpath
        exact absurd List.prefix_rfl hpath
      | cons key rest =>
        obtain ⟨members, child, -, hmapping⟩ := get?_storeFrom_above h
        exact seen_of_mapping hmapping
    · next habove => rw [seen, seen, get?_storeFrom_of_apart h habove hpath]

end Value

namespace Edit

open Value

variable {root next v w x y : Value} {path p q : KeyPath}

theorem amended_of_deleteKey (h : deleteKey v path = .ok w) :
    w.seen = amended path none v.seen := by
  funext other
  rw [seen_deleteKey h, amended]
  split
  · rfl
  · next hpath =>
    split
    · next habove =>
      obtain ⟨parent, key, members, rfl, hparent, -⟩ := deleteKey_eq_ok.1 h
      obtain heq | ⟨below, rfl⟩ := List.prefix_concat_iff.1 habove
      · exact absurd (heq ▸ List.prefix_rfl) hpath
      · obtain ⟨inner, hinner⟩ := exists_members_above hparent
        exact seen_of_mapping hinner
    · rfl

/-! ### Edits of either kind -/

/-- An edit of the node at a path, which the path is given to. -/
inductive Operation where
  | setValue (raw : String) (kind : InputKind)
  | deleteKey

namespace Operation

variable {a b : Operation}

def apply (root : Value) (path : KeyPath) : Operation → Except FieldError Value
  | .setValue raw kind => Edit.setValue root path raw kind
  | .deleteKey => Edit.deleteKey root path

/-- What is at the path afterwards, or that nothing is. It does not depend on the root. -/
def outcome : Operation → Except FieldError (Option Value)
  | .setValue raw kind => (coerce raw kind).map some
  | .deleteKey => .ok none

theorem exists_outcome (h : a.apply root path = .ok next) :
    ∃ held, a.outcome = .ok held ∧ next.seen = amended path held root.seen := by
  cases a with
  | setValue raw kind =>
    obtain ⟨-, new, hnew, hstore⟩ := setValue_eq_ok.1 h
    exact ⟨some new, except_map_eq_ok.2 ⟨new, hnew, rfl⟩, seen_storeFrom hstore⟩
  | deleteKey => exact ⟨none, rfl, amended_of_deleteKey h⟩

theorem ordered_apply (hroot : root.Ordered) (h : a.apply root path = .ok next) :
    next.Ordered := by
  cases a with
  | setValue raw kind => exact ordered_setValue hroot h
  | deleteKey => exact ordered_deleteKey hroot h

/-- An edit is accepted where the same is seen at its path, and above nothing else but mappings. -/
theorem accepted_of_seen (h : a.apply v path = .ok x) (hpath : w.seen path = v.seen path)
    (habove : ∀ above, above <+: path → w.seen above = v.seen above ∨
      w.seen above = some (.obj [])) : ∃ y, a.apply w path = .ok y := by
  cases a with
  | setValue raw kind =>
    obtain ⟨hne, hnew, hfree⟩ := exists_setValue_iff.1 ⟨x, h⟩
    refine exists_setValue_iff.2 ⟨hne, hnew, fun above hprefix hproper => ?_⟩
    have hblocks := hfree above hprefix hproper
    rw [blocks_iff_seen] at hblocks ⊢
    rcases habove above hprefix with hsame | hmapping
    · rwa [hsame]
    · rw [hmapping]
      rintro ⟨y, hy, -, hleaf⟩
      obtain rfl := Option.some.inj hy
      exact Bool.noConfusion hleaf
  | deleteKey =>
    obtain ⟨parent, key, members, rfl, hparent, hhas, -⟩ := deleteKey_eq_ok.1 h
    obtain ⟨held, hheld⟩ := Members.has_eq_true_iff.1 hhas
    have hfound : (w.get? (parent ++ [key])).isSome = true := by
      rw [← isSome_seen, hpath, isSome_seen, get?_concat_eq_some_iff.2 ⟨members, hparent, hheld⟩]
      rfl
    obtain ⟨y, hy⟩ := Option.isSome_iff_exists.1 hfound
    exact exists_deleteKey (List.concat_ne_nil key parent) hy

theorem accepted_after (hpq : ¬ p <+: q) (hqp : ¬ q <+: p) (ha : a.apply root p = .ok x)
    (hb : b.apply root q = .ok y) : ∃ z, b.apply x q = .ok z := by
  obtain ⟨held, -, hx⟩ := exists_outcome ha
  apply accepted_of_seen hb
  · rw [hx, amended_of_prefix hpq List.prefix_rfl, if_neg hqp]
  · intro above habove
    rw [hx, amended_of_prefix hpq habove]
    split
    · exact .inr rfl
    · exact .inl rfl

end Operation

/-- Edits at paths apart commute. If neither path leads to the other and both edits are accepted,
each is accepted after the other one, and both orders give the same root: the same is seen of it at
every path, so it is equal if the mappings were in order, as those of every value are that was read
or edited. -/
theorem edits_apart_commute (root x y : Value) (p q : KeyPath) (a b : Operation)
    (hpq : ¬ p <+: q) (hqp : ¬ q <+: p) (ha : a.apply root p = .ok x)
    (hb : b.apply root q = .ok y) :
    ∃ ab ba, b.apply x q = .ok ab ∧ a.apply y p = .ok ba ∧ ab.seen = ba.seen ∧
      (root.Ordered → ab = ba) := by
  obtain ⟨ab, hab⟩ := Operation.accepted_after hpq hqp ha hb
  obtain ⟨ba, hba⟩ := Operation.accepted_after hqp hpq hb ha
  have hseen : ab.seen = ba.seen := by
    obtain ⟨left, hleft, hx⟩ := Operation.exists_outcome ha
    obtain ⟨right, hright, hy⟩ := Operation.exists_outcome hb
    obtain ⟨right', hright', hxab⟩ := Operation.exists_outcome hab
    obtain ⟨left', hleft', hyba⟩ := Operation.exists_outcome hba
    obtain rfl := Except.ok.inj (hleft.symm.trans hleft')
    obtain rfl := Except.ok.inj (hright.symm.trans hright')
    rw [hxab, hyba, hx, hy, amended_comm hpq hqp]
  refine ⟨ab, ba, hab, hba, hseen, fun hroot => ?_⟩
  have hleft : ab.Ordered := Operation.ordered_apply (Operation.ordered_apply hroot ha) hab
  have hright : ba.Ordered := Operation.ordered_apply (Operation.ordered_apply hroot hb) hba
  exact hleft.eq_of_seen hright (congrFun hseen)

/-- A key is deleted below a mapping that an input enters another key in. -/
theorem input_and_deletion_in_one_mapping_commute :
    let root : Value := .obj [("a", .obj [("b", .null), ("d", .bool true)])]
    root.Ordered ∧ ¬ (["a", "c", "e"] : KeyPath) <+: ["a", "b"] ∧
      ¬ (["a", "b"] : KeyPath) <+: ["a", "c", "e"] ∧
      ∃ x y, setValue root ["a", "c", "e"] "1" .integer = .ok x ∧
        deleteKey root ["a", "b"] = .ok y ∧
        ∃ z, deleteKey x ["a", "b"] = .ok z ∧
          setValue y ["a", "c", "e"] "1" .integer = .ok z := by
  intro root
  have hroot : root.Ordered := ⟨by decide, ⟨by decide, trivial, trivial, trivial⟩, trivial⟩
  obtain ⟨x, hx⟩ : ∃ x, setValue root ["a", "c", "e"] "1" .integer = .ok x := ⟨_, rfl⟩
  obtain ⟨y, hy⟩ : ∃ y, deleteKey root ["a", "b"] = .ok y := ⟨_, rfl⟩
  obtain ⟨xy, yx, hxy, hyx, -, hsame⟩ :=
    edits_apart_commute root x y ["a", "c", "e"] ["a", "b"] (.setValue "1" .integer) .deleteKey
      (by decide) (by decide) hx hy
  obtain rfl := hsame hroot
  exact ⟨hroot, by decide, by decide, x, y, hx, hy, xy, hxy, hyx⟩

end Edit

end FormTree

import FormTree.Query.Term
import FormTree.Proofs.Program
import Mathlib.Data.List.Basic

/-!
# Lists of elements

A list of elements is read from its front. What stands there shows by its first element what it is:
a step, which takes the next element for its key, or a cast, or the comparison, which takes the last
element for its value. So a list is accepted exactly if it is a run of steps and casts with a
comparison and a value behind it (`ofElements_eq_ok_iff`), and then the run is the only one
(`Writes.unique`).

In the order of a term, one cast at most stands behind the steps. The reader does not ask for that
order: a cast may stand anywhere in the run, and of several casts the last one counts.
-/

namespace FormTree

/-- A run of words can be taken apart in one way only if no word goes on as another and what stands
behind the run begins no word. -/
theorem flatMap_append_cancel {α β : Type} {word : α → List β} {valid : α → Prop}
    (hword : ∀ {x y before after}, valid x → valid y → word x ++ before = word y ++ after →
      x = y ∧ before = after)
    {items others : List α} (hitems : ∀ x ∈ items, valid x) (hothers : ∀ x ∈ others, valid x)
    {before after : List β} (hbefore : ∀ {x rest}, valid x → word x ++ rest ≠ before)
    (hafter : ∀ {x rest}, valid x → word x ++ rest ≠ after)
    (h : items.flatMap word ++ before = others.flatMap word ++ after) :
    items = others ∧ before = after := by
  induction items generalizing others with
  | nil =>
    cases others with
    | nil => exact ⟨rfl, h⟩
    | cons y others =>
      rw [List.flatMap_cons, List.append_assoc] at h
      exact absurd h.symm (hbefore (List.forall_mem_cons.1 hothers).1)
  | cons x items ih =>
    obtain ⟨hx, hitems⟩ := List.forall_mem_cons.1 hitems
    rw [List.flatMap_cons, List.append_assoc] at h
    cases others with
    | nil => exact absurd h (hafter hx)
    | cons y others =>
      obtain ⟨hy, hothers⟩ := List.forall_mem_cons.1 hothers
      rw [List.flatMap_cons, List.append_assoc] at h
      obtain ⟨hxy, hrest⟩ := hword hx hy h
      obtain ⟨heq, hend⟩ := ih hitems hothers hrest
      exact ⟨by rw [hxy, heq], hend⟩

/-! ### Tokens -/

namespace JsonOperator

theorem ofText?_eq_some_iff {token : String} {op : JsonOperator} :
    ofText? token = some op ↔ token = op.text := by
  constructor
  · intro h
    rw [ofText?.eq_def] at h
    split at h <;> cases h
    all_goals rfl
  · rintro rfl
    exact ofText?_text op

end JsonOperator

namespace Cast

/-- The token is the text of the cast, in small or capital letters. -/
def Spells (cast : Cast) (token : String) : Prop :=
  token.toList.map Char.toUpper = cast.text.toList

instance (cast : Cast) (token : String) : Decidable (cast.Spells token) :=
  inferInstanceAs (Decidable (_ = _))

theorem ofText?_eq_some_iff {token : String} {cast : Cast} :
    ofText? token = some cast ↔ cast.Spells token := by
  have hupper : cast.Spells token ↔ String.ofList (token.toList.map Char.toUpper) = cast.text := by
    rw [Spells, ← String.toList_inj, String.toList_ofList]
  rw [hupper, ofText?]
  constructor
  · intro h
    split at h <;> cases h
    all_goals assumption
  · intro h
    rw [h]
    cases cast <;> rfl

theorem Spells.ofText?_eq_none {token : String} {cast : Cast} (h : cast.Spells token) :
    JsonOperator.ofText? token = none := by
  rw [Option.eq_none_iff_forall_ne_some]
  intro op hop
  rw [JsonOperator.ofText?_eq_some_iff.1 hop] at h
  revert h
  cases op <;> cases cast <;> decide

end Cast

namespace Comparison

/-- How the comparison can be written in a list of elements. -/
def spellings : Comparison → List String
  | .ne => ["!=", "<>"]
  | .like => ["like", "=like"]
  | .ilike => ["ilike", "=ilike"]
  | comparison => [comparison.text]

theorem ofText?_eq_some_iff {token : String} {comparison : Comparison} :
    ofText? token = some comparison ↔ token ∈ comparison.spellings := by
  constructor
  · intro h
    rw [ofText?.eq_def] at h
    split at h <;> cases h
    all_goals decide
  · revert token
    cases comparison <;> decide

theorem ofText?_of_mem_spellings {comparison : Comparison} : ∀ token ∈ comparison.spellings,
    JsonOperator.ofText? token = none ∧ Cast.ofText? token = none := by
  cases comparison <;> decide

end Comparison

namespace KeyStep

/-- An index is a signed word of 64 bits. -/
def Fits : KeyStep → Prop
  | .key _ => True
  | .index i => -0x8000000000000000 ≤ i ∧ i < 0x8000000000000000

instance : (key : KeyStep) → Decidable key.Fits
  | .key _ => isTrue trivial
  | .index _ => inferInstanceAs (Decidable (_ ∧ _))

theorem ofValue?_param {key : KeyStep} (h : key.Fits) : ofValue? key.param = some key := by
  cases key with
  | key name => rfl
  | index i => exact if_pos h

theorem ofValue?_eq_some_iff {element : Value} {key : KeyStep} :
    ofValue? element = some key ↔ key.Fits ∧ element = key.param := by
  constructor
  · intro h
    rw [ofValue?.eq_def] at h
    split at h
    · obtain rfl := Option.some.inj h
      exact ⟨trivial, rfl⟩
    · split at h
      · next hfits =>
        obtain rfl := Option.some.inj h
        exact ⟨hfits, rfl⟩
      · exact absurd h (Option.some_ne_none key).symm
    · exact absurd h (Option.some_ne_none key).symm
  · rintro ⟨hfits, rfl⟩
    exact ofValue?_param hfits

end KeyStep

namespace Term

/-! ### The parts of a list -/

/-- What may stand in front of a comparison. -/
inductive Part where
  | step (op : JsonOperator) (key : KeyStep)
  | cast (token : String) (target : Cast)

namespace Part

def elements : Part → List Value
  | .step op key => [.str op.text, key.param]
  | .cast token _ => [.str token]

def Spelled : Part → Prop
  | .step _ key => key.Fits
  | .cast token target => target.Spells token

instance : (part : Part) → Decidable part.Spelled
  | .step _ key => inferInstanceAs (Decidable key.Fits)
  | .cast token target => inferInstanceAs (Decidable (target.Spells token))

def step? : Part → Option (JsonOperator × KeyStep)
  | .step op key => some (op, key)
  | .cast _ _ => none

def cast? : Part → Option Cast
  | .step _ _ => none
  | .cast _ target => some target

/-- What the part adds to the term that is written behind it. -/
def put : Part → Term → Term
  | .step op key => consStep op key
  | .cast _ target => withCast target

end Part

/-- One cast at most, and it stands behind the steps. -/
def InOrder : List Part → Prop
  | [] => True
  | .step _ _ :: rest => InOrder rest
  | .cast _ _ :: rest => rest = []

/-- The elements are the parts, a comparison and a value, and these make up the term: its steps and
the last of the casts, in their order. -/
structure Writes (parts : List Part) (elements : List Value) (term : Term) : Prop where
  spelled : ∀ part ∈ parts, part.Spelled
  elements_eq : ∃ token ∈ term.comparison.spellings,
    elements = parts.flatMap Part.elements ++ [.str token, term.value]
  steps_eq : term.steps = parts.filterMap Part.step?
  cast_eq : term.cast = (parts.filterMap Part.cast?).getLast?
  list : term.comparison.expectsList = true → ∃ items, term.value = .arr items

variable {field token : String} {elements rest : List Value} {term : Term} {part : Part}
  {parts : List Part} {comparison : Comparison}

/-! ### Reading -/

theorem ofElements_part (hspelled : part.Spelled) (rest : List Value) :
    ofElements field (part.elements ++ rest) = (ofElements field rest).map part.put := by
  cases part with
  | step op key =>
    simp only [Part.elements, List.cons_append, List.nil_append, ofElements,
      JsonOperator.ofText?_text, keyStep, KeyStep.ofValue?_param hspelled, Except.bind, Part.put]
  | cast token target =>
    simp only [Part.elements, List.cons_append, List.nil_append, ofElements,
      Cast.Spells.ofText?_eq_none hspelled, Cast.ofText?_eq_some_iff.2 hspelled, Part.put]

/-- What stands behind a run of parts is read as if it stood alone. -/
theorem ofElements_parts (hspelled : ∀ part ∈ parts, part.Spelled) (rest : List Value) :
    ofElements field (parts.flatMap Part.elements ++ rest) =
      (ofElements field rest).map fun term => parts.foldr Part.put term := by
  induction parts with
  | nil => exact (congrFun Except.map_id _).symm
  | cons part parts ih =>
    obtain ⟨hpart, hparts⟩ := List.forall_mem_cons.1 hspelled
    rw [List.flatMap_cons, List.append_assoc, ofElements_part hpart, ih hparts]
    cases ofElements field rest <;> rfl

theorem ofElements_comparison (h : token ∈ comparison.spellings) (rest : List Value) :
    ofElements field (.str token :: rest) = closing field comparison rest := by
  obtain ⟨hop, hcast⟩ := Comparison.ofText?_of_mem_spellings token h
  simp only [ofElements, hop, hcast, Comparison.ofText?_eq_some_iff.2 h]

theorem closing_eq_ok_iff : closing field comparison rest = .ok term ↔
    ∃ value, rest = [value] ∧
      (comparison.expectsList = true → ∃ items, value = .arr items) ∧
      term = ⟨field, [], none, comparison, value⟩ := by
  rw [closing.eq_def]
  split
  · simp
  · next value =>
    cases hlist : comparison.expectsList <;> cases value <;> simp [eq_comm]
  · next hnil hone =>
    simp only [reduceCtorEq, false_iff, not_exists, not_and]
    exact fun value heq => absurd heq (hone value)

theorem foldr_put (parts : List Part) (value : Value) :
    parts.foldr Part.put ⟨field, [], none, comparison, value⟩ =
      ⟨field, parts.filterMap Part.step?, (parts.filterMap Part.cast?).getLast?, comparison,
        value⟩ := by
  induction parts with
  | nil => rfl
  | cons part parts ih =>
    rw [List.foldr_cons, ih]
    cases part with
    | step op key => rfl
    | cast token target =>
      simp only [Part.put, withCast, List.filterMap_cons, Part.step?, Part.cast?,
        List.getLast?_cons]
      cases (parts.filterMap Part.cast?).getLast? <;> rfl

theorem keyStep_eq_ok_iff {element : Value} {key : KeyStep} :
    keyStep element = .ok key ↔ key.Fits ∧ element = key.param := by
  rw [← KeyStep.ofValue?_eq_some_iff, keyStep]
  split <;> simp_all

theorem exists_run_of_ofElements (h : ofElements field elements = .ok term) :
    ∃ (parts : List Part) (comparison : Comparison) (token : String) (value : Value),
      (∀ part ∈ parts, part.Spelled) ∧ token ∈ comparison.spellings ∧
      (comparison.expectsList = true → ∃ items, value = .arr items) ∧
      elements = parts.flatMap Part.elements ++ [.str token, value] := by
  -- Along the reader: a step takes two elements from the front and a cast takes one.
  fun_induction ofElements field elements generalizing term with
  | case1 => cases h
  | case2 token op hop => cases h
  | case3 token op hop element rest ih =>
    obtain ⟨key, hkey, hrest⟩ := except_bind_eq_ok.1 h
    obtain ⟨below, hbelow, -⟩ := except_map_eq_ok.1 hrest
    obtain ⟨hfits, rfl⟩ := keyStep_eq_ok_iff.1 hkey
    obtain rfl := JsonOperator.ofText?_eq_some_iff.1 hop
    obtain ⟨parts, comparison, last, value, hspelled, hlast, hlist, rfl⟩ := ih hbelow
    exact ⟨.step op key :: parts, comparison, last, value,
      List.forall_mem_cons.2 ⟨hfits, hspelled⟩, hlast, hlist, rfl⟩
  | case4 token rest hop target htarget ih =>
    obtain ⟨below, hbelow, -⟩ := except_map_eq_ok.1 h
    obtain ⟨parts, comparison, last, value, hspelled, hlast, hlist, rfl⟩ := ih hbelow
    exact ⟨.cast token target :: parts, comparison, last, value,
      List.forall_mem_cons.2 ⟨Cast.ofText?_eq_some_iff.1 htarget, hspelled⟩, hlast, hlist, rfl⟩
  | case5 token rest hop htarget comparison hcomparison =>
    obtain ⟨value, rfl, hlist, -⟩ := closing_eq_ok_iff.1 h
    exact ⟨[], comparison, token, value, List.forall_mem_nil _,
      Comparison.ofText?_eq_some_iff.1 hcomparison, hlist, rfl⟩
  | case6 => cases h
  | case7 => cases h

theorem Writes.ofElements (h : Writes parts elements term) :
    ofElements field elements = .ok { term with field } := by
  obtain ⟨token, htoken, rfl⟩ := h.elements_eq
  have hclosing : closing field term.comparison [term.value] =
      .ok ⟨field, [], none, term.comparison, term.value⟩ :=
    closing_eq_ok_iff.2 ⟨term.value, rfl, h.list, rfl⟩
  rw [ofElements_parts h.spelled, ofElements_comparison htoken, hclosing, Except.map, foldr_put,
    ← h.steps_eq, ← h.cast_eq]

theorem ofElements_eq_ok_iff : ofElements field elements = .ok term ↔
    term.field = field ∧ ∃ parts, Writes parts elements term := by
  constructor
  · intro h
    obtain ⟨parts, comparison, token, value, hspelled, htoken, hlist, helements⟩ :=
      exists_run_of_ofElements h
    have hwrites : Writes parts elements ⟨field, parts.filterMap Part.step?,
        (parts.filterMap Part.cast?).getLast?, comparison, value⟩ :=
      ⟨hspelled, ⟨token, htoken, helements⟩, rfl, rfl, hlist⟩
    obtain rfl := Except.ok.inj (h.symm.trans hwrites.ofElements)
    exact ⟨rfl, parts, hwrites⟩
  · rintro ⟨rfl, parts, hwrites⟩
    exact hwrites.ofElements

/-! ### Taking a list apart -/

/-- The part at the front of a list, and the elements behind it. -/
def Part.read? : List Value → Option (Part × List Value)
  | .str token :: rest =>
    match JsonOperator.ofText? token, rest with
    | some op, element :: rest => (KeyStep.ofValue? element).map fun key => (.step op key, rest)
    | some _, [] => none
    | none, rest => (Cast.ofText? token).map fun target => (.cast token target, rest)
  | _ => none

theorem Part.read?_elements_append (hspelled : part.Spelled) (rest : List Value) :
    read? (part.elements ++ rest) = some (part, rest) := by
  cases part with
  | step op key =>
    simp only [elements, List.cons_append, List.nil_append, read?, JsonOperator.ofText?_text,
      KeyStep.ofValue?_param hspelled, Option.map_some]
  | cast token target =>
    simp only [elements, List.cons_append, List.nil_append, read?,
      Cast.Spells.ofText?_eq_none hspelled, Cast.ofText?_eq_some_iff.2 hspelled, Option.map_some]

theorem Part.read?_of_mem_spellings (h : token ∈ comparison.spellings) (rest : List Value) :
    read? (.str token :: rest) = none := by
  obtain ⟨hop, hcast⟩ := Comparison.ofText?_of_mem_spellings token h
  simp only [read?, hop, hcast, Option.map_none]

theorem Part.elements_append_ne (hspelled : part.Spelled) (htoken : token ∈ comparison.spellings)
    {before after : List Value} : part.elements ++ before ≠ .str token :: after := by
  intro heq
  have hread := read?_elements_append hspelled before
  rw [heq, read?_of_mem_spellings htoken] at hread
  cases hread

theorem Part.eq_of_elements_append_eq {other : Part} (hspelled : part.Spelled)
    (hother : other.Spelled) {before after : List Value}
    (h : part.elements ++ before = other.elements ++ after) : part = other ∧ before = after := by
  have hread := read?_elements_append hspelled before
  rw [h, read?_elements_append hother, Option.some.injEq, Prod.mk.injEq] at hread
  exact ⟨hread.1.symm, hread.2.symm⟩

theorem Writes.unique {others : List Part} {other : Term} (h : Writes parts elements term)
    (hother : Writes others elements other) : parts = others := by
  obtain ⟨token, htoken, helements⟩ := h.elements_eq
  obtain ⟨token', htoken', helements'⟩ := hother.elements_eq
  exact (flatMap_append_cancel
    (fun hpart hpart' heq => Part.eq_of_elements_append_eq hpart hpart' heq)
    h.spelled hother.spelled (fun hpart => Part.elements_append_ne hpart htoken)
    (fun hpart => Part.elements_append_ne hpart htoken') (helements.symm.trans helements')).1

/-- For an identifier, a list is accepted exactly if it consists of parts, a comparison and a value,
and of several casts the last one counts. That the accepted lists are those in the order of a term
is true of every list but one with a step or a further cast behind a cast. -/
theorem accepted_elements_are_in_order_iff (hfield : isIdentifier field = true)
    (elements : List Value) :
    (∀ term, ofParts field elements = .ok term ↔
        term.field = field ∧ ∃ parts, Writes parts elements term) ∧
      ((∀ term, ofParts field elements = .ok term ↔
          term.field = field ∧ ∃ parts, InOrder parts ∧ Writes parts elements term) ↔
        ∀ parts term, Writes parts elements term → InOrder parts) := by
  have hread : ∀ term, ofParts field elements = .ok term ↔
      term.field = field ∧ ∃ parts, Writes parts elements term := by
    intro term
    rw [ofParts, if_pos hfield, ofElements_eq_ok_iff]
  refine ⟨hread, fun horder parts term hwrites => ?_, fun hall term => ?_⟩
  · have hnamed : Writes parts elements { term with field } :=
      ⟨hwrites.spelled, hwrites.elements_eq, hwrites.steps_eq, hwrites.cast_eq, hwrites.list⟩
    obtain ⟨-, others, hothers, hother⟩ := (horder _).1 ((hread _).2 ⟨rfl, parts, hnamed⟩)
    rwa [hnamed.unique hother]
  · rw [hread]
    refine and_congr_right fun _ => exists_congr fun parts => ?_
    exact ⟨fun hwrites => ⟨hall parts term hwrites, hwrites⟩, And.right⟩

/-- Keys that are spelled like other elements, an index, a cast in mixed letters and a list. -/
theorem elements_in_order_are_read :
    let elements := [.str "->", .str "::int", .str "->>", .num (.int (-1)), .str "::Date",
      .str "not in", .arr []]
    isIdentifier "data" = true ∧ ofParts "data" elements = .ok ⟨"data",
      [(.get, .key "::int"), (.getText, .index (-1))], some .date, .notIn, .arr []⟩ := by
  intro elements
  have hfield : isIdentifier "data" = true := by decide
  have hwrites : Writes [.step .get (.key "::int"), .step .getText (.index (-1)),
      .cast "::Date" .date] elements ⟨"data", [(.get, .key "::int"), (.getText, .index (-1))],
        some .date, .notIn, .arr []⟩ :=
    ⟨by decide, ⟨"not in", by decide, rfl⟩, rfl, rfl, fun _ => ⟨[], rfl⟩⟩
  exact ⟨hfield, ((accepted_elements_are_in_order_iff hfield elements).1 _).2 ⟨rfl, _, hwrites⟩⟩

/-- Of two casts the second counts, though no list in order has two. -/
theorem second_cast_is_accepted :
    let elements := [.str "->>", .str "a", .str "::DATE", .str "::INT", .str "=", .num (.int 1)]
    isIdentifier "data" = true ∧ ofParts "data" elements =
        .ok ⟨"data", [(.getText, .key "a")], some .int, .eq, .num (.int 1)⟩ ∧
      ¬ ∃ parts term, InOrder parts ∧ Writes parts elements term := by
  intro elements
  refine ⟨by decide, rfl, ?_⟩
  rintro ⟨parts, term, horder, hwrites⟩
  have htwo : Writes [.step .getText (.key "a"), .cast "::DATE" .date, .cast "::INT" .int] elements
      ⟨"data", [(.getText, .key "a")], some .int, .eq, .num (.int 1)⟩ :=
    ⟨by decide, ⟨"=", by decide, rfl⟩, rfl, rfl, nofun⟩
  rw [hwrites.unique htwo] at horder
  cases horder

end Term

end FormTree

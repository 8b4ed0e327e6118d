import FormTree.Proofs.Query.Elements
import FormTree.Proofs.Value.Lookup

/-!
# The SQL of a term

The text of a term consists of two names, which are identifiers, and of the words for its operators,
its cast and its comparison. What is searched for and where goes into the parameters. So a quote
stands at the ends of the names only, each parameter has its placeholder, and terms that differ in
keys and values have one text (`sql_is_free_of_data`).

Nothing is lost on the way: a text can be taken apart into the names and words that it is made of,
and the parameters are the keys and the value (`fragment_determines_term`).
-/

namespace FormTree

/-- In how many places of a text a word begins. -/
def occurrences (word text : List Char) : Nat := text.tails.countP (word.isPrefixOf ·)

/-- Where a parameter goes. -/
def placeholder : List Char := ['%', 's']

theorem occurrences_append_of_not_mem {c : Char} {word text : List Char} (h : c ∉ text)
    (rest : List Char) : occurrences (c :: word) (text ++ rest) = occurrences (c :: word) rest := by
  induction text with
  | nil => rfl
  | cons d text ih =>
    obtain ⟨hd, htext⟩ := List.ne_and_not_mem_of_not_mem_cons h
    rw [← ih htext, List.cons_append, occurrences, List.tails, List.countP_cons_of_neg]
    · rfl
    · simp [List.isPrefixOf, hd]

theorem occurrences_placeholder_append (rest : List Char) :
    occurrences placeholder (placeholder ++ rest) = occurrences placeholder rest + 1 := by
  simp [occurrences, placeholder]

theorem eq_of_append_cons_eq {c : Char} {first second rest rest' : List Char} (hfirst : c ∉ first)
    (hsecond : c ∉ second) (h : first ++ c :: rest = second ++ c :: rest') :
    first = second ∧ rest = rest' := by
  have hother : ∀ text : List Char, c ∉ text → ∀ d ∈ text, d ≠ c :=
    fun text hc d hd heq => hc (heq ▸ hd)
  have hletters : ∀ text : List Char, text.flatMap (fun d => [d]) = text := List.flatMap_singleton'
  rw [← hletters first, ← hletters second] at h
  obtain ⟨htexts, hrests⟩ := flatMap_append_cancel (fun _ _ heq => List.cons.inj heq)
    (hother first hfirst) (hother second hsecond)
    (fun hd heq => hd (List.cons.inj heq).1) (fun hd heq => hd (List.cons.inj heq).1) h
  exact ⟨htexts, (List.cons.inj hrests).2⟩

/-! ### Words -/

theorem not_mem_of_isIdentifier {name : String} (h : isIdentifier name = true) {c : Char}
    (hc : (c.isAlphanum || c == '_' || c == '$') = false) : c ∉ name.toList := by
  rw [isIdentifier] at h
  split at h
  · cases h
  · next first rest hname =>
    simp only [Bool.and_eq_true, List.all_eq_true] at h
    obtain ⟨⟨-, hfirst⟩, hrest⟩ := h
    rw [hname]
    intro hmem
    rcases List.mem_cons.1 hmem with rfl | hmem
    · simp only [Char.isAlphanum] at hc
      simp_all
    · rw [hrest c hmem] at hc
      cases hc

theorem Comparison.sql_injective {first second : Comparison} (h : first.sql = second.sql) :
    first = second := by
  have hread : ∀ comparison : Comparison,
      ofText? (String.ofList (comparison.sql.toList.map Char.toLower)) = some comparison := by
    intro comparison
    cases comparison <;> rfl
  have hsome := hread first
  rw [h, hread second, Option.some.injEq] at hsome
  exact hsome.symm

theorem KeyStep.eq_of_same_param {first second : KeyStep}
    (h : first.param.same second.param = true) : first = second := by
  cases first <;> cases second <;> simp_all [param, Value.same, Number.same]

/-- A step in the text of a term: its operator and the place of its key. -/
def JsonOperator.stepText (op : JsonOperator) : List Char := op.text.toList ++ placeholder

theorem JsonOperator.eq_of_stepText_append {op other : JsonOperator} {before after : List Char}
    (h : op.stepText ++ before = other.stepText ++ after) : op = other ∧ before = after := by
  cases op <;> cases other <;> simp_all [stepText, text, placeholder]

namespace Term

/-- The names in a text, with their quotes. -/
def names (table field : String) : List Char :=
  '(' :: '(' :: '"' :: (table.toList ++ '"' :: '.' :: '"' :: (field.toList ++ ['"']))

/-- The words of a text, behind the names. -/
def words (operators : List JsonOperator) (cast : Option Cast) (comparison : Comparison) :
    List Char :=
  operators.flatMap JsonOperator.stepText ++ ')' :: (((cast.map Cast.text).getD "").toList ++
    ' ' :: (comparison.sql.toList ++ ' ' :: (placeholder ++ [')'])))

theorem toList_sqlOn (table : String) (term : Term) : (sqlOn table term).toList =
    names table term.field ++ words (term.steps.map Prod.fst) term.cast term.comparison := by
  unfold sqlOn
  simp only [names, words, String.toList_append, String.toList_join, List.flatMap_map,
    JsonOperator.stepText, List.cons_append, List.append_assoc]
  rfl

theorem quote_not_mem_words (operators : List JsonOperator) (cast : Option Cast)
    (comparison : Comparison) : '"' ∉ words operators cast comparison := by
  have hoperator : ∀ op : JsonOperator, '"' ∉ op.stepText := by rintro (_ | _) <;> decide
  have hcast : '"' ∉ ((cast.map Cast.text).getD "").toList := by
    rcases cast with _ | _ | _ <;> decide
  have hcomparison : '"' ∉ comparison.sql.toList := by cases comparison <;> decide
  simp [words, placeholder, hoperator, hcast, hcomparison]

theorem occurrences_names_append {table field : String} (htable : isIdentifier table = true)
    (hfield : isIdentifier field = true) (rest : List Char) :
    occurrences placeholder (names table field ++ rest) = occurrences placeholder rest := by
  have hpercent : ∀ {name}, isIdentifier name = true → '%' ∉ name.toList := fun hname =>
    not_mem_of_isIdentifier hname (by decide)
  refine occurrences_append_of_not_mem ?_ rest
  simp [names, hpercent htable, hpercent hfield]

theorem occurrences_words (operators : List JsonOperator) (cast : Option Cast)
    (comparison : Comparison) :
    occurrences placeholder (words operators cast comparison) = operators.length + 1 := by
  induction operators with
  | nil =>
    cases cast with
    | none => cases comparison <;> decide
    | some target => cases target <;> cases comparison <;> decide
  | cons op operators ih =>
    have hop : '%' ∉ op.text.toList := by cases op <;> decide
    have hwords : words (op :: operators) cast comparison =
        op.text.toList ++ (placeholder ++ words operators cast comparison) := by
      simp [words, JsonOperator.stepText]
    rw [hwords, placeholder, occurrences_append_of_not_mem hop, ← placeholder,
      occurrences_placeholder_append, ih, List.length_cons]

theorem words_inj {operators operators' : List JsonOperator} {cast cast' : Option Cast}
    {comparison comparison' : Comparison}
    (h : words operators cast comparison = words operators' cast' comparison') :
    operators = operators' ∧ cast = cast' ∧ comparison = comparison' := by
  have hspace : ∀ cast : Option Cast, ' ' ∉ ((cast.map Cast.text).getD "").toList := by
    rintro (_ | _ | _) <;> decide
  have hclosing : ∀ (op : JsonOperator) (before rest : List Char),
      op.stepText ++ before ≠ ')' :: rest := by
    rintro (_ | _) before rest <;> simp [JsonOperator.stepText, JsonOperator.text]
  obtain ⟨hoperators, hrest⟩ := flatMap_append_cancel
    (fun _ _ heq => JsonOperator.eq_of_stepText_append heq) (fun _ _ => trivial)
    (fun _ _ => trivial) (fun _ => hclosing _ _ _) (fun _ => hclosing _ _ _) h
  obtain ⟨hcast, hcomparison⟩ :=
    eq_of_append_cons_eq (hspace cast) (hspace cast') (List.cons.inj hrest).2
  refine ⟨hoperators, ?_, Comparison.sql_injective ?_⟩
  · revert hcast
    rcases cast with _ | _ | _ <;> rcases cast' with _ | _ | _ <;> decide
  · exact String.toList_inj.1 (List.append_cancel_right hcomparison)

/-! ### Terms that can be built -/

/-- The term is the result of one of the ways to write a term down. -/
inductive Built : Term → Prop
  | ofLeaf {leaf : Value} {term : Term} (h : ofLeaf leaf = .ok term) : Built term
  | ofParts {field : String} {elements : List Value} {term : Term}
      (h : ofParts field elements = .ok term) : Built term
  | ofPath {field : String} {path : List String} {text : Bool} {cast : Option Cast}
      {comparison : Comparison} {value : Value} {term : Term}
      (h : ofPath field path text cast comparison value = .ok term) : Built term
  | ofEncodedPath {field encoded : String} {text : Bool} {cast : Option Cast}
      {comparison : Comparison} {value : Value} {term : Term}
      (h : ofEncodedPath field encoded text cast comparison value = .ok term) : Built term

variable {term : Term} {table : String}

theorem isIdentifier_of_ofParts {field : String} {elements : List Value}
    (h : ofParts field elements = .ok term) : isIdentifier term.field = true := by
  rw [ofParts] at h
  split at h
  · next hfield =>
    rw [(ofElements_eq_ok_iff.1 h).1]
    exact hfield
  · cases h

theorem isIdentifier_of_ofPath {field : String} {path : List String} {text : Bool}
    {cast : Option Cast} {comparison : Comparison} {value : Value}
    (h : ofPath field path text cast comparison value = .ok term) :
    isIdentifier term.field = true := by
  rw [ofPath] at h
  split at h
  · cases h
  · exact isIdentifier_of_ofParts h

theorem Built.isIdentifier_field (h : term.Built) : isIdentifier term.field = true := by
  cases h with
  | @ofLeaf leaf _ h =>
    rw [Term.ofLeaf.eq_def] at h
    split at h
    · split at h
      · exact isIdentifier_of_ofParts h
      · cases h
    · cases h
  | ofParts h => exact isIdentifier_of_ofParts h
  | ofPath h => exact isIdentifier_of_ofPath h
  | ofEncodedPath h =>
    rw [Term.ofEncodedPath] at h
    split at h
    · exact isIdentifier_of_ofPath h
    · cases h

theorem toSql_eq_ok_iff {fragment : SqlFragment} : term.toSql table = .ok fragment ↔
    isIdentifier table = true ∧ ⟨sqlOn table term, term.params⟩ = fragment := by
  cases htable : isIdentifier table <;> simp [toSql, htable]

theorem sqlOn_congr {other : Term} (hfield : other.field = term.field)
    (hoperators : other.steps.map Prod.fst = term.steps.map Prod.fst)
    (hcast : other.cast = term.cast) (hcomparison : other.comparison = term.comparison) :
    sqlOn table other = sqlOn table term := by
  rw [← String.toList_inj, toList_sqlOn, toList_sqlOn, hfield, hoperators, hcast, hcomparison]

/-- A text determines the names and the words that it is made of. -/
theorem sqlOn_inj {first second : Term} {table table' : String}
    (htable : isIdentifier table = true) (htable' : isIdentifier table' = true)
    (hfirst : isIdentifier first.field = true) (hsecond : isIdentifier second.field = true)
    (h : sqlOn table first = sqlOn table' second) :
    table = table' ∧ first.field = second.field ∧
      first.steps.map Prod.fst = second.steps.map Prod.fst ∧ first.cast = second.cast ∧
      first.comparison = second.comparison := by
  have hquote : ∀ {name}, isIdentifier name = true → '"' ∉ name.toList := fun hname =>
    not_mem_of_isIdentifier hname (by decide)
  rw [← String.toList_inj, toList_sqlOn, toList_sqlOn] at h
  simp only [names, List.cons_append, List.append_assoc, List.cons.injEq, true_and] at h
  obtain ⟨htables, hbehind⟩ := eq_of_append_cons_eq (hquote htable) (hquote htable') h
  simp only [List.cons.injEq, true_and] at hbehind
  obtain ⟨hfields, hwords⟩ := eq_of_append_cons_eq (hquote hfirst) (hquote hsecond) hbehind
  exact ⟨String.toList_inj.1 htables, String.toList_inj.1 hfields, words_inj hwords⟩

/-- With the operators, the parameters determine the steps and the value. -/
theorem steps_eq_of_params {steps steps' : List (JsonOperator × KeyStep)} {value value' : Value}
    (hoperators : steps.map Prod.fst = steps'.map Prod.fst)
    (h : Value.sameItems (steps.map (fun step => step.2.param) ++ [value])
      (steps'.map (fun step => step.2.param) ++ [value']) = true) :
    steps = steps' ∧ value.same value' = true := by
  induction steps generalizing steps' with
  | nil =>
    obtain rfl : steps' = [] := by simpa using hoperators
    simpa [Value.sameItems] using h
  | cons step steps ih =>
    cases steps' with
    | nil => simp at hoperators
    | cons step' steps' =>
      obtain ⟨hop, hops⟩ := List.cons.inj hoperators
      simp only [List.map_cons, List.cons_append, Value.sameItems, Bool.and_eq_true] at h
      obtain ⟨hrest, hvalue⟩ := ih hops h.2
      rw [hrest, Prod.ext hop (KeyStep.eq_of_same_param h.1)]
      exact ⟨rfl, hvalue⟩

/-! ### Compiled terms -/

/-- The text of a compiled term is made of the two names, with quotes at their ends and nowhere
else, and of words; it has a place for each parameter, which are the keys and the value; and every
term with the same field, operators, cast and comparison has the same text. -/
theorem sql_is_free_of_data {fragment : SqlFragment} (hbuilt : term.Built)
    (h : term.toSql table = .ok fragment) :
    fragment.params = term.steps.map (fun step => step.2.param) ++ [term.value] ∧
      occurrences placeholder fragment.sql.toList = fragment.params.length ∧
      (∃ rest, fragment.sql = "((\"" ++ table ++ "\".\"" ++ term.field ++ "\"" ++ rest ∧
        '"' ∉ table.toList ∧ '"' ∉ term.field.toList ∧ '"' ∉ rest.toList) ∧
      ∀ other : Term, other.field = term.field →
        other.steps.map Prod.fst = term.steps.map Prod.fst → other.cast = term.cast →
        other.comparison = term.comparison →
          ∃ fragment', other.toSql table = .ok fragment' ∧ fragment'.sql = fragment.sql := by
  obtain ⟨htable, rfl⟩ := toSql_eq_ok_iff.1 h
  have hfield := hbuilt.isIdentifier_field
  refine ⟨rfl, ?_, ⟨String.ofList (words (term.steps.map Prod.fst) term.cast term.comparison), ?_,
    not_mem_of_isIdentifier htable (by decide), not_mem_of_isIdentifier hfield (by decide), ?_⟩, ?_⟩
  · rw [toList_sqlOn, occurrences_names_append htable hfield, occurrences_words, params,
      List.length_append, List.length_map, List.length_map, List.length_singleton]
  · rw [← String.toList_inj, toList_sqlOn, names]
    simp only [String.toList_append, String.toList_ofList, List.cons_append, List.append_assoc]
    rfl
  · rw [String.toList_ofList]
    exact quote_not_mem_words _ _ _
  · intro other hfield hoperators hcast hcomparison
    exact ⟨_, toSql_eq_ok_iff.2 ⟨htable, rfl⟩, sqlOn_congr hfield hoperators hcast hcomparison⟩

/-- A key and a value that look like SQL: their characters are in the parameters only, and the text
is that of an index and of null. -/
theorem sql_of_hostile_key :
    let leaf := .arr [.str "data", .str "json",
      .arr [.str "->>", .str "\"%s", .str "like", .str "\") --"]]
    let term : Term := ⟨"data", [(.getText, .key "\"%s")], none, .like, .str "\") --"⟩
    let other : Term := ⟨"data", [(.getText, .index 0)], none, .like, .null⟩
    ofLeaf leaf = .ok term ∧ ∃ fragment, term.toSql "t" = .ok fragment ∧
      fragment.params = [.str "\"%s", .str "\") --"] ∧
      occurrences placeholder fragment.sql.toList = 2 ∧
      ∃ fragment', other.toSql "t" = .ok fragment' ∧ fragment'.sql = fragment.sql := by
  intro leaf term other
  have hleaf : ofLeaf leaf = .ok term := rfl
  have h : term.toSql "t" = .ok ⟨sqlOn "t" term, term.params⟩ :=
    toSql_eq_ok_iff.2 ⟨by decide, rfl⟩
  obtain ⟨hparams, hcount, -, hsame⟩ := sql_is_free_of_data (.ofLeaf hleaf) h
  exact ⟨hleaf, _, h, hparams, hcount, hsame other rfl rfl rfl rfl⟩

/-- Equal texts with the same parameters come from one alias and from terms that differ at most in
the signs of the zeros in their values; with equal parameters, from one term. -/
theorem fragment_determines_term {first second : Term} {table' : String}
    {fragment fragment' : SqlFragment} (hfirst : first.Built) (hsecond : second.Built)
    (h : first.toSql table = .ok fragment) (h' : second.toSql table' = .ok fragment')
    (hsql : fragment.sql = fragment'.sql)
    (hparams : Value.sameItems fragment.params fragment'.params = true) :
    table = table' ∧ first.field = second.field ∧ first.steps = second.steps ∧
      first.cast = second.cast ∧ first.comparison = second.comparison ∧
      first.value.same second.value = true ∧
      (fragment.params = fragment'.params → first = second) := by
  obtain ⟨htable, rfl⟩ := toSql_eq_ok_iff.1 h
  obtain ⟨htable', rfl⟩ := toSql_eq_ok_iff.1 h'
  obtain ⟨htables, hfield, hoperators, hcast, hcomparison⟩ :=
    sqlOn_inj htable htable' hfirst.isIdentifier_field hsecond.isIdentifier_field hsql
  obtain ⟨hsteps, hvalue⟩ := steps_eq_of_params hoperators hparams
  refine ⟨htables, hfield, hsteps, hcast, hcomparison, hvalue, fun heq => ?_⟩
  have hvalues : [first.value] = [second.value] := by
    rw [params, params, hsteps] at heq
    exact List.append_cancel_left heq
  cases first
  cases second
  rw [Term.mk.injEq]
  exact ⟨hfield, hsteps, hcast, hcomparison, (List.cons.inj hvalues).1⟩

/-- Two ways to write a term down, with the two zeros for a value. -/
theorem fragments_of_the_two_zeros :
    let positive : Value := .num (.float (.zero false))
    let negative : Value := .num (.float (.zero true))
    let first : Term := ⟨"data", [(.get, .key "0")], none, .eq, positive⟩
    let second : Term := ⟨"data", [(.get, .key "0")], none, .eq, negative⟩
    ofParts "data" [.str "->", .str "0", .str "=", positive] = .ok first ∧
      ofEncodedPath "data" "0" false none .eq negative = .ok second ∧
      ∃ fragment fragment', first.toSql "t" = .ok fragment ∧ second.toSql "t" = .ok fragment' ∧
        fragment.sql = fragment'.sql ∧
        Value.sameItems fragment.params fragment'.params = true ∧
        first.steps = second.steps ∧ first.value.same second.value = true := by
  intro positive negative first second
  have hfirst : ofParts "data" [.str "->", .str "0", .str "=", positive] = .ok first := rfl
  have hsecond : ofEncodedPath "data" "0" false none .eq negative = .ok second := rfl
  have h : first.toSql "t" = .ok ⟨sqlOn "t" first, first.params⟩ :=
    toSql_eq_ok_iff.2 ⟨by decide, rfl⟩
  have h' : second.toSql "t" = .ok ⟨sqlOn "t" second, second.params⟩ :=
    toSql_eq_ok_iff.2 ⟨by decide, rfl⟩
  have hsql : sqlOn "t" first = sqlOn "t" second := rfl
  have hparams : Value.sameItems first.params second.params = true := rfl
  obtain ⟨-, -, hsteps, -, -, hvalue, -⟩ :=
    fragment_determines_term (.ofParts hfirst) (.ofEncodedPath hsecond) h h' hsql hparams
  exact ⟨hfirst, hsecond, _, _, h, h', hsql, hparams, hsteps, hvalue⟩

end Term

end FormTree

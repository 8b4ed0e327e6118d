import FormTree.Proofs.Form.Rows
import FormTree.Proofs.Query.Elements

/-!
# Terms that follow a path

A path is followed by writing a list of elements and reading it as any other list. Each key stands
behind a JSON operator there, where everything is a key whatever it is spelled like, so the steps of
the term are the keys of the path (`path_term_follows_its_path`). What is missing or wrong is said
of the path first, then of the field, then of the value.

A dotted path is followed like the keys it is written for, and every row of a plan has one
(`Row.IsAddressed`).
-/

namespace FormTree

namespace Comparison

/-- To compare with the members of a list, there has to be a list. -/
def Takes (comparison : Comparison) (value : Value) : Prop :=
  comparison = .isIn ∨ comparison = .notIn → ∃ items, value = .arr items

theorem takes_iff {comparison : Comparison} {value : Value} : comparison.Takes value ↔
    (comparison.expectsList && !(value matches .arr _)) = false := by
  cases comparison <;> cases value <;> simp [Takes, expectsList]

instance (comparison : Comparison) (value : Value) : Decidable (comparison.Takes value) :=
  decidable_of_iff _ takes_iff.symm

end Comparison

namespace Term

variable {field : String} {path : List String} {text : Bool} {cast : Option Cast}
  {comparison : Comparison} {value : Value}

theorem closing_singleton (field : String) (comparison : Comparison) (value : Value) :
    closing field comparison [value] =
      if comparison.Takes value then .ok ⟨field, [], none, comparison, value⟩
      else .error .expectedList := by
  change (if (comparison.expectsList && !(value matches .arr _)) = true then _ else _) = _
  by_cases htakes : comparison.Takes value
  · rw [if_pos htakes, Comparison.takes_iff.1 htakes, if_neg Bool.false_ne_true]
  · have hlist := mt Comparison.takes_iff.2 htakes
    rw [if_neg htakes, if_pos (Bool.not_eq_false _ ▸ hlist)]

/-- The steps along a path; with `text` the last one extracts text. -/
def pathSteps (text : Bool) (path : List String) : List (JsonOperator × KeyStep) :=
  path.mapIdx fun i key => (if text ∧ i + 1 = path.length then .getText else .get, .key key)

theorem pathSteps_cons_cons (text : Bool) (key second : String) (rest : List String) :
    pathSteps text (key :: second :: rest) =
      (.get, .key key) :: pathSteps text (second :: rest) := by
  simp [pathSteps, List.mapIdx_cons]

/-- What is written in front of the comparison: the steps, and the cast if there is one. -/
def pathParts (text : Bool) (path : List String) (cast : Option Cast) : List Part :=
  (pathSteps text path).map (fun step => .step step.1 step.2) ++
    cast.toList.map fun target => .cast target.text target

theorem elements_pathSteps (text : Bool) (path : List String) :
    ((pathSteps text path).map fun step => Part.step step.1 step.2).flatMap Part.elements =
      pathElements text path := by
  induction path with
  | nil => rfl
  | cons key rest ih =>
    cases rest with
    | nil => cases text <;> rfl
    | cons second others =>
      rw [pathSteps_cons_cons, List.map_cons, List.flatMap_cons, ih]
      rfl

theorem elements_pathParts (text : Bool) (path : List String) (cast : Option Cast) :
    (pathParts text path cast).flatMap Part.elements =
      pathElements text path ++ cast.toList.map fun target => .str target.text := by
  rw [pathParts, List.flatMap_append, elements_pathSteps]
  cases cast <;> rfl

theorem spelled_pathParts (text : Bool) (path : List String) (cast : Option Cast) :
    ∀ part ∈ pathParts text path cast, part.Spelled := by
  intro part hpart
  rcases List.mem_append.1 hpart with hstep | hcast
  · obtain ⟨step, hmem, rfl⟩ := List.mem_map.1 hstep
    obtain ⟨i, hi, rfl⟩ := List.mem_mapIdx.1 hmem
    trivial
  · obtain ⟨target, -, rfl⟩ := List.mem_map.1 hcast
    change target.Spells target.text
    exact Cast.ofText?_eq_some_iff.1 (Cast.ofText?_text target)

theorem foldr_pathParts (field : String) (path : List String) (text : Bool) (cast : Option Cast)
    (comparison : Comparison) (value : Value) :
    (pathParts text path cast).foldr Part.put ⟨field, [], none, comparison, value⟩ =
      ⟨field, pathSteps text path, cast, comparison, value⟩ := by
  have hsteps : (pathParts text path cast).filterMap Part.step? = pathSteps text path := by
    simp [pathParts, List.filterMap_map, Function.comp_def, Part.step?]
  have hcast : (pathParts text path cast).filterMap Part.cast? = cast.toList := by
    simp [pathParts, List.filterMap_map, Function.comp_def, Part.cast?]
  rw [foldr_put, hsteps, hcast]
  cases cast <;> rfl

/-- What becomes of a path. The elements that are written for it are read back part by part. -/
theorem ofPath_eq (field : String) (path : List String) (text : Bool) (cast : Option Cast)
    (comparison : Comparison) (value : Value) :
    ofPath field path text cast comparison value =
      if path = [] then .error .missingOperator
      else if isIdentifier field = false then .error (.invalidField field)
      else if comparison.Takes value then .ok ⟨field, pathSteps text path, cast, comparison, value⟩
      else .error .expectedList := by
  have hspelling : comparison.text ∈ comparison.spellings :=
    Comparison.ofText?_eq_some_iff.1 (Comparison.ofText?_text comparison)
  have hread : ofElements field (pathElements text path ++
      cast.toList.map (fun target => .str target.text) ++ [.str comparison.text, value]) =
        (closing field comparison [value]).map fun term =>
          (pathParts text path cast).foldr Part.put term := by
    rw [← elements_pathParts, ofElements_parts (spelled_pathParts text path cast),
      ofElements_comparison hspelling]
  rw [ofPath, ofParts, hread, closing_singleton]
  by_cases hpath : path = []
  · simp [hpath]
  · cases hfield : isIdentifier field with
    | false => simp [hpath]
    | true =>
      by_cases htakes : comparison.Takes value
      · simp [hpath, htakes, Except.map, foldr_pathParts]
      · simp [hpath, htakes, Except.map]

theorem ofEncodedPath_of_decode {encoded : String} (h : Dotted.decode encoded = .ok path) :
    ofEncodedPath field encoded text cast comparison value =
      ofPath field path text cast comparison value := by
  rw [ofEncodedPath, h]

/-- A term follows a path exactly if there are keys in it, the field is an identifier and the
comparison has a list where it needs one; the first of these that fails is the error. The steps of
the term are the keys, each as a key, and only the last one may extract text. Dotted paths, the
paths of rows among them, are followed like their keys. -/
theorem path_term_follows_its_path (field : String) (path : List String) (text : Bool)
    (cast : Option Cast) (comparison : Comparison) (value : Value) :
    ((∃ term, ofPath field path text cast comparison value = .ok term) ↔
      path ≠ [] ∧ isIdentifier field = true ∧
        (comparison = .isIn ∨ comparison = .notIn → ∃ items, value = .arr items)) ∧
    ofPath field path text cast comparison value =
      (if path = [] then .error .missingOperator
      else if isIdentifier field = false then .error (.invalidField field)
      else if comparison.Takes value then
        .ok {
          field
          steps := path.mapIdx fun i key =>
            (if text ∧ i + 1 = path.length then .getText else .get, .key key)
          cast, comparison, value }
      else .error .expectedList) ∧
    ofEncodedPath field (Dotted.encode path) text cast comparison value =
      ofPath field path text cast comparison value ∧
    ∀ (v : Value) (schema : Option Schema) (mode : Mode) (findings : List Finding)
      (settings : Settings), ∀ row ∈ (Plan.make v schema mode findings settings).rows,
        ∃ keys, keys ≠ [] ∧ row.path = Dotted.encode keys ∧ row.StandsAt keys ∧
          ofEncodedPath field row.path text cast comparison value =
            ofPath field keys text cast comparison value := by
  refine ⟨?_, ofPath_eq field path text cast comparison value,
    ofEncodedPath_of_decode (Dotted.decode_encode path), ?_⟩
  · rw [ofPath_eq]
    change _ ↔ path ≠ [] ∧ isIdentifier field = true ∧ comparison.Takes value
    split_ifs <;> simp_all
  · intro v schema mode findings settings row hrow
    obtain ⟨keys, hkeys, hpath, hstands⟩ := Plan.isAddressed_of_mem_rows hrow
    exact ⟨keys, hkeys, hpath, hstands, ofEncodedPath_of_decode hstands.1⟩

example : ofPath "data" ["->", "::INT", "in", "5"] true (some .date) .notIn (.arr []) = .ok
    ⟨"data", [(.get, .key "->"), (.get, .key "::INT"), (.get, .key "in"), (.getText, .key "5")],
      some .date, .notIn, .arr []⟩ := rfl

end Term

end FormTree

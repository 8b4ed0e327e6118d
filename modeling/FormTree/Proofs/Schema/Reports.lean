import FormTree.Proofs.Finding
import FormTree.Proofs.Path.Pointer
import FormTree.Schema.Validation

/-!
# Where findings of a checker go

A checker is only known by what it reports. Its reports are located by pointers into the value, and
from there a location is rewritten three times: as a list of keys, as the structural pointer of a
finding, and as the dotted path of a row. None of the rewritings loses a key, whatever characters
the keys have, so a finding reaches the row of the node that the report is about; only what is said
of the root itself has no row to go to.
-/

namespace FormTree

/-- What is relied on in a checker: each of its reports is located by the pointer of the keys that
lead to a node, and a property that the node lacks is given by its name. -/
structure Checker.Locates (checker : Checker) (place : Report → KeyPath) : Prop where
  location : ∀ v, ∀ report ∈ checker v, report.location = Pointer.format (place report)
  named : ∀ v, ∀ report ∈ checker v, ∀ property,
    report.missing = some property → ∃ name, property = .str name

namespace Report

variable {report : Report} {place : KeyPath}

theorem concern_of_present (h : report.missing = none) (place : KeyPath) :
    report.concern place = place := by
  rw [concern, h, Option.bind_none, Option.toList_none, List.append_nil]

theorem concern_of_missing {name : String} (h : report.missing = some (.str name))
    (place : KeyPath) : report.concern place = place ++ [name] := by
  rw [concern, h]
  rfl

theorem path_toFinding (h : report.location = Pointer.format place) :
    report.toFinding.path = Pointer.formatStructural (report.concern place) := by
  rw [toFinding, h, Pointer.parse_format]

theorem parseStructural_toFinding (h : report.location = Pointer.format place) :
    Pointer.parseStructural report.toFinding.path = .ok (report.concern place) := by
  rw [path_toFinding h, Pointer.parseStructural_formatStructural]

theorem row?_toFinding (h : report.location = Pointer.format place) : report.toFinding.row? =
    if report.concern place = [] then none else some (Dotted.encode (report.concern place)) := by
  rw [Finding.row?, parseStructural_toFinding h]
  cases report.concern place <;> rfl

end Report

namespace Checker.Locates

variable {checker : Checker} {place : Report → KeyPath} {v : Value} {report : Report}

theorem missing_cases (h : checker.Locates place) (hreport : report ∈ checker v) :
    report.missing = none ∨ ∃ name, report.missing = some (.str name) := by
  cases hmissing : report.missing with
  | none => exact .inl rfl
  | some property =>
    obtain ⟨name, rfl⟩ := h.named v report hreport property hmissing
    exact .inr ⟨name, rfl⟩

theorem concern_eq_nil_iff (h : checker.Locates place) (hreport : report ∈ checker v) :
    report.concern (place report) = [] ↔ place report = [] ∧ report.missing.isNone = true := by
  rcases h.missing_cases hreport with hpresent | ⟨name, hmissing⟩
  · rw [Report.concern_of_present hpresent, hpresent]
    exact (and_iff_left rfl).symm
  · rw [Report.concern_of_missing hmissing, hmissing]
    simp

theorem unmapped_ofFindings (h : checker.Locates place) (v : Value) :
    (Projection.ofFindings (checker.findings v)).unmapped =
      ((checker v).filter fun report =>
        place report = [] ∧ report.missing.isNone = true).map Report.toFinding := by
  rw [Projection.unmapped_ofFindings, findings, List.filter_map]
  refine congrArg _ (List.filter_congr fun report hreport => decide_eq_decide.2 ?_)
  rw [← h.concern_eq_nil_iff hreport, Report.row?_toFinding (h.location v report hreport)]
  split <;> simp [*]

theorem group_ofFindings (h : checker.Locates place) (v : Value) (row : String) :
    (Projection.ofFindings (checker.findings v)).group row =
      ((checker v).filter fun report => report.concern (place report) ≠ [] ∧
        Dotted.encode (report.concern (place report)) = row).map Report.toFinding := by
  rw [Projection.group_ofFindings, findingsOn, findings, List.filter_map]
  refine congrArg _ (List.filter_congr fun report hreport => decide_eq_decide.2 ?_)
  rw [← Finding.row?_eq_some_iff, Report.row?_toFinding (h.location v report hreport)]
  split <;> simp [*]

end Checker.Locates

/-- Every finding under a schema is addressed to the node that its report is about, which is the
located node or the property that is missing there. So of the projected findings those about the
root have no row, unless they are about a missing property, and every other one is held for the row
of its keys. -/
theorem findings_address_their_nodes {schema : Schema} {place : Report → KeyPath}
    (h : schema.check.Locates place) (v : Value) :
    let reports := schema.check v
    let projection := Projection.ofFindings (schema.findings v)
    (∀ finding ∈ schema.findings v, ∃ report ∈ reports, finding = report.toFinding ∧
        (report.missing = none ∧
            Pointer.parseStructural finding.path = .ok (place report) ∨
          ∃ name, report.missing = some (.str name) ∧
            Pointer.parseStructural finding.path = .ok (place report ++ [name]))) ∧
      projection.unmapped = (reports.filter fun report =>
        place report = [] ∧ report.missing.isNone = true).map Report.toFinding ∧
      ∀ row, projection.group row = (reports.filter fun report =>
        report.concern (place report) ≠ [] ∧
          Dotted.encode (report.concern (place report)) = row).map Report.toFinding := by
  intro reports projection
  refine ⟨?_, h.unmapped_ofFindings v, h.group_ofFindings v⟩
  intro finding hfinding
  obtain ⟨report, hreport, rfl⟩ := List.mem_map.1 hfinding
  have hparse := Report.parseStructural_toFinding (h.location v report hreport)
  refine ⟨report, hreport, rfl, ?_⟩
  rcases h.missing_cases hreport with hpresent | ⟨name, hmissing⟩
  · rw [Report.concern_of_present hpresent] at hparse
    exact .inl ⟨hpresent, hparse⟩
  · rw [Report.concern_of_missing hmissing] at hparse
    exact .inr ⟨name, hmissing, hparse⟩

/-! ### The checker of the rules -/

/-- The keys that the location of a report is the pointer of. -/
def Report.place (report : Report) : KeyPath :=
  match Pointer.parse report.location with
  | .ok keys => keys
  | .error _ => []

theorem Violation.place_toReport (violation : Violation) :
    violation.toReport.place = violation.place := by
  rw [Report.place, Violation.toReport, Pointer.parse_format]

/-- A checker that goes by a rule can be relied on. -/
theorem Rule.locates_checker (rule : Rule) : rule.checker.Locates Report.place where
  location v report hreport := by
    obtain ⟨violation, -, rfl⟩ := List.mem_map.1 hreport
    rw [violation.place_toReport, Violation.toReport]
  named v report hreport property hproperty := by
    obtain ⟨violation, -, rfl⟩ := List.mem_map.1 hreport
    obtain ⟨name, -, rfl⟩ := Option.map_eq_some_iff.1 hproperty
    exact ⟨name, rfl⟩

/-- A schema whose keys have in them what pointers and dotted paths are written with. -/
def Schema.sampleOfKeys : Schema where
  root := .obj
    [("maxProperties", .num (.int 1)),
      ("properties", .obj
        [("a/b", .obj [("required", .arr [.str "~.", .str "properties"])]),
          ("x..y", .obj [("items", .obj [("type", .str "string")])])])]
  isMapping := rfl
  check := Rule.checker (.all
    [.atMost .properties 1,
      .properties
        [("a/b", .all [.required ["~.", "properties"]]),
          ("x..y", .all [.items (.all [.typed [.string]])])]])

/-- Two missing properties, an item of an array and the root itself. -/
theorem findings_of_unusual_keys :
    Schema.compile Schema.sampleOfKeys.root = .ok .sampleOfKeys ∧
      Schema.sampleOfKeys.check.Locates Report.place ∧
      let v : Value := .obj [("a/b", .obj []), ("x..y", .arr [.null])]
      let projection := Projection.ofFindings (Schema.sampleOfKeys.findings v)
      projection.unmapped.map Finding.path = [""] ∧
        (projection.group "a//b..~/.").map Finding.path = ["/properties/a~1b/properties/~0."] ∧
        (projection.group "a//b..properties").map Finding.path =
          ["/properties/a~1b/properties/properties"] ∧
        (projection.group "x/./.y..0").map Finding.path = ["/properties/x..y/properties/0"] := by
  have hlocates : Schema.sampleOfKeys.check.Locates Report.place := Rule.locates_checker _
  obtain ⟨-, hunmapped, hgroup⟩ := findings_address_their_nodes hlocates
    (.obj [("a/b", .obj []), ("x..y", .arr [.null])])
  refine ⟨rfl, hlocates, ?_⟩
  intro v projection
  refine ⟨?_, ?_, ?_, ?_⟩
  · exact (congrArg (List.map Finding.path) hunmapped).trans (by decide)
  · exact (congrArg (List.map Finding.path) (hgroup _)).trans (by decide)
  · exact (congrArg (List.map Finding.path) (hgroup _)).trans (by decide)
  · exact (congrArg (List.map Finding.path) (hgroup _)).trans (by decide)

end FormTree

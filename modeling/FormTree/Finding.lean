import FormTree.Path.Dotted
import FormTree.Path.Pointer
import FormTree.Value.Basic

/-!
# Findings

A finding is one remark of a validator about a value. It is addressed by a structural pointer, while
a row of the form is known by its dotted path; `Projection.ofFindings` sorts findings by the row
they belong to. A finding about the root, or one whose pointer addresses no property, belongs to no
row and is kept aside.

What checks a value reports the place of a fault as a pointer into the value. `Report.toFinding`
turns the report into a finding about the node that it concerns.
-/

namespace FormTree

structure Finding where
  path : String
  message : String
  schemaPath : Option String
deriving DecidableEq

/-- What is said of one fault of a value: where in the value it is, and which rule is broken. -/
structure Report where
  /-- The pointer of the node at fault. -/
  location : String
  /-- The pointer of the broken rule in the schema. -/
  schemaLocation : String
  /-- The required property that the node lacks, if that is its fault. -/
  missing : Option Value
  message : String

namespace Report

/-- The keys of the node that is concerned, when the fault is at `place`. A missing property is the
concern of the property itself and not of the mapping that lacks it. -/
def concern (report : Report) (place : List String) : List String :=
  place ++ (report.missing.bind Value.string?).toList

def toFinding (report : Report) : Finding :=
  let path := match Pointer.parse report.location with
    | .ok place => Pointer.formatStructural (report.concern place)
    | .error _ => report.location
  ⟨path, report.message, some report.schemaLocation⟩

end Report

/-- What checks values and reports their faults. -/
abbrev Checker := Value → List Report

/-- What a checker reports, as findings about the nodes that are concerned. -/
def Checker.findings (checker : Checker) (v : Value) : List Finding :=
  (checker v).map Report.toFinding

/-- The dotted path of the row that a finding belongs to. -/
def Finding.row? (finding : Finding) : Option String :=
  match Pointer.parseStructural finding.path with
  | .ok [] => none
  | .ok path => some (Dotted.encode path)
  | .error _ => none

/-- Findings by row, rows in order, and the findings that belong to no row. -/
structure Projection where
  byPath : List (String × List Finding)
  unmapped : List Finding

namespace Projection

def empty : Projection := ⟨[], []⟩

/-- Adds a finding behind those that are there. -/
def add (projection : Projection) (finding : Finding) : Projection :=
  match finding.row? with
  | none => { projection with unmapped := projection.unmapped ++ [finding] }
  | some row =>
    let known := (Members.find? row projection.byPath).getD []
    { projection with byPath := Members.put row (known ++ [finding]) projection.byPath }

def ofFindings (findings : List Finding) : Projection := findings.foldl add empty

/-- Hands out the messages for one row, which then are no longer there. -/
def take (projection : Projection) (row : String) : List String × Projection :=
  (((Members.find? row projection.byPath).getD []).map Finding.message,
    { projection with byPath := Members.remove row projection.byPath })

/-- Hands out the messages for several rows, one after the other. -/
def takeAll (projection : Projection) : List String → List (List String) × Projection
  | [] => ([], projection)
  | row :: rest =>
    let (messages, left) := projection.take row
    let (others, left) := left.takeAll rest
    (messages :: others, left)

/-- What no row took: first the findings without a row, then the others by row. -/
def remaining (projection : Projection) : List Finding :=
  projection.unmapped ++ projection.byPath.flatMap Prod.snd

end Projection

end FormTree

import FormTree.Finding
import FormTree.Form.Children
import FormTree.Form.Outline
import FormTree.Tree.Growth

/-!
# Plans

A plan is the list of rows in which a form is drawn as an indented table: a container, then what is
in it. It is made by filling an outline with a value and its findings. Planning for editing under a
schema also creates the nodes that are declared and absent, so that every row has something to edit;
the value with these nodes is part of the plan.

Where the value holds something else than the outline has room for, the subtree is left out and
reported; the rest of the plan is not affected.
-/

namespace FormTree

inductive Mode where
  | read | edit
deriving DecidableEq

structure Row where
  key : String
  /-- The dotted path of the row's value. -/
  path : String
  depth : Nat
  isContainer : Bool
  kind : Option InputKind
  required : Bool
  value : Option Value
  display : String
  /-- The row has controls to add, rename and delete keys. -/
  keyEditable : Bool
  errors : List String
  /-- Why the rows below a container were left out. -/
  mismatch : Option String

structure Mismatch where
  path : String
  message : String
deriving DecidableEq

structure Plan where
  rows : List Row
  /-- The findings that no row shows. -/
  errors : List Finding
  mismatches : List Mismatch
  /-- The value with the nodes that planning created, if it created any. -/
  materialized : Option Value

namespace Plan

/-- What stays the same while a plan is made. -/
structure Frame where
  mode : Mode
  governed : Bool
  settings : Settings

namespace Frame

/-- Absent nodes are created. -/
def builds (frame : Frame) : Bool := frame.mode = .edit && frame.governed

def reading (frame : Frame) : Bool := frame.mode = .read

def keyEditable (frame : Frame) : Bool := frame.mode = .edit && !frame.governed

end Frame

/-- What changes while a plan is made: the value, and the findings not yet handed out. -/
structure Desk where
  value : Value
  findings : Projection

/-- A stretch of a plan, and what is left on the desk after it. -/
structure Stretch where
  rows : List Row
  mismatches : List Mismatch
  desk : Desk

def mismatch (path : KeyPath) (fault : FieldError) : Mismatch :=
  ⟨Dotted.encode path, fault.message⟩

/-- The value in which the row at a path is drawn. -/
def prepare (frame : Frame) (v : Value) (path : KeyPath) (container : Bool) :
    Value × Except FieldError Bool :=
  if frame.builds then v.materialize path container else (v, .ok false)

def leafRow (frame : Frame) (path : KeyPath) (key : String) (required : Bool) (kind : InputKind)
    (v : Value) (errors : List String) : Row :=
  let held := v.get? path
  { key, path := Dotted.encode path, depth := path.length - 1, isContainer := false,
    kind := some kind, required, value := held,
    display := (held.map fun x => display x kind frame.reading frame.settings).getD "",
    keyEditable := frame.keyEditable, errors, mismatch := none }

/-- The row of a container, with the reason if its rows are left out. -/
def groupRow (frame : Frame) (path : KeyPath) (key : String) (required : Bool)
    (errors : List String) (fault : Option FieldError) : Row :=
  { key, path := Dotted.encode path, depth := path.length - 1, isContainer := true, kind := none,
    required, value := none, display := "", keyEditable := frame.keyEditable, errors,
    mismatch := fault.map FieldError.message }

mutual

/-- The stretch of one branch, whose key is the last of `path`. -/
def branchStretch (frame : Frame) (path : KeyPath) (key : String) (required : Bool) :
    Outline → Desk → Stretch
  | .leaf kind, desk =>
    match prepare frame desk.value path false with
    | (v, .error fault) => ⟨[], [mismatch path fault], { desk with value := v }⟩
    | (v, .ok _) =>
      let (errors, left) := desk.findings.take (Dotted.encode path)
      ⟨[leafRow frame path key required kind v errors], [], ⟨v, left⟩⟩
  | .group branches, desk =>
    match prepare frame desk.value path true with
    | (v, .error fault) => ⟨[], [mismatch path fault], { desk with value := v }⟩
    | (v, .ok _) =>
      let (errors, left) := desk.findings.take (Dotted.encode path)
      match Child.objection? v (Outline.keys branches) path with
      | some fault =>
        ⟨[groupRow frame path key required errors (some fault)], [mismatch path fault], ⟨v, left⟩⟩
      | none =>
        let below := stretch frame path branches ⟨v, left⟩
        { below with rows := groupRow frame path key required errors none :: below.rows }

/-- The stretch of the branches below `path`, one after the other. -/
def stretch (frame : Frame) (path : KeyPath) : List Outline.Branch → Desk → Stretch
  | [], desk => ⟨[], [], desk⟩
  | (key, required, outline) :: rest, desk =>
    let first := branchStretch frame (path ++ [key]) key required outline desk
    let others := stretch frame path rest first.desk
    ⟨first.rows ++ others.rows, first.mismatches ++ others.mismatches, others.desk⟩

end

/-- The stretch of a whole form. A value that is no mapping has no rows unless a schema says so. -/
def rootStretch (frame : Frame) (outline : Outline) (desk : Desk) : Stretch :=
  match outline with
  | .leaf _ => ⟨[], [], desk⟩
  | .group branches =>
    let (v, made) := prepare frame desk.value [] true
    let opening := match made with
      | .ok _ => []
      | .error fault => [mismatch [] fault]
    match Child.objection? v (Outline.keys branches) [] with
    | some fault => ⟨[], opening ++ [mismatch [] fault], { desk with value := v }⟩
    | none =>
      let below := stretch frame [] branches { desk with value := v }
      { below with mismatches := opening ++ below.mismatches }

/-- The plan of a value under an optional schema, with the given findings. -/
def make (v : Value) (schema : Option Schema) (mode : Mode) (findings : List Finding)
    (settings : Settings) : Plan :=
  let frame : Frame := ⟨mode, schema.isSome, settings⟩
  let whole := rootStretch frame (.of v schema) ⟨v, .ofFindings findings⟩
  { rows := whole.rows
    errors := whole.desk.findings.remaining
    mismatches := whole.mismatches
    materialized :=
      if frame.builds && !whole.desk.value.same v then some whole.desk.value else none }

end Plan

end FormTree

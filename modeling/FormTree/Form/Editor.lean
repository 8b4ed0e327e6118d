import FormTree.Form.Plan
import FormTree.Schema.Validation
import FormTree.Tree.KeySlot

/-!
# The editor

One editing session: a value under an optional schema, the settings, the key slot and the listeners.
A session is driven by steps, each of which is a program on the editor: it checks and writes in its
own order. `Editor.step` gives the editor that the program of a step leaves, the answer, and the
events that listeners receive.

A listener is told of every change of the value but the one by `reset`, which replaces the value
from outside.
-/

namespace FormTree

/-- A change of the value, as one listener sees it. -/
structure Event where
  listener : Nat
  before : Value
  after : Value

structure Editor where
  value : Value
  schema : Option Schema
  settings : Settings
  slot : KeySlot
  listeners : List Nat
  nextListener : Nat

/-- Something that finds fault with a value under a schema. -/
abbrev Validator := Value → Schema → List Finding

/-- Paths in steps are dotted. A reset comes with what builds the checker of its schema. -/
inductive Step where
  | addKey (path : Option String)
  | beginRename (path : String)
  | renameKey (path newKey : String)
  | abandonKeyEdit (path : String)
  | deleteKey (path : String)
  | setValue (path raw : String)
  | render (mode : Mode)
  | renderWith (mode : Mode) (findings : List Finding)
  | validate
  | validateWith (validator : Validator)
  | reset (value slot : Value) (build : Builder := Rule.build)
  | onChange
  | offChange (listener : Nat)

inductive Answer where
  | done
  | newKey (path : String)
  | plan (plan : Plan)
  | findings (findings : List Finding)
  | listener (id : Nat)
  | removed (known : Bool)

structure Outcome where
  editor : Editor
  answer : Except FieldError Answer
  events : List Event

namespace Editor

def new (value : Value) (schema : Option Schema) : Editor :=
  ⟨value, schema, .standard, .idle, [], 1⟩

/-- The editor with other settings, which have to be valid. -/
def withSettings (editor : Editor) (settings : Settings) : Except FieldError Editor :=
  settings.validate.map fun settings => { editor with settings }

def decode (path : String) : Except FieldError KeyPath :=
  match Dotted.decode path with
  | .ok keys => .ok keys
  | .error fault => .error (.malformedPath fault)

/-- Keys can be edited only where no schema fixes them. -/
def ensureFreeKeys (editor : Editor) : Except FieldError Unit :=
  if editor.schema.isSome then .error .schemaGoverned else .ok ()

/-- The widget of the leaf at a path; plain text where no schema says otherwise. -/
def kindAt (editor : Editor) (path : KeyPath) : Except FieldError InputKind :=
  match editor.schema with
  | none => .ok .text
  | some schema =>
    (Edit.splitLast path).bind fun (parent, key) =>
      (schema.nodeAt (structuralPath parent)).bind fun node =>
        (classify node parent key).map Classification.kind

/-- Takes over a new root. If it is the same as the old one, the old one stays and nobody is
told. -/
def install (editor : Editor) (root : Value) : Editor × List Event :=
  if root.same editor.value then (editor, [])
  else
    ({ editor with value := root },
      editor.listeners.map fun listener => ⟨listener, editor.value, root⟩)

/-- What a validator finds; without a schema there is nothing to find. -/
def findingsBy (editor : Editor) (validator : Validator) : List Finding :=
  match editor.schema with
  | some schema => validator editor.value schema
  | none => []

def findings (editor : Editor) : List Finding := editor.findingsBy fun v schema => schema.findings v

def plan (editor : Editor) (mode : Mode) (findings : List Finding) : Plan :=
  Plan.make editor.value editor.schema mode findings editor.settings

/-- Takes over the value that a plan created, if it created one. -/
def installPlan (editor : Editor) (plan : Plan) : Editor × List Event :=
  match plan.materialized with
  | some root => editor.install root
  | none => (editor, [])

/-! ### Steps as programs -/

/-- An editor at work: as it stands, and the events that listeners have received so far. -/
structure Session where
  editor : Editor
  events : List Event

abbrev Action := Program Session

def current : Action Editor := return (← get).editor

def onSlot {α : Type} (call : KeySlot.Call α) : Action α :=
  call.within (fun session => session.editor.slot)
    fun slot session => { session with editor := { session.editor with slot } }

/-- A change of the editor that listeners are told of. -/
def change (f : Editor → Editor × List Event) : Action Unit :=
  modify fun session =>
    let (editor, events) := f session.editor
    ⟨editor, session.events ++ events⟩

/-- A change of the editor that is no change of the value, or none that listeners are told of. -/
def adjust (f : Editor → Editor) : Action Unit := change fun editor => (f editor, [])

/-- A plan with given findings. What planning creates is taken over. -/
def draw (mode : Mode) (findings : List Finding) : Action Answer := do
  let plan := (← current).plan mode findings
  change (installPlan · plan)
  return .plan plan

def perform : Step → Action Answer
  | .addKey path => do
    (← current).ensureFreeKeys
    let keys ← decode (path.getD "")
    let root ← onSlot (.beginAdd (← current).value keys)
    change (install · root)
    let pending := (← current).slot.pending?
    return .newKey ((pending.map PendingEdit.encodedPath).getD "")
  | .beginRename path => do
    (← current).ensureFreeKeys
    let keys ← decode path
    onSlot (.beginRename (← current).value keys)
    return .done
  | .renameKey path newKey => do
    let keys ← decode path
    let root ← onSlot (.commitRename (← current).value keys newKey)
    change (install · root)
    return .done
  | .abandonKeyEdit path => do
    let keys ← decode path
    let root ← onSlot (.abandon (← current).value keys)
    change (install · root)
    return .done
  | .deleteKey path => do
    (← current).ensureFreeKeys
    (← current).slot.ensureIdle
    let keys ← decode path
    let root ← Edit.deleteKey (← current).value keys
    change (install · root)
    return .done
  | .setValue path raw => do
    (← current).slot.ensureIdle
    let keys ← decode path
    let kind ← (← current).kindAt keys
    let root ← Edit.setValue (← current).value keys raw kind
    change (install · root)
    return .done
  | .render mode => do
    -- What planning creates is taken over before the value is validated, so that the findings are
    -- those of the value that the plan shows.
    let editor ← current
    if mode = .edit ∧ editor.schema.isSome then
      change (installPlan · (editor.plan mode []))
    draw mode (← current).findings
  | .renderWith mode findings => draw mode findings
  | .validate => return .findings (← current).findings
  | .validateWith validator => return .findings ((← current).findingsBy validator)
  | .reset value slot build => do
    let schema ← Schema.ofSlotBy build slot
    adjust fun editor => { editor with value, schema, slot := .idle }
    return .done
  | .onChange => do
    let editor ← current
    adjust fun editor =>
      { editor with
        listeners := editor.listeners ++ [editor.nextListener]
        nextListener := editor.nextListener + 1 }
    return .listener editor.nextListener
  | .offChange listener => do
    let editor ← current
    adjust fun editor => { editor with listeners := editor.listeners.filter (· ≠ listener) }
    return .removed (editor.listeners.contains listener)

def step (editor : Editor) (step : Step) : Outcome :=
  let (answer, session) := (perform step).start ⟨editor, []⟩
  ⟨session.editor, answer, session.events⟩

def after (editor : Editor) : List Step → Editor
  | [] => editor
  | step :: rest => (editor.step step).editor.after rest

def run (editor : Editor) : List Step → List Outcome
  | [] => []
  | step :: rest =>
    let outcome := editor.step step
    outcome :: outcome.editor.run rest

theorem after_append (editor : Editor) (first second : List Step) :
    editor.after (first ++ second) = (editor.after first).after second := by
  induction first generalizing editor with
  | nil => rfl
  | cons step rest ih => exact ih _

end Editor

end FormTree

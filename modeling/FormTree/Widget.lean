import FormTree.Number.Numeral
import FormTree.Schema.Basic
import FormTree.Settings.Basic
import FormTree.Text.Blank

/-!
# Widgets

A leaf of the form is edited with a widget of some kind, which the schema decides. `coerce` is the
way from what was typed to the value to store, and `display` the way from a stored value to the text
shown.
-/

namespace FormTree

inductive InputKind where
  | text | number | integer | date
deriving DecidableEq

inductive JsonType where
  | text | number
deriving DecidableEq

def JsonType.name : JsonType → String
  | .text => "text"
  | .number => "number"

namespace InputKind

def all : List InputKind := [.text, .number, .integer, .date]

def name : InputKind → String
  | .text => "text"
  | .number => "number"
  | .integer => "integer"
  | .date => "date"

def ofName? (name : String) : Option InputKind := all.find? (·.name = name)

def isNumeric : InputKind → Bool
  | .number | .integer => true
  | _ => false

def jsonType (kind : InputKind) : JsonType := if kind.isNumeric then .number else .text

/-- The kind for a schema node. A type union that still has several members without `null`, and
every type but three, is plain text. -/
def ofNode (node : Value) : InputKind :=
  match SchemaNode.nonNullTypes node with
  | ["string"] => if SchemaNode.format? node = some "date" then .date else .text
  | ["number"] => .number
  | ["integer"] => .integer
  | _ => .text

end InputKind

/-- What a schema says about the widget of a property. -/
structure Classification where
  jsonType : JsonType
  kind : InputKind
  required : Bool
deriving DecidableEq

/-- Classifies the property `key` of the node that governs the value at `path`. -/
def classify (parent : Value) (path : KeyPath) (key : String) : Except FieldError Classification :=
  match SchemaNode.property? parent key with
  | some node =>
    let kind := InputKind.ofNode node
    .ok ⟨kind.jsonType, kind, SchemaNode.isRequired parent key⟩
  | none => .error (.structuralMismatch (Dotted.encode path) key .undeclared)

theorem classify_of_property? {parent node : Value} {key : String}
    (h : SchemaNode.property? parent key = some node) (path : KeyPath) :
    classify parent path key = .ok ⟨(InputKind.ofNode node).jsonType, .ofNode node,
      SchemaNode.isRequired parent key⟩ := by
  rw [classify, h]

/-- The number that a typed decimal stores. An integer widget takes whole amounts, as integers, as
long as a signed word holds them. -/
def numberOf? (kind : InputKind) (x : Binary64) : Option Number :=
  if kind = .integer then
    match x.toInt? with
    | some i => if -0x8000000000000000 < i ∧ i < 0x8000000000000000 then some (.int i) else none
    | none => none
  else some (.float x)

/-- The number that a typed text stores: an integer if a word holds it, otherwise the nearest
binary64 number. -/
def typedNumber? (kind : InputKind) (text : List Char) : Option Number :=
  match (Numeral.integer? text).filter (Number.InWordRange ·) with
  | some i => some (.int i)
  | none => (Numeral.decimal? text).bind fun amount => amount.toBinary64?.bind (numberOf? kind)

/-- The value that a typed text stores. Nothing typed is `null`. -/
def coerce (raw : String) (kind : InputKind) : Except FieldError Value :=
  if raw.isEmpty then .ok .null
  else if !kind.isNumeric then .ok (.str raw)
  else
    match typedNumber? kind (trim raw.toList) with
    | some n => .ok (.num n)
    | none => .error (.invalidNumber raw)

/-- A stored date as it is shown; any other text as it is. -/
def displayDate (settings : Settings) (text : String) : String :=
  ((Date.parse? settings.dateStorage text).bind (·.format? settings.dateDisplay)).getD text

/-- The text shown for a value. Only a date that is read, not edited, is shown in another form than
it is stored. -/
def display (v : Value) (kind : InputKind) (reading : Bool) (settings : Settings) : String :=
  match v with
  | .null => ""
  | .str text => if reading && kind = .date then displayDate settings text else text
  | v => v.text

end FormTree

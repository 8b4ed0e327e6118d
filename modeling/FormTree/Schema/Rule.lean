import FormTree.Regex.Pattern
import FormTree.Schema.Node

/-!
# Rules of a schema

What a schema demands of a value, in typed form. `Rule.compile` turns a descriptor into rules;
`Rule.wellFormed` says beforehand whether every keyword that is known has a value of the right form.
Keywords that are not known demand nothing.

`additionalProperties` decides about the members that `properties` does not declare. When it forbids
them or has a rule for them, it takes the declared ones over as well, and `properties` on its own is
silent.
-/

namespace FormTree

inductive TypeName where
  | array | boolean | integer | null | number | object | string
deriving DecidableEq

namespace TypeName

/-- In the order in which messages list them. -/
def all : List TypeName := [.array, .boolean, .integer, .null, .number, .object, .string]

def name : TypeName → String
  | .array => "array"
  | .boolean => "boolean"
  | .integer => "integer"
  | .null => "null"
  | .number => "number"
  | .object => "object"
  | .string => "string"

def ofName? (name : String) : Option TypeName := all.find? (·.name = name)

/-- A value of the type. A number of either kind is an integer if it is whole. -/
def accepts : TypeName → Value → Bool
  | .array, .arr _ => true
  | .boolean, .bool _ => true
  | .integer, .num n => n.toInt?.isSome
  | .null, .null => true
  | .number, .num _ => true
  | .object, .obj _ => true
  | .string, .str _ => true
  | _, _ => false

end TypeName

/-- What is counted for a size limit. -/
inductive Size where
  | length | items | properties
deriving DecidableEq

/-- Which side of a limit is allowed, and whether the limit itself is. -/
inductive Bound where
  | minimum | maximum | exclusiveMinimum | exclusiveMaximum
deriving DecidableEq

mutual

inductive Rule where
  | accept
  | reject
  | all (keywords : List Keyword)

inductive Keyword where
  | typed (types : List TypeName)
  | required (names : List String)
  | among (options : List Value)
  | exactly (value : Value)
  | bounded (bound : Bound) (limit : Number)
  | atLeast (size : Size) (limit : Nat)
  | atMost (size : Size) (limit : Nat)
  | matching (pattern : Pattern)
  | date
  | items (rule : Rule)
  | properties (declared : List (String × Rule))
  | noMembers
  | closed (declared : List (String × Rule))
  | others (declared : List (String × Rule)) (rule : Rule)

end

namespace Rule

/-! ### The form of a descriptor -/

/-- A natural number; a whole binary64 number counts. -/
def naturalNumber? : Value → Option Nat
  | .num n =>
    match n.toInt? with
    | some i => if 0 ≤ i then some i.toNat else none
    | none => none
  | _ => none

def isTypeName : Value → Bool
  | .str name => (TypeName.ofName? name).isSome
  | _ => false

def isText (v : Value) : Bool := v.string?.isSome

/-- A list of pairwise different texts. -/
def areDistinctTexts (items : List Value) : Bool :=
  items.all isText && decide (SchemaNode.texts items).Nodup

/-- The form of the keywords whose value is no schema. -/
def plainWellFormed (keyword : String) (v : Value) : Bool :=
  match keyword with
  | "type" =>
    match v with
    | .arr names => !names.isEmpty && names.all isTypeName && areDistinctTexts names
    | v => isTypeName v
  | "required" =>
    match v with
    | .arr names => areDistinctTexts names
    | _ => false
  | "enum" =>
    match v with
    | .arr _ => true
    | _ => false
  | "minLength" | "maxLength" | "minItems" | "maxItems" | "minProperties" | "maxProperties" =>
    (naturalNumber? v).isSome
  | "minimum" | "maximum" | "exclusiveMinimum" | "exclusiveMaximum" =>
    match v with
    | .num _ => true
    | _ => false
  | "pattern" | "format" | "title" | "description" | "$comment" => isText v
  | "deprecated" | "readOnly" | "writeOnly" =>
    match v with
    | .bool _ => true
    | _ => false
  | "examples" =>
    match v with
    | .arr _ => true
    | _ => false
  | _ => true

mutual

/-- A descriptor in which every known keyword has a value of the right form. -/
def wellFormed : Value → Bool
  | .bool _ => true
  | .obj keywords => keywordsWellFormed keywords
  | _ => false

def keywordsWellFormed : List (String × Value) → Bool
  | [] => true
  | (keyword, v) :: rest =>
    (match keyword with
      | "properties" => propertiesWellFormed v
      | "items" | "additionalProperties" => wellFormed v
      | keyword => plainWellFormed keyword v) && keywordsWellFormed rest

def propertiesWellFormed : Value → Bool
  | .obj nodes => nodesWellFormed nodes
  | _ => false

def nodesWellFormed : List (String × Value) → Bool
  | [] => true
  | (_, node) :: rest => wellFormed node && nodesWellFormed rest

end

/-! ### Compilation -/

/-- One keyword on its own, before `properties` and `additionalProperties` are put together. -/
inductive Part where
  | silent
  | keyword (keyword : Keyword)
  | declared (nodes : List (String × Rule))
  | additional (rule : Rule)

/-- Rules, or the first pattern that is no regular expression. -/
abbrev Compiled := Except String

/-- The types that a `type` keyword names, in the order of messages. -/
def typesOf : Value → List TypeName
  | .str name => (TypeName.ofName? name).toList
  | .arr names =>
    TypeName.all.filter fun type => (SchemaNode.texts names).contains type.name
  | _ => []

/-- The part of a keyword whose value is no schema. -/
def plainPart (keyword : String) (v : Value) : Compiled Part :=
  let sized (make : Nat → Keyword) : Compiled Part :=
    .ok (match naturalNumber? v with
      | some n => .keyword (make n)
      | none => .silent)
  let bounded (bound : Bound) : Compiled Part :=
    .ok (match v with
      | .num n => .keyword (.bounded bound n)
      | _ => .silent)
  match keyword with
  | "type" => .ok (.keyword (.typed (typesOf v)))
  | "required" =>
    .ok (match v with
      | .arr names => .keyword (.required (SchemaNode.texts names))
      | _ => .silent)
  | "enum" =>
    .ok (match v with
      | .arr options => .keyword (.among options)
      | _ => .silent)
  | "const" => .ok (.keyword (.exactly v))
  | "minimum" => bounded .minimum
  | "maximum" => bounded .maximum
  | "exclusiveMinimum" => bounded .exclusiveMinimum
  | "exclusiveMaximum" => bounded .exclusiveMaximum
  | "minLength" => sized (.atLeast .length)
  | "maxLength" => sized (.atMost .length)
  | "minItems" => sized (.atLeast .items)
  | "maxItems" => sized (.atMost .items)
  | "minProperties" => sized (.atLeast .properties)
  | "maxProperties" => sized (.atMost .properties)
  | "pattern" =>
    match v with
    | .str source =>
      match Pattern.read? source with
      | some pattern => .ok (.keyword (.matching pattern))
      | none => .error source
    | _ => .ok .silent
  | "format" =>
    .ok (match v with
      | .str "date" => .keyword .date
      | _ => .silent)
  | _ => .ok .silent

def Part.nodes : Part → List (String × Rule)
  | .declared nodes => nodes
  | _ => []

/-- Puts the parts of a node together, in the order of the keywords. -/
def assemble (parts : List (String × Part)) : List Keyword :=
  let declared := (Members.find? "properties" parts).map Part.nodes
  let takenOver := match Members.find? "additionalProperties" parts with
    | some (.additional .accept) => false
    | some (.additional _) => true
    | _ => false
  parts.filterMap fun (_, part) =>
    match part with
    | .silent => none
    | .keyword keyword => some keyword
    | .declared nodes => if takenOver then none else some (.properties nodes)
    | .additional .accept => none
    | .additional .reject =>
      match declared with
      | some nodes => some (.closed nodes)
      | none => some .noMembers
    | .additional rule => some (.others (declared.getD []) rule)

/-- The first fault among parts, in the order in which keywords are taken up: `additionalProperties`
takes `properties` up before itself. -/
def firstFault? (parts : List (String × Compiled Part)) : Option String :=
  let fault? (part : Compiled Part) : Option String :=
    match part with
    | .ok _ => none
    | .error pattern => some pattern
  parts.findSome? fun (keyword, part) =>
    if keyword = "additionalProperties" then
      match part with
      | .ok (.additional .accept) => none
      | part => ((Members.find? "properties" parts).bind fault?).or (fault? part)
    else fault? part

/-- All parts of a node, or the first fault. -/
def gather (parts : List (String × Compiled Part)) : Compiled (List (String × Part)) :=
  match firstFault? parts with
  | some pattern => .error pattern
  | none => .ok (parts.filterMap fun (keyword, part) =>
      match part with
      | .ok part => some (keyword, part)
      | .error _ => none)

mutual

def compile : Value → Compiled Rule
  | .bool true => .ok .accept
  | .bool false => .ok .reject
  | .obj keywords => (gather (compileKeywords keywords)).map fun parts => .all (assemble parts)
  | _ => .ok .accept

def compileKeywords : List (String × Value) → List (String × Compiled Part)
  | [] => []
  | (keyword, v) :: rest =>
    (keyword,
      match keyword with
      | "properties" => (compileProperties v).map .declared
      | "items" => (compile v).map fun rule => .keyword (.items rule)
      | "additionalProperties" => (compile v).map .additional
      | keyword => plainPart keyword v) :: compileKeywords rest

def compileProperties : Value → Compiled (List (String × Rule))
  | .obj nodes => compileNodes nodes
  | _ => .ok []

def compileNodes : List (String × Value) → Compiled (List (String × Rule))
  | [] => .ok []
  | (key, node) :: rest =>
    (compile node).bind fun rule => (compileNodes rest).map fun rules => (key, rule) :: rules

end

end Rule

end FormTree

import FormTree.Calendar.Reading
import FormTree.Schema.Basic
import FormTree.Schema.Rule

/-!
# Validation

The ways in which a value breaks the rules of its schema. A violation knows the keys that lead to
the offending node (an array index is a key in decimals), the place of the broken keyword in the
schema, and the cause. Keywords are taken in the order in which the schema lists them, and each
looks only at values of its own type. Violations are reported with pointers to both places.

A builder of checkers that goes by rules is `Rule.build`; `Schema.compile` uses it.
-/

namespace FormTree

/-- Why a value breaks a rule. -/
inductive Cause where
  | wrongType (types : List TypeName)
  | missing (name : String)
  | notAmong (options : List Value)
  | unequal (expected : Value)
  | outOfBounds (bound : Bound) (limit : Number)
  | tooSmall (size : Size) (limit : Nat)
  | tooLarge (size : Size) (limit : Nat)
  | noMatch (pattern : String)
  /-- It stays open whether the value matches. -/
  | undecided
  | notADate
  | forbidden
  | unexpected (names : List String)

namespace Cause

/-- The unit of a size; exactly one of it has a form of its own. -/
def unit (size : Size) (limit : Nat) : String :=
  match size with
  | .length => if limit = 1 then "character" else "characters"
  | .items => if limit = 1 then "item" else "items"
  | .properties => if limit = 1 then "property" else "properties"

def boundText : Bound → String
  | .minimum => " is less than the minimum of "
  | .maximum => " is greater than the maximum of "
  | .exclusiveMinimum => " is less than or equal to the minimum of "
  | .exclusiveMaximum => " is greater than or equal to the maximum of "

/-- The cause in words, for the value that breaks the rule. -/
def message (v : Value) : Cause → String
  | .wrongType [type] => v.text ++ " is not of type \"" ++ type.name ++ "\""
  | .wrongType types =>
    v.text ++ " is not of types " ++
      String.intercalate ", " (types.map fun type => "\"" ++ type.name ++ "\"")
  | .missing name => Value.quote name ++ " is a required property"
  | .notAmong options => v.text ++ " is not one of " ++ (Value.arr options).text
  | .unequal expected => expected.text ++ " was expected"
  | .outOfBounds bound limit => v.text ++ boundText bound ++ limit.text
  | .tooSmall size limit =>
    v.text ++ (if size = .length then " is shorter than " else " has less than ") ++
      toString limit ++ " " ++ unit size limit
  | .tooLarge size limit =>
    v.text ++ (if size = .length then " is longer than " else " has more than ") ++
      toString limit ++ " " ++ unit size limit
  | .noMatch pattern => v.text ++ " does not match \"" ++ pattern ++ "\""
  | .undecided => "Error executing regex: Max limit for backtracking count exceeded"
  | .notADate => v.text ++ " is not a \"date\""
  | .forbidden => "False schema does not allow " ++ v.text
  | .unexpected names =>
    "Additional properties are not allowed (" ++
      String.intercalate ", " (names.map fun name => "'" ++ name ++ "'") ++
      (if names.length = 1 then " was unexpected)" else " were unexpected)")

end Cause

structure Violation where
  /-- The keys that lead to the node. -/
  place : KeyPath
  /-- The tokens that lead to the keyword in the schema. -/
  schemaPlace : List String
  value : Value
  cause : Cause

namespace Violation

/-- The name of the property that is missing, if that is the cause. -/
def missing? (violation : Violation) : Option String :=
  match violation.cause with
  | .missing name => some name
  | _ => none

def toReport (violation : Violation) : Report :=
  ⟨Pointer.format violation.place, Pointer.format violation.schemaPlace,
    violation.missing?.map .str, violation.cause.message violation.value⟩

end Violation

/-- A calendar date written as four, two and two digits between hyphens. -/
def isCalendarDate (text : String) : Bool :=
  match text.toList with
  | [y1, y2, y3, y4, '-', m1, m2, '-', d1, d2] =>
    [y1, y2, y3, y4, m1, m2, d1, d2].all Char.isDigit &&
      (Date.ofParts? (Digits.number [y1, y2, y3, y4]) (Digits.number [m1, m2])
        (Digits.number [d1, d2])).isSome
  | _ => false

/-- The size of a value, if it is of the type for which the size is counted. -/
def Size.of? : Size → Value → Option Nat
  | .length, .str s => some s.length
  | .items, .arr elements => some elements.length
  | .properties, .obj members => some members.length
  | _, _ => none

/-- A number lies on the allowed side of a limit. -/
def Bound.admits (bound : Bound) (limit n : Number) : Bool :=
  match bound with
  | .minimum => !n.lt limit
  | .maximum => !limit.lt n
  | .exclusiveMinimum => limit.lt n
  | .exclusiveMaximum => n.lt limit

/-- A node of a value and the schema node that judges it. -/
structure Place where
  keys : KeyPath
  schema : List String

namespace Place

def child (place : Place) (key : String) : Place := { place with keys := place.keys ++ [key] }

def keyword (place : Place) (token : String) : Place :=
  { place with schema := place.schema ++ [token] }

def violation (place : Place) (v : Value) (cause : Cause) : Violation :=
  ⟨place.keys, place.schema, v, cause⟩

end Place

namespace Rule

def boundName : Bound → String
  | .minimum => "minimum"
  | .maximum => "maximum"
  | .exclusiveMinimum => "exclusiveMinimum"
  | .exclusiveMaximum => "exclusiveMaximum"

def leastName : Size → String
  | .length => "minLength"
  | .items => "minItems"
  | .properties => "minProperties"

def mostName : Size → String
  | .length => "maxLength"
  | .items => "maxItems"
  | .properties => "maxProperties"

/-- One violation at a keyword unless the condition holds. -/
def demand (ok : Bool) (place : Place) (token : String) (v : Value) (cause : Cause) :
    List Violation :=
  if ok then [] else [(place.keyword token).violation v cause]

/-- The violations of a keyword that holds no rules of its own. -/
def plainViolations (place : Place) (v : Value) : Keyword → List Violation
  | .typed types => demand (types.any (·.accepts v)) place "type" v (.wrongType types)
  | .required names =>
    match v with
    | .obj members =>
      (names.filter fun name => !Members.has name members).map fun name =>
        (place.keyword "required").violation v (.missing name)
    | _ => []
  | .among options => demand (options.any (·.equal v)) place "enum" v (.notAmong options)
  | .exactly expected => demand (expected.equal v) place "const" v (.unequal expected)
  | .bounded bound limit =>
    match v with
    | .num n => demand (bound.admits limit n) place (boundName bound) v (.outOfBounds bound limit)
    | _ => []
  | .atLeast size limit =>
    match size.of? v with
    | some n => demand (limit ≤ n) place (leastName size) v (.tooSmall size limit)
    | none => []
  | .atMost size limit =>
    match size.of? v with
    | some n => demand (n ≤ limit) place (mostName size) v (.tooLarge size limit)
    | none => []
  | .matching pattern =>
    match v with
    | .str s =>
      match pattern.search s with
      | .found => []
      | .absent => [(place.keyword "pattern").violation v (.noMatch pattern.source)]
      | .undecided => [(place.keyword "pattern").violation v .undecided]
    | _ => []
  | .date =>
    match v with
    | .str s => demand (isCalendarDate s) place "format" v .notADate
    | _ => []
  | .noMembers =>
    match v with
    | .obj ((_, first) :: _) => [(place.keyword "additionalProperties").violation first .forbidden]
    | _ => []
  | _ => []

mutual

def violations (place : Place) : Rule → Value → List Violation
  | .accept, _ => []
  | .reject, v => [place.violation v .forbidden]
  | .all keywords, v => keywordsViolations place keywords v

def keywordsViolations (place : Place) : List Keyword → Value → List Violation
  | [], _ => []
  | keyword :: rest, v =>
    keywordViolations place keyword v ++ keywordsViolations place rest v

def keywordViolations (place : Place) : Keyword → Value → List Violation
  | .items rule, .arr items =>
    (items.mapIdx fun i item =>
      violations ((place.keyword "items").child (toString i)) rule item).flatten
  | .properties declared, .obj members =>
    declaredViolations (place.keyword Pointer.wrapper) declared members
  | .closed declared, .obj members =>
    let found := members.map fun (key, item) =>
      (key, memberViolations? (place.keyword Pointer.wrapper) declared key item)
    let undeclared := (found.filter fun entry => entry.2.isNone).map Prod.fst
    found.flatMap (fun entry => entry.2.getD []) ++
      (if undeclared.isEmpty then []
       else [(place.keyword "additionalProperties").violation (.obj members)
         (.unexpected undeclared)])
  | .others declared rule, .obj members =>
    members.flatMap fun (key, item) =>
      (memberViolations? (place.keyword Pointer.wrapper) declared key item).getD
        (violations ((place.keyword "additionalProperties").child key) rule item)
  | keyword, v => plainViolations place v keyword

/-- The violations of the declared members that a mapping has, in the order of declaration. -/
def declaredViolations (place : Place) :
    List (String × Rule) → List (String × Value) → List Violation
  | [], _ => []
  | (key, rule) :: rest, members =>
    (match Members.find? key members with
      | some item => violations ((place.keyword key).child key) rule item
      | none => []) ++ declaredViolations place rest members

/-- The violations of one member, if it is declared. -/
def memberViolations? (place : Place) :
    List (String × Rule) → String → Value → Option (List Violation)
  | [], _, _ => none
  | (name, rule) :: rest, key, item =>
    if name = key then some (violations ((place.keyword key).child key) rule item)
    else memberViolations? place rest key item

end

/-- The checker that goes by a rule. -/
def checker (rule : Rule) : Checker := fun v =>
  (rule.violations ⟨[], []⟩ v).map Violation.toReport

/-- Builds checkers from rules. The form of a descriptor is looked at as a whole before any pattern
is. -/
def build : Builder := fun root =>
  if !wellFormed root then .error .malformed
  else
    match compile root with
    | .ok rule => .ok rule.checker
    | .error pattern => .error (.badPattern pattern)

end Rule

namespace Schema

def compile (root : Value) : Except FieldError Schema := compileBy Rule.build root

def ofSlot (slot : Value) : Except FieldError (Option Schema) := ofSlotBy Rule.build slot

end Schema

end FormTree

import FormTree.Unicode.BinaryProperty
import FormTree.Unicode.Script

/-!
# Properties by name

The sets of characters that names denote: a binary property, a general category or a script by its
name alone, and a general category, a script or the characters used with a script as the value of a
property. Names are matched loosely: case, blanks, underscores, hyphens and a leading `is` do not
count.
-/

namespace FormTree.Unicode

/-- A property of characters, by its name or by the name and the value of one that has several. -/
inductive Property where
  | named (name : String)
  | valued (name value : String)

namespace Property

/-- What counts in a name. The one name that begins with `is` and is nothing without it is kept. -/
def plainName (name : String) : List Char :=
  let plain (chars : List Char) : List Char :=
    (chars.filter fun c => c.toNat < 128 && c ≠ ' ' && c ≠ '_' && c ≠ '-').map Char.toLower
  match name.toList with
  | a :: b :: rest =>
    if a.toLower = 'i' ∧ b.toLower = 's' then
      if plain rest = ['c'] then ['i', 's', 'c'] else plain rest
    else plain (a :: b :: rest)
  | chars => plain chars

def isNamed (names : List String) (name : String) : Bool :=
  names.any fun other => plainName other = plainName name

def binary? (name : String) : Option CharSet :=
  (BinaryProperty.all.find? fun property => isNamed property.names name).map BinaryProperty.set

def assigned : CharSet := .table (Category.assigned.flatMap Category.table)

/-- The characters of a general category or of several together. -/
def category? (name : String) : Option CharSet :=
  if isNamed ["Any"] name then some (.complement .empty)
  else if isNamed ["ASCII"] name then some (.ofText "0-7F")
  else if isNamed ["Assigned"] name then some assigned
  else if isNamed ["Cn", "Unassigned"] name then some (.complement assigned)
  else if isNamed ["C", "Other"] name then
    some (.complement (.table (Category.tableOf ["L", "M", "N", "P", "S", "Z"])))
  else
    match Category.groups.find? fun group => isNamed group.names name with
    | some group => some (.table (Category.tableOf group.members))
    | none =>
      (Category.assigned.find? fun category => isNamed category.names name).map
        fun category => .table category.table

def script? (name : String) : Option Script :=
  Script.all.find? fun script => isNamed script.names name

/-- The characters that are used with a script, whichever they belong to. -/
def usedWith (script : Script) : CharSet :=
  if script.isGeneral then .diff (.table script.table) (.table Script.sharedByAny)
  else .table (script.table ++ script.shared)

/-- The characters that a property denotes. Three names are those of categories although other
properties have them too. -/
def set? : Property → Option CharSet
  | .named name =>
    let binary := if isNamed ["Cf", "Sc", "LC"] name then none else binary? name
    binary.or ((category? name).or ((script? name).map fun script => .table script.table))
  | .valued name value =>
    if isNamed ["General_Category", "gc"] name then category? value
    else if isNamed ["Script", "sc"] name then
      (script? value).map fun script => .table script.table
    else if isNamed ["Script_Extensions", "scx"] name then (script? value).map usedWith
    else none

end Property

end FormTree.Unicode

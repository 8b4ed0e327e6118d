import FormTree.Settings.Basic
import FormTree.Value.Reader

/-!
# Settings as JSON

An object with the names of settings, each with a text and none twice, or a list of at most two
texts in the order of the settings. What is missing has its standard value.
-/

namespace FormTree

namespace Settings

/-- The texts of members; none if one is something else. -/
def textEntries? : List (String × Value) → Option (List (String × String))
  | [] => some []
  | (name, .str text) :: rest => (textEntries? rest).map ((name, text) :: ·)
  | _ :: _ => none

def ofValue? : Value → Option Settings
  | .obj members => (textEntries? members).bind ofEntries?
  | .arr [] => some standard
  | .arr [.str display] => some { standard with dateDisplay := display }
  | .arr [.str display, .str storage] => some ⟨display, storage⟩
  | _ => none

def readJson (text : String) : Except FieldError Settings :=
  accept ((Value.entries? text).bind ofValue?)

end Settings

end FormTree

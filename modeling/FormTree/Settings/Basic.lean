import FormTree.Calendar.Reading
import FormTree.FieldError

/-!
# Settings

A form shows dates with one pattern and stores them with another. Settings are usable if both
patterns can write the sample date and the storage pattern reads back what it wrote; that a pattern
has fields of the clock, for which a date has no text, shows on any date.
-/

namespace FormTree

structure Settings where
  dateDisplay : String
  dateStorage : String
deriving DecidableEq

namespace Settings

def standard : Settings := ⟨"%m/%d/%Y", "%Y-%m-%d"⟩

def displayName : String := "date_display_format"

def storageName : String := "date_storage_format"

/-- The pattern writes the sample date and reads it back. -/
def readsBack (pattern : String) : Bool :=
  match Date.sample.format? pattern with
  | some text => Date.parse? pattern text = some Date.sample
  | none => false

/-- What is wrong with the patterns; the display pattern is looked at first. -/
def fault? (settings : Settings) : Option SettingsFault :=
  if (Date.sample.format? settings.dateDisplay).isNone then
    some (.badDatePattern displayName settings.dateDisplay)
  else if !readsBack settings.dateStorage then
    some (.badDatePattern storageName settings.dateStorage)
  else none

/-- The settings, if nothing is wrong with their patterns. -/
def validate (settings : Settings) : Except FieldError Settings :=
  match settings.fault? with
  | none => .ok settings
  | some fault => .error (.settings fault)

/-- Settings from entries that name them. No other name may occur, and none twice. -/
def ofEntries? (entries : List (String × String)) : Option Settings :=
  if (Members.keys entries).all (fun name => name = displayName || name = storageName) &&
      decide (Members.keys entries).Nodup then
    some ⟨(Members.find? displayName entries).getD standard.dateDisplay,
      (Members.find? storageName entries).getD standard.dateStorage⟩
  else none

/-- Settings that were read, still to be validated. -/
def accept (read : Option Settings) : Except FieldError Settings :=
  match read with
  | none => .error (.settings .unreadable)
  | some settings => settings.validate

end Settings

end FormTree

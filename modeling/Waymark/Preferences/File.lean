import Waymark.Files.Tree
import Waymark.Preferences.Place
import Waymark.Preferences.Yaml

/-!
# Preferences in files

Loading preferences always gives some: where there is no file, or none that can be read, they are the
default ones. Saving them makes the directories that are missing.
-/

namespace Waymark

/-- What happened when preferences were loaded. -/
inductive LoadResult
  /-- There is no file. -/
  | absent
  /-- The file cannot be read. -/
  | unreadable (e : FileError)
  /-- The text of the file does not stand for preferences. -/
  | malformed
  | loaded (p : Preferences)
  deriving DecidableEq, Repr

/-- Why preferences could not be saved. -/
inductive SaveError
  /-- There is no place for them. -/
  | noPlace
  /-- A directory could not be made. -/
  | directory (e : FileError)
  /-- The file could not be written. -/
  | file (path : String) (e : FileError)
  deriving DecidableEq, Repr

/-- Why the directory of the logs is not there. -/
inductive LogError
  | noPlace
  | directory (path : String) (e : FileError)
  deriving DecidableEq, Repr

namespace LoadResult

/-- The preferences that hold after loading. -/
def preferences : LoadResult → Preferences
  | loaded p => p
  | _ => {}

end LoadResult

namespace SaveError

/-- The error as it is told. -/
def message : SaveError → String
  | noPlace => "No config directory available"
  | directory e => "Failed to create config directory: " ++ e.message
  | file path e => "Failed to write config to " ++ path ++ ": " ++ e.message

end SaveError

namespace LogError

/-- The error as it is told. -/
def message : LogError → String
  | noPlace => "No config directory available"
  | directory path e => "Failed to create directory " ++ path ++ ": " ++ e.message

end LogError

namespace Preferences

/-- Load preferences from a file. -/
def loadFrom (t : FileTree) (path : String) : LoadResult :=
  if !t.has path then .absent
  else
    match t.readText path with
    | .error e => .unreadable e
    | .ok text =>
      match ofYaml? text.toList with
      | none => .malformed
      | some p => .loaded p

/-- Save preferences to a file. Directories that were made stay if the file cannot be written. -/
def saveTo (p : Preferences) (t : FileTree) (path : String) : FileTree × Except SaveError Unit :=
  match t.ensureAround path with
  | (t, .error e) => (t, .error (.directory e))
  | (t, .ok ()) =>
    match t.write path (String.ofList p.toYaml).toUTF8 with
    | .error e => (t, .error (.file path e))
    | .ok t => (t, .ok ())

/-- Load the preferences of a user. -/
def load (place : SettingsPlace) (t : FileTree) : LoadResult :=
  match place.preferencesFile? with
  | none => .absent
  | some path => loadFrom t path

/-- Save the preferences of a user. -/
def save (p : Preferences) (place : SettingsPlace) (t : FileTree) :
    FileTree × Except SaveError Unit :=
  match place.preferencesFile? with
  | none => (t, .error .noPlace)
  | some path => p.saveTo t path

end Preferences

namespace SettingsPlace

/-- Make the directory of the logs. -/
def ensureLogs (p : SettingsPlace) (t : FileTree) : FileTree × Except LogError String :=
  match p.logDirectory? with
  | none => (t, .error .noPlace)
  | some path =>
    match t.ensurePath path with
    | (t, .error e) => (t, .error (.directory path e))
    | (t, .ok ()) => (t, .ok path)

end SettingsPlace

end Waymark

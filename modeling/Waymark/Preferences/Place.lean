import Waymark.Files.Path

/-!
# Where preferences are kept

Preferences and logs are kept in a directory of their own among the settings of a user.
-/

namespace Waymark

/-- Where a user keeps settings. -/
structure SettingsPlace where
  /-- The directory of all settings, if the user chose one. -/
  settings : Option String := none
  /-- The directory of the user. -/
  home : Option String := none
  deriving DecidableEq, Repr, Inhabited

namespace SettingsPlace

/-- The directory of the settings of this program. -/
def directory? (p : SettingsPlace) : Option String :=
  (p.settings.or (p.home.map (Path.join · ".config"))).map (Path.join · "landmark")

/-- The file of the preferences. -/
def preferencesFile? (p : SettingsPlace) : Option String :=
  p.directory?.map (Path.join · "config.yaml")

/-- The directory of the logs. -/
def logDirectory? (p : SettingsPlace) : Option String :=
  p.directory?.map (Path.join · "logs")

end SettingsPlace

end Waymark

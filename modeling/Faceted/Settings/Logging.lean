import Faceted.Settings.Check
import Faceted.Severity

/-!
# Settings of the log

The optional section `log`: the least severity that is shown, whether records also go to a file, and
the directory of the log files.
-/

namespace Faceted

open Faceted.Text Settings

/-- The settings of the log. -/
structure LogSettings where
  level : Severity
  toFile : Bool
  dir : String
deriving DecidableEq, Repr

namespace LogSettings

/-- Reads the section `log`. -/
def read (raw : Mapping) : Except Fault LogSettings := do
  let part ← optionalSection "log" raw
  let level ← requireChoice "log.level" Severity.settings (entryOr "level" (.str "INFO") part)
  let toFile ← requireBool "log.to_file" (entryOr "to_file" (.bool false) part)
  let dir ← requireString "log.dir" (entryOr "dir" (.str "log") part)
  pure ⟨Severity.ofSetting level, toFile, dir⟩

/-- The log directory is named when there are log files. -/
def check (settings : LogSettings) : Except Fault Unit :=
  keep (!(settings.toFile && isBlankString settings.dir)) .logDirNamed

end LogSettings

end Faceted

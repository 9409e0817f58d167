import Faceted.Settings.Logging
import Faceted.Settings.Backend
import Faceted.Settings.Facets

/-!
# Settings

All sections together. Every section is read before any is checked, so that a value of the wrong
type is reported ahead of one that breaks a rule.
-/

namespace Faceted

/-- The settings of a program run. -/
structure Settings where
  log : LogSettings
  backend : BackendSettings
  facets : FacetSettings
deriving Repr

namespace Settings

/-- Reads all sections, without checking them. -/
def read (environment : Option String) (raw : Mapping) : Except Fault Settings := do
  let log ← LogSettings.read raw
  let backend ← BackendSettings.read environment raw
  let facets ← FacetSettings.read raw
  pure ⟨log, backend, facets⟩

/-- Checks all sections. -/
def check (settings : Settings) : Except Fault Unit := do
  settings.log.check
  settings.backend.check
  settings.facets.check

/-- The settings that a mapping holds, read and checked. -/
def ofMapping (environment : Option String) (raw : Mapping) : Except Fault Settings := do
  let settings ← read environment raw
  settings.check
  pure settings

end Settings

end Faceted

import Faceted.Settings
import Faceted.Service
import Faceted.Backend.Http

/-!
# What settings describe

The service and the client that the settings of a program run ask for.
-/

namespace Faceted.Settings

/-- The service of a program run, before its first search. -/
def service (settings : Settings) : Service :=
  { compiler := ⟨settings.facets.registry, settings.backend.fulltextFields⟩
    index := settings.backend.index
    pageSize := settings.backend.pageSize
    generation := 0 }

/-- The client of the search proxy. -/
def client (settings : Settings) : HttpClient :=
  .make settings.backend.apiPath settings.backend.searchPath (.float settings.backend.timeout)

end Faceted.Settings

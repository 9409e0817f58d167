import Faceted.Settings.Check

/-!
# Settings of the backend

The section `backend`: where the search proxy is, which index and fields it searches, how long to
wait for it and how many documents a page has. The address may also come from the environment, which
then wins.
-/

namespace Faceted

open Faceted.Text Faceted.Number Settings

/-- The settings of the backend. -/
structure BackendSettings where
  apiPath : String
  index : String
  searchPath : String
  timeout : Double
  pageSize : Int
  fulltextFields : List String
deriving DecidableEq, Repr

namespace BackendSettings

/-- The variable of the environment that holds the address. -/
def apiPathVariable : String := "FACETSEARCH_API_PATH"

/-- The seconds to wait for an answer unless something else is set. -/
def defaultTimeout : Double := .ofRatio false 60 1

/-- The address: from the environment if it is set there and not blank, else from the section. -/
def readApiPath (environment : Option String) (part : Mapping) : Except Fault String :=
  let outer := trimmed (environment.getD "")
  if outer.isEmpty then do
    requireString "backend.api_path" (← requireEntry "backend.api_path" "api_path" part)
  else .ok outer

/-- Reads the section `backend`. -/
def read (environment : Option String) (raw : Mapping) : Except Fault BackendSettings := do
  let part ← requiredSection "backend" raw
  let apiPath ← readApiPath environment part
  let index ← requireString "backend.index" (← requireEntry "backend.index" "index" part)
  let searchPath ← requireString "backend.search_path"
    (entryOr "search_path" (.str "search") part)
  let timeout ← requireNumber "backend.timeout" (entryOr "timeout" (.float defaultTimeout) part)
  let pageSize ← requireInteger "backend.pagination_size"
    (entryOr "pagination_size" (.int 20) part)
  let fulltextFields ← requireStrings "backend.fulltext_fields"
    (entryOr "fulltext_fields" (.strs ["ocr"]) part)
  pure ⟨apiPath, index, searchPath, timeout, pageSize, fulltextFields⟩

/-- The text starts as the address of a web server does. -/
def isUrl (s : String) : Bool :=
  (stripStart? "http://".toList s.toList).isSome || (stripStart? "https://".toList s.toList).isSome

/-- The rules that the settings of the backend keep. -/
def check (settings : BackendSettings) : Except Fault Unit := do
  keep (!isBlankString settings.apiPath) .apiPathNamed
  keep (isUrl settings.apiPath) .apiPathIsUrl
  keep (!isBlankString settings.index) .indexNamed
  keep (!settings.timeout.isNonpositive) .timeoutPositive
  keep (decide (0 < settings.pageSize)) .pageSizePositive
  keep (!settings.fulltextFields.isEmpty) .fulltextFieldsNamed

end BackendSettings

end Faceted

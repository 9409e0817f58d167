import Faceted.Main
import Faceted.Number.Notation
import Faceted.Proofs.Clause.Roundtrip
import Faceted.Service.Script
import Faceted.Template
import Faceted.Proofs.Clause.Meaning
import Faceted.Proofs.Facet
import Faceted.Proofs.Query.Meaning
import Faceted.Proofs.Suggestion.OwnFilter
import Faceted.Proofs.Service.Traffic
import Faceted.Proofs.Service.Staleness
import Faceted.Proofs.Service.Scripted
import Faceted.Proofs.Text.Case
import Faceted.Proofs.Pattern.Regexp
import Faceted.Proofs.Pattern.Glob
import Faceted.Proofs.Suggestion.Contains
import Faceted.Proofs.Suggestion.Response
import Faceted.Proofs.Suggestion.Order
import Faceted.Proofs.Settings.Facets
import Faceted.Proofs.Clause.Leaves
import Faceted.Proofs.Filter.Reading
import Faceted.Proofs.Query.Scope
import Faceted.Proofs.Settings.Layers
import Faceted.Proofs.Settings.LayerLaws
import Faceted.Proofs.Clause.Grammar
import Faceted.Proofs.Service.Paging
import Faceted.Proofs.Query.Request
import Faceted.Proofs.Filter.Year
import Faceted.Proofs.Filter.Keys
import Faceted.Proofs.Service.Trace
import Faceted.Proofs.Response
import Faceted.Proofs.Settings.Accepted
import Faceted.Proofs.FileTree
import Faceted.Proofs.Service.Export
import Faceted.Proofs.Clause.Blame
import Faceted.Proofs.Settings.Blame
import Faceted.Proofs.Clause.Kept
import Faceted.Proofs.Journal
import Faceted.Proofs.Query.Sort
import Faceted.Proofs.Program
import Faceted.Proofs.Text.LowerCase
import Faceted.Proofs.Filter.Terms
import Faceted.Proofs.Suggestion.Include
import Faceted.Proofs.Query.Failure
import Faceted.Proofs.Settings.Timeout
import Faceted.Proofs.Clause.FirstFault
import Faceted.Proofs.Filter.Blame
import Faceted.Proofs.Settings.Change
import Faceted.Proofs.Clause.Mark
import Faceted.Proofs.Settings.Typed
import Faceted.Proofs.Filter.Parts
import Faceted.Proofs.Listing
import Faceted.Proofs.Settings.Endpoints
import Faceted.Proofs.Filter.Spelling
import Faceted.Proofs.Clause.SameDocument

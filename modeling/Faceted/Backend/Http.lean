import Faceted.Backend
import Faceted.Value.Parts
import Faceted.Template

/-!
# The backend over HTTP

How a call becomes a post to the search proxy and what a response of it means. Which statuses are
failures, and how a document is read from a response, is up to whoever posts. The address loses the
slashes at its end and the search path those at both ends, so that the parts of an address are
joined by single slashes.
-/

namespace Faceted

open Faceted.Text Faceted.Number

/-- Where the search proxy is, and how many seconds to wait for it. -/
structure HttpClient where
  apiPath : String
  searchPath : String
  timeout : Value
deriving Repr

/-- A post to the search proxy. -/
structure HttpPost where
  url : String
  body : Mapping
  timeout : Value
  /-- The name that an export is to be given. -/
  filename : Option String
deriving Repr

/-- A response of the search proxy: the fault that its status stands for if it is one of failure, the
document in it unless that cannot be read, and its bytes. -/
structure HttpResponse where
  failure : Option Fault
  payload : Except Fault Value
  content : List UInt8
deriving Repr

namespace HttpClient

/-- The headers of every post. -/
def headers : List (String × String) :=
  [("User-Agent", "facet-search/0.1"), ("Content-Type", "application/json")]

/-- The path for searches in one index. -/
def proxyPath : String := "elasticsearch/proxy_search"

/-- The client for an address and a search path. -/
def make (apiPath searchPath : String) (timeout : Value) : HttpClient :=
  ⟨String.ofList (dropTrailing '/' apiPath.toList),
    String.ofList (dropTrailing '/' (dropLeading '/' searchPath.toList)), timeout⟩

/-- The address of document searches. -/
def searchUrl (client : HttpClient) : String := client.apiPath ++ "/" ++ client.searchPath

/-- The address of searches in an index. -/
def proxyUrl (client : HttpClient) (index : String) : String :=
  client.apiPath ++ "/" ++ proxyPath ++ "/" ++ index

/-- The address of exports. -/
def exportUrl (client : HttpClient) : String := client.searchUrl ++ "/csv"

/-- The address of a call. -/
def url (client : HttpClient) : BackendCall → String
  | .search _ => client.searchUrl
  | .proxySearch index _ => client.proxyUrl index
  | .download _ _ => client.exportUrl
  | .close => ""

/-- The post that carries a call, none for the end of all calls. -/
def post? (client : HttpClient) (call : BackendCall) : Except Fault (Option HttpPost) :=
  match call with
  | .search body => do pure (some ⟨client.url call, ← body.toMapping, client.timeout, none⟩)
  | .proxySearch _ body => do pure (some ⟨client.url call, ← body.toMapping, client.timeout, none⟩)
  | .download filename body => do
    pure (some ⟨client.url call, ← body.toMapping, client.timeout, some filename⟩)
  | .close => .ok none

/-- The log records of a call. -/
def records (client : HttpClient) (call : BackendCall) : List LogRecord :=
  match call with
  | .download filename _ =>
    LogRecord.filled .debug "POST %s filename=%s" [.str (client.url call), .str filename]
  | .close => []
  | _ => LogRecord.filled .debug "POST %s" [.str (client.url call)]

/-- What a response to a call means: a failure is one of the call, an export is answered with bytes,
and any other call with a mapping. -/
def accept (client : HttpClient) (call : BackendCall) (response : HttpResponse) :
    Except Fault BackendAnswer :=
  match response.failure, call with
  | some fault, _ => .error fault
  | none, .download _ _ => .ok ⟨.null, response.content⟩
  | none, call =>
    match response.payload with
    | .error fault => .error fault
    | .ok (.map m) => .ok ⟨.map m, []⟩
    | .ok _ => .error (.unexpectedResponse (client.url call))

end HttpClient

end Faceted

import Faceted.Value

/-!
# The backend

What can be asked of the search backend and what it answers. The backend itself is not part of the
library: whoever runs an operation carries the call to it and the answer back.
-/

namespace Faceted

/-- A call of the backend. -/
inductive BackendCall where
  /-- A document search. -/
  | search (body : Value)
  /-- A search body for one index. -/
  | proxySearch (index : String) (body : Value)
  /-- An export of the documents that a body finds. -/
  | download (filename : String) (body : Value)
  /-- The end of all calls. -/
  | close
deriving Repr

/-- An answer of the backend: a document, and the bytes of an export. -/
structure BackendAnswer where
  payload : Value
  content : List UInt8
deriving Repr

end Faceted

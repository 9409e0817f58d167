import Faceted.Fault

/-!
# Tokens

The tokens of a document: indicators, names, scalars, and the marks of blocks that are opened and
closed by indentation alone. Where a document has no token the fault of it stands in the place of one.
-/

namespace Faceted.Yaml

/-- An instruction at the head of a document. -/
inductive Directive where
  /-- The version of the format. -/
  | version (major minor : Nat)
  /-- What a handle of tags stands for. -/
  | handle (handle full : String)
  /-- An instruction that nobody knows, which means nothing. -/
  | unknown
deriving DecidableEq, Repr

/-- A token. -/
inductive Token where
  | directive (directive : Directive)
  | documentStart
  | documentEnd
  | blockSequenceStart
  | blockMappingStart
  | blockEnd
  | flowSequenceStart
  | flowSequenceEnd
  | flowMappingStart
  | flowMappingEnd
  | flowEntry
  | blockEntry
  | key
  | value
  /-- The use of a name. -/
  | reference (name : String)
  /-- The naming of what follows. -/
  | anchor (name : String)
  /-- A tag, with a handle unless it is written in full. -/
  | tag (handle : Option String) (suffix : String)
  /-- A scalar, plain when it stands without quotes. -/
  | scalar (text : List Char) (plain : Bool)
  /-- What is wrong with the rest of the document. -/
  | broken (fault : Fault)
deriving DecidableEq, Repr

end Faceted.Yaml

import Faceted.Filter
import Faceted.Filter.Year
import Faceted.Wildcard

/-!
# Reading filters from a document

A filter document is a mapping from facet names to what the user wants: a term or a list of terms,
bounds of years, or free text, as the kind of the facet says. What is null is left out, and so is
blank free text. Each entry is read by itself, in order; the first fault is the one reported.

## Termination

Reading goes through the entries of the mapping.
-/

namespace Faceted.FilterState

open Faceted.Text Settings

/-- What marks a term as a substring to look for. -/
def containsMark : String := "contains:"

/-- A term as it is kept: trimmed, and encoded when it is a substring. -/
def readTerm (s : String) : String :=
  let term := trimmed s
  match stripStart? containsMark.toList term.toList with
  | some rest => Wildcard.encode (String.ofList (trim rest))
  | none => term

/-- The terms of a list, blank ones left out. -/
def readTerms (ss : List String) : List String :=
  (ss.filter fun s => !isBlankString s).map readTerm

/-- Bounds of years. Names other than the two bounds are refused. -/
def readBounds (dates : DateReader) (key : String) (v : Value) : Except Fault DateRange := do
  let bounds ← requireObject key v
  let unknown ← Mapping.namesOutside ["max", "min"] bounds
  if !unknown.isEmpty then throw (.unknownNames key .bounds unknown)
  let min ← Year.read dates (key ++ ".min") (Mapping.findOrNull "min" bounds)
  let max ← Year.read dates (key ++ ".max") (Mapping.findOrNull "max" bounds)
  pure ⟨min, max⟩

/-- The strings of a terms filter: one alone or a list. -/
def readStrings (key : String) : Value → Except Fault (List String)
  | .scalar (.str s) => .ok [s]
  | v => requireStrings key v

/-- The filter on a facet that a value stands for, none for blank free text. -/
def readValue (dates : DateReader) (spec : FieldSpec) (key : String) (v : Value) :
    Except Fault (Option FilterEntry) :=
  match spec.kind with
  | .terms => do
    let ss ← readStrings key v
    pure (some (.terms spec (readTerms ss)))
  | .dates => do
    let range ← readBounds dates key v
    pure (some (.dates spec range))
  | _ => do
    let text := trimmed (← requireString key v)
    pure (if text.isEmpty then none else some (.query spec text))

/-- The filter that an entry of a filter document stands for, none for null and blank free text. -/
def readEntry (dates : DateReader) (registry : Registry) (key : Key) (v : Value) :
    Except Fault (Option FilterEntry) :=
  match v with
  | .scalar .null => .ok none
  | v => do
    let name ← key.written
    let spec ← registry.require name
    readValue dates spec name v

/-- The filter state that a filter document stands for. -/
def read (dates : DateReader) (registry : Registry) : Mapping → Except Fault FilterState
  | [] => .ok []
  | (key, v) :: m => do
    let entry ← readEntry dates registry key v
    let state ← read dates registry m
    pure (match entry with
      | some entry => (key, entry) :: state
      | none => state)

end Faceted.FilterState

import Faceted.Calendar
import Faceted.Text.Decoding
import Faceted.Text.Quoted

/-!
# What can go wrong

One type for all causes of failure, from a wrongly shaped setting to a backend that does not answer,
with the sort of failure each cause is and the message it carries.
-/

namespace Faceted

open Faceted.Text Faceted.Number

/-- What a value was expected to be. -/
inductive Shape where
  | object
  | string
  | list
  | boolean
  | number
  | integer
  | stringList
  | yearOrDate
  | objects
deriving DecidableEq, Repr

/-- The shape in a message. -/
def Shape.phrase : Shape → String
  | .object => "an object"
  | .string => "a string"
  | .list => "a list"
  | .boolean => "a boolean"
  | .number => "a number"
  | .integer => "an integer"
  | .stringList => "a list of strings"
  | .yearOrDate => "a year or a date"
  | .objects => "an object or a list of objects"

/-- The names that may not occur in a mapping. -/
inductive NameSort where
  | operators
  | keys
  | bounds
deriving DecidableEq, Repr

/-- The names in a message. -/
def NameSort.phrase : NameSort → String
  | .operators => "operators"
  | .keys => "keys"
  | .bounds => "bounds"

/-- A rule that the settings have to keep. -/
inductive Rule where
  | logDirNamed
  | apiPathNamed
  | apiPathIsUrl
  | indexNamed
  | timeoutPositive
  | pageSizePositive
  | fulltextFieldsNamed
  | someFacet
  | facetFieldNamed (facet : String)
  | facetFieldDotInside (facet : String)
  | sortLabelsUnique
deriving DecidableEq, Repr

/-- What a rule says. -/
def Rule.phrase : Rule → String
  | .logDirNamed => "log.dir must not be empty when log.to_file is set"
  | .apiPathNamed => "backend.api_path must not be empty"
  | .apiPathIsUrl => "backend.api_path must be an http(s) URL"
  | .indexNamed => "backend.index must not be empty"
  | .timeoutPositive => "backend.timeout must be positive"
  | .pageSizePositive => "backend.pagination_size must be positive"
  | .fulltextFieldsNamed => "backend.fulltext_fields must include at least one field"
  | .someFacet => "facets must include at least one facet"
  | .facetFieldNamed facet => "facets." ++ facet ++ ".field must not be empty"
  | .facetFieldDotInside facet => "facets." ++ facet ++ ".field must not start or end with a dot"
  | .sortLabelsUnique => "sorts labels must be unique"

/-- Why a file cannot be read or written. -/
inductive FileFault where
  | missing
  | exists
  | isDirectory
  | notDirectory
  /-- A name, or the path, is too long. -/
  | tooLong
  /-- The path has a character in it that no path has. -/
  | unusable
deriving DecidableEq, Repr

/-- A cause of failure. -/
inductive Fault where
  /-- The value at a key has not the expected shape. -/
  | wrongShape (key : String) (wanted : Shape)
  /-- A clause names no field. -/
  | noFieldName (key : String)
  /-- A facet is named by something other than a string. -/
  | facetNotNamed
  /-- A value has no parts to go through. -/
  | notIterable (className : String)
  /-- A value is no number. -/
  | notNumeric (className : String)
  /-- A value has no JSON text. -/
  | notWritable (className : String)
  /-- The key of a mapping has no JSON text. -/
  | keyNotWritable (className : String)
  /-- A part of a list is no pair, since it has no parts itself. -/
  | partNotPair (index : Nat)
  /-- A value cannot be a key. -/
  | notKey (className : String)
  /-- A part of a list is no pair, since it has another length. -/
  | pairLength (index length : Nat)
  /-- A required key is absent. -/
  | missing (key : String)
  /-- A clause is no mapping with one entry. -/
  | clauseCount (key : String)
  /-- A clause type is not known. -/
  | unknownClause (key type : String)
  /-- A clause does not name exactly one field. -/
  | fieldCount (key : String)
  /-- A nested clause has no path. -/
  | noPath (key : String)
  /-- A mapping has names it may not have. -/
  | unknownNames (key : String) (sort : NameSort) (names : List String)
  /-- A choice is not among the allowed ones. -/
  | notAmong (key : String) (choices : List String)
  /-- A label is empty. -/
  | emptyLabel (key : String)
  /-- The settings break a rule. -/
  | rule (rule : Rule)
  | unknownFacet (key : String)
  | unknownSort (label : String)
  /-- A text is no date. -/
  | notDate (key text : String)
  /-- A date or moment does not exist. -/
  | calendar (fault : CalendarFault)
  /-- A text is no integer in the base. -/
  | notInteger (base : Nat) (text : String)
  /-- A text is no double. -/
  | notDouble (text : String)
  /-- A text has too many digits. -/
  | tooManyDigits (count : Nat)
  /-- An integer has too many digits to be written. -/
  | tooLongToWrite
  /-- What is not a number has no integer part. -/
  | notANumber
  /-- Infinity has no integer part. -/
  | infiniteInteger
  /-- An integer is beyond the doubles. -/
  | beyondDoubles
  /-- A value does not carry the wildcard mark. -/
  | notWildcard (value : String)
  /-- The kind of an entry is not that of its facet. -/
  | kindMismatch (field kind facetKind : String)
  /-- The value of an entry does not fit its kind. -/
  | invalidValue (field kind value : String)
  | noHits
  | noAggregations
  | noNestedAggregation (path : String)
  | noBuckets (field : String)
  | pageTooSmall
  | limitTooSmall
  | notTermsFacet (key : String)
  | unexpectedResponse (url : String)
  /-- The root of a file is no mapping. -/
  | rootNotMapping (path : String)
  /-- The backend did not answer as it should. -/
  | transport (message : String)
  | file (fault : FileFault)
  /-- No character has the number. -/
  | noSuchCharacter (n : Nat)
  /-- A text under the tag of a moment is none. -/
  | notMoment
  /-- A mapping under the tag of a moment, which only a text can be read as. -/
  | mappingNotMoment
  /-- Bytes are no text. -/
  | undecodable (fault : DecodingFault)
  /-- A text is no well-formed document. -/
  | malformedDocument
  /-- A key is not in the registry, or a word not among those that mean something. -/
  | noSuchKey (key : String)
  /-- A part at a position that is not there was asked for. -/
  | outOfRange
  /-- A decimal number needs more digits than are kept. -/
  | tooPrecise
  /-- A value holds itself, or is too deep, where it would have to be gone through. -/
  | endless
  /-- A value that holds itself has no JSON text. -/
  | circular
deriving DecidableEq, Repr

/-- The sort of a failure, which decides who may catch it. -/
inductive FaultSort where
  | type
  | value
  | wildcard
  | kind
  | transport
  | overflow
  | file (fault : FileFault)
  | encoding
  | document
  | key
  | index
  | attribute
  | precision
  | depth
deriving DecidableEq, Repr

namespace Fault

/-- The sort of a cause. -/
def sort : Fault → FaultSort
  | .wrongShape .. | .noFieldName _ | .facetNotNamed | .notIterable _ | .notNumeric _
  | .notWritable _ | .keyNotWritable _ | .partNotPair _ | .notKey _ | .mappingNotMoment => .type
  | .notWildcard _ => .wildcard
  | .kindMismatch .. | .invalidValue .. => .kind
  | .transport _ => .transport
  | .infiniteInteger | .beyondDoubles => .overflow
  | .file .unusable => .value
  | .file f => .file f
  | .noSuchCharacter n => if n < Nat.pow 2 31 then .value else .overflow
  | .notMoment => .attribute
  | .undecodable _ => .encoding
  | .malformedDocument => .document
  | .noSuchKey _ => .key
  | .outOfRange => .index
  | .tooPrecise => .precision
  | .endless => .depth
  | _ => .value

/-- A cause in quotes, cut off after two hundred characters. -/
def quotedCut (s : String) : String := String.ofList ((quoted s.toList).take 200)

/-- The message about a date or moment that does not exist. -/
def calendarMessage : CalendarFault → String
  | .year n => "year " ++ String.ofList (natText n) ++ " is out of range"
  | .month => "month must be in 1..12"
  | .day => "day is out of range for month"
  | .hour => "hour must be in 0..23"
  | .minute => "minute must be in 0..59"
  | .second => "second must be in 0..59"
  | .ahead seconds =>
    let days := seconds.fdiv 86400
    let rest := seconds.fmod 86400
    let parts := "days=" ++ intString days ++
      (if rest = 0 then "" else ", seconds=" ++ intString rest)
    "offset must be a timedelta strictly between -timedelta(hours=24) and " ++
      "timedelta(hours=24), not datetime.timedelta(" ++ parts ++ ")."

/-- The message about bytes that are no text. -/
def decodingMessage (f : DecodingFault) : String :=
  let place := if f.stop = f.position + 1 then
      "byte 0x" ++ String.ofList (hexText 2 f.first.toNat) ++ " in position " ++
        String.ofList (natText f.position)
    else "bytes in position " ++ String.ofList (natText f.position) ++ "-" ++
      String.ofList (natText (f.stop - 1))
  let reason := match f.reason with
    | .start => "invalid start byte"
    | .continuation => "invalid continuation byte"
    | .ended => "unexpected end of data"
  "'utf-8' codec can't decode " ++ place ++ ": " ++ reason

/-- The message of a cause. -/
def message : Fault → String
  | .wrongShape key wanted => key ++ " must be " ++ wanted.phrase
  | .noFieldName key => key ++ " field name must be a non-empty string"
  | .facetNotNamed => "facets keys must be strings"
  | .notIterable c => "'" ++ c ++ "' object is not iterable"
  | .notNumeric c =>
    "int() argument must be a string, a bytes-like object or a real number, not '" ++ c ++ "'"
  | .notWritable c => "Object of type " ++ c ++ " is not JSON serializable"
  | .keyNotWritable c => "keys must be str, int, float, bool or None, not " ++ c
  | .partNotPair i =>
    "cannot convert dictionary update sequence element #" ++ String.ofList (natText i) ++
      " to a sequence"
  | .notKey c => "unhashable type: '" ++ c ++ "'"
  | .pairLength i n =>
    "dictionary update sequence element #" ++ String.ofList (natText i) ++ " has length " ++
      String.ofList (natText n) ++ "; 2 is required"
  | .missing key => "Missing required config: " ++ key
  | .clauseCount key => key ++ " must contain exactly one clause type"
  | .unknownClause key type => key ++ " has unsupported clause type: " ++ type
  | .fieldCount key => key ++ " must target exactly one field"
  | .noPath key => key ++ ".path must be a non-empty string"
  | .unknownNames key sort names =>
    key ++ " has unknown " ++ sort.phrase ++ ": " ++ quotedList names
  | .notAmong key choices => key ++ " must be one of " ++ quotedList choices
  | .emptyLabel key => key ++ ".label must not be empty"
  | .rule r => r.phrase
  | .unknownFacet key => "Unknown facet: " ++ key
  | .unknownSort label => "Unknown sort: " ++ label
  | .notDate key text => key ++ " is not a valid date: " ++ text
  | .calendar f => calendarMessage f
  | .notInteger base text =>
    "invalid literal for int() with base " ++ String.ofList (natText base) ++ ": " ++ quotedCut text
  | .notDouble text => "could not convert string to float: " ++ quotedString text
  | .tooManyDigits n =>
    "Exceeds the limit (4300 digits) for integer string conversion: value has " ++
      String.ofList (natText n) ++ " digits; use sys.set_int_max_str_digits() to increase the limit"
  | .tooLongToWrite =>
    "Exceeds the limit (4300 digits) for integer string conversion; " ++
      "use sys.set_int_max_str_digits() to increase the limit"
  | .notANumber => "cannot convert float NaN to integer"
  | .infiniteInteger => "cannot convert float infinity to integer"
  | .beyondDoubles => "int too large to convert to float"
  | .notWildcard value => "Not a wildcard value: " ++ quotedString value
  | .kindMismatch field kind facetKind =>
    "Filter on " ++ field ++ " has kind " ++ quotedString kind ++ " but its facet is " ++
      quotedString facetKind
  | .invalidValue field kind value =>
    "Filter on " ++ field ++ " has an invalid " ++ kind ++ " value: " ++ value
  | .noHits => "Search response has no hits"
  | .noAggregations => "Suggestion response has no aggregations"
  | .noNestedAggregation path => "Suggestion response has no nested aggregation: " ++ path
  | .noBuckets field => "Suggestion response has no buckets for " ++ field
  | .pageTooSmall => "page must be >= 1"
  | .limitTooSmall => "limit must be positive"
  | .notTermsFacet key => "Facet " ++ key ++ " is not a terms facet"
  | .unexpectedResponse url => "Unexpected response from " ++ url ++ ": expected a JSON object"
  | .rootNotMapping path => path ++ ": root must be a mapping"
  | .transport m => m
  | .file .missing => "No such file or directory"
  | .file .exists => "File exists"
  | .file .isDirectory => "Is a directory"
  | .file .notDirectory => "Not a directory"
  | .file .tooLong => "File name too long"
  | .file .unusable => "embedded null byte"
  | .noSuchCharacter n => if n < Nat.pow 2 31 then "chr() arg not in range(0x110000)"
    else "Python int too large to convert to C int"
  | .notMoment => "'NoneType' object has no attribute 'groupdict'"
  | .mappingNotMoment => "expected string or bytes-like object, got 'list'"
  | .undecodable f => decodingMessage f
  | .malformedDocument => "malformed document"
  | .noSuchKey key => quotedString key
  | .outOfRange => "string index out of range"
  | .tooPrecise => "[<class 'decimal.DivisionImpossible'>]"
  | .endless => "maximum recursion depth exceeded"
  | .circular => "Circular reference detected"

/-- The fault of a text that is no integer in base ten. -/
def ofIntFault (text : String) : IntFault → Fault
  | .malformed => .notInteger 10 text
  | .tooLong n => .tooManyDigits n

end Fault

end Faceted

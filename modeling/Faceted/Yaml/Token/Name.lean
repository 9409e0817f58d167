import Faceted.Fault
import Faceted.Yaml.Token
import Faceted.Yaml.Cursor

/-!
# Names, tags and directives

A name says which node is meant; a tag says how a node is to be read, in full or by a handle and
what follows it; a directive stands at the head of a document, by itself on its line.

## Termination

All loops run over the rest of the document.
-/

namespace Faceted.Yaml

open Faceted.Text Faceted.Number

/-! ## Names -/

/-- What may follow a name directly. -/
def afterName : List Char := ['?', ':', ',', ']', '\x7d', '%', '@', Char.ofNat 0x60]

/-- Reads the name after the indicator here, and the place after it. -/
def scanName (cursor : Cursor) : Except Fault (String × Cursor) :=
  let rest := cursor.rest.drop 1
  let name := rest.takeWhile isNameChar
  let after := rest.drop name.length
  if name.isEmpty || !(atBlank after || (after.head?.map afterName.contains).getD false) then
    .error .malformedDocument
  else .ok (String.ofList name, cursor.skip (name.length + 1))

/-! ## Tags -/

/-- The characters of a tag beside letters and digits. -/
def tagChars : List Char := "-;/?:@&=+$,_.!~*'()[]".toList

/-- The text of bytes that were written as escapes. -/
def escapedText (bytes : List UInt8) : Except Fault (List Char) :=
  match String.fromUTF8? ⟨bytes.toArray⟩ with
  | some s => .ok s.toList
  | none => .error .malformedDocument

/-- Reads the characters of a tag, in which bytes may be written as a percent sign and two
hexadecimal digits. `bytes` are those of the escapes just read. -/
def tagText (bytes : List UInt8) : List Char → Except Fault (List Char × List Char)
  | '%' :: a :: b :: cs =>
    match readNat? 16 [a, b] with
    | some n => tagText (bytes ++ [UInt8.ofNat n]) cs
    | none => .error .malformedDocument
  | c :: cs =>
    if c.isAlphanum || tagChars.contains c then do
      let escaped ← escapedText bytes
      let (text, rest) ← tagText [] cs
      pure (escaped ++ c :: text, rest)
    else if c = '%' then .error .malformedDocument
    else do pure (← escapedText bytes, c :: cs)
  | [] => do pure (← escapedText bytes, [])

/-- Reads the characters of a tag, of which there must be some. -/
def scanTagText (cs : List Char) : Except Fault (String × List Char) := do
  let (text, rest) ← tagText [] cs
  if rest.length = cs.length then .error .malformedDocument
  else pure (String.ofList text, rest)

/-- Reads the handle of a tag: an exclamation mark, alone if a space follows, else with a name and
another exclamation mark. -/
def scanHandle : List Char → Except Fault (String × List Char)
  | '!' :: ' ' :: cs => .ok ("!", ' ' :: cs)
  | '!' :: cs =>
    let name := cs.takeWhile isNameChar
    match cs.drop name.length with
    | '!' :: rest => .ok (String.ofList ('!' :: name ++ ['!']), rest)
    | _ => .error .malformedDocument
  | _ => .error .malformedDocument

/-- Reads the tag that begins here: its handle, what follows the handle, and the place after it. -/
def scanTag (cursor : Cursor) : Except Fault (Option String × String × Cursor) := do
  let cs := cursor.rest.drop 1
  let (handle, suffix, rest) ←
    if cs.head? = some '<' then do
      let (suffix, rest) ← scanTagText (cs.drop 1)
      if rest.head? = some '>' then pure (none, suffix, rest.drop 1)
      else .error .malformedDocument
    else if atBlank cs then pure (none, "!", cs)
    else if (cs.takeWhile fun c => !(c = ' ' || isBreak c)).contains '!' then do
      let (handle, rest) ← scanHandle cursor.rest
      let (suffix, rest) ← scanTagText rest
      pure (some handle, suffix, rest)
    else do
      let (suffix, rest) ← scanTagText cs
      pure (some "!", suffix, rest)
  if atSpace rest then pure (handle, suffix, cursor.skipTo rest)
  else .error .malformedDocument

/-! ## Directives -/

/-- Reads a number of a version. -/
def versionNumber (cs : List Char) : Except Fault (Nat × List Char) :=
  let digits := cs.takeWhile Char.isDigit
  if digitLimit < digits.length then .error (.tooManyDigits digits.length)
  else match readNat? 10 digits with
    | some n => .ok (n, cs.drop digits.length)
    | none => .error .malformedDocument

/-- Reads the value of a directive with a name, and what follows it. -/
def directiveValue (name : String) (cs : List Char) : Except Fault (Directive × List Char) := do
  let value := cs.dropWhile (· = ' ')
  if name = "YAML" then
    let (major, rest) ← versionNumber value
    if rest.head? ≠ some '.' then .error .malformedDocument
    else
      let (minor, rest) ← versionNumber (rest.drop 1)
      if atSpace rest then pure (.version major minor, rest) else .error .malformedDocument
  else if name = "TAG" then
    let (handle, rest) ← scanHandle value
    if rest.head? ≠ some ' ' then .error .malformedDocument
    else
      let (full, rest) ← scanTagText (rest.dropWhile (· = ' '))
      if atSpace rest then pure (.handle handle full, rest) else .error .malformedDocument
  else pure (.unknown, cs.dropWhile (!isBreak ·))

/-- Reads the directive that begins here with its line, on which a comment may follow, and gives the
place after that line. -/
def scanDirective (cursor : Cursor) : Except Fault (Directive × Cursor) := do
  let cs := cursor.rest.drop 1
  let name := cs.takeWhile isNameChar
  let rest := cs.drop name.length
  if name.isEmpty || !atSpace rest then .error .malformedDocument
  else
    let (directive, rest) ← directiveValue (String.ofList name) rest
    let rest := rest.dropWhile (· = ' ')
    let rest := if rest.head? = some '#' then rest.dropWhile (!isBreak ·) else rest
    if atLineEnd rest then pure (directive, cursor.skipTo (rest.drop 1))
    else .error .malformedDocument

end Faceted.Yaml

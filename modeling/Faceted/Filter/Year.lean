import Faceted.DateReader
import Faceted.Number.Integer
import Faceted.Settings.Check

/-!
# Bounds of years

A bound can be an integer, a date, a text of digits or a date in free text; all of them become a
year of at least four digits. Text made of digits is a year as it stands, however long it is.
-/

namespace Faceted.Year

open Faceted.Text Faceted.Number

/-- A year in at least four characters. -/
def write (n : Int) : String := String.ofList (intTextPadded 4 n)

/-- The year of a trimmed text that is not empty. -/
def ofText (dates : DateReader) (key text : String) : Except Fault String :=
  if text.toList.all isDigit then
    match readInt text.toList with
    | .ok n => .ok (write n)
    | .error f => .error (.ofIntFault text f)
  else
    match dates text with
    | .ok n => .ok (write n)
    | .error .noDate | .error .outOfRange => .error (.notDate key text)
    | .error (.failed fault) => .error fault

/-- The year that a value stands for, none for null and for blank text. -/
def read (dates : DateReader) (key : String) : Value → Except Fault (Option String)
  | .scalar .null => .ok none
  | .scalar (.bool _) => .error (.wrongShape key .yearOrDate)
  | .scalar (.int n) => if exceedsDigits n then .error .tooLongToWrite else .ok (some (write n))
  | .scalar (.date d) => .ok (some (write d.year))
  | .scalar (.moment m) => .ok (some (write m.date.year))
  | .scalar (.str s) =>
    let text := trimmed s
    if text.isEmpty then .ok none else (ofText dates key text).map some
  | _ => .error (.wrongShape key .string)

/-- Text that is not blank is read as the year of what is left without the blanks around it. -/
theorem read_str {dates : DateReader} {s : String} (hne : trimmed s ≠ "") (key : String) :
    read dates key (.str s) = (ofText dates key (trimmed s)).map some := by
  have hfilled : (trimmed s).isEmpty = false := by simpa using hne
  simp only [read, hfilled, Bool.false_eq_true, if_false]

end Faceted.Year

import Faceted.Fault

/-!
# Readers of dates

What reads dates in free text is not part of the library: whoever reads filters brings a reader along. It
gives the year of the date that a text stands for. A text may be no date, or one that no calendar holds;
whatever else goes wrong with a reader is passed on.
-/

namespace Faceted

/-- Why a reader of dates has no year for a text. -/
inductive DateRefusal where
  /-- The text is no date. -/
  | noDate
  /-- The date is too far away to be held. -/
  | outOfRange
  /-- The reader itself has failed. -/
  | failed (fault : Fault)
deriving DecidableEq, Repr

/-- A reader of dates: the year of the date that a text stands for. -/
abbrev DateReader := String → Except DateRefusal Nat

end Faceted

import Faceted.DateText
import Faceted.Proofs.Filter.Reading
import Faceted.Proofs.Settings.Accepted
import Mathlib.Data.List.Forall2

/-!
# Terms from a document to the query

A string of a filter document goes through four steps before it is a clause: it is trimmed, looked at for the
mark of a part, encoded as a marked substring if it has one, and decoded again by the compiler. `AsksFor` says
which clause a string stands for without any of them, and `asksFor_iff` that the four steps make this
clause and no other, unless the string is written like a marked substring itself.

So the filter of a list of strings compiles to a choice between the clauses of those that are not blank, in the
same order, and to no clause at all if all of them are blank (`strings_compile_in_order`).
-/

namespace Faceted

open Text Settings Compiler

namespace FilterState

/-! ## One string -/

/-- The clause that a string of a filter document stands for on a field: a pattern around the part that comes
after the mark, both without blanks at their ends, or the exact term without blanks at its ends. -/
inductive AsksFor (field s : String) : Clause Value → Prop where
  | holding {rest part : String} (marked : Trims s ("contains:" ++ rest)) (trims : Trims rest part) :
    AsksFor field s (.wildcard (field ++ ".raw") ("*" ++ part ++ "*") true)
  | exactly {term : String} (trims : Trims s term) (unmarked : ∀ rest, term ≠ "contains:" ++ rest) :
    AsksFor field s (.terms (field ++ ".raw") [term])

/-- The string is written like a marked substring. -/
def IsReserved (s : String) : Prop := ∃ raw, Trims s ("WILDCARD:" ++ raw)

theorem isReserved_iff {s : String} : IsReserved s ↔ (Wildcard.decode? (trimmed s)).isSome = true := by
  rw [Option.isSome_iff_exists, IsReserved]
  simp only [Wildcard.decode?_eq_some_iff, ← trimmed_eq_iff]
  rfl

theorem readTerm_of_marked {s rest : String} (h : trimmed s = "contains:" ++ rest) :
    readTerm s = Wildcard.encode (trimmed rest) := by
  have hstrip : stripStart? containsMark.toList (trimmed s).toList = some rest.toList := by
    rw [h, String.toList_append]
    exact stripStart?_append _ _
  rw [readTerm, hstrip]
  rfl

theorem readTerm_of_unmarked {s : String} (h : ∀ rest, trimmed s ≠ "contains:" ++ rest) :
    readTerm s = trimmed s := by
  have hstrip : stripStart? containsMark.toList (trimmed s).toList = none := by
    rw [Option.eq_none_iff_forall_ne_some]
    intro rest hrest
    refine h (String.ofList rest) ?_
    rw [← String.toList_inj, eq_append_of_stripStart? hrest]
    simp [containsMark]
  rw [readTerm, hstrip]

/-- **The clause of a string as it is read is the one that the string stands for, and no other.** -/
theorem asksFor_iff {field s : String} (hs : ¬IsReserved s) {clause : Clause Value} :
    AsksFor field s clause ↔ clause = termClause field (readTerm s) := by
  have hplain : Wildcard.decode? (trimmed s) = none := by
    rw [isReserved_iff] at hs
    simpa using hs
  by_cases h : ∃ rest, trimmed s = "contains:" ++ rest
  · obtain ⟨rest, h⟩ := h
    rw [readTerm_of_marked h, termClause, Wildcard.decode?_encode]
    constructor
    · rintro (⟨marked, trims⟩ | ⟨trims, unmarked⟩)
      · rw [← trimmed_eq_iff, h, ← String.toList_inj] at marked
        obtain rfl : rest = _ := by simpa [← String.toList_inj] using marked
        rw [trimmed_eq_iff.mpr trims]
        rfl
      · rw [← trimmed_eq_iff] at trims
        exact absurd (trims.symm.trans h) (unmarked rest)
    · rintro rfl
      exact .holding (trimmed_eq_iff.mp h) (trimmed_eq_iff.mp rfl)
  · have hunmarked : ∀ rest, trimmed s ≠ "contains:" ++ rest := fun rest he => h ⟨rest, he⟩
    rw [readTerm_of_unmarked hunmarked, termClause, hplain]
    constructor
    · rintro (⟨marked, -⟩ | ⟨trims, -⟩)
      · exact absurd (trimmed_eq_iff.mpr marked) (hunmarked _)
      · rw [trimmed_eq_iff.mpr trims]
        rfl
    · rintro rfl
      exact .exactly (trimmed_eq_iff.mp rfl) hunmarked

/-! ## The strings of a filter -/

/-- The strings that are not blank. -/
def notBlank (ss : List String) : List String := ss.filter fun s => ¬AllBlank s.toList

theorem readTerms_eq (ss : List String) : readTerms ss = (notBlank ss).map readTerm := by
  have hblank : (fun s => !isBlankString s) = fun s => decide (¬AllBlank s.toList) := by
    funext s
    rw [Bool.eq_iff_iff, Bool.not_eq_true', decide_eq_true_iff, ← isBlankString_iff,
      Bool.not_eq_true]
  rw [readTerms, notBlank, hblank]

theorem notBlank_eq_nil_iff {ss : List String} : notBlank ss = [] ↔ ∀ s ∈ ss, AllBlank s.toList := by
  simp [notBlank, List.filter_eq_nil_iff]

/-- The strings that are not blank stand for the clauses of the terms that are read, one by one. -/
theorem forall₂_asksFor_iff {field : String} {ss : List String} (h : ∀ s ∈ ss, ¬IsReserved s)
    {clauses : List (Clause Value)} :
    List.Forall₂ (AsksFor field) (notBlank ss) clauses ↔
      clauses = (readTerms ss).map (termClause field) := by
  rw [readTerms_eq]
  have hkept : ∀ s ∈ notBlank ss, ¬IsReserved s := fun s hs => h s (List.mem_filter.mp hs).1
  generalize notBlank ss = kept at hkept
  induction kept generalizing clauses with
  | nil => simp
  | cons s kept ih =>
    obtain ⟨hs, hkept⟩ := List.forall_mem_cons.mp hkept
    simp only [List.forall₂_cons_left_iff, asksFor_iff hs, ih hkept, List.map_cons,
      exists_and_left, exists_eq_left]

/-! ## The filter -/

/-- A value of a terms facet is a string or a list of strings. -/
inductive IsStrings : Value → List String → Prop where
  | one (s : String) : IsStrings (.str s) [s]
  | list (ss : List String) : IsStrings (.strs ss) ss

theorem readEntry_of_ne_null (dates : DateReader) (registry : Registry) (key : Key) {v : Value}
    (hv : v ≠ .scalar .null) :
    readEntry dates registry key v =
      key.written >>= fun name => registry.require name >>= fun spec => readValue dates spec name v := by
  unfold readEntry
  split
  · exact absurd rfl hv
  · rfl

theorem readEntry_of_isStrings (dates : DateReader) {registry : Registry} {key : Key} {name : String}
    {spec : FieldSpec} (hname : key.written = .ok name) (hspec : registry.find? name = some spec)
    (hkind : spec.kind = .terms) {v : Value} {ss : List String} (hv : IsStrings v ss) :
    readEntry dates registry key v = .ok (some (.terms spec (readTerms ss))) := by
  have hstrings : readStrings name v = .ok ss := by
    cases hv with
    | one s => rfl
    | list => exact requireStringItems_strs name ss 0
  have hvalue : readValue dates spec name v = .ok (some (.terms spec (readTerms ss))) := by
    rw [readValue, hkind]
    simp only [hstrings, ok_bind]
    rfl
  have hrequire : registry.require name = .ok spec := Registry.require_eq_ok_iff.mpr hspec
  have hnull : v ≠ .scalar .null := by cases hv <;> simp [Value.strs]
  rw [readEntry_of_ne_null dates registry key hnull, hname, ok_bind, hrequire, ok_bind, hvalue]

/-- What an entry of a document is read as is in the state that the whole document is read as. -/
theorem mem_of_readEntry {dates : DateReader} {registry : Registry} {key : Key} {v : Value} {entry : FilterEntry}
    (he : readEntry dates registry key v = .ok (some entry)) {m : Mapping} {state : FilterState}
    (hm : (key, v) ∈ m) (h : read dates registry m = .ok state) : (key, entry) ∈ state := by
  induction m generalizing state with
  | nil => cases hm
  | cons named m ih =>
    obtain ⟨first, rest, hfirst, hrest, rfl⟩ := read_cons_eq_ok h
    rcases List.mem_cons.mp hm with rfl | hm
    · obtain rfl := Except.ok.inj (he.symm.trans hfirst)
      exact List.mem_append_left _ (by simp)
    · exact List.mem_append_right _ (ih hm hrest)

/--
**The strings of a terms filter compile in order.**

A string or a list of strings for a terms facet is read as a filter, whatever the strings are, and that filter
is in the state of every document that can be read and has the entry. If all strings are blank, the
filter has no clause. Otherwise its clause is a choice between those of the strings that are not blank, in
the order of the document, inside of the extra clause and the nested object of the facet. The text after the
mark of a part is taken as it stands, also when it begins with that mark or with the one of a substring.
-/
theorem strings_compile_in_order (dates : DateReader) {registry : Registry} {key : Key} {name : String}
    {spec : FieldSpec} (hname : key.written = .ok name) (hspec : registry.find? name = some spec)
    (hkind : spec.kind = .terms) {v : Value} {ss : List String} (hv : IsStrings v ss)
    (hreserved : ∀ s ∈ ss, ¬IsReserved s) :
    ∃ entry, readEntry dates registry key v = .ok (some entry) ∧
      (∀ m state, (key, v) ∈ m → read dates registry m = .ok state → (key, entry) ∈ state) ∧
      ∀ compiler : Compiler,
        (compiler.compileOne entry.spec.field entry = .ok none ↔ ∀ s ∈ ss, AllBlank s.toList) ∧
        ((∃ s ∈ ss, ¬AllBlank s.toList) → ∃ clauses,
          List.Forall₂ (AsksFor spec.field) (ss.filter fun s => ¬AllBlank s.toList) clauses ∧
          compiler.compileOne entry.spec.field entry
            = .ok (some (inScope spec.field (withExtra spec.extra (.bool [] clauses))))) := by
  have hread := readEntry_of_isStrings dates hname hspec hkind hv
  refine ⟨_, hread, fun m state hm h => mem_of_readEntry hread hm h, fun compiler => ?_⟩
  have hempty : readTerms ss = [] ↔ ∀ s ∈ ss, AllBlank s.toList := by
    rw [readTerms_eq, List.map_eq_nil_iff, notBlank_eq_nil_iff]
  have hone := compiler.compileOne_terms hkind (readTerms ss)
  constructor
  · change compiler.compileOne spec.field _ = _ ↔ _
    rw [hone, ← hempty]
    by_cases h : readTerms ss = [] <;> simp [h]
  · rintro ⟨s, hs, hblank⟩
    refine ⟨_, (forall₂_asksFor_iff hreserved).mpr rfl, hone.trans ?_⟩
    rw [if_neg fun h => hblank (hempty.mp h s hs)]

/-- A term among blanks, a blank string, and two parts that begin with a mark themselves. -/
theorem strings_compile_in_order_marks :
    let dates : DateReader := DateText.reader 2025
    let party : FieldSpec :=
      ⟨"persons.party", .terms, .countDescending, some (.term "persons.type" "mp"), none⟩
    let registry : Registry := ⟨[("party", party)]⟩
    let ss := [" PS ", "\t", "contains: WILDCARD:x ", "contains:contains:y"]
    let clauses : List (Clause Value) := [.terms "persons.party.raw" ["PS"],
      .wildcard "persons.party.raw" "*WILDCARD:x*" true, .wildcard "persons.party.raw" "*contains:y*" true]
    registry.find? "party" = some party ∧ (∀ s ∈ ss, ¬IsReserved s) ∧
      ∃ entry, readEntry dates registry (.str "party") (.strs ss) = .ok (some entry) ∧
        ∀ compiler : Compiler, compiler.compileOne entry.spec.field entry = .ok (some
          (.nested "persons" (.bool [.bool [] clauses, .term "persons.type" "mp"] []))) := by
  intro dates party registry ss clauses
  have hfind : registry.find? "party" = some party := by simp [registry, Registry.find?]
  have hreserved : ∀ s ∈ ss, ¬IsReserved s := by
    intro s hs
    rw [isReserved_iff]
    revert s
    decide +kernel
  obtain ⟨entry, hread, -, h⟩ :=
    strings_compile_in_order dates (Key.written_str "party") hfind rfl (.list ss) hreserved
  refine ⟨hfind, hreserved, entry, hread, fun compiler => ?_⟩
  obtain ⟨found, hfound, hone⟩ := (h compiler).2 ⟨" PS ", by decide +kernel, by decide +kernel⟩
  have hclauses : found = clauses := ((forall₂_asksFor_iff hreserved).mp hfound).trans rfl
  have hpath : nestedPath "persons.party" = some "persons" := by decide
  rw [hone, hclauses]
  simp [party, inScope, withExtra, hpath, Clause.mapBounds]

end FilterState

end Faceted

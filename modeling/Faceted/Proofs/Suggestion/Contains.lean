import Faceted.Proofs.Pattern.Glob
import Faceted.Proofs.Pattern.Regexp
import Faceted.Proofs.Query.Meaning
import Faceted.Proofs.Suggestion.OwnFilter

/-!
# The two filters by typed text

A request with typed text narrows the documents by a wildcard pattern on the facet, and the list of
values by a regular expression. Both are meant for the values that hold the text, in either case.

The regular expression asks for just these (`accepts_includePattern_iff_holds`), since every character
that is special in a class is quoted. The pattern takes the text as it is: its stars, question marks and
backslashes mean there what they mean in a pattern. So the two filters agree on every value exactly when
the text has none of these (`filters_agree_iff_no_special`).
-/

namespace Faceted

open Faceted.Text

/-! ## The clause of an override -/

namespace Compiler

variable {compiler : Compiler}

/-- Entries are compiled one after the other. -/
theorem compileEach_append (entries more : List FilterEntry) :
    compiler.compileEach (entries ++ more) = (do
      let clauses ← compiler.compileEach entries
      let rest ← compiler.compileEach more
      pure (clauses ++ rest)) := by
  induction entries with
  | nil =>
    rw [List.nil_append, compileEach, ok_bind]
    cases compiler.compileEach more <;> rfl
  | cons entry entries ih =>
    rw [List.cons_append, compileEach, compileEach, ih]
    cases compiler.compileOne entry.spec.field entry with
    | error fault => rfl
    | ok clause =>
      cases compiler.compileEach entries with
      | error fault => rfl
      | ok clauses =>
        cases compiler.compileEach more with
        | error fault => rfl
        | ok rest =>
          simp only [ok_bind, pure, Except.pure, List.append_assoc]

/-- An override that compiles to a clause puts it after those of the filters on other facets. -/
theorem compile_override {override : FilterEntry} {clause : Clause Value}
    (h : compiler.compileOne override.spec.field override = .ok (some clause)) (state : FilterState) :
    compiler.compile state (some override)
      = (compiler.compileEach (Suggestion.othersOf override.spec state)).map
          fun others => conjunction (others ++ [clause]) := by
  have hone : compiler.compileEach [override] = .ok [clause] := by
    rw [compileEach, h, compileEach]
    rfl
  rw [compile, Suggestion.effective_some_eq, compileEach_append, hone]
  cases compiler.compileEach (Suggestion.othersOf override.spec state) <;> rfl

/-- The clause of one marked substring: a wildcard pattern on the untokenised sub-field. -/
theorem compileOne_marked {facet : FieldSpec} (hk : facet.kind = .terms) (text : String) :
    compiler.compileOne facet.field (.terms facet [Wildcard.encode text])
      = .ok (some (inScope facet.field (withExtra facet.extra
          (.bool [] [.wildcard (rawField facet.field) ("*" ++ text ++ "*") true])))) := by
  rw [compiler.compileOne_terms hk, if_neg (by simp), List.map_singleton, termClause,
    Wildcard.decode?_encode]

end Compiler

namespace Suggestion

open Compiler

/-! ## The regular expression -/

/-- Characters that are forms of those of an ASCII text are the text in either case. -/
theorem forall₂_forms_iff {cs middle : List Char} (hcs : IsAscii cs) (hmiddle : IsAscii middle) :
    List.Forall₂ (fun c d => d ∈ c.toLower :: upperChar c.toLower) cs middle ↔
      middle.map Char.toLower = cs.map Char.toLower := by
  induction cs generalizing middle with
  | nil => simp
  | cons c cs ih =>
    cases middle with
    | nil => simp
    | cons d middle =>
      obtain ⟨hc, hcs⟩ := List.forall_mem_cons.mp hcs
      obtain ⟨hd, hmiddle⟩ := List.forall_mem_cons.mp hmiddle
      rw [List.forall₂_cons, mem_forms_iff hc hd, ih hcs hmiddle, List.map_cons, List.map_cons,
        List.cons.injEq]

/-- **The regular expression of an ASCII text matches the ASCII values that hold it, in either case.** -/
theorem accepts_includePattern_iff_holds {text value : String} (ht : IsAscii text.toList)
    (hv : IsAscii value.toList) :
    Regexp.Accepts (includePattern text) value ↔ Glob.Holds text.toList value.toList := by
  rw [Regexp.accepts_includePattern_iff, lower_ascii ht, Glob.Holds]
  simp only [List.forall₂_map_left_iff]
  refine exists₃_congr fun before middle after => and_congr_right fun hvalue => ?_
  exact forall₂_forms_iff ht fun c hc => hv c (by simp [hvalue, hc])

/-! ## The two filters -/

theorem toList_around (text : String) : ("*" ++ text ++ "*").toList = '*' :: text.toList ++ ['*'] := by
  simp

/--
**The two filters by typed text agree on every value exactly when the text has no character that is
special in a wildcard pattern.**

Whatever else is filtered by, the query has the clause of a wildcard pattern for the text. The regular
expression matches the values that hold the text, in either case. The pattern matches these too unless
there is a backslash in the text. But it matches a value that does not hold the text as soon as there is
a star, a question mark or a backslash in it.
-/
theorem filters_agree_iff_no_special (compiler : Compiler) {facet : FieldSpec}
    (hk : facet.kind = .terms) {text : String} (ht : IsAscii text.toList) :
    ∃ pattern : String,
      (∀ state : FilterState, compiler.compile state (some (.terms facet [Wildcard.encode text]))
        = (compiler.compileEach (othersOf facet state)).map fun others => conjunction (others ++
            [inScope facet.field (withExtra facet.extra
              (.bool [] [.wildcard (rawField facet.field) pattern true]))])) ∧
      (∀ value, IsAscii value.toList →
        (Regexp.Accepts (includePattern text) value ↔ Glob.Holds text.toList value.toList)) ∧
      ('\\' ∉ text.toList → ∀ value, Glob.Holds text.toList value.toList →
        Glob.Accepts true pattern value) ∧
      ((∀ value, IsAscii value.toList →
          (Glob.Accepts true pattern value ↔ Regexp.Accepts (includePattern text) value)) ↔
        ∀ c ∈ text.toList, c ∉ Glob.specials) := by
  refine ⟨"*" ++ text ++ "*", fun state => compile_override (compileOne_marked hk text) state,
    fun value hv => accepts_includePattern_iff_holds ht hv, ?_, ?_, ?_⟩
  · intro hback value hv
    rw [Glob.Accepts, toList_around]
    exact Glob.matches_around_of_holds hback hv
  · intro hagree c hc hspecial
    obtain ⟨v, hchars, hmatches, hholds⟩ := Glob.exists_matches_not_holds ⟨c, hc, hspecial⟩
    have hv : IsAscii (String.ofList v).toList := by
      intro c hc
      rcases hchars c (by simpa using hc) with rfl | rfl | hc
      · decide
      · decide
      · exact ht c hc
    have haccepts : Glob.Accepts true ("*" ++ text ++ "*") (String.ofList v) := by
      rw [Glob.Accepts, toList_around, String.toList_ofList]
      exact hmatches
    have := (accepts_includePattern_iff_holds ht hv).mp ((hagree _ hv).mp haccepts)
    rw [String.toList_ofList] at this
    exact hholds this
  · intro hspecial value hv
    rw [accepts_includePattern_iff_holds ht hv, Glob.Accepts, toList_around]
    exact Glob.matches_around_iff hspecial

/-- A star in the text: the two filters differ on some value, whatever else is filtered by. -/
theorem filters_agree_iff_no_special_star :
    let party : FieldSpec := ⟨"persons.party", .terms, .countDescending, none, none⟩
    let compiler : Compiler := ⟨⟨[("party", party)]⟩, ["ocr"]⟩
    party.kind = .terms ∧ IsAscii "P*".toList ∧ ∃ pattern : String,
      compiler.compile [] (some (.terms party [Wildcard.encode "P*"]))
        = .ok (.nested "persons" (.bool [] [.wildcard "persons.party.raw" pattern true])) ∧
      ¬∀ value, IsAscii value.toList →
        (Glob.Accepts true pattern value ↔ Regexp.Accepts (includePattern "P*") value) := by
  intro party compiler
  obtain ⟨pattern, hcompile, -, -, hagree⟩ :=
    @filters_agree_iff_no_special compiler party rfl "P*" (by decide)
  have hn : nestedPath "persons.party" = some "persons" := by decide
  refine ⟨rfl, by decide, pattern, ?_, fun h => hagree.mp h '*' (by decide) (by decide)⟩
  rw [hcompile]
  simp [party, othersOf, FilterState.entries, compileEach, Except.map, conjunction, inScope, hn,
    withExtra, rawField]

/-- A text of one star gives a pattern that matches a value without a star in it, and a text of one
backslash gives a pattern that does not match the backslash. -/
theorem filters_differ_on_special :
    let party : FieldSpec := ⟨"party", .terms, .countDescending, none, none⟩
    let compiler : Compiler := ⟨⟨[("party", party)]⟩, ["ocr"]⟩
    (compiler.compile [] (some (.terms party [Wildcard.encode "*"]))
        = .ok (.bool [] [.wildcard "party.raw" "***" true]) ∧
      Glob.Accepts true "***" "PS" ∧ ¬Regexp.Accepts (includePattern "*") "PS" ∧
      ¬Glob.Holds "*".toList "PS".toList) ∧
    (compiler.compile [] (some (.terms party [Wildcard.encode "\\"]))
        = .ok (.bool [] [.wildcard "party.raw" "*\\*" true]) ∧
      ¬Glob.Accepts true "*\\*" "\\" ∧ Regexp.Accepts (includePattern "\\") "\\" ∧
      Glob.Holds "\\".toList "\\".toList) := by
  intro party compiler
  have hcompile (text : String) : compiler.compile [] (some (.terms party [Wildcard.encode text]))
      = .ok (.bool [] [.wildcard "party.raw" ("*" ++ text ++ "*") true]) := by
    have hn : nestedPath "party" = none := by decide
    rw [compile_override (compileOne_marked rfl text)]
    simp [party, othersOf, FilterState.entries, compileEach, Except.map, conjunction, inScope, hn,
      withExtra, rawField]
  have hstar : ¬Glob.Holds "*".toList "PS".toList := by
    rintro ⟨before, middle, after, hv, hm⟩
    obtain ⟨c, rfl, hc⟩ : ∃ c, middle = [c] ∧ c.toLower = '*' := by
      simpa [List.map_eq_singleton_iff] using hm
    have hmem : c ∈ "PS".toList := by simp [hv]
    have hletter : ∀ c ∈ "PS".toList, c.toLower ≠ '*' := by simp
    exact hletter c hmem hc
  have hback : Glob.Holds "\\".toList "\\".toList := ⟨[], ['\\'], [], rfl, rfl⟩
  refine ⟨⟨hcompile "*", ?_, ?_, hstar⟩, hcompile "\\", ?_, ?_, hback⟩
  · exact ⟨"PS".toList, [], rfl, [], [], rfl, [], [], rfl, rfl⟩
  · rwa [accepts_includePattern_iff_holds (by decide) (by decide)]
  · rintro ⟨run, rest, hv, d, _, rfl, hd, rfl⟩
    -- the value would have to end with the star that the backslash quotes
    have hmem : d ∈ "\\".toList := by simp [hv]
    have hletter : ∀ c ∈ "\\".toList, c.toLower ≠ '*' := by simp
    exact hletter d hmem hd
  · rwa [accepts_includePattern_iff_holds (by decide) (by decide)]

end Suggestion

end Faceted

import Faceted.Proofs.Filter.Keys
import Faceted.Proofs.Text.Blank

/-!
# Parts of a filter document

Each entry of a filter document is read by itself, so that a document can be read in parts (`read_append`): the
state of the whole is the states of the parts one after the other, and its fault is that of the first part that
has one. So the order of the entries matters for the order of the state only, and for which fault is the first;
and what no filter is made from may be there or not (`read_in_parts`).
-/

namespace Faceted.FilterState

open Text

variable {dates : DateReader} {registry : Registry}

/-! ## Two parts -/

/-- **A document is read in parts**, the first one first. -/
theorem read_append (dates : DateReader) (registry : Registry) (first second : Mapping) :
    read dates registry (first ++ second) =
      read dates registry first >>= fun before => read dates registry second >>= fun after =>
        pure (before ++ after) := by
  induction first with
  | nil => cases h : read dates registry second <;> simp [read, h, bind, Except.bind, pure, Except.pure]
  | cons e first ih =>
    rw [List.cons_append, read_cons, read_cons, ih]
    simp only [bind_assoc, pure_bind, List.append_assoc]

/-! ## The order of the entries -/

/-- The part of a state that an entry is read as. -/
def part (dates : DateReader) (registry : Registry) (e : Key × Value) : FilterState :=
  match readEntry dates registry e.1 e.2 with
  | .ok entry => added e.1 entry
  | .error _ => []

/-- **A state is made of what each entry is read as**, if all of them can be read. -/
theorem read_eq_ok_iff {m : Mapping} {state : FilterState} :
    read dates registry m = .ok state ↔
      (∀ e ∈ m, ∃ entry, readEntry dates registry e.1 e.2 = .ok entry) ∧
        state = m.flatMap (part dates registry) := by
  induction m generalizing state with
  | nil => simp [read, eq_comm]
  | cons e m ih =>
    rw [read_cons, List.forall_mem_cons, List.flatMap_cons]
    constructor
    · intro h
      obtain ⟨entry, hentry, h⟩ := bind_eq_ok_iff.mp h
      obtain ⟨rest, hrest, h⟩ := bind_eq_ok_iff.mp h
      obtain ⟨hall, rfl⟩ := ih.mp hrest
      refine ⟨⟨⟨entry, hentry⟩, hall⟩, ?_⟩
      rw [← Except.ok.inj h, part, hentry]
    · rintro ⟨⟨⟨entry, hentry⟩, hall⟩, rfl⟩
      have hpart : part dates registry e = added e.1 entry := by rw [part, hentry]
      rw [hentry, ok_bind, ih.mpr ⟨hall, rfl⟩, ok_bind, hpart]
      rfl

/-- **Entries in another order make the same filters in another order.** -/
theorem exists_read_of_perm {m n : Mapping} {state : FilterState} (hperm : n.Perm m)
    (h : read dates registry m = .ok state) : ∃ other, read dates registry n = .ok other ∧ other.Perm state := by
  obtain ⟨hall, rfl⟩ := read_eq_ok_iff.mp h
  have hread : ∀ e ∈ n, ∃ entry, readEntry dates registry e.1 e.2 = .ok entry :=
    fun e he => hall e (hperm.mem_iff.mp he)
  exact ⟨_, read_eq_ok_iff.mpr ⟨hread, rfl⟩, hperm.flatMap_right _⟩

/-! ## Entries that may be left out -/

/-- No filter is made from the entry: it is null, or blank text for a facet of free text. -/
inductive MayBeLeftOut (registry : Registry) : Key → Value → Prop
  | null (key : Key) : MayBeLeftOut registry key .null
  | blank {key : Key} {name s : String} {spec : FieldSpec} (written : key.written = .ok name)
    (registered : registry.find? name = some spec) (kind : spec.kind = .query) (blank : AllBlank s.toList) :
    MayBeLeftOut registry key (.str s)

theorem MayBeLeftOut.readEntry_eq {key : Key} {v : Value} (h : MayBeLeftOut registry key v) :
    readEntry dates registry key v = .ok none := by
  cases h with
  | null => rfl
  | @blank name s spec written registered kind blank =>
    have hrequire : registry.require name = .ok spec := Registry.require_eq_ok_iff.mpr registered
    have hempty : (trimmed s).isEmpty = true := isBlankString_iff.mpr blank
    have hvalue : readValue dates spec name (.str s) = .ok none := by
      rw [readValue, kind]
      simp only [Settings.requireString, ok_bind, hempty, if_true]
      rfl
    change (key.written >>= fun name => registry.require name >>= fun spec =>
      readValue dates spec name (.str s)) = _
    rw [written, ok_bind, hrequire, ok_bind, hvalue]

theorem read_of_mayBeLeftOut {key : Key} {v : Value} (h : MayBeLeftOut registry key v)
    (first second : Mapping) :
    read dates registry (first ++ (key, v) :: second) = read dates registry (first ++ second) := by
  have hrest : read dates registry ((key, v) :: second) = read dates registry second := by
    rw [read_cons, h.readEntry_eq, ok_bind]
    exact bind_pure (read dates registry second)
  rw [read_append, read_append, hrest]

/--
**A filter document can be read in parts.**

For two parts that have no key in common:

* the whole is read exactly if both parts are; its state is that of the first part followed by that of the
  second, and no two of its filters are under one key;
* the whole is refused by the fault of the first part, or, if this one is read, by that of the second;
* with its entries in any other order it is read as the same filters, in the order of their keys;
* an entry that is null, or blank text for a facet of free text, makes no difference anywhere in it.
-/
theorem read_in_parts (dates : DateReader) (registry : Registry) {first second : Mapping}
    (distinct : Mapping.HasDistinctKeys (first ++ second)) :
    (∀ state, read dates registry (first ++ second) = .ok state ↔
      ∃ before after, read dates registry first = .ok before ∧ read dates registry second = .ok after ∧
        state = before ++ after) ∧
    (∀ state, read dates registry (first ++ second) = .ok state →
      state.Pairwise fun a b => ¬Key.same a.1 b.1 = true) ∧
    (∀ fault, read dates registry (first ++ second) = .error fault ↔
      read dates registry first = .error fault ∨
        (∃ before, read dates registry first = .ok before) ∧ read dates registry second = .error fault) ∧
    (∀ m state, m.Perm (first ++ second) → read dates registry (first ++ second) = .ok state →
      ∃ other, read dates registry m = .ok other ∧ other.Perm state ∧
        (Entries.keys other).Sublist (Entries.keys m)) ∧
    ∀ key v, MayBeLeftOut registry key v →
      read dates registry (first ++ (key, v) :: second) = read dates registry (first ++ second) := by
  refine ⟨fun state => ?_, fun state => pairwise_keys_of_read distinct, fun fault => ?_,
    fun m state hperm h => ?_, fun key v h => ?_⟩
  · rw [read_append]
    constructor
    · intro h
      obtain ⟨before, hbefore, h⟩ := bind_eq_ok_iff.mp h
      obtain ⟨after, hafter, h⟩ := bind_eq_ok_iff.mp h
      exact ⟨before, after, hbefore, hafter, (Except.ok.inj h).symm⟩
    · rintro ⟨before, after, hbefore, hafter, rfl⟩
      rw [hbefore, ok_bind, hafter, ok_bind]
      rfl
  · rw [read_append, bind_eq_error_iff]
    simp only [bind_pure_eq_error_iff, exists_and_right]
  · obtain ⟨other, hother, hsame⟩ := exists_read_of_perm hperm h
    exact ⟨other, hother, hsame, keys_sublist_of_read hother⟩
  · exact read_of_mayBeLeftOut h first second

/-- Two parts with a null value in the first, read as a whole, with the parts in the other order, and with blank
text and another null value put between them. -/
theorem read_in_parts_three :
    let dates : DateReader := DateText.reader 2025
    let party : FieldSpec := ⟨"party", .terms, .countDescending, none, none⟩
    let year : FieldSpec := ⟨"date", .dates, .countDescending, none, none⟩
    let text : FieldSpec := ⟨"ocr", .query, .countDescending, none, none⟩
    let registry : Registry := ⟨[("party", party), ("year", year), ("text", text), ("title", text)]⟩
    let first : Mapping := [(.str "text", .str " grève "), (.str "party", .null)]
    let second : Mapping := [(.str "year", .object [("min", .int 1981)]),
      (.scalar (.int 7), .null)]
    let filter : Key × FilterEntry := (.str "text", .query text "grève")
    let bound : Key × FilterEntry := (.str "year", .dates year ⟨some "1981", none⟩)
    read dates registry (first ++ second) = .ok [filter, bound] ∧
      read dates registry (first ++ (.str "title", .str "\t") :: second) = .ok [filter, bound] ∧
      ∃ other, read dates registry (second ++ first) = .ok other ∧ other.Perm [filter, bound] := by
  intro dates party year text registry first second filter bound
  have hdistinct : Mapping.HasDistinctKeys (first ++ second) :=
    ⟨rfl, trivial, rfl, trivial, rfl, ⟨rfl, trivial, trivial⟩, rfl, trivial, trivial⟩
  have hfirst : read dates registry first = .ok [filter] := by cbv
  have hsecond : read dates registry second = .ok [bound] := by cbv
  obtain ⟨hok, -, -, hperm, hleft⟩ := read_in_parts dates registry hdistinct
  have hwhole : read dates registry (first ++ second) = .ok [filter, bound] :=
    (hok _).mpr ⟨_, _, hfirst, hsecond, rfl⟩
  obtain ⟨other, hother, hsame, -⟩ := hperm (second ++ first) _ List.perm_append_comm hwhole
  have hblank : MayBeLeftOut registry (.str "title") (.str "\t") :=
    .blank (Key.written_str "title") (by cbv) rfl (by decide)
  exact ⟨hwhole, (hleft _ _ hblank).trans hwhole, other, hother, hsame⟩

end Faceted.FilterState

import Faceted.Proofs.Digits
import Faceted.Proofs.Entries

/-!
# The text of a key

The names in a mapping are compared by their text, so that a key that is no string could pass for a name.
None does: the text of such a key begins with one of a few characters (`head_plain`), which no name that
is looked for begins with (`eq_str_of_written`).
-/

namespace Faceted

open Text Number

/-! ## First characters -/

/-- The characters that the text of a key that is no string begins with: a bracket, a sign, a point or a
digit, or the first letter of the word for a class or for a special value. -/
def opening : List Char := "(-.0123456789DFNTbin".toList

/-- The text does not begin with another character than an opening one. -/
def Opens (cs : List Char) : Prop := ∀ c ∈ cs.head?, c ∈ opening

instance (cs : List Char) : Decidable (Opens cs) :=
  match cs with
  | [] => isTrue nofun
  | c :: _ => decidable_of_iff (c ∈ opening) (by simp [Opens])

theorem opens_cons {c : Char} (h : c ∈ opening) (cs : List Char) : Opens (c :: cs) := by
  rintro d ⟨⟩
  exact h

theorem opens_append {cs ds : List Char} (hcs : Opens cs) (hds : Opens ds) : Opens (cs ++ ds) := by
  cases cs with
  | nil => exact hds
  | cons c cs => exact opens_cons (hcs c rfl) (cs ++ ds)

theorem opens_of_forall {cs : List Char} (h : ∀ c ∈ cs, c ∈ opening) : Opens cs :=
  fun c hc => h c (List.mem_of_mem_head? hc)

/-! ## Numbers -/

theorem digitChar_mem_opening : ∀ d < 10, digitChar d ∈ opening := by decide

theorem mem_opening_of_natText {n : Nat} {c : Char} (h : c ∈ natText n) : c ∈ opening := by
  obtain ⟨d, hd, rfl⟩ := List.mem_map.mp h
  exact digitChar_mem_opening d (lt_of_mem_digits hd)

theorem mem_opening_of_fill {n : Nat} {c : Char} (h : c ∈ fill '0' n) : c ∈ opening := by
  rw [List.eq_of_mem_replicate h]
  decide

theorem opens_natText (n : Nat) : Opens (natText n) := opens_of_forall fun _ => mem_opening_of_natText

theorem opens_fill (n : Nat) : Opens (fill '0' n) := opens_of_forall fun _ => mem_opening_of_fill

theorem opens_zeroPad (width n : Nat) : Opens (zeroPad width (natText n)) :=
  opens_append (opens_fill _) (opens_natText n)

theorem opens_intText : ∀ n : Int, Opens (intText n)
  | .ofNat n => opens_natText n
  | .negSucc _ => opens_cons (by decide) _

namespace Double

open Number.Double

theorem mem_opening_of_significant {n : Decimal} {c : Char} (h : c ∈ n.significant) : c ∈ opening := by
  have hdrop : c ∈ (natText n.digits).reverse :=
    (List.dropWhile_sublist _).subset (List.mem_reverse.mp h)
  exact mem_opening_of_natText (List.mem_reverse.mp hdrop)

theorem opens_positional {ds : List Char} (h : ∀ c ∈ ds, c ∈ opening) (place : Int) :
    Opens (positional ds place) := by
  unfold positional
  split
  · exact opens_cons (by decide) _
  · extract_lets n
    split
    · exact opens_append (opens_append (opens_of_forall h) (opens_fill _)) (opens_cons (by decide) _)
    · exact opens_append (opens_of_forall fun c hc => h c (List.mem_of_mem_take hc))
        (opens_cons (by decide) _)

theorem opens_exponential {ds : List Char} (h : ∀ c ∈ ds, c ∈ opening) (l : Layout) (place : Int) :
    Opens (exponential l ds place) := by
  unfold exponential
  extract_lets e size exponent
  split
  · exact fun _ hc => nomatch hc
  · exact opens_cons (h _ (by simp)) _
  · exact opens_cons (h _ (by simp)) _

theorem opens_text (x : Double) : Opens x.text := by
  have hsize : Opens (sizeText plainLayout x) := by
    unfold sizeText
    split
    · exact opens_cons (by decide) _
    · split
      · exact opens_cons (by decide) _
      · split
        · exact opens_cons (by decide) _
        · extract_lets s place
          split
          · exact opens_positional (fun _ => mem_opening_of_significant) _
          · exact opens_exponential (fun _ => mem_opening_of_significant) _ _
  rw [text, textIn]
  split
  · exact opens_cons (by decide) _
  · exact hsize

end Double

/-! ## Keys -/

theorem opens_date (d : Date) (rest : List Char) : Opens (d.text ++ rest) := by
  simp only [Date.text, List.append_assoc]
  exact opens_append (opens_zeroPad 4 d.year) (opens_cons (by decide) _)

theorem Scalar.opens_plain : ∀ s : Scalar, (∀ t, s ≠ .str t) → Opens s.plain
  | .null, _ => opens_cons (by decide) _
  | .bool true, _ => opens_cons (by decide) _
  | .bool false, _ => opens_cons (by decide) _
  | .int n, _ => opens_intText n
  | .float x, _ => Double.opens_text x
  | .str t, h => absurd rfl (h t)
  | .bytes _, _ => opens_cons (by decide) _
  | .date d, _ => by simpa [plain] using opens_date d []
  | .moment m, _ => by
    rw [plain, Moment.text, List.append_assoc]
    exact opens_date m.date _

theorem opens_exactTuple (parts : List (List Char)) : Opens (exactTuple parts) := by
  unfold exactTuple
  split
  · exact opens_cons (by decide) _
  · exact opens_cons (by decide) _

namespace Key

theorem opens_plain : ∀ k : Key, (∀ s, k ≠ .str s) → Opens k.plain
  | .scalar s, h => s.opens_plain fun t ht => h t (by rw [ht])
  | .tuple ks, _ => by
    have hexact : (Key.tuple ks).plain = exactTuple (exactAll ks) := by simp [plain, exact]
    rw [hexact]
    exact opens_exactTuple _
  | .years a b, _ => by
    have hexact : (Key.years a b).plain = exactYears (exact a) (exact b) := by simp [plain, exact]
    rw [hexact]
    exact opens_cons (by decide) _

/-- **A key that is written like a name is that name**, unless the name begins with an opening
character. -/
theorem eq_str_of_written {k : Key} {name : String} (hname : ¬Opens name.toList)
    (h : k.written = .ok name) : k = .str name := by
  by_cases hk : ∃ s, k = .str s
  · obtain ⟨s, rfl⟩ := hk
    rw [written_str] at h
    rw [Except.ok.inj h]
  · rw [written] at h
    split at h
    · obtain rfl := Except.ok.inj h
      refine absurd (opens_plain k fun s hs => hk ⟨s, hs⟩) ?_
      rwa [text, String.toList_ofList] at hname
    · cases h

/-- A key is written unless it is too long. -/
theorem written_cases (k : Key) :
    (∃ name, k.written = .ok name) ∨ k.written = .error .tooLongToWrite := by
  rw [written]
  split
  · exact Or.inl ⟨_, rfl⟩
  · exact Or.inr rfl

theorem writtenAll_cases (ks : List Key) :
    (∃ names, writtenAll ks = .ok names) ∨ writtenAll ks = .error .tooLongToWrite := by
  induction ks with
  | nil => exact Or.inl ⟨[], rfl⟩
  | cons k ks ih =>
    rw [writtenAll]
    rcases k.written_cases with ⟨name, hk⟩ | hk
    · rcases ih with ⟨names, hks⟩ | hks
      · exact Or.inl ⟨name :: names, by rw [hk, hks]; rfl⟩
      · exact Or.inr (by rw [hk, hks]; rfl)
    · exact Or.inr (by rw [hk]; rfl)

theorem written_of_writtenAll {ks : List Key} {ss : List String} (h : writtenAll ks = .ok ss) :
    ∀ k ∈ ks, ∃ s ∈ ss, k.written = .ok s := by
  induction ks generalizing ss with
  | nil => exact fun _ hk => nomatch hk
  | cons k ks ih =>
    rw [writtenAll] at h
    obtain ⟨s, hs, h⟩ := bind_eq_ok_iff.mp h
    obtain ⟨rest, hrest, h⟩ := bind_eq_ok_iff.mp h
    obtain rfl := Except.ok.inj h
    rw [List.forall_mem_cons]
    refine ⟨⟨s, List.mem_cons_self, hs⟩, fun l hl => ?_⟩
    obtain ⟨t, ht, hw⟩ := ih hrest l hl
    exact ⟨t, List.mem_cons_of_mem s ht, hw⟩

theorem exists_map_str {allowed : List String} {ks : List Key}
    (h : ∀ k ∈ ks, ∃ name ∈ allowed, k = .str name) :
    ∃ names : List String, ks = names.map .str ∧ ∀ name ∈ names, name ∈ allowed := by
  induction ks with
  | nil => exact ⟨[], rfl, by simp⟩
  | cons k ks ih =>
    obtain ⟨⟨name, hname, rfl⟩, hks⟩ := List.forall_mem_cons.mp h
    obtain ⟨names, rfl, hnames⟩ := ih hks
    exact ⟨name :: names, rfl, List.forall_mem_cons.mpr ⟨hname, hnames⟩⟩

end Key

/-! ## The names of a mapping -/

theorem namesOutside_eq_nil_iff {allowed names : List String} :
    namesOutside allowed names = [] ↔ ∀ n ∈ names, n ∈ allowed := by
  refine ⟨fun h n hn => ?_, namesOutside_eq_nil⟩
  have hnot : n ∉ namesOutside allowed names := by simp [h]
  rw [namesOutside, List.mem_mergeSort, List.mem_eraseDups, List.mem_filter] at hnot
  simpa [hn] using hnot

/-- The names of a mapping are looked at unless a key is too long. -/
theorem Mapping.namesOutside_cases (allowed : List String) (m : Mapping) :
    (∃ names, Mapping.namesOutside allowed m = .ok names) ∨
      Mapping.namesOutside allowed m = .error .tooLongToWrite := by
  rw [Mapping.namesOutside]
  rcases Key.writtenAll_cases (Entries.keys m) with ⟨names, h⟩ | h
  · exact Or.inl ⟨_, by rw [h]; rfl⟩
  · exact Or.inr (by rw [h]; rfl)

/-- **A mapping has no names outside exactly if its keys are allowed names**, where no allowed name
begins with an opening character. -/
theorem Mapping.namesOutside_eq_nil_iff {allowed : List String}
    (hallowed : ∀ name ∈ allowed, ¬Opens name.toList) {m : Mapping} :
    Mapping.namesOutside allowed m = .ok [] ↔
      ∀ k ∈ Entries.keys m, ∃ name ∈ allowed, k = .str name := by
  rw [Mapping.namesOutside, map_eq_ok_iff]
  constructor
  · rintro ⟨names, hnames, hnil⟩ k hk
    obtain ⟨name, hname, hw⟩ := Key.written_of_writtenAll hnames k hk
    have hmem := Faceted.namesOutside_eq_nil_iff.mp hnil name hname
    exact ⟨name, hmem, Key.eq_str_of_written (hallowed name hmem) hw⟩
  · intro h
    obtain ⟨names, hkeys, hnames⟩ := Key.exists_map_str h
    rw [hkeys]
    exact ⟨names, Key.writtenAll_str names, namesOutside_eq_nil hnames⟩

/-- A mapping without other names has none with an allowed one put into it. -/
theorem Mapping.namesOutside_put {allowed : List String} (hallowed : ∀ name ∈ allowed, ¬Opens name.toList)
    {m : Mapping} (h : Mapping.namesOutside allowed m = .ok []) {name : String} (hname : name ∈ allowed)
    (v : Value) : Mapping.namesOutside allowed (Entries.put (.str name) v m) = .ok [] := by
  rw [Mapping.namesOutside_eq_nil_iff hallowed] at h ⊢
  intro k hk
  rcases Entries.mem_keys_put hk with rfl | hk
  · exact ⟨name, hname, rfl⟩
  · exact h k hk

end Faceted

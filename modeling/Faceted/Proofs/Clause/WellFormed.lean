import Faceted.Clause.Reading
import Faceted.Proofs.Basic

/-!
# Well-formed clauses

A clause is well-formed when no free text occurs in it, which has no form that can be read, and every
field and every path in it is named. What is read from a document is well-formed.

The proof follows the reading functions: one lemma for each of them, by induction on the document. A
leaf is well-formed since the field of its body is checked before the parameters are looked at.
-/

namespace Faceted.Clause

variable {Bound : Type}

/-! ## Well-formed clauses -/

mutual

/-- No free text occurs in the clause, and every field and every path is named. -/
def WellFormed : Clause Bound → Prop
  | .matchAll => True
  | .bool must should => AllWellFormed must ∧ AllWellFormed should
  | .nested path query => path ≠ "" ∧ WellFormed query
  | .range field _ _ _ => field ≠ ""
  | .wildcard field _ _ => field ≠ ""
  | .terms field _ => field ≠ ""
  | .term field _ => field ≠ ""
  | .simpleQueryString _ _ => False

/-- All clauses are well-formed. -/
def AllWellFormed : List (Clause Bound) → Prop
  | [] => True
  | c :: cs => WellFormed c ∧ AllWellFormed cs

end

/-! ## What is read -/

theorem ne_of_readField {key field : String} {body : Mapping} {params : Value}
    (h : readField key body = .ok (field, params)) : field ≠ "" := by
  unfold readField at h
  split at h
  · split at h
    · cases h
    · next hne =>
      obtain ⟨rfl, -⟩ := Prod.mk.inj (Except.ok.inj h)
      simpa using hne
  · cases h
  · cases h

theorem wellFormed_of_readRange {key field : String} (hf : field ≠ "") {params : Value}
    {c : Clause String} (h : readRange key field params = .ok c) : c.WellFormed := by
  unfold readRange at h
  split at h
  · obtain ⟨gte, -, h⟩ := bind_eq_ok_iff.mp h
    obtain ⟨lte, -, h⟩ := bind_eq_ok_iff.mp h
    obtain ⟨format, -, h⟩ := bind_eq_ok_iff.mp h
    obtain rfl := Except.ok.inj h
    exact hf
  · cases h

theorem wellFormed_of_readWildcard {key field : String} (hf : field ≠ "") {params : Value}
    {c : Clause String} (h : readWildcard key field params = .ok c) : c.WellFormed := by
  unfold readWildcard at h
  split at h
  · obtain rfl := Except.ok.inj h
    exact hf
  · split at h
    · obtain rfl := Except.ok.inj h
      exact hf
    · cases h
  · cases h

theorem wellFormed_of_readTerms {key field : String} (hf : field ≠ "") {params : Value}
    {c : Clause String} (h : readTerms key field params = .ok c) : c.WellFormed := by
  unfold readTerms at h
  split at h
  · split at h
    · obtain rfl := Except.ok.inj h
      exact hf
    · cases h
  · cases h

theorem wellFormed_of_readTerm {key field : String} (hf : field ≠ "") {params : Value}
    {c : Clause String} (h : readTerm key field params = .ok c) : c.WellFormed := by
  unfold readTerm at h
  -- where the string stands does not matter, alone or among parameters
  extract_lets value at h
  clear_value value
  split at h
  · obtain rfl := Except.ok.inj h
    exact hf
  · cases h

theorem wellFormed_of_readLeaf {outer key : String} {type : Key} {body : Mapping}
    {c : Clause String} (h : readLeaf outer key type body = .ok c) : c.WellFormed := by
  obtain ⟨⟨field, params⟩, hf, h⟩ := bind_eq_ok_iff.mp h
  replace hf := ne_of_readField hf
  dsimp only at h
  split at h
  · exact wellFormed_of_readRange hf h
  · split at h
    · exact wellFormed_of_readWildcard hf h
    · split at h
      · exact wellFormed_of_readTerms hf h
      · split at h
        · exact wellFormed_of_readTerm hf h
        · obtain ⟨name, -, h⟩ := bind_eq_ok_iff.mp h
          cases h

theorem ne_of_readPath {key path : String} {body : Mapping} (h : readPath key body = .ok path) :
    path ≠ "" := by
  unfold readPath at h
  split at h
  · split at h
    · cases h
    · next hne =>
      obtain rfl := Except.ok.inj h
      simpa using hne
  · cases h

mutual

/-- **What is read is well-formed.** -/
theorem wellFormed_of_read : ∀ (v : Value) (key : String) (c : Clause String),
    read key v = .ok c → c.WellFormed
  | .map m, key, c, h => by
    rw [read] at h
    exact wellFormed_of_readMapping m key c h
  | .scalar _, _, _, h | .list _, _, _, h | .tuple _, _, _, h | .set _, _, _, h
  | .years _ _, _, _, h | .endless, _, _, h => by simp [read] at h

theorem wellFormed_of_readMapping : ∀ (m : List (Key × Value)) (key : String) (c : Clause String),
    readMapping key m = .ok c → c.WellFormed
  | [(type, body)], key, c, h => by
    rw [readMapping] at h
    obtain ⟨name, -, h⟩ := bind_eq_ok_iff.mp h
    split at h
    · obtain rfl := Except.ok.inj h
      trivial
    · exact wellFormed_of_readBody body key _ type c h
  | [], _, _, h | _ :: _ :: _, _, _, h => by simp [readMapping] at h

theorem wellFormed_of_readBody : ∀ (v : Value) (outer key : String) (type : Key)
    (c : Clause String), readBody outer key type v = .ok c → c.WellFormed
  | .map body, outer, key, type, c, h => by
    rw [readBody] at h
    split at h
    · obtain ⟨unknown, -, h⟩ := bind_eq_ok_iff.mp h
      split at h
      · obtain ⟨must, hm, h⟩ := bind_eq_ok_iff.mp h
        obtain ⟨should, hs, h⟩ := bind_eq_ok_iff.mp h
        obtain rfl := Except.ok.inj h
        exact ⟨wellFormed_of_readListAt body _ _ must hm, wellFormed_of_readListAt body _ _ should hs⟩
      · cases h
    · split at h
      · obtain ⟨path, hp, h⟩ := bind_eq_ok_iff.mp h
        obtain ⟨query, hq, h⟩ := bind_eq_ok_iff.mp h
        obtain rfl := Except.ok.inj h
        exact ⟨ne_of_readPath hp, wellFormed_of_readAt body _ _ query hq⟩
      · exact wellFormed_of_readLeaf h
  | .scalar _, _, _, _, _, h | .list _, _, _, _, _, h | .tuple _, _, _, _, _, h
  | .set _, _, _, _, _, h | .years _ _, _, _, _, _, h | .endless, _, _, _, _, h => by
    simp [readBody] at h

theorem wellFormed_of_readAt : ∀ (m : List (Key × Value)) (name key : String) (c : Clause String),
    readAt name key m = .ok c → c.WellFormed
  | [], _, _, _, h => by simp [readAt] at h
  | (k, v) :: m, name, key, c, h => by
    rw [readAt] at h
    split at h
    · exact wellFormed_of_read v key c h
    · exact wellFormed_of_readAt m name key c h

theorem wellFormed_of_readListAt : ∀ (m : List (Key × Value)) (name key : String)
    (cs : List (Clause String)), readListAt name key m = .ok cs → AllWellFormed cs
  | [], _, _, _, h => by
    rw [readListAt] at h
    obtain rfl := Except.ok.inj h
    trivial
  | (k, v) :: m, name, key, cs, h => by
    rw [readListAt] at h
    split at h
    · exact wellFormed_of_readList v key cs h
    · exact wellFormed_of_readListAt m name key cs h

theorem wellFormed_of_readList : ∀ (v : Value) (key : String) (cs : List (Clause String)),
    readList key v = .ok cs → AllWellFormed cs
  | .scalar .null, _, _, h => by
    rw [readList] at h
    obtain rfl := Except.ok.inj h
    trivial
  | .map m, key, cs, h => by
    rw [readList] at h
    obtain ⟨c, hc, h⟩ := bind_eq_ok_iff.mp h
    obtain rfl := Except.ok.inj h
    exact ⟨wellFormed_of_readMapping m key c hc, trivial⟩
  | .list xs, key, cs, h => by
    rw [readList] at h
    exact wellFormed_of_readItems xs key 0 cs h
  | .scalar (.bool _), _, _, h | .scalar (.int _), _, _, h | .scalar (.float _), _, _, h
  | .scalar (.str _), _, _, h | .scalar (.bytes _), _, _, h | .scalar (.date _), _, _, h
  | .scalar (.moment _), _, _, h | .tuple _, _, _, h | .set _, _, _, h | .years _ _, _, _, h
  | .endless, _, _, h => by simp [readList] at h

theorem wellFormed_of_readItems : ∀ (xs : List Value) (key : String) (index : Nat)
    (cs : List (Clause String)), readItems key index xs = .ok cs → AllWellFormed cs
  | [], _, _, _, h => by
    rw [readItems] at h
    obtain rfl := Except.ok.inj h
    trivial
  | x :: xs, key, index, cs, h => by
    rw [readItems] at h
    obtain ⟨c, hc, h⟩ := bind_eq_ok_iff.mp h
    obtain ⟨ds, hds, h⟩ := bind_eq_ok_iff.mp h
    obtain rfl := Except.ok.inj h
    exact ⟨wellFormed_of_read x _ c hc, wellFormed_of_readItems xs _ _ ds hds⟩

end

end Faceted.Clause

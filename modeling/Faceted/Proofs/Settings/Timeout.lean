import Faceted.Proofs.Double
import Faceted.Proofs.Settings.Accepted
import Faceted.Service.Settings

/-!
# The time to wait

The client of the search proxy waits as long as the settings say (`timeout_of_ofMapping`): the double that is
written, or the one near to an integer. The rule for it refuses what is zero or below, which leaves the doubles
above zero and those that are not numbers (`timeout_exceeds_zero_iff`).
-/

namespace Faceted

open Number Settings

/-- The double that a number in a document stands for. -/
inductive Value.StandsFor : Value → Double → Prop
  | integer {n : Int} {x : Double} (near : Double.ofInt? n = some x) : StandsFor (.int n) x
  | float (x : Double) : StandsFor (.float x) x

theorem Settings.standsFor_of_requireNumber {key : String} {v : Value} {x : Double}
    (h : requireNumber key v = .ok x) : v.StandsFor x := by
  unfold requireNumber at h
  split at h
  · split at h
    · next hnear => exact .integer (Except.ok.inj h ▸ hnear)
    · cases h
  · exact Except.ok.inj h ▸ .float _
  · cases h

/-- What the section of the backend has for the time to wait, or what is taken if it has nothing. -/
def BackendSettings.timeoutOf (part : Mapping) : Value :=
  entryOr "timeout" (.float defaultTimeout) part

theorem BackendSettings.timeout_of_read {environment : Option String} {raw : Mapping}
    {settings : BackendSettings} (h : read environment raw = .ok settings) :
    ∃ part, requiredSection "backend" raw = .ok part ∧ (timeoutOf part).StandsFor settings.timeout := by
  obtain ⟨part, hpart, h⟩ := bind_eq_ok_iff.mp h
  obtain ⟨apiPath, -, h⟩ := bind_eq_ok_iff.mp h
  obtain ⟨_, -, h⟩ := bind_eq_ok_iff.mp h
  obtain ⟨index, -, h⟩ := bind_eq_ok_iff.mp h
  obtain ⟨searchPath, -, h⟩ := bind_eq_ok_iff.mp h
  obtain ⟨timeout, htimeout, h⟩ := bind_eq_ok_iff.mp h
  obtain ⟨pageSize, -, h⟩ := bind_eq_ok_iff.mp h
  obtain ⟨fields, -, h⟩ := bind_eq_ok_iff.mp h
  obtain rfl := Except.ok.inj h
  exact ⟨part, hpart, standsFor_of_requireNumber htimeout⟩

namespace Settings

variable {environment : Option String} {raw : Mapping} {settings : Settings}

theorem timeout_of_ofMapping (h : ofMapping environment raw = .ok settings) :
    ∃ part, requiredSection "backend" raw = .ok part ∧
      (BackendSettings.timeoutOf part).StandsFor settings.backend.timeout := by
  obtain ⟨hread, -⟩ := ofMapping_eq_ok_iff.mp h
  exact BackendSettings.timeout_of_read (read_eq_ok hread).2.1

/--
**The time that the client waits is above zero exactly if it is a number.**

For all settings that are accepted, the client is given the double that the section `backend` stands for. An
integer is above zero, and so is the double near to it. A double that is written as such is above zero, or it is
not a number, and is handed on as it is.
-/
theorem timeout_exceeds_zero_iff (h : ofMapping environment raw = .ok settings) :
    ∃ part timeout, requiredSection "backend" raw = .ok part ∧
      settings.client.timeout = .float timeout ∧ (BackendSettings.timeoutOf part).StandsFor timeout ∧
      (timeout.ExceedsZero ↔ timeout.isNaN = false) ∧
      (∀ n, BackendSettings.timeoutOf part = .int n → 0 < n ∧ timeout.ExceedsZero) ∧
      ∀ x, BackendSettings.timeoutOf part = .float x → x = timeout ∧ (x.ExceedsZero ∨ x.isNaN = true) := by
  obtain ⟨part, hpart, hstands⟩ := timeout_of_ofMapping h
  have hrule : settings.backend.timeout.isNonpositive = false :=
    (wellFormed_of_ofMapping h).backend.timeout
  have hiff : settings.backend.timeout.ExceedsZero ↔ settings.backend.timeout.isNaN = false := by
    rw [Double.exceedsZero_iff, and_iff_left hrule]
  refine ⟨part, settings.backend.timeout, hpart, rfl, hstands, hiff, fun n hn => ?_, fun x hx => ?_⟩
  · rw [hn] at hstands
    cases hstands with
    | integer near =>
      obtain ⟨hnan, hside⟩ := Double.isNonpositive_of_ofInt? near
      rw [hrule, Bool.false_eq_true, false_iff, Int.not_le] at hside
      exact ⟨hside, hiff.mpr hnan⟩
  · rw [hx] at hstands
    cases hstands with
    | float =>
      refine ⟨rfl, ?_⟩
      rw [hiff]
      exact (Bool.eq_false_or_eq_true _).symm

/-- The smallest double above zero, which is written `5e-324`. -/
theorem timeout_exceeds_zero_iff_smallest :
    let smallest : Double := ⟨1⟩
    let backend := Value.object [("api_path", .str "https://archive"), ("index", .str "idx"),
      ("timeout", .float smallest)]
    let facet := Value.object [("field", .str "party"), ("kind", .str "terms")]
    let raw : Mapping := [(.str "backend", backend), (.str "facets", .object [("party", facet)])]
    ∃ settings, ofMapping none raw = .ok settings ∧ settings.client.timeout = .float smallest ∧
      smallest.ExceedsZero := by
  intro smallest backend facet raw
  have hread : (ofMapping none raw).toOption.isSome = true := by decide +kernel
  cases h : ofMapping none raw with
  | error fault =>
    rw [h] at hread
    cases hread
  | ok settings =>
    obtain ⟨part, timeout, hpart, hclient, -, hiff, -, hfloat⟩ := timeout_exceeds_zero_iff h
    obtain rfl := Except.ok.inj hpart
    obtain ⟨rfl, -⟩ := hfloat smallest rfl
    exact ⟨settings, rfl, hclient, hiff.mpr (by decide)⟩

/-- **A time to wait that is not a number is accepted**, and zero is not less than it. -/
theorem nan_timeout_accepted :
    let backend := Value.object [("api_path", .str "https://archive"), ("index", .str "idx"),
      ("timeout", .float Double.nan)]
    let facet := Value.object [("field", .str "party"), ("kind", .str "terms")]
    let raw : Mapping := [(.str "backend", backend), (.str "facets", .object [("party", facet)])]
    ∃ settings timeout, ofMapping none raw = .ok settings ∧ settings.client.timeout = .float timeout ∧
      ¬timeout.ExceedsZero := by
  intro backend facet raw
  have hrun : (ofMapping none raw).toOption.map (fun settings => settings.backend.timeout) =
      some Double.nan := by
    decide +kernel
  cases h : ofMapping none raw with
  | error fault =>
    rw [h] at hrun
    cases hrun
  | ok settings =>
    rw [h] at hrun
    have htimeout : settings.backend.timeout = Double.nan := Option.some.inj hrun
    exact ⟨settings, _, rfl, rfl, by rw [htimeout]; decide⟩

end Settings

end Faceted

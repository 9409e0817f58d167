/-!
# Dialogues

A computation that asks questions on its way and goes on with the answers. Whoever runs it decides
how the answers come about.

## Termination

All functions recurse on the dialogue.
-/

namespace Faceted

/-- A computation that gives a result, or asks a question and goes on with the answer. -/
inductive Dialogue (Q A α : Type) where
  | done (result : α)
  | ask (question : Q) (next : A → Dialogue Q A α)

namespace Dialogue

variable {Q A α β σ : Type}

/-- A dialogue that goes on with another one. -/
def bind : Dialogue Q A α → (α → Dialogue Q A β) → Dialogue Q A β
  | .done result, f => f result
  | .ask question next, f => .ask question fun answer => (next answer).bind f

/-- A dialogue with another result. -/
def map (f : α → β) (d : Dialogue Q A α) : Dialogue Q A β := d.bind fun result => .done (f result)

/-- Runs a dialogue with someone who answers from what they know, and then knows something else: the
questions that were asked, the result, and what is known in the end. -/
def run (respond : σ → Q → A × σ) : σ → Dialogue Q A α → List Q × α × σ
  | known, .done result => ([], result, known)
  | known, .ask question next =>
    let (answer, known) := respond known question
    let (questions, result, known) := run respond known (next answer)
    (question :: questions, result, known)

/-- The questions of a dialogue that goes on with another one are those of both, one after the
other. -/
theorem run_bind (respond : σ → Q → A × σ) (known : σ) (d : Dialogue Q A α)
    (f : α → Dialogue Q A β) :
    (d.bind f).run respond known =
      let (asked, result, known) := d.run respond known
      let (more, last, known) := (f result).run respond known
      (asked ++ more, last, known) := by
  induction d generalizing known with
  | done result => simp [bind, run]
  | ask question next ih => simp [bind, run, ih]

end Dialogue

end Faceted

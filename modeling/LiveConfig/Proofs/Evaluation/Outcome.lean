import LiveConfig.Evaluation.Evaluator

/-! How evaluations end, whatever has been drawn before them. The log and the number of draws are no
part of an outcome: `Ends x P` says that the outcome of `x` satisfies `P` from every number of
draws, and `Gives x r` that it is always `r`. The rules follow the way in which evaluations are
composed, so a statement about an evaluation is built from statements about its steps. -/
namespace LiveConfig

variable {α β : Type} {x : Drawing α} {f : α → Drawing β}
variable {P : Except EvaluationError α → Prop} {Q : Except EvaluationError β → Prop}

/-- The outcome and the number of draws after it, from a number of draws. -/
def DrawingT.runFrom (x : Drawing α) (n : Nat) : Except EvaluationError α × Nat :=
  (x.run.run n).result

namespace Drawing

open DrawingT (runFrom)

theorem runFrom_bind (x : Drawing α) (f : α → Drawing β) (n : Nat) :
    (x >>= f).runFrom n =
      match x.runFrom n with
      | (.ok a, m) => (f a).runFrom m
      | (.error e, m) => (.error e, m) := by
  change (Logged.result (StateT.run (ExceptT.run x >>= _) n)) = _
  rw [StateT.run_bind, Logged.result_bind]
  unfold runFrom
  obtain ⟨outcome, m⟩ := (x.run.run n).result
  cases outcome with
  | ok a => rfl
  | error e => rfl

theorem runFrom_of_ok {n m : Nat} {a : α} (ran : x.runFrom n = (.ok a, m)) :
    (x >>= f).runFrom n = (f a).runFrom m := by
  rw [runFrom_bind, ran]

theorem runFrom_of_error {n m : Nat} {e : EvaluationError} (ran : x.runFrom n = (.error e, m)) :
    (x >>= f).runFrom n = (.error e, m) := by
  rw [runFrom_bind, ran]

/-- A composition fails in its first step or after it. -/
theorem error_of_runFrom_bind {n k : Nat} {e : EvaluationError}
    (failed : (x >>= f).runFrom n = (.error e, k)) :
    x.runFrom n = (.error e, k) ∨
      ∃ a m, x.runFrom n = (.ok a, m) ∧ (f a).runFrom m = (.error e, k) := by
  rw [runFrom_bind] at failed
  rcases first : x.runFrom n with ⟨reason | a, m⟩
  · rw [first] at failed
    cases failed
    exact .inl rfl
  · rw [first] at failed
    exact .inr ⟨a, m, rfl, failed⟩

/-- What follows an attempt sees its outcome and goes on after its draws. -/
theorem runFrom_attempt (f : Except EvaluationError α → Drawing β) (n : Nat) :
    (x.attempt >>= f).runFrom n = (f (x.runFrom n).1).runFrom (x.runFrom n).2 :=
  runFrom_of_ok rfl

/-- The outcome satisfies `P`, however many positions have been drawn. -/
def Ends (x : Drawing α) (P : Except EvaluationError α → Prop) : Prop := ∀ n, P (x.runFrom n).1

/-- The outcome is `r`, however many positions have been drawn. -/
abbrev Gives (x : Drawing α) (r : Except EvaluationError α) : Prop := x.Ends (· = r)

theorem Ends.outcome (ends : Ends x P) : P x.evaluation.outcome := ends 0

theorem ok_of_toOption {r : Except EvaluationError α} {a : α} (found : r.toOption = some a) :
    r = .ok a := by
  cases r with
  | ok a' =>
    cases found
    rfl
  | error e => cases found

/-- An outcome of which something is known that only a value has. -/
theorem exists_ok_of_map {γ : Type} {r : Except EvaluationError α} {f : α → γ} {c : γ}
    (known : r.toOption.map f = some c) : ∃ a, r = .ok a ∧ f a = c := by
  obtain ⟨a, found, value⟩ := Option.map_eq_some_iff.mp known
  exact ⟨a, ok_of_toOption found, value⟩

theorem ends_any (x : Drawing α) : Ends x fun _ => True := fun _ => trivial

theorem ends_pure {a : α} (holds : P (.ok a)) : Ends (pure a) P := fun _ => holds

theorem ends_throw {e : EvaluationError} (holds : P (.error e)) : Ends (throw e) P := fun _ => holds

theorem ends_draw {draws : Draws} {P : Except EvaluationError Binary64 → Prop}
    (holds : ∀ n, P (.ok (draws n))) : Ends (draw draws) P := holds

theorem Ends.mono {P' : Except EvaluationError α → Prop} (ends : Ends x P)
    (weaker : ∀ r, P r → P' r) : Ends x P' :=
  fun n => weaker _ (ends n)

theorem Ends.bind (ends : Ends x P) (next : ∀ a, P (.ok a) → Ends (f a) Q)
    (failed : ∀ e, P (.error e) → Q (.error e)) : Ends (x >>= f) Q := by
  intro n
  rw [runFrom_bind]
  have first := ends n
  cases run : x.runFrom n with
  | mk outcome m =>
    rw [run] at first
    cases outcome with
    | ok a => exact next a first m
    | error e => exact failed e first

/-- An attempt never fails: what follows sees the outcome. -/
theorem Ends.attempt {f : Except EvaluationError α → Drawing β} (ends : Ends x P)
    (next : ∀ r, P r → Ends (f r) Q) : Ends (x.attempt >>= f) Q := by
  have attempted : Ends x.attempt fun r => ∃ outcome, r = .ok outcome ∧ P outcome :=
    fun n => ⟨_, rfl, ends n⟩
  refine attempted.bind ?_ ?_
  · rintro _ ⟨_, ⟨⟩, holds⟩
    exact next _ holds
  · rintro _ ⟨_, ⟨⟩, _⟩

/-- A step that ends well hands its value on. -/
theorem Ends.then {a : α} (given : Gives x (.ok a)) (next : Ends (f a) Q) : Ends (x >>= f) Q := by
  refine given.bind ?_ ?_
  · rintro _ ⟨⟩
    exact next
  · rintro _ ⟨⟩

/-- A step that fails ends the evaluation. -/
theorem Ends.fails {e : EvaluationError} (given : Gives x (.error e)) :
    Gives (x >>= f) (.error e) := by
  refine given.bind ?_ ?_
  · rintro _ ⟨⟩
  · rintro _ ⟨⟩
    rfl

theorem gives_pure (a : α) : Gives (pure a) (.ok a) := ends_pure rfl

theorem gives_throw (e : EvaluationError) : Gives (throw e : Drawing α) (.error e) := ends_throw rfl

theorem gives_log (e : LogEvent) : Gives (log e) (.ok ()) := fun _ => rfl

end Drawing
end LiveConfig

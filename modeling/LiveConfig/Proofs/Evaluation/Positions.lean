import LiveConfig.Proofs.Evaluation.Outcome

/-! The positions that an evaluation takes.

From a number of draws, an evaluation takes the next few positions of its source and looks at no
others. So it goes the same way from every place of the source where the same positions come next:
it ends alike, after as many draws. That holds of each step and of their compositions, and by
induction on the budget of every key. -/
namespace LiveConfig

namespace Drawing

variable {α β : Type} {source : Nat → Option Binary64}
variable {x : Drawing α} {f : α → Drawing β} {n k l : Nat}

/-- The same `k` positions come next after `n` draws and after `n'`. -/
def SameNext (source : Nat → Option Binary64) (k n n' : Nat) : Prop :=
  ∀ i < k, source (n' + i) = source (n + i)

theorem SameNext.refl (source : Nat → Option Binary64) (k n : Nat) : SameNext source k n n :=
  fun _ _ => rfl

/-- After `n` draws, what happens is a matter of the next `k` positions. -/
def Takes (source : Nat → Option Binary64) (x : Drawing α) (n : Nat)
    (r : Except EvaluationError α) (k : Nat) : Prop :=
  ∀ n', SameNext source k n n' → x.runFrom n' = (r, n' + k)

/-- Whatever has been drawn, what happens is a matter of the positions that are drawn then. -/
def Taking (source : Nat → Option Binary64) (x : Drawing α) : Prop :=
  ∀ n, ∃ r k, Takes source x n r k

theorem Takes.bind {a : α} {r : Except EvaluationError β} (first : Takes source x n (.ok a) k)
    (second : Takes source (f a) (n + k) r l) : Takes source (x >>= f) n r (k + l) := by
  intro n' same
  have before : SameNext source k n n' := fun i within => same i (by omega)
  have after : SameNext source l (n + k) (n' + k) := by
    intro i within
    rw [Nat.add_assoc, Nat.add_assoc]
    exact same (k + i) (by omega)
  rw [runFrom_of_ok (first n' before), second (n' + k) after, Nat.add_assoc]

theorem Takes.bind_error {e : EvaluationError} (first : Takes source x n (.error e) k) :
    Takes source (x >>= f) n (.error e) k :=
  fun n' same => runFrom_of_error (first n' same)

theorem Taking.bind (first : Taking source x) (next : ∀ a, Taking source (f a)) :
    Taking source (x >>= f) := by
  intro n
  obtain ⟨r, k, takes⟩ := first n
  cases r with
  | error e => exact ⟨.error e, k, takes.bind_error⟩
  | ok a =>
    obtain ⟨r, l, later⟩ := next a (n + k)
    exact ⟨r, k + l, takes.bind later⟩

theorem taking_pure (a : α) : Taking source (pure a) := fun _ => ⟨.ok a, 0, fun _ _ => rfl⟩

theorem taking_throw (e : EvaluationError) : Taking source (throw e : Drawing α) :=
  fun _ => ⟨.error e, 0, fun _ _ => rfl⟩

theorem taking_log (e : LogEvent) : Taking source (log e) := fun _ => ⟨.ok (), 0, fun _ _ => rfl⟩

theorem taking_draw {draws : Draws} (drawn : ∀ i, source i = some (draws i)) :
    Taking source (draw draws) := by
  intro n
  refine ⟨.ok (draws n), 1, fun n' same => ?_⟩
  have next : draws n' = draws n := by
    have first := same 0 Nat.one_pos
    rw [Nat.add_zero, Nat.add_zero, drawn, drawn] at first
    exact Option.some.inj first
  rw [← next]
  rfl

/-- An attempt takes what is attempted. -/
theorem Taking.attempt {f : Except EvaluationError α → Drawing β} (first : Taking source x)
    (next : ∀ r, Taking source (f r)) : Taking source (x.attempt >>= f) := by
  refine Taking.bind (fun n => ?_) next
  obtain ⟨r, k, takes⟩ := first n
  refine ⟨.ok r, k, fun n' same => ?_⟩
  have ran := runFrom_attempt (fun r => (pure r : Drawing (Except EvaluationError α))) (x := x) n'
  rw [takes n' same, bind_pure] at ran
  exact ran

end Drawing

open Drawing (Taking log taking_pure taking_throw taking_log taking_draw)

/-- The positions of a selection, if it draws any. -/
def Selection.position? : Selection → Nat → Option Binary64
  | .resolve _ draws, i => some (draws i)
  | .keep, _ => none

namespace Inquiry

variable {q : Inquiry} {inner : Scope → String → Drawing Match} {scope : Scope} {key : String}

section Walk

variable {source : Nat → Option Binary64} (inside : ∀ scope key, Taking source (inner scope key))
include inside

theorem taking_membership (c : Criterion) : Taking source (membership inner scope key c) := by
  unfold membership
  cases c.segment? with
  | none => exact (taking_log _).bind fun _ => taking_pure none
  | some segment =>
    simp only
    split
    · exact taking_throw _
    · refine (inside scope segment).attempt fun outcome => ?_
      cases outcome with
      | ok m => exact taking_pure _
      | error reason =>
        simp only
        split
        · exact taking_pure _
        · exact taking_throw _

theorem taking_judge (c : Criterion) : Taking source (q.judge inner scope key c) := by
  unfold judge
  split
  case h_1 | h_2 =>
    refine (taking_membership inside c).attempt fun outcome => ?_
    cases outcome with
    | ok member =>
      cases member with
      | some decided => exact taking_pure _
      | none => exact taking_pure _
    | error reason =>
      have said : Taking source (do
          log (.undecidedSegment key c.toMatch reason)
          return ((none : Option ConfigValue), false)) := (taking_log _).bind fun _ => taking_pure _
      simp only
      split
      · exact (taking_throw reason).bind fun _ => said
      · exact said
  case h_3 => exact (taking_log _).bind fun _ => taking_pure _
  case h_4 => exact taking_pure _

theorem taking_judgeAll (cs : List Criterion) (i : Nat) :
    Taking source (q.judgeAll inner scope key i cs) := by
  induction cs generalizing i with
  | nil => exact taking_pure _
  | cons c cs ih =>
    unfold judgeAll
    refine (taking_judge inside c).bind fun judged => ?_
    simp only
    split
    · exact taking_pure _
    · refine (ih (i + 1)).bind fun rest => ?_
      cases rest with
      | some entries => exact taking_pure _
      | none => exact taking_pure _

theorem taking_firstHolding (vs : List ConditionalValue) (i : Nat) :
    Taking source (q.firstHolding inner scope key i vs) := by
  induction vs generalizing i with
  | nil => exact taking_pure _
  | cons v vs ih =>
    unfold firstHolding
    refine (taking_judgeAll inside v.criteria 0).bind fun judged => ?_
    cases judged with
    | some criteria => exact taking_pure _
    | none => exact ih (i + 1)

theorem taking_firstRow (rows : List (Nat × Row)) :
    Taking source (q.firstRow inner scope key rows) := by
  induction rows with
  | nil => exact taking_pure _
  | cons row rows ih =>
    unfold firstRow
    refine (taking_firstHolding inside row.2.values 0).bind fun found => ?_
    cases found with
    | some _ => exact taking_pure _
    | none => exact ih

end Walk

theorem taking_conclude (q : Inquiry) (key : String) (v : ConfigValue) :
    Taking q.selection.position? (q.conclude key v) := by
  unfold conclude
  split
  · rename_i d sharder draws _ resolves
    refine Taking.bind ?_ fun position => ?_
    · unfold locate
      split
      · exact taking_pure _
      · exact taking_draw fun i => by rw [resolves, Selection.position?]
    · cases d.at? position with
      | some selected => exact taking_pure _
      | none => exact (taking_log _).bind fun _ => taking_throw _
  · exact taking_pure _

/-- Evaluating a key takes positions of the selection, however many configs are entered. -/
theorem taking_resolve (q : Inquiry) (budget : Nat) (scope : Scope) (key : String) :
    Taking q.selection.position? (q.resolve budget scope key) := by
  induction budget generalizing scope key with
  | zero => exact taking_throw _
  | succ budget ih =>
    unfold resolve
    cases present : q.snapshot.get? key with
    | none => exact taking_throw _
    | some e =>
      refine (taking_firstRow ih _).bind fun found => ?_
      cases found with
      | none => exact taking_throw _
      | some found => exact (q.taking_conclude e.key _).bind fun _ => taking_pure _

end Inquiry
end LiveConfig

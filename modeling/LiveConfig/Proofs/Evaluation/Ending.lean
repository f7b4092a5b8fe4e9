import Mathlib.Logic.Function.Iterate
import LiveConfig.Proofs.Evaluation.Undecided

/-! How an evaluation ends.

Every config that is entered adds its key to those that are being evaluated, and with more than
`maxSegmentDepth` of them no config is entered. So the recursion through segments ends on every
snapshot, whatever its segments ask about: below so many nested calls there is none whose outcome
could matter. A segment that cannot be decided is an error in every config but the outermost one,
where a criterion about it does not hold. What reaches the caller is therefore that the key is
missing, or that nothing matches. -/
namespace LiveConfig

namespace Inquiry

variable {q : Inquiry} {scope : Scope} {key : String} {e : Element}
variable {inner inner' : Scope → String → Drawing Match}

/-- One call of an evaluation, its nested calls being made by `inner`. -/
def entering (q : Inquiry) (inner : Scope → String → Drawing Match) (scope : Scope)
    (key : String) : Drawing Match :=
  if maxSegmentDepth < scope.keys.length then throw .segmentTooDeep
  else
    match q.snapshot.get? key with
    | none => throw .keyNotFound
    | some e =>
      q.tryRows inner (scope.enter e.key) e (e.config.applicableRows q.snapshot.environment)

/-- A nested call is made with one key more in the scope. -/
theorem entering_congr (same : scope.keys.length ≤ maxSegmentDepth → ∀ inside segment,
      inside.keys.length = scope.keys.length + 1 → inner inside segment = inner' inside segment) :
    q.entering inner scope key = q.entering inner' scope key := by
  unfold entering
  split
  · rfl
  · rename_i shallow
    cases q.snapshot.get? key with
    | none => rfl
    | some e =>
      apply tryRows_congr_inner
      intro inside segment keys
      apply same (Nat.le_of_not_lt shallow)
      rw [keys, Scope.keys_enter, List.length_cons]

/-- An evaluation calls itself for the segments that are asked about. -/
theorem entering_follow (q : Inquiry) (scope : Scope) (key : String) :
    q.entering q.follow scope key = q.follow scope key := by
  unfold entering
  split
  next deep => rw [follow_of_deep deep]
  next shallow =>
    have entered := Nat.le_of_not_lt shallow
    cases present : q.snapshot.get? key with
    | none => rw [follow_of_absent entered present]
    | some e => rw [follow_of_present entered present]

/-- Where so many calls are nested that none of the innermost ones enters a config, it makes no
difference what calls these would make. -/
theorem iterate_entering (q : Inquiry) (inner : Scope → String → Drawing Match) (n : Nat)
    (scope : Scope) (key : String) (enough : maxSegmentDepth < scope.keys.length + n) :
    (q.entering^[n + 1] inner) scope key = q.follow scope key := by
  induction n generalizing scope key with
  | zero =>
    rw [follow_of_deep enough]
    exact if_pos enough
  | succ n ih =>
    rw [Function.iterate_succ_apply', ← entering_follow]
    apply entering_congr
    intro _ inside segment deeper
    apply ih
    omega

/-- The search of the outermost config does not fail: segments that cannot be decided are not
asked about from inside of a segment there. -/
theorem exists_found_of_outermost (q : Inquiry) (e : Element) (n : Nat) :
    ∃ found m, (q.search .outermost e).runFrom n = (.ok found, m) := by
  rcases searched : (q.search .outermost e).runFrom n with ⟨failure | found, m⟩
  · obtain ⟨_, row, _, c, drawn, _, judged⟩ := exists_reaches_of_error searched
    obtain ⟨segment, named, undecided⟩ := exists_segment_of_judge_error judged
    have keys : ((Scope.outermost.enter e.key).within row.2.properties).keys = [e.key] :=
      Scope.keys_within _ _
    rw [runFrom_judge_segment (Criterion.isSegment_of_named named), undecided, keys] at judged
    cases judged
  · exact ⟨found, m, rfl⟩

/-- The outermost config fails only for want of a match. -/
theorem noMatch_of_follow_outermost {n k : Nat} {failure : EvaluationError}
    (present : q.snapshot.get? key = some e)
    (failed : (q.follow .outermost key).runFrom n = (.error failure, k)) : failure = .noMatch := by
  rcases error_of_follow (Nat.zero_le _) present failed with searched | lacking
  · obtain ⟨_, _, found⟩ := q.exists_found_of_outermost e n
    cases searched.symm.trans found
  · exact lacking

/-- A missing key is the only reason for an answer to say so. -/
theorem outcome_answer_eq_keyNotFound_iff (q : Inquiry) (key : String) :
    (q.answer key).outcome = .error .keyNotFound ↔ q.snapshot.get? key = none := by
  constructor
  · intro failed
    cases present : q.snapshot.get? key with
    | none => rfl
    | some e => cases noMatch_of_follow_outermost present (Prod.ext failed rfl)
  · intro absent
    change ((q.follow .outermost key).runFrom 0).1 = _
    rw [follow_of_absent (Nat.zero_le _) absent]
    rfl

theorem error_of_answer {failure : EvaluationError}
    (failed : (q.answer key).outcome = .error failure) :
    failure = .keyNotFound ∨ failure = .noMatch := by
  cases present : q.snapshot.get? key with
  | none =>
    have missing := (q.outcome_answer_eq_keyNotFound_iff key).mpr present
    exact .inl (Except.error.inj (failed.symm.trans missing))
  | some e => exact .inr (noMatch_of_follow_outermost present (Prod.ext failed rfl))

end Inquiry

namespace Snapshot

/-- On every snapshot an evaluation ends: two calls more than segments may be deep are nested at
most, and whatever further nested calls would do makes no difference. It ends with a match, or for a
reason that is part of normal operation: the key is missing, which is said exactly if it is, or
nothing matches. That a segment cannot be decided never reaches the caller. -/
theorem ends_normally (s : Snapshot) (sharder : Sharder) (draws : Draws) (now : Int64)
    (context : LookupContext) (key : String) :
    let q := s.inquiry (.resolve sharder draws) now context
    let outcome := (s.tryEvaluateDrawing sharder draws now context key).outcome
    (∀ inner, s.tryEvaluateDrawing sharder draws now context key =
      Drawing.evaluation ((q.entering^[maxSegmentDepth + 2] inner) .outermost key)) ∧
    (outcome = .error .keyNotFound ↔ s.get? key = none) ∧
    ∀ failure, outcome = .error failure →
      (failure = .keyNotFound ∨ failure = .noMatch) ∧ failure.isNormal = true := by
  intro q outcome
  refine ⟨fun inner => ?_, q.outcome_answer_eq_keyNotFound_iff key, fun failure failed => ?_⟩
  · rw [q.iterate_entering inner (maxSegmentDepth + 1) .outermost key (by decide)]
    rfl
  · have reason := Inquiry.error_of_answer failed
    refine ⟨reason, ?_⟩
    rcases reason with rfl | rfl <;> rfl

end Snapshot
end LiveConfig

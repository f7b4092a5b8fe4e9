import LiveConfig.Proofs.Evaluation.Outcome

/-! What is logged on the way to a match.

`Records x P` says that every record that `x` logs satisfies `P`, from every number of draws. Until
it ends, an evaluation logs four kinds of records, and two of them carry a value of a config that it
has entered: that of a segment criterion whose segment cannot be decided, and that of a criterion
with an unknown operator, each of a row that applies. -/
namespace LiveConfig

open Drawing (Ends)

namespace Drawing

variable {α β : Type} {x : Drawing α} {f : α → Drawing β}
variable {P : LogEvent → Prop} {Q : Except EvaluationError α → Prop}

/-- Every record satisfies `P`, however many positions have been drawn. -/
def Records (x : Drawing α) (P : LogEvent → Prop) : Prop :=
  ∀ n, ∀ record ∈ (x.run.run n).events, P record

theorem records_pure {a : α} : Records (pure a) P := by
  intro n record member
  cases member

theorem records_throw {e : EvaluationError} : Records (throw e : Drawing α) P := by
  intro n record member
  cases member

theorem records_draw {draws : Draws} : Records (draw draws) P := by
  intro n record member
  cases member

theorem records_log {record : LogEvent} (holds : P record) : Records (log record) P := by
  intro n other member
  have only : ((log record : Drawing Unit).run.run n).events = [record] := rfl
  rw [only, List.mem_singleton] at member
  exact member ▸ holds

theorem events_bind (x : Drawing α) (f : α → Drawing β) (n : Nat) :
    ((x >>= f).run.run n).events = (x.run.run n).events ++
      match x.runFrom n with
      | (.ok a, m) => ((f a).run.run m).events
      | (.error _, _) => [] := by
  change (Logged.events (StateT.run (ExceptT.run x >>= ExceptT.bindCont f) n)) = _
  rw [StateT.run_bind, Logged.events_bind]
  unfold DrawingT.runFrom
  obtain ⟨outcome, m⟩ := (x.run.run n).result
  cases outcome with
  | ok a => rfl
  | error e => rfl

/-- What follows a step may depend on how the step ends. -/
theorem Records.bind (first : Records x P) (ends : Ends x Q)
    (next : ∀ a, Q (.ok a) → Records (f a) P) : Records (x >>= f) P := by
  intro n record member
  rw [events_bind, List.mem_append] at member
  rcases member with before | after
  · exact first n record before
  · have ended := ends n
    rcases ran : x.runFrom n with ⟨e | a, m⟩
    · simp [ran] at after
    · rw [ran] at after ended
      exact next a ended m record after

theorem Records.then (first : Records x P) (next : ∀ a, Records (f a) P) : Records (x >>= f) P :=
  first.bind (ends_any x) fun a _ => next a

theorem events_attempt (x : Drawing α) (n : Nat) :
    (x.attempt.run.run n).events = (x.run.run n).events := by
  change (x.run.run n).events ++ [] = _
  rw [List.append_nil]

/-- An attempt logs what is attempted, and what follows sees the outcome. -/
theorem Records.attempt {f : Except EvaluationError α → Drawing β} (first : Records x P)
    (ends : Ends x Q) (next : ∀ r, Q r → Records (f r) P) : Records (x.attempt >>= f) P := by
  have attempted : Ends x.attempt fun r => ∀ outcome, r = .ok outcome → Q outcome := by
    intro n outcome ended
    cases ended
    exact ends n
  refine Records.bind ?_ attempted fun r ended => next r (ended r rfl)
  intro n record member
  rw [events_attempt] at member
  exact first n record member

end Drawing

open Drawing (Records)

/-- A criterion of a row that applies, in a config that is held. -/
structure Snapshot.Poses (s : Snapshot) (e : Element) (c : Criterion) : Prop where
  held : ∃ key, s.get? key = some e
  applies : ∃ r ∈ e.config.applicableRows s.environment, ∃ v ∈ r.2.values, c ∈ v.criteria

/-- Records of an evaluation that has not ended. -/
inductive Snapshot.Remarks (s : Snapshot) : LogEvent → Prop
  | noSegmentKey (key : String) : s.Remarks (.noSegmentKey key)
  | emptyDistribution (key : String) : s.Remarks (.emptyDistribution key)
  | undecided {e : Element} {c : Criterion} {v : ConfigValue} (poses : s.Poses e c)
    (asks : c.operator.isSegment = true) (carries : c.toMatch = some v)
    (reason : EvaluationError) : s.Remarks (.undecidedSegment e.key (some v) reason)
  | unknown {e : Element} {c : Criterion} (poses : s.Poses e c) (odd : c.operator = .unknown) :
    s.Remarks (.unknownOperator e.key c)

namespace Inquiry

variable {q : Inquiry} {inner : Scope → String → Drawing Match} {scope : Scope} {e : Element}

/-- Without the name of a segment there is nothing to fail at. -/
theorem ends_membership (key : String) (c : Criterion) :
    Ends (membership inner scope key c) fun r =>
      ∀ reason, r = .error reason → ∃ v, c.operator.isSegment = true ∧ c.toMatch = some v := by
  unfold membership
  cases named : c.segment? with
  | none =>
    refine Ends.then (Drawing.gives_log _) (Drawing.ends_pure ?_)
    rintro _ ⟨⟩
  | some segment =>
    refine (Drawing.ends_any _).mono fun _ _ _ _ => ?_
    unfold Criterion.segment? at named
    split at named
    · rename_i asks
      obtain ⟨v, carries, _⟩ := Option.bind_eq_some_iff.mp named
      exact ⟨v, asks, carries⟩
    · cases named

section Walk

variable (inside : ∀ scope key, Records (inner scope key) q.snapshot.Remarks)
include inside

theorem records_membership (key : String) (c : Criterion) :
    Records (membership inner scope key c) q.snapshot.Remarks := by
  unfold membership
  cases c.segment? with
  | none => exact (Drawing.records_log (.noSegmentKey key)).then fun _ => Drawing.records_pure
  | some segment =>
    simp only
    split
    · exact Drawing.records_throw
    · refine (inside scope segment).attempt (Drawing.ends_any _) fun outcome _ => ?_
      cases outcome with
      | ok m => exact Drawing.records_pure
      | error reason =>
        simp only
        split
        · exact Drawing.records_pure
        · exact Drawing.records_throw

theorem records_judge {c : Criterion} (poses : q.snapshot.Poses e c) :
    Records (q.judge inner scope e.key c) q.snapshot.Remarks := by
  unfold judge
  split
  case h_1 | h_2 =>
    refine (records_membership inside e.key c).attempt (ends_membership e.key c)
      fun outcome ended => ?_
    cases outcome with
    | ok member =>
      cases member with
      | some decided => exact Drawing.records_pure
      | none => exact Drawing.records_pure
    | error reason =>
      obtain ⟨v, asks, carries⟩ := ended reason rfl
      have remark : q.snapshot.Remarks (.undecidedSegment e.key c.toMatch reason) := by
        rw [carries]
        exact .undecided poses asks carries reason
      have said := (Drawing.records_log remark).then fun _ =>
        Drawing.records_pure (a := ((none : Option ConfigValue), false))
      simp only
      split
      · exact Drawing.records_throw.then fun _ => said
      · exact said
  case h_3 odd =>
    exact (Drawing.records_log (.unknown poses odd)).then fun _ => Drawing.records_pure
  case h_4 => exact Drawing.records_pure

theorem records_judgeAll (cs : List Criterion) (i : Nat)
    (poses : ∀ c ∈ cs, q.snapshot.Poses e c) :
    Records (q.judgeAll inner scope e.key i cs) q.snapshot.Remarks := by
  induction cs generalizing i with
  | nil => exact Drawing.records_pure
  | cons c cs ih =>
    unfold judgeAll
    refine (records_judge inside (poses c List.mem_cons_self)).then fun judged => ?_
    simp only
    split
    · exact Drawing.records_pure
    · refine (ih (i + 1) fun c' member => poses c' (List.mem_cons_of_mem c member)).then
        fun rest => ?_
      cases rest with
      | some entries => exact Drawing.records_pure
      | none => exact Drawing.records_pure

theorem records_firstHolding (vs : List ConditionalValue) (i : Nat)
    (poses : ∀ v ∈ vs, ∀ c ∈ v.criteria, q.snapshot.Poses e c) :
    Records (q.firstHolding inner scope e.key i vs) q.snapshot.Remarks := by
  induction vs generalizing i with
  | nil => exact Drawing.records_pure
  | cons v vs ih =>
    unfold firstHolding
    refine (records_judgeAll inside v.criteria 0 (poses v List.mem_cons_self)).then
      fun judged => ?_
    cases judged with
    | some criteria => exact Drawing.records_pure
    | none => exact ih (i + 1) fun v' member => poses v' (List.mem_cons_of_mem v member)

theorem records_firstRow (rows : List (Nat × Row))
    (poses : ∀ r ∈ rows, ∀ v ∈ r.2.values, ∀ c ∈ v.criteria, q.snapshot.Poses e c) :
    Records (q.firstRow inner scope e.key rows) q.snapshot.Remarks := by
  induction rows with
  | nil => exact Drawing.records_pure
  | cons row rows ih =>
    unfold firstRow
    refine (records_firstHolding inside row.2.values 0 (poses row List.mem_cons_self)).then
      fun found => ?_
    cases found with
    | some _ => exact Drawing.records_pure
    | none => exact ih fun r member => poses r (List.mem_cons_of_mem row member)

end Walk

theorem records_conclude (q : Inquiry) (key : String) (v : ConfigValue) :
    Records (q.conclude key v) q.snapshot.Remarks := by
  unfold conclude
  split
  · rename_i d sharder draws _ _
    refine Records.then ?_ fun position => ?_
    · unfold locate
      split
      · exact Drawing.records_pure
      · exact Drawing.records_draw
    · cases d.at? position with
      | some selected => exact Drawing.records_pure
      | none =>
        exact (Drawing.records_log (.emptyDistribution key)).then fun _ => Drawing.records_throw
  · exact Drawing.records_pure

/-- Whatever is entered on the way, an evaluation that has not ended logs remarks. -/
theorem records_resolve (q : Inquiry) (budget : Nat) (scope : Scope) (key : String) :
    Records (q.resolve budget scope key) q.snapshot.Remarks := by
  induction budget generalizing scope key with
  | zero => exact Drawing.records_throw
  | succ budget ih =>
    unfold resolve
    cases present : q.snapshot.get? key with
    | none => exact Drawing.records_throw
    | some e =>
      have poses : ∀ r ∈ e.config.applicableRows q.snapshot.environment, ∀ v ∈ r.2.values,
          ∀ c ∈ v.criteria, q.snapshot.Poses e c :=
        fun r applies v inRow c guards => ⟨⟨key, present⟩, r, applies, v, inRow, guards⟩
      refine (records_firstRow ih _ poses).then fun found => ?_
      cases found with
      | none => exact Drawing.records_throw
      | some found => exact (q.records_conclude e.key _).then fun _ => Drawing.records_pure

end Inquiry

/-- Every record of an evaluation is a remark. -/
theorem Snapshot.remarks_tryEvaluateDrawing {s : Snapshot} {sharder : Sharder} {draws : Draws}
    {now : Int64} {context : LookupContext} {key : String} {record : LogEvent}
    (logged : record ∈ (s.tryEvaluateDrawing sharder draws now context key).run.events) :
    s.Remarks record := by
  have events : (s.tryEvaluateDrawing sharder draws now context key).run.events =
      (((s.inquiry (.resolve sharder draws) now context).resolve (maxSegmentDepth + 1) .outermost
        key).run.run 0).events ++ [] := rfl
  rw [events, List.append_nil] at logged
  exact Inquiry.records_resolve _ _ _ _ 0 record logged

end LiveConfig

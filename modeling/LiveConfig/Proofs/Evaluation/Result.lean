import LiveConfig.Proofs.Evaluation.Choice
import LiveConfig.Proofs.Evaluation.Outcome

/-! The result of an evaluation as a function.

Where a source always draws the same position, an evaluation has one result, which is a function of
the inquiry, the scope and the key: the first conditional value of the applicable rows of which
every criterion holds, with its value. `ruling` is the decision on one criterion: a segment that
cannot be decided is an error inside of a segment, and in the outermost config a criterion that does
not hold. `gives_result` says that the evaluator computes this function. -/
namespace LiveConfig

open Drawing (Ends Gives)

/-- What a criterion sees under a property name. -/
abbrev View := String → Option ConfigValue

/-- A view from inside of a row. -/
def View.within (view : View) (properties : Properties) : View :=
  fun name => (properties.get? name).or (view name)

@[simp] theorem Scope.keys_enter (scope : Scope) (key : String) :
    (scope.enter key).keys = key :: scope.keys := rfl

@[simp] theorem Scope.keys_within (scope : Scope) (properties : Properties) :
    (scope.within properties).keys = scope.keys := by
  unfold Scope.within
  split <;> rfl

/-- A row without properties adds no frame, and its properties would add nothing to the view. -/
theorem Scope.property?_within (scope : Scope) (properties : Properties) :
    (scope.within properties).property? = View.within scope.property? properties := by
  funext name
  unfold Scope.within
  split
  · rename_i empty
    have absent : properties.get? name = none := by
      obtain ⟨entries, nodup⟩ := properties
      have : entries = [] := List.isEmpty_iff.mp empty
      subst this
      rfl
    simp only [View.within, absent, Option.none_or]
  · simp only [View.within, Scope.property?, List.findSome?_cons]
    cases properties.get? name <;> rfl

/-- What the evaluation of a segment tells about membership. -/
def verdict : Except EvaluationError Match → Except EvaluationError Bool
  | .ok m => .ok (m.value.value == .bool true)
  | .error e => if e.isNormal then .ok false else .error e

/-- Membership as a segment gives it, unless the segment is being evaluated. -/
def asks (members : Scope → String → Except EvaluationError Bool) (scope : Scope)
    (segment : String) : Except EvaluationError Bool :=
  if scope.keys.contains segment then .error .segmentCycle else members scope segment

namespace Criterion

theorem isSegment_of_named {c : Criterion} {segment : String}
    (named : c.segment? = some segment) : c.operator.isSegment = true := by
  unfold segment? at named
  split at named
  · assumption
  · cases named

/-- The property that is recorded for a criterion. -/
def seen (c : Criterion) (view : View) : Option ConfigValue :=
  if c.operator.isSegment || c.operator == .unknown then none else view c.property

/-- Whether a criterion holds, given what segments answer. -/
def ruling (c : Criterion) (view : View) (nested : Bool)
    (answers : String → Except EvaluationError Bool) : Except EvaluationError Bool :=
  if c.operator.isSegment then
    match c.segment? with
    | none => .ok false
    | some segment =>
      match answers segment with
      | .ok member => .ok (member == (c.operator == .inSegment))
      | .error e => if nested then .error e else .ok false
  else .ok (c.operator.holds (view c.property) c.toMatch)

end Criterion

/-- The record of criteria that all hold. -/
def recordFrom (view : View) (i : Nat) (cs : List Criterion) : List EvaluatedCriterion :=
  (cs.zipIdx i).map fun c => ⟨c.2, c.1.seen view, true⟩

/-- What the evaluator hands on of a choice. -/
def Choice.handed (view : View) (choice : Choice) :
    Nat × Nat × ConfigValue × List EvaluatedCriterion :=
  (choice.rowIndex, choice.valueIndex, choice.value.value,
    recordFrom (view.within choice.row.properties) 0 choice.value.criteria)

/-- The match of a choice, given its value and the index of the variant that this is. -/
def Choice.concluded (view : View) (e : Element) (choice : Choice) (value : ConfigValue)
    (variant : Option Nat) : Match :=
  ⟨value, e, recordFrom (view.within choice.row.properties) 0 choice.value.criteria,
    choice.rowIndex, choice.valueIndex, variant⟩

/-- The value of a match is a given one or, for a distribution, a variant that lies within it. -/
def Match.Takes (m : Match) (v : ConfigValue) : Prop :=
  match v.value with
  | .weighted d => ∃ i variant, m.variantIndex = some i ∧ d.variants[i]? = some variant ∧
      m.value = variant.value
  | _ => m.variantIndex = none ∧ m.value = v

namespace Inquiry

/-- The decision on a criterion in a scope. -/
def rules (q : Inquiry) (members : Scope → String → Except EvaluationError Bool) (scope : Scope)
    (c : Criterion) : Except EvaluationError Bool :=
  c.ruling (q.lookup? scope) (1 < scope.keys.length) (asks members scope)

/-- The value of a selected conditional value, with the index of the variant that it is resolved to
when a draw gives position `n` of the source. -/
def settled (q : Inquiry) (n : Nat) (key : String) (v : ConfigValue) :
    Except EvaluationError (ConfigValue × Option Nat) :=
  match v.value, q.selection with
  | .weighted d, .resolve sharder draws =>
    match d.select? ⟨sharder, draws n⟩ key q.properties with
    | some (variant, i) => .ok (variant, some i)
    | none => .error .noMatch
  | _, _ => .ok (v, none)

/-- The match of a choice. -/
def matched (q : Inquiry) (n : Nat) (e : Element) (view : View) :
    Option Choice → Except EvaluationError Match
  | none => .error .noMatch
  | some choice => do
    let (value, variant) ← q.settled n e.key choice.value.value
    return choice.concluded view e value variant

/-- The choice among the rows of a config that is being evaluated in a scope. -/
def choice (q : Inquiry) (members : Scope → String → Except EvaluationError Bool) (scope : Scope)
    (e : Element) : Except EvaluationError (Option Choice) :=
  firstChoice (fun row => q.rules members (scope.within row.properties))
    (e.config.applicableRows q.snapshot.environment)

/-- The result of evaluating a key in a scope; `budget` configs may still be entered. -/
def result (q : Inquiry) : Nat → Scope → String → Except EvaluationError Match
  | 0, _, _ => .error .segmentTooDeep
  | budget + 1, scope, key =>
    match q.snapshot.get? key with
    | none => .error .keyNotFound
    | some e => do
      let choice ← q.choice (fun scope key => verdict (q.result budget scope key))
        (scope.enter e.key) e
      q.matched 0 e (q.lookup? scope) choice

theorem result_present {q : Inquiry} {e : Element} {budget : Nat} {scope : Scope} {key : String}
    (present : q.snapshot.get? key = some e) : q.result (budget + 1) scope key =
      q.choice (fun scope key => verdict (q.result budget scope key)) (scope.enter e.key) e >>=
        q.matched 0 e (q.lookup? scope) := by
  simp only [result, present]

theorem result_absent {q : Inquiry} {budget : Nat} {scope : Scope} {key : String}
    (absent : q.snapshot.get? key = none) :
    q.result (budget + 1) scope key = .error .keyNotFound := by
  simp only [result, absent]

/-- A match is that of a choice among the applicable rows of a config. -/
theorem choice_of_result {q : Inquiry} {budget : Nat} {scope : Scope} {key : String} {m : Match}
    (given : q.result budget scope key = .ok m) :
    ∃ n e choice, budget = n + 1 ∧ q.snapshot.get? key = some e ∧
      q.choice (fun scope key => verdict (q.result n scope key)) (scope.enter e.key) e =
        .ok (some choice) ∧ q.matched 0 e (q.lookup? scope) (some choice) = .ok m := by
  cases budget with
  | zero => cases given
  | succ n =>
    cases present : q.snapshot.get? key with
    | none =>
      rw [result_absent present] at given
      cases given
    | some e =>
      rw [result_present present] at given
      cases found : q.choice (fun scope key => verdict (q.result n scope key))
        (scope.enter e.key) e with
      | error failure =>
        rw [found] at given
        cases given
      | ok made =>
        rw [found] at given
        cases made with
        | none => cases given
        | some choice => exact ⟨n, e, choice, rfl, rfl, found, given⟩

theorem lookup?_within (q : Inquiry) (scope : Scope) (properties : Properties) :
    q.lookup? (scope.within properties) = View.within (q.lookup? scope) properties := by
  funext name
  simp only [lookup?, Scope.property?_within, View.within, Option.or_assoc]

@[simp] theorem lookup?_enter (q : Inquiry) (scope : Scope) (key : String) :
    q.lookup? (scope.enter key) = q.lookup? scope := rfl

section Settled

variable {q : Inquiry} {key : String} {n : Nat} {v : ConfigValue} {d : WeightedValues}
variable {sharder : Sharder} {draws : Draws}

theorem settled_weighted (resolves : q.selection = .resolve sharder draws)
    (weighted : v.value = .weighted d) : q.settled n key v =
      match d.select? ⟨sharder, draws n⟩ key q.properties with
      | some (variant, i) => .ok (variant, some i)
      | none => .error .noMatch := by
  unfold settled
  rw [weighted, resolves]

theorem settled_other (other : ∀ d, v.value ≠ .weighted d) : q.settled n key v = .ok (v, none) := by
  unfold settled
  split
  · exact (other _ ‹_›).elim
  · rfl

theorem settled_kept (keeps : q.selection = .keep) : q.settled n key v = .ok (v, none) := by
  unfold settled
  split
  · rename_i resolves
    rw [keeps] at resolves
    cases resolves
  · rfl

/-- Settling a value fails only for a distribution without variants. -/
theorem noMatch_of_settled {failure : EvaluationError}
    (failed : q.settled n key v = .error failure) : failure = .noMatch := by
  unfold settled at failed
  split at failed
  · split at failed
    · cases failed
    · exact (Except.error.inj failed).symm
  · cases failed

theorem matched_of_settled {e : Element} {view : View} {choice : Choice} {value : ConfigValue}
    {variant : Option Nat} (given : q.settled n e.key choice.value.value = .ok (value, variant)) :
    q.matched n e view (some choice) = .ok (choice.concluded view e value variant) := by
  simp only [matched, given]
  rfl

theorem matched_of_failed {e : Element} {view : View} {choice : Choice} {failure : EvaluationError}
    (failed : q.settled n e.key choice.value.value = .error failure) :
    q.matched n e view (some choice) = .error failure := by
  simp only [matched, failed]
  rfl

end Settled

section Evaluator

variable {q : Inquiry} {scope : Scope} {key : String} {inner : Scope → String → Drawing Match}
variable {members : Scope → String → Except EvaluationError Bool}

theorem gives_membership (c : Criterion)
    (segments : ∀ s, c.segment? = some s → s ∉ scope.keys →
      Ends (inner scope s) (verdict · = members scope s)) :
    Gives (membership inner scope key c)
      (match c.segment? with
        | none => .ok none
        | some s => some <$> asks members scope s) := by
  unfold membership
  cases segment : c.segment? with
  | none => exact (Drawing.gives_log _).then (Drawing.gives_pure _)
  | some s =>
    simp only [asks]
    split
    · exact (Drawing.gives_throw _).fails
    · rename_i outside
      have fresh : s ∉ scope.keys := fun entered => outside (List.contains_iff_mem.mpr entered)
      refine (segments s segment fresh).attempt fun outcome answered => ?_
      rw [← answered]
      cases outcome with
      | ok m => exact Drawing.gives_pure _
      | error e =>
        simp only [verdict]
        split
        · exact Drawing.gives_pure _
        · exact Drawing.gives_throw _

theorem gives_judge (c : Criterion)
    (segments : ∀ s, c.segment? = some s → s ∉ scope.keys →
      Ends (inner scope s) (verdict · = members scope s)) :
    Gives (q.judge inner scope key c)
      ((fun holds => (c.seen (q.lookup? scope), holds)) <$> q.rules members scope c) := by
  unfold judge
  split
  case h_1 op | h_2 op =>
    simp only [rules, Criterion.ruling, Criterion.seen, op, Operator.isSegment, if_true,
      Bool.true_or]
    refine (gives_membership c segments).attempt ?_
    rintro _ rfl
    cases c.segment? with
    | none => exact Drawing.gives_pure _
    | some s =>
      cases asked : asks members scope s with
      | ok member =>
        simp only [asked, Functor.map, Except.map]
        exact Drawing.gives_pure _
      | error e =>
        simp only [asked, Functor.map, Except.map]
        by_cases nested : 1 < scope.keys.length
        · simp only [nested, if_true, decide_true]
          exact (Drawing.gives_throw e).fails
        · simp only [nested, if_false, decide_false, Bool.false_eq_true]
          exact (Drawing.gives_log _).then (Drawing.gives_pure _)
  case h_3 op =>
    simp only [rules, Criterion.ruling, Criterion.seen, op, Operator.isSegment]
    exact (Drawing.gives_log _).then (Drawing.gives_pure _)
  case h_4 inside outside known =>
    have plain : c.operator.isSegment = false := by
      unfold Operator.isSegment
      split
      · exact (inside ‹_›).elim
      · exact (outside ‹_›).elim
      · rfl
    have named : (c.operator == .unknown) = false := beq_eq_false_iff_ne.mpr known
    simp only [rules, Criterion.ruling, Criterion.seen, plain, named, Bool.or_self,
      Bool.false_eq_true, if_false]
    exact Drawing.gives_pure _

theorem gives_judgeAll {rule : Criterion → Except EvaluationError Bool} {cs : List Criterion}
    (judged : ∀ c ∈ cs, Gives (q.judge inner scope key c)
      ((fun holds => (c.seen (q.lookup? scope), holds)) <$> rule c)) (i : Nat) :
    Gives (q.judgeAll inner scope key i cs)
      ((fun all => if all then some (recordFrom (q.lookup? scope) i cs) else none) <$>
        cs.allM rule) := by
  induction cs generalizing i with
  | nil => exact Drawing.gives_pure _
  | cons c cs ih =>
    simp only [List.forall_mem_cons] at judged
    obtain ⟨first, rest⟩ := judged
    rw [List.allM_cons]
    cases ruled : rule c with
    | error e =>
      rw [ruled] at first
      exact first.fails
    | ok holds =>
      rw [ruled] at first
      refine first.then ?_
      cases holds with
      | false => exact Drawing.gives_pure _
      | true =>
        have tail := ih rest (i + 1)
        change Gives _ (_ <$> cs.allM rule)
        cases ruled : cs.allM rule with
        | error e =>
          rw [ruled] at tail
          exact tail.fails
        | ok all =>
          rw [ruled] at tail
          refine tail.then ?_
          cases all with
          | false => exact Drawing.gives_pure _
          | true => exact Drawing.gives_pure _

theorem gives_firstHolding {rule : Criterion → Except EvaluationError Bool}
    {vs : List ConditionalValue}
    (judged : ∀ v ∈ vs, ∀ c ∈ v.criteria, Gives (q.judge inner scope key c)
      ((fun holds => (c.seen (q.lookup? scope), holds)) <$> rule c)) (i : Nat) :
    Gives (q.firstHolding inner scope key i vs)
      ((Option.map fun v => (v.2, v.1.value, recordFrom (q.lookup? scope) 0 v.1.criteria)) <$>
        (vs.zipIdx i).findM? fun v => v.1.criteria.allM rule) := by
  induction vs generalizing i with
  | nil => exact Drawing.gives_pure _
  | cons v vs ih =>
    simp only [List.forall_mem_cons] at judged
    obtain ⟨first, rest⟩ := judged
    have head := gives_judgeAll first 0
    rw [List.zipIdx_cons, List.findM?]
    cases ruled : v.criteria.allM rule with
    | error e =>
      rw [ruled] at head
      exact head.fails
    | ok all =>
      rw [ruled] at head
      refine head.then ?_
      cases all with
      | false => exact ih rest (i + 1)
      | true => exact Drawing.gives_pure _

theorem gives_firstRow {rule : Row → Criterion → Except EvaluationError Bool}
    {rows : List (Nat × Row)}
    (judged : ∀ r ∈ rows, ∀ v ∈ r.2.values, ∀ c ∈ v.criteria,
      Gives (q.judge inner (scope.within r.2.properties) key c)
        ((fun holds => (c.seen (q.lookup? (scope.within r.2.properties)), holds)) <$>
          rule r.2 c)) :
    Gives (q.firstRow inner scope key rows)
      (Option.map (Choice.handed (q.lookup? scope)) <$> firstChoice rule rows) := by
  induction rows with
  | nil => exact Drawing.gives_pure _
  | cons r rows ih =>
    simp only [List.forall_mem_cons] at judged
    obtain ⟨first, rest⟩ := judged
    have head := gives_firstHolding first 0
    rw [lookup?_within] at head
    unfold firstChoice
    rw [List.findSomeM?_cons]
    cases ruled : r.2.values.zipIdx.findM? fun v => v.1.criteria.allM (rule r.2) with
    | error e =>
      rw [ruled] at head
      exact head.fails
    | ok found =>
      rw [ruled] at head
      refine head.then ?_
      cases found with
      | none => exact ih rest
      | some v => exact Drawing.gives_pure _

/-- The rows of a config are searched as `choice` does. -/
theorem gives_choice (e : Element)
    (segments : ∀ r ∈ e.config.applicableRows q.snapshot.environment, ∀ v ∈ r.2.values,
      ∀ c ∈ v.criteria, ∀ s, c.segment? = some s → s ∉ (scope.within r.2.properties).keys →
        Ends (inner (scope.within r.2.properties) s)
          (verdict · = members (scope.within r.2.properties) s)) :
    Gives (q.firstRow inner scope e.key (e.config.applicableRows q.snapshot.environment))
      (Option.map (Choice.handed (q.lookup? scope)) <$> q.choice members scope e) := by
  apply gives_firstRow
  intro r hr v hv c hc
  exact gives_judge c (segments r hr v hv c hc)

theorem ends_locate {sharder : Sharder} {draws : Draws} {d : WeightedValues}
    {P : Except EvaluationError Binary64 → Prop}
    (holds : ∀ n, P (.ok (d.position ⟨sharder, draws n⟩ key q.properties))) :
    Ends (q.locate sharder draws key d) P := by
  unfold locate
  unfold Distribution.position at holds
  cases identified : d.identity? q.properties with
  | some identity =>
    simp only [identified] at holds
    exact Drawing.ends_pure (holds 0)
  | none =>
    simp only [identified] at holds
    exact Drawing.ends_draw holds

theorem ends_conclude {v : ConfigValue}
    {P : Except EvaluationError (ConfigValue × Option Nat) → Prop}
    (holds : ∀ n, P (q.settled n key v)) : Ends (q.conclude key v) P := by
  unfold conclude
  unfold settled at holds
  split
  · rename_i d sharder draws isWeighted resolves
    simp only [isWeighted, resolves] at holds
    have located : Ends (q.locate sharder draws key d) fun r =>
        ∃ n, r = .ok (d.position ⟨sharder, draws n⟩ key q.properties) :=
      ends_locate fun n => ⟨n, rfl⟩
    refine located.bind ?_ ?_
    · rintro _ ⟨n, ⟨⟩⟩
      have chance := holds n
      unfold Distribution.select? at chance
      cases selected : d.at? (d.position ⟨sharder, draws n⟩ key q.properties) with
      | some s =>
        rw [selected] at chance
        exact Drawing.ends_pure chance
      | none =>
        rw [selected] at chance
        exact (Drawing.gives_log _).then (Drawing.ends_throw chance)
    · rintro _ ⟨_, ⟨⟩⟩
  · rename_i other
    have chance := holds 0
    split at chance
    · exact (other _ _ _ ‹_› ‹_›).elim
    · exact Drawing.ends_pure chance

/-- The end of an evaluation that enters a config, its segments answering as `members` does. -/
theorem ends_resolve {budget : Nat} {e : Element} {P : Except EvaluationError Match → Prop}
    (members : Scope → String → Except EvaluationError Bool)
    (present : q.snapshot.get? key = some e)
    (segments : ∀ r ∈ e.config.applicableRows q.snapshot.environment, ∀ v ∈ r.2.values,
      ∀ c ∈ v.criteria, ∀ s, c.segment? = some s →
        s ∉ ((scope.enter e.key).within r.2.properties).keys →
          Ends (q.resolve budget ((scope.enter e.key).within r.2.properties) s)
            (verdict · = members ((scope.enter e.key).within r.2.properties) s))
    (holds : ∀ n, P (q.choice members (scope.enter e.key) e >>= q.matched n e (q.lookup? scope))) :
    Ends (q.resolve (budget + 1) scope key) P := by
  have searched := gives_choice e segments
  unfold resolve tryRows
  simp only [present]
  cases chosen : q.choice members (scope.enter e.key) e with
  | error failure =>
    rw [chosen] at searched holds
    exact searched.fails.mono fun r same => same ▸ holds 0
  | ok found =>
    rw [chosen] at searched holds
    refine searched.then ?_
    cases found with
    | none => exact Drawing.ends_throw (holds 0)
    | some choice =>
      have concluded : Ends (q.conclude e.key choice.value.value) fun r =>
          ∃ n, r = q.settled n e.key choice.value.value := ends_conclude fun n => ⟨n, rfl⟩
      refine concluded.bind ?_ ?_
      · rintro ⟨value, variant⟩ ⟨n, settled⟩
        have chance := holds n
        change P (q.settled n e.key choice.value.value >>= _) at chance
        rw [← settled] at chance
        exact Drawing.ends_pure chance
      · rintro failure ⟨n, settled⟩
        have chance := holds n
        change P (q.settled n e.key choice.value.value >>= _) at chance
        rw [← settled] at chance
        exact chance

end Evaluator

/-- Every draw gives the same position. -/
def Steady (q : Inquiry) : Prop :=
  match q.selection with
  | .resolve _ draws => ∀ n, draws n = draws 0
  | .keep => True

theorem Steady.settled {q : Inquiry} (steady : q.Steady) (n : Nat) : q.settled n = q.settled 0 := by
  funext key v
  unfold Inquiry.settled
  unfold Steady at steady
  split
  · rename_i isWeighted resolves
    simp only [resolves] at steady
    rw [steady n]
  · rfl

theorem Steady.matched {q : Inquiry} (steady : q.Steady) (n : Nat) :
    q.matched n = q.matched 0 := by
  funext e view choice
  cases choice with
  | none => rfl
  | some choice => simp only [Inquiry.matched, steady.settled n]

/-- With a steady source the evaluator computes `result`. -/
theorem gives_result {q : Inquiry} (steady : q.Steady) (budget : Nat) (scope : Scope)
    (key : String) : Gives (q.resolve budget scope key) (q.result budget scope key) := by
  induction budget generalizing scope key with
  | zero => exact Drawing.gives_throw _
  | succ budget ih =>
    unfold result
    cases present : q.snapshot.get? key with
    | none =>
      unfold resolve
      simp only [present]
      exact Drawing.gives_throw _
    | some e =>
      refine ends_resolve (fun scope key => verdict (q.result budget scope key)) present ?_ ?_
      · intro r _ v _ c _ s _ _
        exact (ih _ s).mono fun _ same => congrArg verdict same
      · intro n
        rw [steady.matched n]

theorem outcome_answer {q : Inquiry} (steady : q.Steady) (key : String) :
    (q.answer key).outcome = q.result (maxSegmentDepth + 1) .outermost key :=
  (gives_result steady _ _ _).outcome

end Inquiry

namespace Snapshot

theorem steady_resolving (s : Snapshot) (chance : Chance) (now : Int64) (context : LookupContext) :
    (s.inquiry chance.selection now context).Steady := fun _ => rfl

theorem steady_keeping (s : Snapshot) (now : Int64) (context : LookupContext) :
    (s.inquiry .keep now context).Steady := trivial

theorem outcome_tryEvaluate (s : Snapshot) (chance : Chance) (now : Int64)
    (context : LookupContext) (key : String) :
    (s.tryEvaluate chance now context key).outcome =
      (s.inquiry chance.selection now context).result (maxSegmentDepth + 1) .outermost key :=
  Inquiry.outcome_answer (s.steady_resolving chance now context) key

theorem outcome_evaluateUnselected (s : Snapshot) (now : Int64) (context : LookupContext)
    (key : String) :
    (s.evaluateUnselected now context key).outcome =
      (s.inquiry .keep now context).result (maxSegmentDepth + 1) .outermost key :=
  Inquiry.outcome_answer (s.steady_keeping now context) key

end Snapshot
end LiveConfig

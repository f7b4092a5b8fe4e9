import LiveConfig.Proofs.Evaluation.Agreement
import LiveConfig.Proofs.Evaluation.Positions
import LiveConfig.Proofs.Evaluation.Walk

/-! Segments that cannot be decided.

`Undecided` follows an evaluation down to the place where it refers to a key that is being evaluated
or goes too deep, from a segment to the one that a criterion consulted there asks about. The failure
comes back up the same way: no segment on the way gives a value or consults what stands after that
criterion. In the outermost config the criterion does not hold, whichever way it asks, and the
search goes on. Every other segment is decided: there the two ways to ask have opposite answers as
long as the segment draws the same positions for both. -/
namespace LiveConfig

open Drawing (runFrom_bind runFrom_of_ok runFrom_of_error runFrom_attempt error_of_runFrom_bind)

/-- What becomes of a criterion that asks about a segment, given the answer. Inside of a segment the
lack of one is an error. -/
def Criterion.answered (c : Criterion) (nested : Bool) :
    Except EvaluationError (Option Bool) → Except EvaluationError (Option ConfigValue × Bool)
  | .ok none => .ok (none, false)
  | .ok (some member) => .ok (none, member == (c.operator == .inSegment))
  | .error e => if nested then .error e else .ok (none, false)

namespace Inquiry

/-- Evaluates a key in a scope: as many configs may still be entered as the keys there leave. An
answer follows its key in the outermost scope, and each segment in the scope that asks. -/
def follow (q : Inquiry) (scope : Scope) (key : String) : Drawing Match :=
  q.resolve (maxSegmentDepth + 1 - scope.keys.length) scope key

/-- The search of the rows of a config that is evaluated in a scope. -/
def search (q : Inquiry) (scope : Scope) (e : Element) :
    Drawing (Option (Nat × Nat × ConfigValue × List EvaluatedCriterion)) :=
  q.firstRow q.follow (scope.enter e.key) e.key (e.config.applicableRows q.snapshot.environment)

/-- The evaluation of a config in a scope, begun after `n` draws, comes to a criterion after `m`. -/
def Consults (q : Inquiry) (scope : Scope) (e : Element) (n : Nat) (p : Place) (row : Nat × Row)
    (v : ConditionalValue) (c : Criterion) (m : Nat) : Prop :=
  q.Reaches q.follow (scope.enter e.key) e.key (e.config.applicableRows q.snapshot.environment)
    n p row v c m

/-- A segment that is asked about in a scope after `n` draws is undecided, which shows after `k`: it
is being evaluated, or lies too deep, or its evaluation consults a criterion about an undecided
segment. -/
inductive Undecided (q : Inquiry) : Scope → String → Nat → EvaluationError → Nat → Prop
  | cycle {scope : Scope} {segment : String} {n : Nat} (entered : segment ∈ scope.keys) :
      Undecided q scope segment n .segmentCycle n
  | tooDeep {scope : Scope} {segment : String} {n : Nat} (outside : segment ∉ scope.keys)
      (deep : maxSegmentDepth < scope.keys.length) :
      Undecided q scope segment n .segmentTooDeep n
  | inside {scope : Scope} {segment : String} {e : Element} {n m k : Nat} {p : Place}
      {row : Nat × Row} {v : ConditionalValue} {c : Criterion} {inner : String}
      {failure : EvaluationError} (outside : segment ∉ scope.keys)
      (shallow : scope.keys.length ≤ maxSegmentDepth)
      (present : q.snapshot.get? segment = some e) (consulted : q.Consults scope e n p row v c m)
      (named : c.segment? = some inner)
      (undecided : Undecided q ((scope.enter e.key).within row.2.properties) inner m failure k) :
      Undecided q scope segment n failure k

theorem Undecided.not_normal {q : Inquiry} {scope : Scope} {segment : String} {n k : Nat}
    {failure : EvaluationError} (undecided : q.Undecided scope segment n failure k) :
    failure.isNormal = false := by
  induction undecided with
  | cycle => rfl
  | tooDeep => rfl
  | inside _ _ _ _ _ _ ih => exact ih

section Following

variable {q : Inquiry} {scope : Scope} {key : String} {e : Element}

theorem follow_of_deep (deep : maxSegmentDepth < scope.keys.length) :
    q.follow scope key = throw .segmentTooDeep := by
  have spent : maxSegmentDepth + 1 - scope.keys.length = 0 := by omega
  rw [follow, spent, resolve]

theorem follow_of_absent (shallow : scope.keys.length ≤ maxSegmentDepth)
    (absent : q.snapshot.get? key = none) : q.follow scope key = throw .keyNotFound := by
  have left : maxSegmentDepth + 1 - scope.keys.length =
      maxSegmentDepth - scope.keys.length + 1 := by omega
  simp only [follow, left, resolve, absent]

/-- A config is searched with one key more in the scope. -/
theorem follow_of_present (shallow : scope.keys.length ≤ maxSegmentDepth)
    (present : q.snapshot.get? key = some e) : q.follow scope key =
      q.tryRows q.follow (scope.enter e.key) e
        (e.config.applicableRows q.snapshot.environment) := by
  have left : maxSegmentDepth + 1 - scope.keys.length =
      maxSegmentDepth - scope.keys.length + 1 := by omega
  simp only [follow, left, resolve, present]
  apply tryRows_congr_inner
  intro inside segment deeper
  rw [follow, deeper, Scope.keys_enter, List.length_cons, Nat.add_sub_add_right]

theorem runFrom_follow_of_error {n k : Nat} {failure : EvaluationError}
    (shallow : scope.keys.length ≤ maxSegmentDepth) (present : q.snapshot.get? key = some e)
    (failed : (q.search scope e).runFrom n = (.error failure, k)) :
    (q.follow scope key).runFrom n = (.error failure, k) := by
  rw [follow_of_present shallow present]
  exact runFrom_of_error failed

/-- Once something is selected, an evaluation fails only for want of a match. -/
theorem error_of_follow {n k : Nat} {failure : EvaluationError}
    (shallow : scope.keys.length ≤ maxSegmentDepth) (present : q.snapshot.get? key = some e)
    (failed : (q.follow scope key).runFrom n = (.error failure, k)) :
    (q.search scope e).runFrom n = (.error failure, k) ∨ failure = .noMatch := by
  rw [follow_of_present shallow present] at failed
  rcases error_of_runFrom_bind failed with searched | ⟨found, l, _, later⟩
  · exact .inl searched
  right
  cases found with
  | none =>
    cases later
    rfl
  | some found =>
    obtain ⟨_, _, v, _⟩ := found
    have settles : Drawing.Ends (q.conclude e.key v) fun r =>
        ∀ reason, r = .error reason → reason = .noMatch :=
      ends_conclude fun _ _ => noMatch_of_settled
    rcases error_of_runFrom_bind later with unsettled | ⟨_, _, _, returned⟩
    · exact settles l failure (congrArg Prod.fst unsettled)
    · cases returned

/-- Where there is no lack of a match, it is the search that failed. -/
theorem search_of_follow_error {n k : Nat} {failure : EvaluationError}
    (shallow : scope.keys.length ≤ maxSegmentDepth) (present : q.snapshot.get? key = some e)
    (failed : (q.follow scope key).runFrom n = (.error failure, k))
    (abnormal : failure.isNormal = false) :
    (q.search scope e).runFrom n = (.error failure, k) := by
  rcases error_of_follow shallow present failed with searched | rfl
  · exact searched
  · cases abnormal

end Following

section Judging

variable {q : Inquiry} {inner : Scope → String → Drawing Match} {scope : Scope}
variable {key segment : String} {c : Criterion} {n m k : Nat} {failure : EvaluationError}

theorem error_of_verdict {r : Except EvaluationError Match}
    (failed : some <$> verdict r = .error failure) :
    r = .error failure ∧ failure.isNormal = false := by
  cases r with
  | ok m => cases failed
  | error e =>
    cases normal : e.isNormal with
    | true =>
      rw [verdict, if_pos normal] at failed
      cases failed
    | false =>
      simp only [verdict, normal, Bool.false_eq_true, if_false] at failed
      cases failed
      exact ⟨rfl, normal⟩

theorem runFrom_membership_unnamed (unnamed : c.segment? = none) :
    (membership inner scope key c).runFrom n = (.ok none, n) := by
  unfold membership
  rw [unnamed]
  rfl

theorem runFrom_membership_entered (named : c.segment? = some segment)
    (entered : segment ∈ scope.keys) :
    (membership inner scope key c).runFrom n = (.error .segmentCycle, n) := by
  unfold membership
  rw [named]
  simp only [List.contains_iff_mem.mpr entered, if_true]
  rfl

theorem runFrom_membership_outside (inner : Scope → String → Drawing Match) (key : String)
    (n : Nat) (named : c.segment? = some segment) (outside : segment ∉ scope.keys) :
    (membership inner scope key c).runFrom n =
      (some <$> verdict ((inner scope segment).runFrom n).1,
        ((inner scope segment).runFrom n).2) := by
  have fresh : scope.keys.contains segment = false := by
    simpa only [List.contains_eq_mem, decide_eq_false_iff_not] using outside
  unfold membership
  rw [named]
  simp only [fresh, Bool.false_eq_true, if_false]
  rw [runFrom_attempt]
  cases ((inner scope segment).runFrom n).1 with
  | ok m => rfl
  | error e =>
    simp only [verdict]
    split <;> rfl

theorem runFrom_judge_segment (asks : c.operator.isSegment = true) :
    (q.judge inner scope key c).runFrom n =
      (c.answered (1 < scope.keys.length) ((membership inner scope key c).runFrom n).1,
        ((membership inner scope key c).runFrom n).2) := by
  unfold judge
  split
  case h_1 | h_2 =>
    rw [runFrom_attempt]
    rcases ((membership inner scope key c).runFrom n).1 with e | _ | member
    · simp only [Criterion.answered, decide_eq_true_eq]
      split <;> rfl
    · rfl
    · rfl
  case h_3 unknown =>
    rw [unknown] at asks
    cases asks
  case h_4 inside outside _ =>
    unfold Operator.isSegment at asks
    split at asks
    · exact (inside ‹_›).elim
    · exact (outside ‹_›).elim
    · cases asks

theorem runFrom_judge_member {member : Bool} (named : c.segment? = some segment)
    (asked : (membership inner scope key c).runFrom n = (.ok (some member), m)) :
    (q.judge inner scope key c).runFrom n =
      (.ok (none, member == (c.operator == .inSegment)), m) := by
  rw [runFrom_judge_segment (Criterion.isSegment_of_named named), asked]
  rfl

end Judging

section Failing

variable {q : Inquiry} {scope : Scope} {key segment : String} {c : Criterion} {n m k : Nat}
variable {failure : EvaluationError}

/-- Within a segment a criterion fails exactly as the segment fails that it asks about. -/
theorem runFrom_judge_error (nested : 1 < scope.keys.length) (named : c.segment? = some segment)
    (undecided : (membership q.follow scope key c).runFrom n = (.error failure, k)) :
    (q.judge q.follow scope key c).runFrom n = (.error failure, k) := by
  rw [runFrom_judge_segment (Criterion.isSegment_of_named named), undecided, decide_eq_true nested]
  rfl

theorem exists_segment_of_judge_error
    (failed : (q.judge q.follow scope key c).runFrom n = (.error failure, k)) :
    ∃ inner, c.segment? = some inner ∧
      (membership q.follow scope key c).runFrom n = (.error failure, k) := by
  cases asks : c.operator.isSegment with
  | true =>
    cases named : c.segment? with
    | none =>
      rw [runFrom_judge_segment asks, runFrom_membership_unnamed named] at failed
      cases failed
    | some inner =>
      refine ⟨inner, rfl, ?_⟩
      rw [runFrom_judge_segment asks] at failed
      rcases asked : (membership q.follow scope key c).runFrom n with ⟨e | _ | member, m⟩
      · rw [asked] at failed
        simp only [Criterion.answered] at failed
        split at failed
        · cases failed
          rfl
        · cases failed
      · rw [asked] at failed
        cases failed
      · rw [asked] at failed
        cases failed
  | false =>
    have decided : ∃ holds, (q.judge q.follow scope key c).runFrom n = (.ok holds, n) := by
      unfold judge
      split
      case h_1 op | h_2 op =>
        rw [op] at asks
        cases asks
      · exact ⟨_, rfl⟩
      · exact ⟨_, rfl⟩
    obtain ⟨_, decided⟩ := decided
    cases failed.symm.trans decided

theorem nested_of_entered (entered : scope.keys ≠ []) (key : String) (properties : Properties) :
    1 < ((scope.enter key).within properties).keys.length := by
  have enclosing := List.length_pos_iff.mpr entered
  rw [Scope.keys_within, Scope.keys_enter, List.length_cons]
  omega

/-- A cycle or too deep a reference passes through every segment on the way to it. -/
theorem membership_of_undecided (undecided : q.Undecided scope segment n failure k)
    (entered : scope.keys ≠ []) (key : String) (named : c.segment? = some segment) :
    (membership q.follow scope key c).runFrom n = (.error failure, k) := by
  induction undecided generalizing key c with
  | cycle again => exact runFrom_membership_entered named again
  | tooDeep outside deep =>
    rw [runFrom_membership_outside _ _ _ named outside, follow_of_deep deep]
    rfl
  | @inside scope segment e n m k p row v asked inner failure outside shallow present consulted
      asks undecided ih =>
    have nested := nested_of_entered entered e.key row.2.properties
    have deeper := List.ne_nil_of_length_pos (Nat.zero_lt_of_lt nested)
    have judged := runFrom_judge_error nested asks (ih deeper e.key asks)
    have fails := runFrom_follow_of_error shallow present (consulted.fails judged)
    rw [runFrom_membership_outside _ _ _ named outside, fails]
    simp only [verdict, undecided.not_normal]
    rfl

/-- Every failure to decide a segment comes from a cycle or from the depth. -/
theorem undecided_of_membership
    (failed : (membership q.follow scope key c).runFrom n = (.error failure, k))
    (named : c.segment? = some segment) : q.Undecided scope segment n failure k := by
  -- on the way in, fewer and fewer configs may still be entered
  induction left : maxSegmentDepth + 1 - scope.keys.length using Nat.strongRecOn
    generalizing scope key c segment n with
  | ind left ih =>
    by_cases entered : segment ∈ scope.keys
    · rw [runFrom_membership_entered named entered] at failed
      cases failed
      exact .cycle entered
    rw [runFrom_membership_outside _ _ _ named entered] at failed
    obtain ⟨answered, rfl⟩ := Prod.mk.inj failed
    obtain ⟨followed, abnormal⟩ := error_of_verdict answered
    by_cases deep : maxSegmentDepth < scope.keys.length
    · rw [follow_of_deep deep] at followed ⊢
      cases followed
      exact .tooDeep entered deep
    have shallow := Nat.le_of_not_lt deep
    cases present : q.snapshot.get? segment with
    | none =>
      rw [follow_of_absent shallow present] at followed
      cases followed
      cases abnormal
    | some e =>
      have searched := search_of_follow_error shallow present (Prod.ext followed rfl) abnormal
      obtain ⟨p, row, v, asked, m, consulted, judged⟩ := exists_reaches_of_error searched
      obtain ⟨inner, asks, fails⟩ := exists_segment_of_judge_error judged
      refine .inside entered shallow present consulted asks (ih _ ?_ fails asks rfl)
      rw [Scope.keys_within, Scope.keys_enter, List.length_cons]
      omega

/-- A segment that is not undecided has an answer. -/
theorem verdict_of_decided (decided : ∀ failure k, ¬ q.Undecided scope segment n failure k)
    (named : c.segment? = some segment) :
    ∃ member, verdict ((q.follow scope segment).runFrom n).1 = .ok member := by
  have outside : segment ∉ scope.keys := fun entered => decided _ _ (.cycle entered)
  have asked := runFrom_membership_outside q.follow "" n named outside
  cases answered : verdict ((q.follow scope segment).runFrom n).1 with
  | ok member => exact ⟨member, rfl⟩
  | error failure =>
    rw [answered] at asked
    exact (decided _ _ (undecided_of_membership asked named)).elim

/-- In the outermost config a criterion about an undecided segment does not hold. -/
theorem Undecided.not_holds {e : Element} {properties : Properties}
    (undecided : q.Undecided ((Scope.outermost.enter e.key).within properties) segment n failure k)
    (named : c.segment? = some segment) :
    (q.judge q.follow ((Scope.outermost.enter e.key).within properties) e.key c).runFrom n =
      (.ok (none, false), k) := by
  have keys : ((Scope.outermost.enter e.key).within properties).keys = [e.key] :=
    Scope.keys_within _ _
  have entered : ((Scope.outermost.enter e.key).within properties).keys ≠ [] := by
    rw [keys]
    exact List.cons_ne_nil _ _
  have asked := membership_of_undecided undecided entered e.key named
  rw [runFrom_judge_segment (Criterion.isSegment_of_named named), asked, keys]
  rfl

end Failing

/-- What becomes of the segments that an evaluation asks about. -/
structure FailsClosed (q : Inquiry) : Prop where
  /-- A segment that consults a criterion about an undecided segment fails with the same error. It
  gives no value, and nothing is consulted in it that stands after the criterion. -/
  passes : ∀ {scope segment e n p row v c inner m failure k}, scope.keys ≠ [] →
    scope.keys.length ≤ maxSegmentDepth → q.snapshot.get? segment = some e →
    q.Consults scope e n p row v c m → c.segment? = some inner →
    q.Undecided ((scope.enter e.key).within row.2.properties) inner m failure k →
      (q.follow scope segment).runFrom n = (.error failure, k) ∧
      ∀ {p' row' v' c' m'}, q.Consults scope e n p' row' v' c' m' → ¬ p.Before p'
  /-- Asking about a segment fails exactly if it is undecided, and with the error of the cycle or of
  the depth that is met. -/
  fails : ∀ {scope segment key c n failure k}, scope.keys ≠ [] → c.segment? = some segment →
    ((membership q.follow scope key c).runFrom n = (.error failure, k) ↔
      q.Undecided scope segment n failure k)
  /-- In the outermost config, a criterion about an undecided segment does not hold, whichever way
  it asks, and the search goes on with the next conditional value. -/
  outermost : ∀ {e n p row v c segment m failure k},
    q.Consults .outermost e n p row v c m → c.segment? = some segment →
    q.Undecided ((Scope.outermost.enter e.key).within row.2.properties) segment m failure k →
      (q.judge q.follow ((Scope.outermost.enter e.key).within row.2.properties) e.key c).runFrom m =
        (.ok (none, false), k) ∧
      (q.search .outermost e).runFrom n =
        (q.searchFrom q.follow (.enter .outermost e.key) e.key (p.value + 1) row
          ((e.config.applicableRows q.snapshot.environment).drop (p.row + 1))).runFrom k
  /-- The answer for a caller is that of the search of the outermost config. -/
  answer : ∀ {key e}, q.snapshot.get? key = some e → q.answer key =
    Drawing.evaluation (q.tryRows q.follow (.enter .outermost e.key) e
      (e.config.applicableRows q.snapshot.environment))
  /-- About a segment that is decided, the two ways to ask have opposite answers wherever the
  positions that one of them draws come next for the other one too. -/
  decided : ∀ {scope segment key c c' n}, c.operator = .inSegment →
    c'.operator = .notInSegment → c.segment? = some segment → c'.segment? = some segment →
    (∀ failure k, ¬ q.Undecided scope segment n failure k) →
    ∃ member k, (q.judge q.follow scope key c).runFrom n = (.ok (none, member), n + k) ∧
      ∀ n', Drawing.SameNext q.selection.position? k n n' →
        (q.judge q.follow scope key c').runFrom n' = (.ok (none, !member), n' + k)
  /-- A criterion that asks about a segment and names none does not hold. -/
  unnamed : ∀ {scope key c n}, c.operator.isSegment →
    (∀ v, c.toMatch = some v → ∀ s, v.value ≠ .string s) →
    (q.judge q.follow scope key c).runFrom n = (.ok (none, false), n)

theorem segment?_of_unnamed {c : Criterion}
    (unnamed : ∀ v, c.toMatch = some v → ∀ s, v.value ≠ .string s) : c.segment? = none := by
  unfold Criterion.segment?
  split
  · rw [Option.bind_eq_none_iff]
    intro v given
    unfold Value.string?
    split
    · exact (unnamed v given _ ‹_›).elim
    · rfl
  · rfl

/-- Undecided segments fail closed, whatever positions are drawn. -/
theorem failsClosed (q : Inquiry) : q.FailsClosed where
  passes := by
    intro scope segment e n p row v c inner m failure k entered shallow present consulted named
      undecided
    have nested := nested_of_entered entered e.key row.2.properties
    have deeper := List.ne_nil_of_length_pos (Nat.zero_lt_of_lt nested)
    have asked := membership_of_undecided undecided deeper e.key named
    have judged := runFrom_judge_error nested named asked
    exact ⟨runFrom_follow_of_error shallow present (consulted.fails judged),
      consulted.not_before judged⟩
  fails := by
    intro scope segment key c n failure k entered named
    exact ⟨fun failed => undecided_of_membership failed named,
      fun undecided => membership_of_undecided undecided entered key named⟩
  outermost := by
    intro e n p row v c segment m failure k consulted named undecided
    have judged := undecided.not_holds named
    exact ⟨judged, consulted.goesOn judged⟩
  answer := by
    intro key e present
    have followed : q.follow .outermost key = _ := follow_of_present (Nat.zero_le _) present
    rw [← followed]
    rfl
  decided := by
    intro scope segment key c c' n asks asks' named named' decided
    have outside : segment ∉ scope.keys := fun entered => decided _ _ (.cycle entered)
    obtain ⟨member, answered⟩ := verdict_of_decided decided named
    obtain ⟨r, k, takes⟩ :=
      q.taking_resolve (maxSegmentDepth + 1 - scope.keys.length) scope segment n
    have follows (n' : Nat) (same : Drawing.SameNext q.selection.position? k n n') :
        (q.follow scope segment).runFrom n' = (r, n' + k) := takes n' same
    rw [follows n (.refl _ k n)] at answered
    have asked {c : Criterion} (named : c.segment? = some segment) (n' : Nat)
        (same : Drawing.SameNext q.selection.position? k n n') :
        (q.judge q.follow scope key c).runFrom n' =
          (.ok (none, member == (c.operator == .inSegment)), n' + k) := by
      apply runFrom_judge_member named
      rw [runFrom_membership_outside q.follow key n' named outside, follows n' same, answered]
      rfl
    refine ⟨member, k, ?_, fun n' same => ?_⟩
    · have judged := asked named n (.refl _ k n)
      rw [asks] at judged
      cases member <;> exact judged
    · have judged := asked named' n' same
      rw [asks'] at judged
      cases member <;> exact judged
  unnamed := by
    intro scope key c n asks nameless
    rw [runFrom_judge_segment asks, runFrom_membership_unnamed (segment?_of_unnamed nameless)]
    rfl

end Inquiry

def Criterion.about (o : Operator) (segment : String) : Criterion :=
  ⟨"", o, some (Value.string segment).plain⟩

namespace Snapshot

open Criterion (about)

/-- Asks both ways about one of two segments that ask about each other. -/
def torn : Row := ⟨none, .empty,
  [⟨[about .inSegment "a"], (Value.string "in").plain⟩,
    ⟨[about .notInSegment "a"], (Value.string "out").plain⟩,
    .always (Value.string "undecided").plain]⟩

def tornFlag : Element := ⟨⟨"flag", 1, .featureFlag, none, [torn], []⟩, ⟨.remote, none⟩⟩

def entangled : Snapshot :=
  let a : Config := ⟨"a", 2, .segment, none,
    [⟨none, .empty, [⟨[about .inSegment "b"], (Value.bool true).plain⟩,
      .always (Value.bool false).plain]⟩], []⟩
  let b : Config := ⟨"b", 3, .segment, none,
    [⟨none, .empty, [⟨[about .notInSegment "a"], (Value.bool true).plain⟩]⟩], []⟩
  ⟨index [tornFlag, ⟨a, ⟨.remote, none⟩⟩, ⟨b, ⟨.remote, none⟩⟩], none, .empty⟩

/-- The first segment refers to itself through the second. -/
theorem undecided_entangled : (entangled.inquiry .keep 0 ⟨none, .empty⟩).Undecided
    (.enter .outermost "flag") "a" 0 .segmentCycle 0 := by
  refine .inside (p := ⟨0, 0, 0⟩) (by decide) (by decide) rfl
    ⟨rfl, rfl, rfl, 0, 0, .start, .start, .start⟩ rfl ?_
  refine .inside (p := ⟨0, 0, 0⟩) (by decide) (by decide) rfl
    ⟨rfl, rfl, rfl, 0, 0, .start, .start, .start⟩ rfl ?_
  exact .cycle (by decide)

/-- The flag takes neither of the values that ask about the segment. -/
theorem failsClosed_entangled : ∃ q, q = entangled.inquiry .keep 0 ⟨none, .empty⟩ ∧
    (∀ o, o = .inSegment ∨ o = .notInSegment →
      (Inquiry.membership q.follow (.enter .outermost "flag") "flag" (about o "a")).runFrom 0 =
          (.error .segmentCycle, 0)) ∧
    (q.judge q.follow (.enter .outermost "flag") "flag" (about .inSegment "a")).runFrom 0 =
      (.ok (none, false), 0) ∧
    (q.judge q.follow (.enter .outermost "flag") "flag" (about .notInSegment "a")).runFrom 0 =
      (.ok (none, false), 0) ∧
    (q.answer "flag").outcome.toOption.map (·.valueIndex) = some 2 := by
  have closed := Inquiry.failsClosed (entangled.inquiry .keep 0 ⟨none, .empty⟩)
  have first : Inquiry.Consults (entangled.inquiry .keep 0 ⟨none, .empty⟩) .outermost tornFlag 0
      ⟨0, 0, 0⟩ (0, torn) _ (about .inSegment "a") 0 :=
    ⟨rfl, rfl, rfl, 0, 0, .start, .start, .start⟩
  have notIn := (closed.outermost first rfl undecided_entangled).1
  have pastFirst : Inquiry.PastValue _ _ _ "flag"
      ⟨[about .inSegment "a"], (Value.string "in").plain⟩ 0 0 :=
    Inquiry.runFrom_judgeAll_of_not .start rfl notIn
  have second : Inquiry.Consults (entangled.inquiry .keep 0 ⟨none, .empty⟩) .outermost tornFlag 0
      ⟨0, 1, 0⟩ (0, torn) ⟨[about .notInSegment "a"], (Value.string "out").plain⟩
      (about .notInSegment "a") 0 :=
    ⟨rfl, rfl, rfl, 0, 0, .start, .next pastFirst .start, .start⟩
  refine ⟨_, rfl, ?_, notIn, (closed.outermost second rfl undecided_entangled).1,
    by decide +kernel⟩
  rintro o (rfl | rfl)
  · exact (closed.fails (List.cons_ne_nil _ _) rfl).mpr undecided_entangled
  · exact (closed.fails (List.cons_ne_nil _ _) rfl).mpr undecided_entangled

/-- A segment that a coin is tossed for, and a flag that asks both ways about it at once. -/
def tossed : Snapshot :=
  let coin : Value := .weighted
    ⟨[⟨1, (Value.bool true).plain⟩, ⟨1, (Value.bool false).plain⟩], none⟩
  let flag : Config := ⟨"flag", 1, .featureFlag, none, [⟨none, .empty,
    [⟨[about .inSegment "coin", about .notInSegment "coin"], (Value.string "both").plain⟩,
      .always (Value.string "never").plain]⟩], []⟩
  let segment : Config := ⟨"coin", 2, .segment, none, [⟨none, .empty, [.always coin.plain]⟩], []⟩
  ⟨index [⟨flag, ⟨.remote, none⟩⟩, ⟨segment, ⟨.remote, none⟩⟩], none, .empty⟩

/-- The coin is tossed for every criterion. So both can hold, even of one conditional value, and
neither can, although the segment is decided. -/
theorem tossed_holds_both_or_neither :
    let q (draws : Draws) := tossed.inquiry (.resolve Murmur3.fraction draws) 0 ⟨none, .empty⟩
    let holds (draws : Draws) (o : Operator) (n : Nat) :=
      (((q draws).judge (q draws).follow (.enter .outermost "flag") "flag"
        (about o "coin")).runFrom n).1.toOption.map Prod.snd
    let rising : Draws := fun i => .ofRatio false (if i = 0 then 1 else 3) 4
    let falling : Draws := fun i => .ofRatio false (if i = 0 then 3 else 1) 4
    (∀ draws ∈ [rising, falling], ∀ n ∈ [0, 1], ∀ failure k,
      ¬ (q draws).Undecided (.enter .outermost "flag") "coin" n failure k) ∧
    holds rising .inSegment 0 = some true ∧ holds rising .notInSegment 1 = some true ∧
    holds falling .inSegment 0 = some false ∧ holds falling .notInSegment 1 = some false ∧
    ((q rising).answer "flag").outcome.toOption.map
      (fun m => (m.valueIndex, m.criteria.map (·.matched))) = some (0, [true, true]) := by
  intro q holds rising falling
  have answered : ∀ draws ∈ [rising, falling], ∀ n ∈ [0, 1],
      ((Inquiry.membership (q draws).follow (.enter .outermost "flag") "flag"
        (about .inSegment "coin")).runFrom n).1.toOption.isSome = true := by decide +kernel
  refine ⟨?_, by decide +kernel, by decide +kernel, by decide +kernel, by decide +kernel,
    by decide +kernel⟩
  intro draws drawn n place failure k undecided
  have fails := Inquiry.membership_of_undecided undecided (List.cons_ne_nil _ _) "flag"
    (c := about .inSegment "coin") rfl
  have succeeds := answered draws drawn n place
  rw [fails] at succeeds
  cases succeeds

end Snapshot
end LiveConfig

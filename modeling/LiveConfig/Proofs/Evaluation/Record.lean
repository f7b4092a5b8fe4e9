import LiveConfig.Proofs.Distribution
import LiveConfig.Proofs.Evaluation.References
import LiveConfig.Proofs.Evaluation.Result

/-! The record of a match, and when there is none.

In the outermost config every criterion is decided, whatever becomes of the segments behind it, so
the evaluation of a key that is present comes down to one choice among its applicable rows. A match
records the first conditional value whose criteria all hold, by its indexes in the document; and
there is no match when no such value exists or when it carries an empty distribution. -/
namespace LiveConfig

/-- The scope of a row of a config that a caller asks for. -/
def Element.rowScope (e : Element) (row : Row) : Scope :=
  (Scope.outermost.enter e.key).within row.properties

theorem Element.length_keys_rowScope (e : Element) (row : Row) :
    (e.rowScope row).keys.length = 1 := by
  unfold Element.rowScope Scope.within
  split <;> rfl

/-- What a match says about a conditional value: where it stands, that each of its criteria held,
and the value that it gives. -/
structure Match.Records (m : Match) (choice : Choice) : Prop where
  rowIndex : m.rowIndex = choice.rowIndex
  row : m.element.config.rows[m.rowIndex]? = some choice.row
  valueIndex : m.valueIndex = choice.valueIndex
  length : m.criteria.length = choice.value.criteria.length
  criteria : ∀ i c, choice.value.criteria[i]? = some c → ∃ entry, m.criteria[i]? = some entry ∧
    entry.index = i ∧ entry.matched = true ∧ m.criterion? entry = some c
  value : m.Takes choice.value.value

theorem length_recordFrom (view : View) (i : Nat) (cs : List Criterion) :
    (recordFrom view i cs).length = cs.length := by
  simp only [recordFrom, List.length_map, List.length_zipIdx]

theorem getElem?_recordFrom {view : View} {cs : List Criterion} {i : Nat} {c : Criterion}
    (found : cs[i]? = some c) : (recordFrom view 0 cs)[i]? = some ⟨i, c.seen view, true⟩ := by
  simp only [recordFrom, List.getElem?_map, List.getElem?_zipIdx, found, Option.map_some,
    Nat.zero_add]

theorem asks_eq_ok_iff {members : Scope → String → Except EvaluationError Bool} {scope : Scope}
    {segment : String} {member : Bool} : asks members scope segment = .ok member ↔
      segment ∉ scope.keys ∧ members scope segment = .ok member := by
  unfold asks
  by_cases entered : segment ∈ scope.keys
  · simp [entered]
  · simp [entered]

/-- Outside of segments a criterion holds only if its segment, if it asks about one, can be
decided. -/
theorem Criterion.ruling_eq_true_iff {c : Criterion} {view : View}
    {answers : String → Except EvaluationError Bool} : c.ruling view false answers = .ok true ↔
      if c.operator.isSegment then
        ∃ segment, c.segment? = some segment ∧ answers segment = .ok (c.operator == .inSegment)
      else c.operator.holds (view c.property) c.toMatch = true := by
  unfold Criterion.ruling
  split
  · cases c.segment? with
    | none => simp
    | some segment => cases answer : answers segment <;> simp [answer]
  · simp

namespace Inquiry

/-- Whether a criterion holds in a scope. A segment criterion holds when its segment is not being
evaluated, can be decided, and has the caller as a member or not as the operator asks. -/
def Holds (q : Inquiry) (scope : Scope) (c : Criterion) : Prop :=
  if c.operator.isSegment then
    ∃ segment, c.segment? = some segment ∧ segment ∉ scope.keys ∧
      verdict (q.resolve maxSegmentDepth scope segment).evaluation.outcome =
        .ok (c.operator == .inSegment)
  else c.operator.holds (q.lookup? scope c.property) c.toMatch = true

/-- The decision on a criterion in a row of the outermost config. -/
def decided (q : Inquiry) (e : Element) (row : Row) (c : Criterion) : Bool :=
  (q.rules (fun scope key => verdict (q.result maxSegmentDepth scope key)) (e.rowScope row)
    c).toOption.getD false

section Outermost

variable {q : Inquiry} {e : Element} {row : Row} {c : Criterion} {key : String}

theorem rules_rowScope : q.rules (fun scope key => verdict (q.result maxSegmentDepth scope key))
    (e.rowScope row) c = .ok (q.decided e row c) := by
  unfold decided rules Criterion.ruling
  rw [e.length_keys_rowScope]
  split
  · cases c.segment? with
    | none => rfl
    | some segment =>
      cases asked : asks (fun scope key => verdict (q.result maxSegmentDepth scope key))
        (e.rowScope row) segment with
      | ok member =>
        simp only [asked]
        rfl
      | error failure =>
        simp only [asked]
        rfl
  · rfl

theorem decided_iff (steady : q.Steady) :
    q.decided e row c = true ↔ q.Holds (e.rowScope row) c := by
  have given : ∀ segment, (q.resolve maxSegmentDepth (e.rowScope row) segment).evaluation.outcome =
      q.result maxSegmentDepth (e.rowScope row) segment :=
    fun segment => (gives_result steady _ _ segment).outcome
  have ruled : q.decided e row c = true ↔
      q.rules (fun scope key => verdict (q.result maxSegmentDepth scope key)) (e.rowScope row) c =
        .ok true := by
    rw [rules_rowScope, Except.ok.injEq]
  rw [ruled, rules, e.length_keys_rowScope]
  refine Criterion.ruling_eq_true_iff.trans ?_
  unfold Holds
  simp only [asks_eq_ok_iff, given]

/-- A key that is present gets the match of one choice. -/
theorem result_outermost (present : q.snapshot.get? key = some e) :
    q.result (maxSegmentDepth + 1) .outermost key = q.matched 0 e (q.lookup? .outermost)
      (chosen (q.decided e) (e.config.applicableRows q.snapshot.environment)) := by
  have ruled : q.choice (fun scope key => verdict (q.result maxSegmentDepth scope key))
      (Scope.outermost.enter e.key) e =
        .ok (chosen (q.decided e) (e.config.applicableRows q.snapshot.environment)) :=
    firstChoice_of_decided fun _ _ _ _ _ _ => rules_rowScope
  rw [result_present present, ruled]
  rfl

theorem chosen_iff (steady : q.Steady) {choice : Choice} {rows : List (Nat × Row)} :
    chosen (q.decided e) rows = some choice ↔
      choice.IsFirst (fun row => q.Holds (e.rowScope row)) rows := by
  rw [chosen_eq_some_iff]
  simp only [decided_iff steady]

theorem not_chosen_iff (steady : q.Steady) {rows : List (Nat × Row)} :
    chosen (q.decided e) rows = none ↔
      ∀ r ∈ rows, ∀ v ∈ r.2.values, ∃ c ∈ v.criteria, ¬ q.Holds (e.rowScope r.2) c := by
  rw [chosen_eq_none_iff]
  simp only [decided_iff steady]

section Resolving

variable {sharder : Sharder} {draws : Draws} {n : Nat} {v : ConfigValue}

/-- A match has what is settled for a value: the value, or a variant of it. -/
theorem takes_of_settled {m : Match} (resolves : q.selection = .resolve sharder draws)
    (given : q.settled n key v = .ok (m.value, m.variantIndex)) : m.Takes v := by
  unfold Match.Takes
  split
  · rename_i d weighted
    rw [settled_weighted resolves weighted] at given
    cases selected : d.select? ⟨sharder, draws n⟩ key q.properties with
    | none =>
      rw [selected] at given
      cases given
    | some chosen =>
      obtain ⟨selectedValue, i⟩ := chosen
      rw [selected] at given
      obtain ⟨sameValue, sameIndex⟩ := Prod.mk.inj (Except.ok.inj given)
      obtain ⟨share, found, same⟩ := Distribution.variant_of_at? selected
      exact ⟨i, share, sameIndex.symm, found, sameValue.symm.trans same⟩
  · rename_i other
    rw [settled_other other] at given
    obtain ⟨sameValue, sameIndex⟩ := Prod.mk.inj (Except.ok.inj given)
    exact ⟨sameIndex.symm, sameValue.symm⟩

theorem settled_fails_iff (resolves : q.selection = .resolve sharder draws) :
    q.settled n key v = .error .noMatch ↔ ∃ d, v.value = .weighted d ∧ d.variants = [] := by
  by_cases weighted : ∃ d, v.value = .weighted d
  · obtain ⟨d, weighted⟩ := weighted
    rw [settled_weighted resolves weighted]
    have only : (∃ d', v.value = .weighted d' ∧ d'.variants = []) ↔ d.variants = [] := by
      simp only [weighted, Value.weighted.injEq, exists_eq_left']
    rw [only, ← Distribution.at?_eq_none_iff, Distribution.select?]
    cases d.at? (d.position ⟨sharder, draws n⟩ key q.properties) with
    | none => exact ⟨fun _ => rfl, fun _ => rfl⟩
    | some selected => exact ⟨nofun, nofun⟩
  · have other : ∀ d, v.value ≠ .weighted d := fun d same => weighted ⟨d, same⟩
    rw [settled_other other]
    exact ⟨nofun, fun ⟨d, same, _⟩ => (other d same).elim⟩

/-- A match of a choice records it. -/
theorem records_of_matched {view : View} {choice : Choice} {m : Match}
    (resolves : q.selection = .resolve sharder draws)
    (row : e.config.rows[choice.rowIndex]? = some choice.row)
    (inRow : choice.row.values[choice.valueIndex]? = some choice.value)
    (given : q.matched n e view (some choice) = .ok m) : m.element = e ∧ m.Records choice := by
  cases concluded : q.settled n e.key choice.value.value with
  | error failure =>
    rw [matched_of_failed concluded] at given
    cases given
  | ok settled =>
    obtain ⟨value, variant⟩ := settled
    rw [matched_of_settled concluded] at given
    cases given
    refine ⟨rfl, rfl, row, rfl, length_recordFrom _ _ _, ?_, takes_of_settled resolves concluded⟩
    intro i c found
    refine ⟨_, getElem?_recordFrom found, rfl, rfl, ?_⟩
    simp only [Match.criterion?, Choice.concluded, row, inRow, found, Option.bind_eq_bind,
      Option.bind_some]

theorem matched_fails_iff {view : View} {choice : Choice}
    (resolves : q.selection = .resolve sharder draws) :
    q.matched n e view (some choice) = .error .noMatch ↔
      ∃ d, choice.value.value.value = .weighted d ∧ d.variants = [] := by
  rw [← settled_fails_iff resolves]
  cases concluded : q.settled n e.key choice.value.value with
  | error failure => rw [matched_of_failed concluded, Except.error.injEq, Except.error.injEq]
  | ok settled =>
    obtain ⟨value, variant⟩ := settled
    rw [matched_of_settled concluded]
    exact ⟨nofun, nofun⟩

theorem record_of_result {m : Match} (steady : q.Steady)
    (resolves : q.selection = .resolve sharder draws)
    (given : q.result (maxSegmentDepth + 1) .outermost key = .ok m) :
    q.snapshot.get? key = some m.element ∧
      m.rowIndex ∈ m.element.config.rowOrder q.snapshot.environment ∧
      ∃ choice : Choice, m.Records choice ∧
        choice.IsFirst (fun row => q.Holds (m.element.rowScope row))
          (m.element.config.applicableRows q.snapshot.environment) := by
  cases present : q.snapshot.get? key with
  | none =>
    rw [result_absent present] at given
    cases given
  | some e =>
    rw [result_outermost present] at given
    cases found : chosen (q.decided e) (e.config.applicableRows q.snapshot.environment) with
    | none =>
      rw [found] at given
      cases given
    | some choice =>
      rw [found] at given
      have first := (chosen_iff steady).mp found
      obtain ⟨before, after, rows, _⟩ := first.inRows
      have applicable : (choice.rowIndex, choice.row) ∈
          e.config.applicableRows q.snapshot.environment :=
        rows ▸ List.mem_append_right before List.mem_cons_self
      obtain ⟨rfl, records⟩ := records_of_matched resolves
        (Config.getElem?_of_applicable applicable) first.inRow given
      refine ⟨rfl, ?_, choice, records, first⟩
      rw [records.rowIndex]
      exact List.mem_map_of_mem applicable

theorem noMatch_of_result_iff (steady : q.Steady)
    (resolves : q.selection = .resolve sharder draws) (present : q.snapshot.get? key = some e) :
    q.result (maxSegmentDepth + 1) .outermost key = .error .noMatch ↔
      (∀ r ∈ e.config.applicableRows q.snapshot.environment, ∀ v ∈ r.2.values,
        ∃ c ∈ v.criteria, ¬ q.Holds (e.rowScope r.2) c) ∨
      ∃ choice : Choice,
        choice.IsFirst (fun row => q.Holds (e.rowScope row))
          (e.config.applicableRows q.snapshot.environment) ∧
        ∃ d, choice.value.value.value = .weighted d ∧ d.variants = [] := by
  rw [result_outermost present, ← not_chosen_iff steady]
  simp only [← chosen_iff steady]
  cases found : chosen (q.decided e) (e.config.applicableRows q.snapshot.environment) with
  | none => exact ⟨fun _ => .inl rfl, fun _ => rfl⟩
  | some choice =>
    rw [matched_fails_iff resolves]
    constructor
    · exact fun empty => .inr ⟨choice, rfl, empty⟩
    · rintro (⟨⟨⟩⟩ | ⟨_, ⟨⟩, empty⟩)
      exact empty

end Resolving
end Outermost
end Inquiry

namespace Snapshot

/-- A match records the first conditional value of the applicable rows whose criteria all hold, and
the value that it carries or a variant of it; a key that is present has no match only if there is no
such value or the first one carries an empty distribution. -/
theorem tryEvaluate_records_first (s : Snapshot) (chance : Chance) (now : Int64)
    (context : LookupContext) (key : String) :
    (∀ m, (s.tryEvaluate chance now context key).outcome = .ok m →
      s.get? key = some m.element ∧ m.rowIndex ∈ m.element.config.rowOrder s.environment ∧
      ∃ choice : Choice, m.Records choice ∧ choice.IsFirst
        (fun row => (s.inquiry chance.selection now context).Holds (m.element.rowScope row))
        (m.element.config.applicableRows s.environment)) ∧
    (∀ e, s.get? key = some e →
      ((s.tryEvaluate chance now context key).outcome = .error .noMatch ↔
        (∀ r ∈ e.config.applicableRows s.environment, ∀ v ∈ r.2.values, ∃ c ∈ v.criteria,
          ¬ (s.inquiry chance.selection now context).Holds (e.rowScope r.2) c) ∨
        ∃ choice : Choice, choice.IsFirst
          (fun row => (s.inquiry chance.selection now context).Holds (e.rowScope row))
          (e.config.applicableRows s.environment) ∧
          ∃ d, choice.value.value.value = .weighted d ∧ d.variants = [])) := by
  have steady := s.steady_resolving chance now context
  rw [outcome_tryEvaluate]
  exact ⟨fun m given => Inquiry.record_of_result steady rfl given,
    fun e present => Inquiry.noMatch_of_result_iff steady rfl present⟩

/-- The flag's first conditional value is recorded, with its one criterion. -/
theorem tiered_records_first : ∃ m,
    (tiered.tryEvaluate (.murmur3 (.zero false)) 0 ⟨none, .empty⟩ "flag").outcome = .ok m ∧
      m.criteria.length = 1 ∧ ∃ choice, m.Records choice := by
  have recorded : (tiered.tryEvaluate (.murmur3 (.zero false)) 0 ⟨none, .empty⟩
      "flag").outcome.toOption.map (·.criteria.length) = some 1 := by decide +kernel
  cases given : (tiered.tryEvaluate (.murmur3 (.zero false)) 0 ⟨none, .empty⟩ "flag").outcome with
  | error failure =>
    rw [given] at recorded
    cases recorded
  | ok m =>
    rw [given] at recorded
    obtain ⟨_, _, choice, records, _⟩ :=
      (tryEvaluate_records_first tiered (.murmur3 (.zero false)) 0 ⟨none, .empty⟩ "flag").1 m given
    exact ⟨m, rfl, Option.some.inj recorded, choice, records⟩

end Snapshot
end LiveConfig

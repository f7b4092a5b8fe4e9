import LiveConfig.Proofs.Distribution
import LiveConfig.Proofs.Evaluation.References
import LiveConfig.Proofs.Evaluation.Result

/-! Keeping distributions and resolving them, side by side.

A distribution that is kept is no `true`, so a segment that is decided by one has no members, while
the variant that it resolves to may well be `true`. Where the segments that are reached from a key
hold no distribution that resolves to `true`, the two ways of evaluating the key decide every
criterion alike: they select the same conditional value, record the same criteria and fail alike,
and differ at most in the value. -/
namespace LiveConfig

open Drawing (Ends)
open Relation (TransGen ReflTransGen)

/-- A match in which a kept distribution may have been resolved. -/
structure Match.ResolvesTo (kept resolved : Match) : Prop where
  element : resolved.element = kept.element
  rowIndex : resolved.rowIndex = kept.rowIndex
  valueIndex : resolved.valueIndex = kept.valueIndex
  criteria : resolved.criteria = kept.criteria
  value : resolved.Takes kept.value

/-- The value of a match is no distribution that may resolve to `true`. -/
def Match.Whole (kept : Match) (sharder : Sharder) (draws : Draws) (context : LookupContext) :
    Prop :=
  ∀ d, kept.value.value = .weighted d → ∀ n variant i,
    d.select? ⟨sharder, draws n⟩ kept.key context.flattened = some (variant, i) →
      (variant.value == .bool true) = false

/-- Outcomes that agree but for the value of a kept distribution. -/
inductive SameRule : Except EvaluationError Match → Except EvaluationError Match → Prop
  | fails (e : EvaluationError) : SameRule (.error e) (.error e)
  | gives {kept resolved : Match} (resolves : kept.ResolvesTo resolved) :
      SameRule (.ok kept) (.ok resolved)

def Row.distributions (row : Row) : List WeightedValues :=
  row.values.filterMap fun v =>
    match v.value.value with
    | .weighted d => some d
    | _ => none

theorem Row.mem_distributions {row : Row} {v : ConditionalValue} {d : WeightedValues}
    (inRow : v ∈ row.values) (weighted : v.value.value = .weighted d) : d ∈ row.distributions := by
  refine List.mem_filterMap.mpr ⟨v, inRow, ?_⟩
  rw [weighted]

namespace Snapshot

def Filled (s : Snapshot) : Prop :=
  ∀ key e, s.get? key = some e → ∀ row ∈ e.config.rows, ∀ d ∈ row.distributions, d.variants ≠ []

/-- No segment that is entered on the way from a key is decided by a distribution that resolves to
`true`. -/
def Unsplit (s : Snapshot) (sharder : Sharder) (draws : Draws) (now : Int64)
    (context : LookupContext) (key : String) : Prop :=
  ∀ scope segment, TransGen s.Enters (.outermost, key) (scope, segment) →
    ∀ kept, ((s.inquiry .keep now context).resolve (maxSegmentDepth + 1 - scope.keys.length) scope
      segment).evaluation.outcome = .ok kept → kept.Whole sharder draws context

theorem filled_of_entries {s : Snapshot}
    (filled : ∀ entry ∈ s.elements.entries, ∀ row ∈ entry.2.config.rows, ∀ d ∈ row.distributions,
      d.variants ≠ []) : s.Filled :=
  fun key e present => filled (key, e) (Table.mem_entries_of_get? present)

end Snapshot

namespace Inquiry

variable {s : Snapshot} {sharder : Sharder} {draws : Draws} {now : Int64} {context : LookupContext}

section Concluding

variable {e : Element} {view : View} {choice : Choice}

theorem matched_keeping : (s.inquiry .keep now context).matched 0 e view (some choice) =
    .ok (choice.concluded view e choice.value.value none) :=
  matched_of_settled (settled_kept rfl)

/-- A choice is concluded with a variant of its distribution, or else with its own value. -/
theorem matched_resolving (s : Snapshot) (sharder : Sharder) (draws : Draws) (now : Int64)
    (context : LookupContext) (e : Element) (view : View)
    (filled : ∀ d, choice.value.value.value = .weighted d → d.variants ≠ []) (n : Nat) :
    (∃ d variant i, choice.value.value.value = .weighted d ∧
      d.select? ⟨sharder, draws n⟩ e.key context.flattened = some (variant, i) ∧
      (s.inquiry (.resolve sharder draws) now context).matched n e view (some choice) =
        .ok (choice.concluded view e variant (some i))) ∨
    ((∀ d, choice.value.value.value ≠ .weighted d) ∧
      (s.inquiry (.resolve sharder draws) now context).matched n e view (some choice) =
        .ok (choice.concluded view e choice.value.value none)) := by
  by_cases weighted : ∃ d, choice.value.value.value = .weighted d
  · obtain ⟨d, weighted⟩ := weighted
    have resolved : (s.inquiry (.resolve sharder draws) now context).settled n e.key
      choice.value.value = _ := settled_weighted rfl weighted
    cases selected : d.select? ⟨sharder, draws n⟩ e.key context.flattened with
    | none => exact (filled d weighted (Distribution.at?_eq_none_iff.mp selected)).elim
    | some chosen =>
      obtain ⟨variant, i⟩ := chosen
      simp only [Snapshot.inquiry, selected] at resolved
      exact .inl ⟨d, variant, i, weighted, selected, matched_of_settled resolved⟩
  · have other : ∀ d, choice.value.value.value ≠ .weighted d := fun d same => weighted ⟨d, same⟩
    exact .inr ⟨other, matched_of_settled (settled_other other)⟩

theorem sameRule_matched
    (filled : ∀ d, choice.value.value.value = .weighted d → d.variants ≠ []) (n : Nat) :
    SameRule ((s.inquiry .keep now context).matched 0 e view (some choice))
      ((s.inquiry (.resolve sharder draws) now context).matched n e view (some choice)) := by
  rw [matched_keeping]
  obtain ⟨d, variant, i, weighted, selected, resolved⟩ | ⟨other, resolved⟩ :=
    matched_resolving s sharder draws now context e view filled n
  · rw [resolved]
    refine .gives ⟨rfl, rfl, rfl, rfl, ?_⟩
    obtain ⟨share, found, same⟩ := Distribution.variant_of_at? selected
    simp only [Match.Takes, Choice.concluded, weighted]
    exact ⟨i, share, rfl, found, same⟩
  · rw [resolved]
    refine .gives ⟨rfl, rfl, rfl, rfl, ?_⟩
    unfold Match.Takes
    split
    · exact (other _ ‹_›).elim
    · exact ⟨rfl, rfl⟩

/-- Membership is the same where a distribution does not resolve to `true`. -/
theorem verdict_matched
    (filled : ∀ d, choice.value.value.value = .weighted d → d.variants ≠ []) (n : Nat)
    (whole : (choice.concluded view e choice.value.value none).Whole sharder draws context) :
    verdict ((s.inquiry (.resolve sharder draws) now context).matched n e view (some choice)) =
      verdict ((s.inquiry .keep now context).matched 0 e view (some choice)) := by
  rw [matched_keeping]
  obtain ⟨d, variant, i, weighted, selected, resolved⟩ | ⟨other, resolved⟩ :=
    matched_resolving s sharder draws now context e view filled n
  · rw [resolved]
    simp only [verdict, Choice.concluded, weighted, whole d weighted n variant i selected]
    rfl
  · rw [resolved]

end Concluding

/-- How a choice is concluded plays no part in making it. -/
theorem choice_resolving : (s.inquiry (.resolve sharder draws) now context).choice =
    (s.inquiry .keep now context).choice := rfl

theorem outcome_keeping (budget : Nat) (scope : Scope) (key : String) :
    ((s.inquiry .keep now context).resolve budget scope key).evaluation.outcome =
      (s.inquiry .keep now context).result budget scope key :=
  (gives_result (s.steady_keeping now context) budget scope key).outcome

/-- What a key gives with kept distributions is the value of one of its conditional values. -/
theorem mem_of_kept {budget : Nat} {scope : Scope} {key : String} {kept : Match}
    (given : (s.inquiry .keep now context).result budget scope key = .ok kept) :
    ∃ e, s.get? key = some e ∧ ∃ r ∈ e.config.applicableRows s.environment,
      ∃ v ∈ r.2.values, kept.value = v.value := by
  obtain ⟨_, e, choice, _, present, found, matched⟩ := choice_of_result given
  obtain ⟨applicable, inRow⟩ := mem_of_firstChoice found
  have concluded := matched_keeping.symm.trans matched
  cases concluded
  exact ⟨e, present, _, applicable, _, inRow, rfl⟩

/-- A config that is entered on the way from `root` selects the same rule with resolved
distributions as with kept ones and, as a segment, gives the same answer. -/
theorem ends_resolving {root key : String} {budget : Nat} {scope : Scope} (filled : s.Filled)
    (unsplit : s.Unsplit sharder draws now context root)
    (reached : ReflTransGen s.Enters (.outermost, root) (scope, key))
    (left : budget = maxSegmentDepth + 1 - scope.keys.length) :
    Ends ((s.inquiry (.resolve sharder draws) now context).resolve budget scope key) fun resolved =>
      SameRule ((s.inquiry .keep now context).result budget scope key) resolved ∧
        (TransGen s.Enters (.outermost, root) (scope, key) →
          verdict resolved = verdict ((s.inquiry .keep now context).result budget scope key)) := by
  induction budget generalizing scope key with
  | zero => exact Drawing.ends_throw ⟨.fails _, fun _ => rfl⟩
  | succ budget ih =>
    cases present : s.get? key with
    | none =>
      unfold resolve result
      simp only [Snapshot.inquiry, present]
      exact Drawing.ends_throw ⟨.fails _, fun _ => rfl⟩
    | some e =>
      refine ends_resolve
        (fun scope key => verdict ((s.inquiry .keep now context).result budget scope key))
        present ?_ ?_
      · intro r hr v hv c hc segment named fresh
        have enters : s.Enters (scope, key) ((scope.enter e.key).within r.2.properties, segment) :=
          .segment present hr hv hc named fresh
        have fewer : budget =
            maxSegmentDepth + 1 - ((scope.enter e.key).within r.2.properties).keys.length := by
          rw [Scope.keys_within, Scope.keys_enter, List.length_cons]
          omega
        exact (ih (reached.tail enters) fewer).mono fun _ followed =>
          followed.2 (.tail' reached enters)
      · intro n
        rw [result_present present, choice_resolving]
        cases found : (s.inquiry .keep now context).choice
          (fun scope key => verdict ((s.inquiry .keep now context).result budget scope key))
          (scope.enter e.key) e with
        | error failure => exact ⟨.fails failure, fun _ => rfl⟩
        | ok chosen =>
          cases chosen with
          | none => exact ⟨.fails .noMatch, fun _ => rfl⟩
          | some choice =>
            obtain ⟨applicable, inRow⟩ := mem_of_firstChoice found
            have row := List.mem_of_getElem? (Config.getElem?_of_applicable applicable)
            have held : ∀ d, choice.value.value.value = .weighted d → d.variants ≠ [] :=
              fun d weighted =>
                filled key e present choice.row row d (Row.mem_distributions inRow weighted)
            refine ⟨sameRule_matched held n, fun entered => verdict_matched held n ?_⟩
            refine unsplit scope key entered _ ?_
            rw [← left, outcome_keeping, result_present present, found]
            exact matched_keeping

end Inquiry

namespace Snapshot

/-- No segment is decided by a distribution where the key alone holds some and none leads back to
it. -/
theorem unsplit_of_entries {s : Snapshot} {key : String} (acyclic : s.Acyclic key)
    (plain : ∀ entry ∈ s.elements.entries, entry.1 ≠ key →
      ∀ r ∈ entry.2.config.applicableRows s.environment, r.2.distributions = [])
    (sharder : Sharder) (draws : Draws) (now : Int64) (context : LookupContext) :
    s.Unsplit sharder draws now context key := by
  intro scope segment entered kept given d weighted
  rw [Inquiry.outcome_keeping] at given
  obtain ⟨e, present, r, applicable, v, inRow, value⟩ := Inquiry.mem_of_kept given
  have other : segment ≠ key := by
    rintro rfl
    exact acyclic segment .refl (leads_of_enters entered)
  have carried := Row.mem_distributions inRow (value ▸ weighted)
  rw [plain (segment, e) (Table.mem_entries_of_get? present) other r applicable] at carried
  cases carried

/-- Leaving distributions as they are changes the value at most, when no segment on the way is
decided by one that resolves to `true`. -/
theorem sameRule_of_unsplit {s : Snapshot} {sharder : Sharder} {draws : Draws} {now : Int64}
    {context : LookupContext} {key : String} (filled : s.Filled)
    (unsplit : s.Unsplit sharder draws now context key) :
    SameRule (s.evaluateUnselected now context key).outcome
      (s.tryEvaluateDrawing sharder draws now context key).outcome := by
  rw [outcome_evaluateUnselected]
  exact (Inquiry.ends_resolving filled unsplit .refl rfl).outcome.1

/-- The flag asks about a segment that holds no distribution, so its split is all that differs. -/
theorem tiered_sameRule :
    SameRule (tiered.evaluateUnselected 0 ⟨none, .empty⟩ "flag").outcome
      (tiered.tryEvaluateDrawing Murmur3.fraction (fun _ => .zero false) 0 ⟨none, .empty⟩
        "flag").outcome := by
  refine sameRule_of_unsplit (filled_of_entries (by decide)) ?_
  exact unsplit_of_entries tiered_acyclic_and_shallow.1 (by decide) _ _ _ _

/-- A flag that asks about a segment of which everyone is a member, by a distribution. -/
def splitSegment : Snapshot :=
  let whole : Value := .weighted ⟨[⟨1, (Value.bool true).plain⟩], none⟩
  let flag : Config := ⟨"flag", 1, .featureFlag, none,
    [⟨none, .empty,
      [⟨[⟨"", .inSegment, some (Value.string "seg").plain⟩], (Value.string "in").plain⟩,
        .always (Value.string "out").plain]⟩], []⟩
  let segment : Config := ⟨"seg", 2, .segment, none, [⟨none, .empty, [.always whole.plain]⟩], []⟩
  ⟨index [⟨flag, ⟨.remote, none⟩⟩, ⟨segment, ⟨.remote, none⟩⟩], none, .empty⟩

/-- The kept distribution of the segment is not `true`, so the flag's second conditional value is
selected in place of the first. -/
theorem splitSegment_not_sameRule : splitSegment.Filled ∧
    ¬ SameRule (splitSegment.evaluateUnselected 0 ⟨none, .empty⟩ "flag").outcome
      (splitSegment.tryEvaluateDrawing Murmur3.fraction (fun _ => .zero false) 0 ⟨none, .empty⟩
        "flag").outcome := by
  refine ⟨filled_of_entries (by decide), ?_⟩
  intro same
  have kept : (splitSegment.evaluateUnselected 0 ⟨none, .empty⟩
      "flag").outcome.toOption.map (·.valueIndex) = some 1 := by decide +kernel
  have resolved : (splitSegment.tryEvaluateDrawing Murmur3.fraction (fun _ => .zero false) 0
      ⟨none, .empty⟩ "flag").outcome.toOption.map (·.valueIndex) = some 0 := by decide +kernel
  generalize (splitSegment.evaluateUnselected 0 ⟨none, .empty⟩ "flag").outcome = first at *
  generalize (splitSegment.tryEvaluateDrawing Murmur3.fraction (fun _ => .zero false) 0
    ⟨none, .empty⟩ "flag").outcome = second at *
  cases same with
  | fails e => cases kept
  | @gives first second resolves =>
    have one : first.valueIndex = 1 := Option.some.inj kept
    have zero : second.valueIndex = 0 := Option.some.inj resolved
    have equal := resolves.valueIndex
    omega

end Snapshot
end LiveConfig

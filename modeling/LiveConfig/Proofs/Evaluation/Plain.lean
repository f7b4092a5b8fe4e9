import LiveConfig.Proofs.Evaluation.References
import LiveConfig.Proofs.Evaluation.Result

/-! The plain reading of evaluation.

`Plain` derives what a key gives by recursion through the segments that it asks about, without
remembering which configs are being evaluated and without a bound on their nesting, from the rows
that the document has for the environment and for none: an evaluation that would never end has no
derivation. Where the references that are reached from a key run in no cycle and are not nested too
deeply there is one, and it gives what the evaluator gives: neither of its two guards is ever
met. -/
namespace LiveConfig

open Relation (TransGen)

/-- Whether an evaluation gives `true`. A missing key or the lack of a match does not. -/
def givesTrue : Except EvaluationError Match → Bool
  | .ok m => m.value.value == .bool true
  | .error _ => false

/-- Whether a criterion holds, given what the segments that are asked about give. One that asks
about a segment but names none does not hold. -/
def Criterion.plainly (c : Criterion) (view : View)
    (given : String → Except EvaluationError Match) : Bool :=
  if c.operator.isSegment then
    match c.segment? with
    | none => false
    | some segment => givesTrue (given segment) == (c.operator == .inSegment)
  else c.operator.holds (view c.property) c.toMatch

/-- What a key gives in a view, read plainly. The properties of a row are visible while the row is
tried, also in the segments that it asks about. -/
inductive Plain (q : Inquiry) : View → String → Except EvaluationError Match → Prop
  | absent {view : View} {key : String} (missing : q.snapshot.get? key = none) :
      Plain q view key (.error .keyNotFound)
  | present {view : View} {key : String} {e : Element} (found : q.snapshot.get? key = some e)
      (given : Row → String → Except EvaluationError Match)
      (segments : ∀ r ∈ e.config.documentRows q.snapshot.environment, ∀ v ∈ r.2.values,
        ∀ c ∈ v.criteria, ∀ s, c.segment? = some s →
          Plain q (view.within r.2.properties) s (given r.2 s)) :
      Plain q view key (q.matched 0 e view
        (chosen (fun row c => c.plainly (view.within row.properties) (given row))
          (e.config.documentRows q.snapshot.environment)))

/-- A key gives one thing at most. -/
theorem Plain.unique {q : Inquiry} {view : View} {key : String}
    {first second : Except EvaluationError Match} (derived : Plain q view key first)
    (other : Plain q view key second) : first = second := by
  induction derived generalizing second with
  | absent missing =>
    cases other with
    | absent => rfl
    | present found =>
      rw [missing] at found
      cases found
  | @present view key e found given segments ih =>
    cases other with
    | absent missing =>
      rw [missing] at found
      cases found
    | present foundOther givenOther segmentsOther =>
      rw [found] at foundOther
      cases foundOther
      have same : chosen (fun row c => c.plainly (view.within row.properties) (given row))
          (e.config.documentRows q.snapshot.environment) =
          chosen (fun row c => c.plainly (view.within row.properties) (givenOther row))
          (e.config.documentRows q.snapshot.environment) := by
        refine chosen_congr fun r hr v hv c hc => ?_
        unfold Criterion.plainly
        cases named : c.segment? with
        | none => rfl
        | some s =>
          simp only [ih r hr v hv c hc s named (segmentsOther r hr v hv c hc s named)]
      rw [same]

/-- An outcome that is no failure of the guards. -/
def Settled (r : Except EvaluationError Match) : Prop := ∀ e, r = .error e → e.isNormal

theorem Settled.verdict {r : Except EvaluationError Match} (settled : Settled r) :
    verdict r = .ok (givesTrue r) := by
  cases r with
  | ok m => rfl
  | error e => simp only [LiveConfig.verdict, settled e rfl, if_true, givesTrue]

namespace Inquiry

/-- What is visible outside of all rows: the caller's properties and behind them the current
time. -/
def outside (q : Inquiry) : View := fun name =>
  (q.properties.get? name).or <|
    if name = currentTimeName then some (Value.int q.now).plain else none

section Decided

variable {q : Inquiry} {scope : Scope} {key : String} {budget n : Nat}

/-- An evaluation that meets no guard and that the plain reading agrees with. -/
structure Agrees (q : Inquiry) (budget : Nat) (scope : Scope) (key : String) : Prop where
  settled : Settled (q.result budget scope key)
  plain : Plain q (q.lookup? scope) key (q.result budget scope key)

theorem rules_of_agrees {c : Criterion}
    (segments : ∀ s, c.segment? = some s → s ∉ scope.keys ∧ q.Agrees budget scope s) :
    q.rules (fun scope key => verdict (q.result budget scope key)) scope c =
      .ok (c.plainly (q.lookup? scope) (q.result budget scope)) := by
  unfold rules Criterion.ruling Criterion.plainly
  split
  · cases named : c.segment? with
    | none => rfl
    | some s =>
      obtain ⟨outside, agrees⟩ := segments s named
      have fresh : scope.keys.contains s = false := by
        simpa only [List.contains_eq_mem, decide_eq_false_iff_not] using outside
      simp only [asks, fresh, Bool.false_eq_true, if_false, agrees.settled.verdict]
  · rfl

theorem settled_matched (e : Element) (view : View) (choice : Option Choice) :
    Settled (q.matched n e view choice) := by
  intro failure failed
  cases choice with
  | none =>
    cases failed
    rfl
  | some choice =>
    cases value : q.settled n e.key choice.value.value with
    | ok settled =>
      rw [matched_of_settled value] at failed
      cases failed
    | error reason =>
      rw [matched_of_failed value] at failed
      cases failed
      rw [noMatch_of_settled value]
      rfl

/-- When the segments of a config are not being evaluated and agree with the plain reading, so does
the config. -/
theorem Agrees.of_segments {e : Element} (present : q.snapshot.get? key = some e)
    (agree : ∀ r ∈ e.config.applicableRows q.snapshot.environment, ∀ v ∈ r.2.values,
      ∀ c ∈ v.criteria, ∀ s, c.segment? = some s →
        s ∉ ((scope.enter e.key).within r.2.properties).keys ∧
          q.Agrees budget ((scope.enter e.key).within r.2.properties) s) :
    q.Agrees (budget + 1) scope key := by
  have ruled : q.choice (fun scope key => verdict (q.result budget scope key))
      (scope.enter e.key) e = .ok (chosen (fun row c =>
        c.plainly (q.lookup? ((scope.enter e.key).within row.properties))
          (q.result budget ((scope.enter e.key).within row.properties)))
        (e.config.applicableRows q.snapshot.environment)) :=
    firstChoice_of_decided fun r hr v hv c hc => rules_of_agrees (agree r hr v hv c hc)
  simp only [lookup?_within, lookup?_enter] at ruled
  have same : q.result (budget + 1) scope key = _ := result_present present
  rw [ruled] at same
  refine ⟨?_, ?_⟩
  · rw [same]
    exact settled_matched e _ _
  · rw [same, ← e.config.documentRows_eq]
    refine Plain.present present
      (fun row => q.result budget ((scope.enter e.key).within row.properties)) ?_
    intro r hr v hv c hc s named
    rw [e.config.documentRows_eq] at hr
    have plain := (agree r hr v hv c hc s named).2.plain
    rwa [lookup?_within, lookup?_enter] at plain

theorem Agrees.of_absent (absent : q.snapshot.get? key = none) :
    q.Agrees (budget + 1) scope key := by
  have missing : q.result (budget + 1) scope key = .error .keyNotFound := result_absent absent
  refine ⟨?_, ?_⟩
  · rw [missing]
    rintro _ ⟨⟩
    rfl
  · rw [missing]
    exact .absent absent

end Decided

/-- Inside of the configs on the way to a key, an evaluation that has as many configs left as there
are references to follow meets no guard. -/
theorem agrees_of_bounded {q : Inquiry} (keyed : q.snapshot.Keyed) {n : Nat} {scope : Scope}
    {key : String} (acyclic : q.snapshot.Acyclic key) (bounded : q.snapshot.Bounded n key)
    (above : ∀ k ∈ scope.keys, TransGen q.snapshot.Refers k key) : q.Agrees (n + 1) scope key := by
  induction n generalizing scope key with
  | zero =>
    cases present : q.snapshot.get? key with
    | none => exact .of_absent present
    | some e =>
      refine .of_segments present fun r hr v hv c hc s named => ?_
      exact (bounded.not_refers (Snapshot.refers_of_criterion present hr hv hc named)).elim
  | succ n ih =>
    cases present : q.snapshot.get? key with
    | none => exact .of_absent present
    | some e =>
      refine .of_segments present fun r hr v hv c hc s named => ?_
      have refers := Snapshot.refers_of_criterion present hr hv hc named
      have passed : ∀ k ∈ ((scope.enter e.key).within r.2.properties).keys,
          TransGen q.snapshot.Refers k s := by
        intro k hk
        rw [Scope.keys_within, Scope.keys_enter, keyed key e present, List.mem_cons] at hk
        rcases hk with rfl | hk
        · exact .single refers
        · exact (above k hk).tail refers
      have acyclicSegment := acyclic.refers refers
      refine ⟨fun entered => ?_, ih acyclicSegment (bounded.refers refers) passed⟩
      exact acyclicSegment s .refl (passed s entered)

end Inquiry

namespace Snapshot

/-- What a key gives for a caller, read plainly. -/
def PlainlyGives (s : Snapshot) (chance : Chance) (now : Int64) (context : LookupContext)
    (key : String) (r : Except EvaluationError Match) : Prop :=
  Plain (s.inquiry chance.selection now context)
    (s.inquiry chance.selection now context).outside key r

/-- Where references form no cycle and no chain that is too long, the evaluator gives what the plain
reading does. -/
theorem plainlyGives_iff {s : Snapshot} {key : String} (keyed : s.Keyed)
    (acyclic : s.Acyclic key) (shallow : s.Shallow key) (chance : Chance) (now : Int64)
    (context : LookupContext) (r : Except EvaluationError Match) :
    s.PlainlyGives chance now context key r ↔
      r = (s.tryEvaluate chance now context key).outcome := by
  have agrees : (s.inquiry chance.selection now context).Agrees (maxSegmentDepth + 1)
      .outermost key :=
    Inquiry.agrees_of_bounded keyed acyclic (acyclic.bounded shallow) fun _ entered =>
      absurd entered List.not_mem_nil
  rw [outcome_tryEvaluate]
  constructor
  · intro derived
    exact derived.unique agrees.plain
  · rintro rfl
    exact agrees.plain

/-- A member gets a variant of the split; the segment sees the tier of the flag's row. -/
theorem plainlyGives_tiered :
    ∃ m, tiered.PlainlyGives (.murmur3 (.zero false)) 0 ⟨none, .empty⟩ "flag" (.ok m) ∧
      m.rowIndex = 0 ∧ m.valueIndex = 0 ∧ m.variantIndex = some 0 := by
  have reads := plainlyGives_iff tiered_keyed tiered_acyclic_and_shallow.1
    tiered_acyclic_and_shallow.2 (.murmur3 (.zero false)) 0 ⟨none, .empty⟩
  have given : (tiered.tryEvaluate (.murmur3 (.zero false)) 0 ⟨none, .empty⟩
      "flag").outcome.toOption.map (fun m => (m.rowIndex, m.valueIndex, m.variantIndex)) =
        some (0, 0, some 0) := by decide +kernel
  cases outcome : (tiered.tryEvaluate (.murmur3 (.zero false)) 0 ⟨none, .empty⟩ "flag").outcome with
  | error failure =>
    rw [outcome] at given
    cases given
  | ok m =>
    rw [outcome] at given
    have indexes := Option.some.inj given
    simp only [Prod.mk.injEq] at indexes
    exact ⟨m, (reads _).mpr outcome.symm, indexes⟩

end Snapshot
end LiveConfig

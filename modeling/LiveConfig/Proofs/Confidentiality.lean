import LiveConfig.Client.Read
import LiveConfig.Proofs.Evaluation.Kept
import LiveConfig.Proofs.Evaluation.Selected

/-! Confidential labels on the way from a config to its reader.

Making a value from a match keeps the label that the match has, also when a reference is read, and
the record of an evaluation shows a labelled value by its digest alone. The label of the match is
that of the selected value, unless this is a distribution: then it is the label of the variant, and
the label of the distribution itself is lost. -/
namespace LiveConfig

/-- The variant that a match was resolved to is labelled, if the given value is a distribution. -/
def Match.VariantSecret (m : Match) (v : ConfigValue) : Prop :=
  ∀ d, v.value = .weighted d → ∃ i variant, m.variantIndex = some i ∧
    d.variants[i]? = some variant ∧ variant.value.confidential = true

theorem Match.Takes.confidential_iff {m : Match} {v : ConfigValue} (takes : m.Takes v)
    (secret : v.confidential = true) : m.value.confidential = true ↔ m.VariantSecret v := by
  unfold Match.Takes at takes
  unfold Match.VariantSecret
  split at takes
  · rename_i d weighted
    obtain ⟨i, variant, index, found, value⟩ := takes
    constructor
    · intro labelled d' same
      cases weighted.symm.trans same
      exact ⟨i, variant, index, found, value ▸ labelled⟩
    · intro variantSecret
      obtain ⟨i', variant', index', found', labelled⟩ := variantSecret d weighted
      cases index.symm.trans index'
      cases found.symm.trans found'
      rwa [value]
  · rename_i other
    obtain ⟨_, value⟩ := takes
    rw [value]
    exact ⟨fun _ d weighted => (other d weighted).elim, fun _ => secret⟩

theorem Match.confidential_reify (m : Match) (vars : Variables) :
    (m.reify vars).result.confidential = m.value.confidential := by
  unfold Match.reify
  split
  · rfl
  · rfl

namespace Snapshot

theorem result_evaluate (s : Snapshot) (sharder : Sharder) (draws : Draws) (now : Int64)
    (context : LookupContext) (key : String) : (s.evaluate sharder draws now context key).result =
      (s.tryEvaluateDrawing sharder draws now context key).outcome.toOption := by
  unfold evaluate Evaluation.outcome
  rw [Logged.result_bind]
  cases (s.tryEvaluateDrawing sharder draws now context key).run.result with
  | ok m => rfl
  | error e => rfl

/-- The record of a match comes last. -/
theorem events_evaluate {s : Snapshot} {sharder : Sharder} {draws : Draws} {now : Int64}
    {context : LookupContext} {key : String} {m : Match}
    (given : (s.tryEvaluateDrawing sharder draws now context key).outcome = .ok m) :
    (s.evaluate sharder draws now context key).events =
      (s.tryEvaluateDrawing sharder draws now context key).run.events ++
        [.evaluated key m.value m.rowIndex m.valueIndex] := by
  unfold evaluate
  unfold Evaluation.outcome at given
  rw [Logged.events_bind, given]
  rfl

end Snapshot

namespace ClientM

variable (w : World) (passed : Option ContextSet) (key : String) (ambient : Ambient) (c : Client)

theorem result_getMatch : (((getMatch w passed key).run ambient).run c).result =
    ((c.snapshot.tryEvaluateDrawing Murmur3.fraction (w.draws 0) (w.clock 0)
      (c.lookupFor w.listing ambient passed) key).outcome.toOption, c) := by
  rw [← Snapshot.result_evaluate]
  rfl

/-- A read gives what its match is reified to, whether the match is reported or not. -/
theorem result_resolve (tracked : Bool) :
    (((resolve tracked w passed key).run ambient).run c).result.1 =
      (c.snapshot.tryEvaluateDrawing Murmur3.fraction (w.draws 0) (w.clock 0)
        (c.lookupFor w.listing ambient passed) key).outcome.toOption.map
          fun m => (m.reify w.vars).result := by
  have found := result_getMatch w passed key ambient c
  unfold resolve
  rw [ReaderT.run_bind, StateT.run_bind, Logged.result_bind, found]
  cases (c.snapshot.tryEvaluateDrawing Murmur3.fraction (w.draws 0) (w.clock 0)
      (c.lookupFor w.listing ambient passed) key).outcome.toOption with
  | none => rfl
  | some m =>
    cases tracked with
    | false => rfl
    | true => rfl

theorem result_getValue : (((getValue w passed key).run ambient).run c).result.1 =
    (c.snapshot.tryEvaluateDrawing Murmur3.fraction (w.draws 0) (w.clock 0)
      (c.lookupFor w.listing ambient passed) key).outcome.toOption.map
        fun m => (m.reify w.vars).result :=
  result_resolve w passed key ambient c true

end ClientM

namespace Snapshot

/-- Where the selected value is labelled, its match is labelled exactly if the value is no
distribution or the variant is labelled as well. From there on the label is kept: by the value that
is made of the match, by a read of a client, and in the record, which shows the digest. -/
theorem confidential_iff_variantSecret (s : Snapshot) (now : Int64) (context : LookupContext)
    (key : String) :
    (∀ sharder draws m, (s.tryEvaluateDrawing sharder draws now context key).outcome = .ok m →
      ∃ v, m.conditional? = some v ∧
        (v.value.confidential = true →
          (m.value.confidential = true ↔ m.VariantSecret v.value)) ∧
        ∀ vars, (m.reify vars).result.confidential = m.value.confidential) ∧
    (∀ sharder draws m, (s.tryEvaluateDrawing sharder draws now context key).outcome = .ok m →
      m.value.confidential = true →
      ∃ record, (s.evaluate sharder draws now context key).events.getLast? = some record ∧
        ("value", digestMark m.value.value.text) ∈ record.fields) ∧
    (∀ (w : World) (passed : Option ContextSet) (ambient : Ambient) (c : Client) (v : ConfigValue),
      (((ClientM.getValue w passed key).run ambient).run c).result.1 = some v →
      ∃ m, (c.snapshot.tryEvaluateDrawing Murmur3.fraction (w.draws 0) (w.clock 0)
        (c.lookupFor w.listing ambient passed) key).outcome = .ok m ∧
          v.confidential = m.value.confidential) := by
  refine ⟨fun sharder draws m given => ?_, fun sharder draws m given secret => ?_,
    fun w passed ambient c v read => ?_⟩
  · obtain ⟨_, v, selects⟩ := (Inquiry.ends_selected _ _ _).outcome m given
    exact ⟨v, selects.1, (selects.takes rfl).confidential_iff, m.confidential_reify⟩
  · refine ⟨.evaluated key m.value m.rowIndex m.valueIndex, ?_, ?_⟩
    · rw [events_evaluate given, List.getLast?_append_cons]
      rfl
    · have shown : m.value.redacted = digestMark m.value.value.text := if_pos secret
      rw [← shown]
      exact List.mem_cons_of_mem _ List.mem_cons_self
  · rw [ClientM.result_getValue] at read
    obtain ⟨m, found, rfl⟩ := Option.map_eq_some_iff.mp read
    refine ⟨m, ?_, m.confidential_reify w.vars⟩
    exact Drawing.ok_of_toOption found

/-- A split that is labelled as a whole, with one variant. -/
def secretSplit (variant : ConfigValue) : Snapshot :=
  let split : Value := .weighted ⟨[⟨1, variant⟩], none⟩
  let config : Config :=
    ⟨"secret", 1, .config, none, [⟨none, .empty, [.always split.secret]⟩], []⟩
  ⟨index [⟨config, ⟨.remote, none⟩⟩], none, .empty⟩

/-- A variant that is labelled as well is given out with its label and recorded by its digest. -/
theorem secretSplit_hidden : ∃ m,
    ((secretSplit (Value.string "hunter2").secret).tryEvaluate (.murmur3 (.zero false)) 0
      ⟨none, .empty⟩ "secret").outcome = .ok m ∧ m.value.confidential = true ∧
    ∃ record, ((secretSplit (Value.string "hunter2").secret).evaluate Murmur3.fraction
      (fun _ => .zero false) 0 ⟨none, .empty⟩ "secret").events.getLast? = some record ∧
        ("value", digestMark m.value.value.text) ∈ record.fields := by
  have kept := confidential_iff_variantSecret (secretSplit (Value.string "hunter2").secret) 0
    ⟨none, .empty⟩ "secret"
  have matched : ((secretSplit (Value.string "hunter2").secret).tryEvaluate (.murmur3 (.zero false))
      0 ⟨none, .empty⟩ "secret").outcome.toOption.map (fun m => (m.variantIndex,
        m.conditional?.map fun v => (v.value.confidential,
          (Row.mk none .empty [v]).distributions.map fun d =>
            d.variants.map (·.value.confidential)))) = some (some 0, some (true, [[true]])) := by
    decide +kernel
  obtain ⟨m, found, facts⟩ := Option.map_eq_some_iff.mp matched
  have given := Drawing.ok_of_toOption found
  obtain ⟨index, selected⟩ := Prod.mk.inj facts
  obtain ⟨v, stands, label, _⟩ := kept.1 Murmur3.fraction (fun _ => .zero false) m given
  rw [stands] at selected
  obtain ⟨secret, labels⟩ := Prod.mk.inj (Option.some.inj selected)
  have variantSecret : m.VariantSecret v.value := by
    intro d weighted
    have only : (Row.mk none .empty [v]).distributions = [d] := by
      simp only [Row.distributions, List.filterMap_cons, weighted, List.filterMap_nil]
    rw [only, List.map_singleton, List.singleton_inj] at labels
    obtain ⟨variant, first, labelled⟩ := List.map_eq_singleton_iff.mp labels
    exact ⟨0, variant, index, by rw [first]; rfl, labelled⟩
  have hidden := (label secret).mpr variantSecret
  exact ⟨m, given, hidden, kept.2.1 _ _ m given hidden⟩

/-- The label of the split is lost where the variant has none: it is recorded verbatim. -/
theorem secretSplit_shown : ∃ m v,
    ((secretSplit (Value.string "hunter2").plain).tryEvaluate (.murmur3 (.zero false)) 0
      ⟨none, .empty⟩ "secret").outcome = .ok m ∧
    m.conditional? = some v ∧ v.value.confidential = true ∧ m.value.confidential = false ∧
    ∃ record, ((secretSplit (Value.string "hunter2").plain).evaluate Murmur3.fraction
      (fun _ => .zero false) 0 ⟨none, .empty⟩ "secret").events.getLast? = some record ∧
        ("value", "hunter2") ∈ record.fields := by
  have matched : ((secretSplit (Value.string "hunter2").plain).tryEvaluate (.murmur3 (.zero false))
      0 ⟨none, .empty⟩ "secret").outcome.toOption.map (fun m =>
        (m.conditional?.map (·.value.confidential), m.value.confidential)) =
          some (some true, false) := by decide +kernel
  have recorded : ((secretSplit (Value.string "hunter2").plain).evaluate Murmur3.fraction
      (fun _ => .zero false) 0 ⟨none, .empty⟩ "secret").events.getLast?.map
        (·.fields.contains ("value", "hunter2")) = some true := by decide +kernel
  obtain ⟨m, found, labels⟩ := Option.map_eq_some_iff.mp matched
  obtain ⟨selected, plain⟩ := Prod.mk.inj labels
  obtain ⟨v, stands, secret⟩ := Option.map_eq_some_iff.mp selected
  obtain ⟨record, last, shown⟩ := Option.map_eq_some_iff.mp recorded
  exact ⟨m, v, Drawing.ok_of_toOption found, stands, secret, plain, record, last,
    List.contains_iff_mem.mp shown⟩

end Snapshot
end LiveConfig

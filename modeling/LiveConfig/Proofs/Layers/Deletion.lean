import LiveConfig.Proofs.Layers.Order

/-! Deleting a key.

A tombstone takes its key out of the delivered layer, and out of that layer alone. The merged view
then shows what the fixed layers hold under the key: the local override, which was in front of it
all along, or else the bundled default that the delivered config had covered. Only where there is
neither is the key gone. -/
namespace LiveConfig.Layers

variable {l : Layers} {a : Arrival}

/-- A tombstone is accepted unless a newer config is held, whatever its rows look like. -/
theorem removed_iff : (l.apply a.1 a.2).result.1 = .removed ↔
    a.1.isTombstone = true ∧ l.newer? a.key a.id = none := by
  rw [result_apply]
  cases newer : l.newer? a.key a.id with
  | some e => simp
  | none =>
    cases tombstone : a.1.isTombstone with
    | true => simp
    | false => simp

theorem not_newer_iff {key : String} {id : Int64} : l.newer? key id = none ↔
    ∀ e, l.delivered.get? key = some e → e.config.id ≤ id := by
  simp only [newer?, Option.bind_eq_none_iff]
  constructor
  · intro refused e held
    have older := refused e held
    simpa using older
  · intro bound e held
    have older := bound e held
    simpa using older

/-- A tombstone that is accepted leaves nothing under its key, and everything else. -/
theorem get?_delivered_of_removed (removed : (l.apply a.1 a.2).result.1 = .removed)
    (key : String) : (l.apply a.1 a.2).result.2.delivered.get? key =
      if key = a.key then none else l.delivered.get? key := by
  obtain ⟨tombstone, newest⟩ := removed_iff.mp removed
  rw [get?_delivered_apply, leaves_of_not_newer newest, Arrival.wanted, if_pos tombstone]

/-- A tombstone is accepted exactly if no newer config is held under its key. Afterwards the merged
view has under this key the local override or else the bundled default, so without an override it
has nothing there exactly if no default is bundled; under every other key it has what it had. -/
theorem merged_of_removed (l : Layers) (config : Config) (provenance : Provenance)
    (tombstone : config.isTombstone = true) :
    ((l.apply config provenance).result.1 = .removed ↔
      ∀ e, l.delivered.get? config.key = some e → e.config.id ≤ config.id) ∧
    ((l.apply config provenance).result.1 = .removed →
      let after := (l.apply config provenance).result.2.merged
      after.get? config.key = (l.overrides.get? config.key).or (l.defaults.get? config.key) ∧
      (l.overrides.get? config.key = none →
        (after.get? config.key = none ↔ l.defaults.get? config.key = none)) ∧
      ∀ key, key ≠ config.key → after.get? key = l.merged.get? key) := by
  let a : Arrival := (config, provenance)
  constructor
  · have accepted : (l.apply a.1 a.2).result.1 = .removed ↔ _ := removed_iff
    rw [accepted, not_newer_iff]
    exact and_iff_right tombstone
  · intro removed after
    have delivered := get?_delivered_of_removed (a := a) removed
    obtain ⟨defaults, overrides⟩ := l.fixed_apply a
    have shown : ∀ key, after.get? key = (l.overrides.get? key).or
        ((if key = config.key then none else l.delivered.get? key).or (l.defaults.get? key)) := by
      intro key
      have merged := (l.apply config provenance).result.2.get?_merged key
      rw [delivered key, defaults, overrides] at merged
      exact merged
    have uncovered := shown config.key
    rw [if_pos rfl, Option.none_or] at uncovered
    refine ⟨uncovered, ?_, ?_⟩
    · intro free
      rw [uncovered, free, Option.none_or]
    · intro key other
      rw [shown key, if_neg other, get?_merged]

/-- A tombstone with a row that has no values: the key shows its default again, and a key that has
only been delivered stays. -/
theorem merged_of_removed_bundled :
    let bundled : Element := ⟨(Arrival.version 1).1, ⟨.bundledDefault, none⟩⟩
    let other : Arrival := ({ (Arrival.version 2).1 with key := "other" }, ⟨.remote, none⟩)
    let l := ((start [bundled] []).applyAll [Arrival.version 5, other]).result
    let tombstone : Config := ⟨"k", 7, .config, none, [⟨none, .empty, []⟩], []⟩
    let after := (l.apply tombstone ⟨.remote, none⟩).result
    after.1 = .removed ∧ after.2.merged.get? "k" = l.defaults.get? "k" ∧
      (after.2.merged.get? "k").map (·.config.id) = some 1 ∧
      after.2.merged.get? "other" = l.merged.get? "other" ∧
      (after.2.merged.get? "other").map (·.config.id) = some 2 := by
  intro bundled other l tombstone after
  obtain ⟨_, shown⟩ := merged_of_removed l tombstone ⟨.remote, none⟩ (by decide)
  have removed : after.1 = .removed := by decide
  obtain ⟨uncovered, _, others⟩ := shown removed
  have free : l.overrides.get? "k" = none := by decide
  rw [free, Option.none_or] at uncovered
  exact ⟨removed, uncovered, by decide, others "other" (by decide), by decide⟩

/-- A tombstone is accepted, no override is there, and the key is not gone. -/
theorem removed_key_remains : ∃ (l : Layers) (config : Config) (provenance : Provenance),
    config.isTombstone = true ∧ (l.apply config provenance).result.1 = .removed ∧
      l.overrides.get? config.key = none ∧
      (l.apply config provenance).result.2.merged.contains config.key = true := by
  let bundled : Element := ⟨(Arrival.version 1).1, ⟨.bundledDefault, none⟩⟩
  refine ⟨((start [bundled] []).applyAll [Arrival.version 2]).result, (Arrival.deletion 3).1,
    ⟨.remote, none⟩, rfl, ?_, rfl, ?_⟩
  · decide
  · decide

end LiveConfig.Layers

import LiveConfig.Snapshot.Change
import LiveConfig.Proofs.Evaluation.Kept
import LiveConfig.Proofs.Value.Equality

/-! What the keys of a snapshot are configured to, and how two snapshots differ in it.

A config is timeless when no criterion of it reads the current time, and stable when moreover no
value that it gives holds NaN. In a snapshot of timeless configs a key is configured to the same
value at every reading of the clock, and if they are stable this value is equal to itself. So the
events between two timeless snapshots are exactly the keys whose values differ, each key once,
whatever the clock read meanwhile. -/
namespace LiveConfig

/-- No criterion of the config reads the current time. -/
def Config.Timeless (c : Config) : Prop :=
  ∀ row ∈ c.rows, ∀ v ∈ row.values, ∀ criterion ∈ v.criteria,
    criterion.operator.readsProperty = true → criterion.property ≠ currentTimeName

instance (c : Config) : Decidable c.Timeless :=
  inferInstanceAs (Decidable (∀ row ∈ c.rows, ∀ v ∈ row.values, ∀ criterion ∈ v.criteria,
    criterion.operator.readsProperty = true → criterion.property ≠ currentTimeName))

/-- No value that the config gives holds NaN, and no criterion of it reads the current time. -/
def Config.Stable (c : Config) : Prop :=
  ∀ row ∈ c.rows, ∀ v ∈ row.values, v.value.value.hasNaN = false ∧
    ∀ criterion ∈ v.criteria, criterion.operator.readsProperty = true →
      criterion.property ≠ currentTimeName

instance (c : Config) : Decidable c.Stable :=
  inferInstanceAs (Decidable (∀ row ∈ c.rows, ∀ v ∈ row.values, v.value.value.hasNaN = false ∧
    ∀ criterion ∈ v.criteria, criterion.operator.readsProperty = true →
      criterion.property ≠ currentTimeName))

theorem Config.Stable.timeless {c : Config} (stable : c.Stable) : c.Timeless :=
  fun row inRows v inRow => (stable row inRows v inRow).2

theorem Operator.holds_of_reads_nothing {o : Operator} (reads : o.readsProperty = false)
    (property property' toMatch : Option ConfigValue) :
    o.holds property toMatch = o.holds property' toMatch := by
  cases o with
  | alwaysTrue | inSegment | notInSegment | unknown => rfl
  | _ => cases reads

theorem verdict_congr {r r' : Except EvaluationError Match}
    (same : r.map Match.value = r'.map Match.value) : verdict r = verdict r' := by
  cases r with
  | error e =>
    cases r' with
    | error e' =>
      cases same
      rfl
    | ok m => cases same
  | ok m =>
    cases r' with
    | error e => cases same
    | ok m' =>
      have value : m.value = m'.value := Except.ok.inj same
      simp only [verdict, value]

namespace Snapshot

/-- Every config of the snapshot is timeless. -/
def Timeless (s : Snapshot) : Prop := ∀ key e, s.get? key = some e → e.config.Timeless

/-- Every config of the snapshot is stable. -/
def Stable (s : Snapshot) : Prop := ∀ key e, s.get? key = some e → e.config.Stable

theorem Stable.timeless {s : Snapshot} (stable : s.Stable) : s.Timeless :=
  fun key e present => (stable key e present).timeless

/-- No value that a config of the snapshot gives holds NaN. -/
def NaNFree (s : Snapshot) : Prop :=
  ∀ key e, s.get? key = some e → ∀ row ∈ e.config.rows, ∀ v ∈ row.values,
    v.value.value.hasNaN = false

section Clock

variable {s : Snapshot} {context : LookupContext}

/-- A criterion that does not read the current time is decided alike at all times. -/
theorem rules_at (now now' : Int64) {members : Scope → String → Except EvaluationError Bool}
    {scope : Scope} {c : Criterion}
    (timeless : c.operator.readsProperty = true → c.property ≠ currentTimeName) :
    (s.inquiry .keep now context).rules members scope c =
      (s.inquiry .keep now' context).rules members scope c := by
  unfold Inquiry.rules Criterion.ruling
  split
  · rfl
  · cases reads : c.operator.readsProperty with
    | false => rw [Operator.holds_of_reads_nothing reads]
    | true =>
      simp only [Inquiry.lookup?, if_neg (timeless reads)]
      rfl

theorem choice_at (now now' : Int64) {members : Scope → String → Except EvaluationError Bool}
    {scope : Scope} {e : Element} (timeless : e.config.Timeless) :
    (s.inquiry .keep now context).choice members scope e =
      (s.inquiry .keep now' context).choice members scope e := by
  apply firstChoice_congr
  intro r applicable v inRow c inValue
  have row := List.mem_of_getElem? (Config.getElem?_of_applicable applicable)
  exact rules_at now now' (timeless r.2 row v inRow c inValue)

/-- What is recorded of a match may tell the time, its value does not. -/
theorem result_at (timeless : s.Timeless) (now now' : Int64) (budget : Nat) (scope : Scope)
    (key : String) :
    ((s.inquiry .keep now context).result budget scope key).map Match.value =
      ((s.inquiry .keep now' context).result budget scope key).map Match.value := by
  induction budget generalizing scope key with
  | zero => rfl
  | succ budget ih =>
    cases present : s.get? key with
    | none => rw [Inquiry.result_absent present, Inquiry.result_absent present]
    | some e =>
      have members : (fun scope key => verdict
          ((s.inquiry .keep now context).result budget scope key)) = fun scope key => verdict
            ((s.inquiry .keep now' context).result budget scope key) := by
        funext scope key
        exact verdict_congr (ih scope key)
      rw [Inquiry.result_present present, Inquiry.result_present present, members,
        choice_at now now' (timeless key e present)]
      cases (s.inquiry .keep now' context).choice (fun scope key => verdict
          ((s.inquiry .keep now' context).result budget scope key)) (scope.enter e.key) e with
      | error failure => rfl
      | ok chosen =>
        cases chosen with
        | none => rfl
        | some choice =>
          change ((s.inquiry .keep now context).matched 0 e _ (some choice)).map Match.value =
            ((s.inquiry .keep now' context).matched 0 e _ (some choice)).map Match.value
          rw [Inquiry.matched_keeping, Inquiry.matched_keeping]
          rfl

end Clock

/-- What a key is configured to for the default contexts, at a reading of the clock. -/
def configured (s : Snapshot) (scope : Option String) (now : Int64) (key : String) :
    Option ConfigValue :=
  (s.configuredValue scope now key).result

section Configured

variable {s : Snapshot} {scope : Option String} {now : Int64} {key : String}

theorem configured_eq : s.configured scope now key =
    ((s.evaluateUnselected now ⟨scope, s.defaultContext⟩ key).outcome.map
      Match.value).toOption := by
  unfold configured configuredValue Evaluation.outcome
  rw [Logged.result_bind]
  cases (s.evaluateUnselected now ⟨scope, s.defaultContext⟩ key).run.result with
  | ok m => rfl
  | error e => rfl

theorem configured_absent (absent : s.get? key = none) : s.configured scope now key = none := by
  have missing : (s.inquiry .keep now ⟨scope, s.defaultContext⟩).result (maxSegmentDepth + 1)
      .outermost key = .error .keyNotFound := Inquiry.result_absent absent
  rw [configured_eq, outcome_evaluateUnselected, missing]
  rfl

theorem Timeless.configured (timeless : s.Timeless) (now now' : Int64) :
    s.configured scope now key = s.configured scope now' key := by
  rw [configured_eq, configured_eq, outcome_evaluateUnselected, outcome_evaluateUnselected,
    result_at timeless now now']

theorem configured_at (stable : s.Stable) (now' : Int64) :
    s.configured scope now key = s.configured scope now' key :=
  stable.timeless.configured now now'

/-- What a key is configured to is equal to itself, unless its values hold NaN. -/
theorem configured_beq_of_numbers (numbers : s.NaNFree) :
    (s.configured scope now key == s.configured scope now key) = true := by
  rw [configured_eq, outcome_evaluateUnselected]
  cases given : (s.inquiry .keep now ⟨scope, s.defaultContext⟩).result (maxSegmentDepth + 1)
      .outermost key with
  | error e => rfl
  | ok m =>
    obtain ⟨e, present, r, applicable, v, inRow, value⟩ := Inquiry.mem_of_kept given
    have row := List.mem_of_getElem? (Config.getElem?_of_applicable applicable)
    have number := numbers key e present r.2 row v inRow
    have same : v.value.value.beq v.value.value = true := by
      rw [Value.beq_self, number]
      rfl
    change (m.value.value.beq m.value.value && m.value.confidential == m.value.confidential) = true
    rw [value, same, BEq.rfl]
    rfl

theorem configured_beq_self (stable : s.Stable) :
    (s.configured scope now key == s.configured scope now key) = true :=
  configured_beq_of_numbers fun key e present row inRows v inRow =>
    (stable key e present row inRows v inRow).1

end Configured

/-- The keys that are configured to a value, with their values. -/
def valueTable (s : Snapshot) (scope : Option String) (now : Int64) : Table ConfigValue :=
  .ofList (s.keys.filterMap fun key => (s.configured scope now key).map fun v => (key, v))

theorem get?_valueTable (s : Snapshot) (scope : Option String) (now : Int64) (key : String) :
    (s.valueTable scope now).get? key = s.configured scope now key := by
  have listed : ∀ keys : List String,
      (keys.filterMap fun k => (s.configured scope now k).map fun v => (k, v)).lookup key =
        if key ∈ keys then s.configured scope now key else none := by
    intro keys
    induction keys with
    | nil => rfl
    | cons k keys ih =>
      by_cases same : key = k
      · subst same
        cases value : s.configured scope now key with
        | none => simp [value, ih]
        | some v => simp [value]
      · have apart : (key == k) = false := by simp [same]
        cases value : s.configured scope now k with
        | none => simp [value, ih, same]
        | some v => simp [value, ih, same, apart, List.lookup_cons]
  unfold valueTable Table.ofList
  rw [Table.get?_insertAll, ← List.filterMap_reverse, listed, Table.get?_empty, Option.or_none]
  split
  · rfl
  · rename_i outside
    refine (configured_absent ?_).symm
    cases present : s.get? key with
    | none => rfl
    | some e =>
      refine (outside ?_).elim
      rw [List.mem_reverse, keys, Table.sortedKeys, List.mem_mergeSort]
      exact Table.mem_keys_iff.mpr (Option.isSome_of_eq_some present)

section Difference

variable {old new : Snapshot} {scope : Option String}

theorem contains_iff {s : Snapshot} {key : String} :
    s.contains key = true ↔ key ∈ s.elements.keys := Table.mem_keys_iff.symm

theorem mem_unionKeys {key : String} :
    key ∈ unionKeys old new ↔ key ∈ old.elements.keys ∨ key ∈ new.elements.keys := by
  unfold unionKeys
  rw [List.mem_mergeSort, List.mem_append, List.mem_filter, Bool.not_eq_true', ← Bool.not_eq_true,
    contains_iff]
  tauto

theorem nodup_unionKeys (old new : Snapshot) : (unionKeys old new).Nodup := by
  unfold unionKeys
  rw [(List.mergeSort_perm _ _).nodup_iff, List.nodup_append]
  refine ⟨old.elements.nodup, new.elements.nodup.filter _, fun key held other added => ?_⟩
  rintro rfl
  have absent := (List.mem_filter.mp added).2
  rw [contains_iff.mpr held] at absent
  cases absent

/-- The event of a key, if its value is not what it was. -/
def change? (before after : String → Option ConfigValue) (key : String) : Option ChangeEvent :=
  if before key == after key then none else some ⟨key, before key, after key⟩

theorem beq_of_change? {before after : String → Option ConfigValue} {key : String}
    (unchanged : change? before after key = none) : (before key == after key) = true := by
  by_contra differs
  rw [change?, if_neg differs] at unchanged
  cases unchanged

theorem eq_of_change? {before after : String → Option ConfigValue} {key : String} {e : ChangeEvent}
    (changed : change? before after key = some e) : e = ⟨key, before key, after key⟩ := by
  unfold change? at changed
  split at changed
  · cases changed
  · exact (Option.some.inj changed).symm

/-- Each key is evaluated at two readings of its own, in the old snapshot before the new. -/
theorem result_changes_cons (clock : Clock) (turn : Nat) (key : String) (keys : List String) :
    (changes scope clock old new turn (key :: keys)).result =
      (change? (old.configured scope (clock turn)) (new.configured scope (clock (turn + 1)))
        key).toList ++ (changes scope clock old new (turn + 2) keys).result := by
  have before : (old.configuredValue scope (clock turn) key).result =
    old.configured scope (clock turn) key := rfl
  have after : (new.configuredValue scope (clock (turn + 1)) key).result =
    new.configured scope (clock (turn + 1)) key := rfl
  rw [changes, change?]
  simp only [Logged.result_bind, before, after]
  split
  · rfl
  · rfl

theorem result_changes (timeless : old.Timeless) (timeless' : new.Timeless) (clock : Clock)
    (now : Int64) (turn : Nat) (keys : List String) :
    (changes scope clock old new turn keys).result =
      keys.filterMap (change? (old.configured scope now) (new.configured scope now)) := by
  induction keys generalizing turn with
  | nil => rfl
  | cons key keys ih =>
    have before : old.configured scope (clock turn) key = old.configured scope now key :=
      timeless.configured _ now
    have after : new.configured scope (clock (turn + 1)) key = new.configured scope now key :=
      timeless'.configured _ now
    rw [result_changes_cons, ih, List.filterMap_cons, change?, change?, before, after]
    split
    · rfl
    · rfl

/-- Between timeless snapshots, the events are those of the keys whose values differ. -/
theorem result_diff (timeless : old.Timeless) (timeless' : new.Timeless) (clock : Clock)
    (now : Int64) :
    (diff scope clock old new).result = (unionKeys old new).filterMap
      (change? (old.configured scope now) (new.configured scope now)) :=
  result_changes timeless timeless' clock now 0 _

end Difference
end Snapshot
end LiveConfig

import LiveConfig.Rule.Validation
import LiveConfig.Proofs.Evaluation.RowOrder
import LiveConfig.Proofs.Evaluation.Result
import LiveConfig.Proofs.Rule.Negation
import LiveConfig.Proofs.Text.Blank

/-! What validation promises of the rules of a config.

A config is well-formed when no two of its rows are for one environment, or for none, and every
criterion has what its operator asks for: a property to read, a list, a range or the key of a
segment. Validation accepts exactly the well-formed configs. Of such a config at most one row for
the environment is tried and at most one for none after it, and no criterion fails to hold only
since its value to match is of the wrong kind: of a list operator and its negation one holds of
every property, a range decides every integer, and a segment criterion asks about a segment. -/
namespace LiveConfig

namespace Operator

/-- An operator that reads no property decides the same of every property. -/
theorem decide?_of_reads_nothing {o : Operator} (reads : o.readsProperty = false)
    (property property' toMatch : Option Value) :
    o.decide? property toMatch = o.decide? property' toMatch := by
  cases o with
  | alwaysTrue | inSegment | notInSegment | unknown => rfl
  | _ => cases reads

/-- A property and a value to match of which an operator decides otherwise than without a
property. -/
def telling : Operator → Value × Value
  | hierarchicalMatch | matchesPattern | doesNotMatchPattern => (.string "a", .string "a")
  | inIntRange => (.int 0, .range ⟨none, none⟩)
  | versionLessThan | versionEqual | versionGreaterThan => (.string "1.0.0", .string "1.0.0")
  | greaterThan | greaterThanOrEqual | lessThan | lessThanOrEqual | before | after =>
    (.int 0, .int 0)
  | _ => (.string "a", .stringList ["a"])

/-- What an operator decides may depend on the property. -/
def Reads (o : Operator) : Prop :=
  ∃ property property' toMatch, o.decide? property toMatch ≠ o.decide? property' toMatch

/-- An operator decides as soon as the value to match is a list, even of no property, and only
then. -/
def Lists (o : Operator) : Prop :=
  ∀ property toMatch, (o.decide? property toMatch).isSome = true ↔
    ∃ items, toMatch = some (.stringList items)

/-- The operators that are said to read a property are those whose decisions depend on one. -/
theorem readsProperty_iff {o : Operator} : o.readsProperty = true ↔ o.Reads := by
  constructor
  · intro reads
    refine ⟨none, some o.telling.1, some o.telling.2, ?_⟩
    cases o with
    | alwaysTrue | inSegment | notInSegment | unknown => cases reads
    | versionLessThan | versionEqual | versionGreaterThan =>
      have read : (Value.string "1.0.0").version? = some ⟨1, 0, 0, [], []⟩ := by
        unfold Value.version? Text.trim
        rw [Text.isBlank_eq]
        decide +kernel
      simp [decide?, versionCompared?, telling, read]
    | _ => decide +kernel
  · rintro ⟨property, property', toMatch, differ⟩
    by_contra nothing
    have same := decide?_of_reads_nothing (Bool.eq_false_iff.mpr nothing)
    exact differ (same property property' toMatch)

theorem isSegment_iff {o : Operator} :
    o.isSegment = true ↔ o = .inSegment ∨ o = .notInSegment := by
  cases o <;> decide

/-- A list operator is one of an operator and its negation. -/
theorem exists_pair_of_list {o : Operator} (list : o.expectsStringList = true) :
    ∃ asks denies, negation? asks = some denies ∧ asks.expectsStringList = true ∧
      (o = asks ∨ o = denies) := by
  cases o with
  | isOneOf | endsWithOneOf | startsWithOneOf | containsOneOf =>
    exact ⟨_, _, rfl, rfl, .inl rfl⟩
  | isNotOneOf => exact ⟨isOneOf, _, rfl, rfl, .inr rfl⟩
  | doesNotEndWithOneOf => exact ⟨endsWithOneOf, _, rfl, rfl, .inr rfl⟩
  | doesNotStartWithOneOf => exact ⟨startsWithOneOf, _, rfl, rfl, .inr rfl⟩
  | doesNotContainOneOf => exact ⟨containsOneOf, _, rfl, rfl, .inr rfl⟩
  | _ => cases list

/-- The operators that are said to expect a list are those that decide with a list only. -/
theorem expectsStringList_iff {o : Operator} : o.expectsStringList = true ↔ o.Lists := by
  constructor
  · intro list property toMatch
    rw [← isSome_stringList?]
    cases o with
    | isOneOf | isNotOneOf | endsWithOneOf | doesNotEndWithOneOf | startsWithOneOf
    | doesNotStartWithOneOf | containsOneOf | doesNotContainOneOf =>
      simp only [decide?, Option.isSome_map]
    | _ => cases list
  · intro exact
    by_contra other
    have listed := (exact none (some (.stringList []))).mpr ⟨[], rfl⟩
    have missing := (exact none none).mp
    cases reads : o.readsProperty with
    | true =>
      rw [decide?_absent reads (Bool.eq_false_iff.mpr other)] at listed
      cases listed
    | false =>
      cases o with
      | alwaysTrue =>
        obtain ⟨_, absent⟩ := missing rfl
        cases absent
      | inSegment | notInSegment | unknown => cases listed
      | _ => cases reads

end Operator

namespace Criterion

/-- The criterion has what its operator asks for. -/
structure WellFormed (c : Criterion) : Prop where
  property : c.operator.Reads → c.property ≠ ""
  list : c.operator.Lists → ∃ items, c.toMatch.map Labelled.value = some (.stringList items)
  range : c.operator = .inIntRange → ∃ r, c.toMatch.map Labelled.value = some (.range r)
  segment : c.operator = .inSegment ∨ c.operator = .notInSegment →
    ∃ s, c.toMatch.map Labelled.value = some (.string s)

variable {c : Criterion}

theorem toMatchIs_iff {α : Type} {kind : Value → Bool} {make : α → Value}
    (exact : ∀ v, kind v = true ↔ ∃ a, v = make a) :
    c.toMatchIs kind = true ↔ ∃ a, c.toMatch.map Labelled.value = some (make a) := by
  unfold toMatchIs
  cases c.toMatch with
  | none => simp
  | some v => simp [exact]

theorem isStringList_iff (v : Value) : v.isStringList = true ↔ ∃ items, v = .stringList items := by
  cases v <;> simp [Value.isStringList]

theorem isRange_iff (v : Value) : v.isRange = true ↔ ∃ r, v = .range r := by
  cases v <;> simp [Value.isRange]

theorem isString_iff (v : Value) : v.isString = true ↔ ∃ s, v = .string s := by
  cases v <;> simp [Value.isString]

theorem fault?_eq_none_iff : c.fault? = none ↔ c.WellFormed := by
  have list := toMatchIs_iff (c := c) isStringList_iff
  have range := toMatchIs_iff (c := c) isRange_iff
  have segment := toMatchIs_iff (c := c) isString_iff
  have checks : c.fault? = none ↔
      ¬ (c.operator.readsProperty = true ∧ c.property = "") ∧
      ¬ (c.operator.expectsStringList = true ∧ ¬ c.toMatchIs Value.isStringList = true) ∧
      ¬ (c.operator = .inIntRange ∧ ¬ c.toMatchIs Value.isRange = true) ∧
      ¬ (c.operator.isSegment = true ∧ ¬ c.toMatchIs Value.isString = true) := by
    simp only [fault?, ite_eq_iff, reduceCtorEq, and_false, false_or, and_true, Bool.and_eq_true,
      Bool.not_eq_true', Bool.not_eq_true, decide_eq_true_eq, String.isEmpty_iff]
  rw [checks, list, range, segment, Operator.readsProperty_iff, Operator.expectsStringList_iff,
    Operator.isSegment_iff]
  constructor
  · rintro ⟨property, list, range, segment⟩
    exact ⟨not_and.mp property, not_and_not_right.mp list, not_and_not_right.mp range,
      not_and_not_right.mp segment⟩
  · intro sound
    exact ⟨not_and.mpr sound.property, not_and_not_right.mpr sound.list,
      not_and_not_right.mpr sound.range, not_and_not_right.mpr sound.segment⟩

end Criterion

namespace Config

/-- No two rows are for one environment, or for none, and every criterion is well-formed. -/
structure WellFormed (c : Config) : Prop where
  rows : c.rows.Pairwise fun row row' => row.environment ≠ row'.environment
  criteria : ∀ k ∈ c.criteria, k.WellFormed

/-- The rows up to the first fault have been checked, `seen` being their environments. -/
theorem firstFault?_eq_none_iff {seen : List (Option Int64)} {rows : List Row} :
    firstFault? seen rows = none ↔ (∀ row ∈ rows, row.environment ∉ seen) ∧
      (rows.Pairwise fun row row' => row.environment ≠ row'.environment) ∧
      ∀ row ∈ rows, ∀ k ∈ row.criteria, k.WellFormed := by
  induction rows generalizing seen with
  | nil => simp [firstFault?]
  | cons row rows ih =>
    have own : row.criteria.findSome? Criterion.fault? = none ↔
        ∀ k ∈ row.criteria, k.WellFormed := by
      simp only [List.findSome?_eq_none_iff, Criterion.fault?_eq_none_iff]
    have step : firstFault? seen (row :: rows) = none ↔ row.environment ∉ seen ∧
        row.criteria.findSome? Criterion.fault? = none ∧
        firstFault? (row.environment :: seen) rows = none := by
      rw [firstFault?]
      cases row.criteria.findSome? Criterion.fault? <;> simp [ite_eq_iff]
    rw [step, own, ih, List.forall_mem_cons, List.forall_mem_cons, List.pairwise_cons]
    constructor
    · rintro ⟨fresh, first, unseen, distinct, later⟩
      have apart := fun row' member => List.ne_and_not_mem_of_not_mem_cons (unseen row' member)
      exact ⟨⟨fresh, fun row' member => (apart row' member).2⟩,
        ⟨fun row' member => (apart row' member).1.symm, distinct⟩, first, later⟩
    · rintro ⟨⟨fresh, unseen⟩, ⟨apart, distinct⟩, first, later⟩
      exact ⟨fresh, first, fun row' member =>
        List.not_mem_cons_of_ne_of_not_mem (apart row' member).symm (unseen row' member),
        distinct, later⟩

theorem validate_eq_ok_iff {c : Config} : c.validate = .ok () ↔ c.WellFormed := by
  have accepted : c.validate = .ok () ↔ c.fault? = none := by
    unfold validate
    cases c.fault? <;> simp
  have criteria : (∀ row ∈ c.rows, ∀ k ∈ row.criteria, k.WellFormed) ↔
      ∀ k ∈ c.criteria, k.WellFormed := by
    have gathered : c.criteria = c.rows.flatMap Row.criteria := rfl
    rw [gathered, List.forall_mem_flatMap]
  rw [accepted, fault?, firstFault?_eq_none_iff, criteria]
  constructor
  · rintro ⟨_, rows, sound⟩
    exact ⟨rows, sound⟩
  · intro sound
    exact ⟨fun _ _ => List.not_mem_nil, sound.rows, sound.criteria⟩

/-- Under an environment one row for it is tried, if there is one, and then one for none, if there
is one. -/
def Orderly (c : Config) (environment : Option Int64) : Prop :=
  ∃ own default : Option Nat, c.rowOrder environment = own.toList ++ default.toList ∧
    (∀ i, own = some i ↔ environment.isSome = true ∧
      c.rows[i]?.map Row.environment = some environment) ∧
    ∀ i, default = some i ↔ c.rows[i]?.map Row.environment = some none

/-- No two rows are for one environment. -/
theorem index_unique {c : Config} {environment : Option Int64} {i j : Nat}
    (distinct : c.rows.Pairwise fun row row' => row.environment ≠ row'.environment)
    (first : c.rows[i]?.map Row.environment = some environment)
    (second : c.rows[j]?.map Row.environment = some environment) : i = j := by
  have once : (c.rows.map Row.environment).Nodup := List.pairwise_map.mpr distinct
  rw [← List.getElem?_map] at first second
  exact (List.getElem?_inj (List.getElem?_eq_some_iff.mp first).1 once).mp
    (first.trans second.symm)

/-- The rows for an environment are one row or none. -/
theorem exists_indexFor {c : Config}
    (distinct : c.rows.Pairwise fun row row' => row.environment ≠ row'.environment)
    (environment : Option Int64) : ∃ index : Option Nat, c.indexesFor environment = index.toList ∧
      ∀ i, index = some i ↔ c.rows[i]?.map Row.environment = some environment := by
  have unique : ∀ i ∈ c.indexesFor environment, ∀ j ∈ c.indexesFor environment, i = j :=
    fun i first j second => index_unique distinct (mem_indexesFor.mp first)
      (mem_indexesFor.mp second)
  have nodup : (c.indexesFor environment).Nodup := List.nodup_range.filter _
  have single : ∃ index : Option Nat, c.indexesFor environment = index.toList := by
    generalize c.indexesFor environment = indexes at unique nodup
    rcases indexes with _ | ⟨i, _ | ⟨j, rest⟩⟩
    · exact ⟨none, rfl⟩
    · exact ⟨some i, rfl⟩
    · have apart := (List.nodup_cons.mp nodup).1
      rw [unique i List.mem_cons_self j (.tail _ List.mem_cons_self)] at apart
      exact (apart List.mem_cons_self).elim
  obtain ⟨index, indexes⟩ := single
  refine ⟨index, indexes, fun i => ?_⟩
  rw [← mem_indexesFor, indexes, Option.mem_toList]

theorem WellFormed.orderly {c : Config} (sound : c.WellFormed) (environment : Option Int64) :
    c.Orderly environment := by
  obtain ⟨default, last, mem_default⟩ := exists_indexFor sound.rows none
  cases environment with
  | none =>
    refine ⟨none, default, ?_, by simp, mem_default⟩
    rw [rowOrder_eq, documentOrder, last]
    rfl
  | some id =>
    obtain ⟨own, first, mem_own⟩ := exists_indexFor sound.rows (some id)
    refine ⟨own, default, ?_, by simpa using mem_own, mem_default⟩
    rw [rowOrder_eq, documentOrder, first, last]
    rfl

end Config

/-- The integer lies in the range, which includes its start and excludes its end; where one of the
two is absent the range is open. -/
def IntRange.Covers (r : IntRange) (n : Int64) : Prop :=
  (∀ start, r.start = some start → start.toInt ≤ n.toInt) ∧
    ∀ stop, r.stop = some stop → n.toInt < stop.toInt

theorem IntRange.contains_iff {r : IntRange} {n : Int64} : r.contains n = true ↔ r.Covers n := by
  obtain ⟨start, stop⟩ := r
  cases start <;> cases stop <;>
    simp [contains, Covers, Int64.le_iff_toInt_le, Int64.lt_iff_toInt_lt]

namespace Criterion

open Drawing (Ends Gives)

/-- What is asked by a list, range or segment criterion can be answered: its value to match is
nothing that keeps it from holding. -/
structure Decisive (c : Criterion) : Prop where
  /-- Of the two operators of which the criterion has one, exactly one holds of every property. -/
  listed : c.operator.Lists → ∃ asks denies, asks.negation? = some denies ∧
    (c.operator = asks ∨ c.operator = denies) ∧
    ∀ property, denies.holds property c.toMatch = !asks.holds property c.toMatch
  /-- Of an integer the criterion holds if this lies in the range. -/
  ranged : c.operator = .inIntRange → ∃ r, c.toMatch.map Labelled.value = some (.range r) ∧
    ∀ (property : ConfigValue) n, property.value = .int n →
      (c.operator.holds (some property) c.toMatch = true ↔ r.Covers n)
  /-- Where it is known whether the caller belongs to the segment, the criterion holds as its
  operator asks. -/
  segmented : c.operator = .inSegment ∨ c.operator = .notInSegment →
    ∃ segment, c.toMatch.map Labelled.value = some (.string segment) ∧
      ∀ (q : Inquiry) inner scope key member, segment ∉ scope.keys →
        Ends (inner scope segment) (verdict · = .ok member) →
        Gives (q.judge inner scope key c) (.ok (none, member == (c.operator == .inSegment)))

theorem WellFormed.decisive {c : Criterion} (sound : c.WellFormed) : c.Decisive where
  listed lists := by
    obtain ⟨items, list⟩ := sound.list lists
    obtain ⟨asks, denies, pair, expects, one⟩ :=
      Operator.exists_pair_of_list (Operator.expectsStringList_iff.mpr lists)
    refine ⟨asks, denies, pair, one, fun property => ?_⟩
    have decides := Operator.expectsStringList_iff.mp expects (property.map Labelled.value)
    obtain ⟨answer, decided⟩ := Option.isSome_iff_exists.mp ((decides _).mpr ⟨items, list⟩)
    simp only [Operator.holds, Operator.decide?_negation pair, decided, Option.map_some,
      Option.getD_some]
  ranged op := by
    obtain ⟨r, range⟩ := sound.range op
    refine ⟨r, range, fun property n int => ?_⟩
    rw [op, Operator.holds, range, Option.map_some, int, ← IntRange.contains_iff]
    rfl
  segmented op := by
    obtain ⟨segment, given⟩ := sound.segment op
    have asked : c.operator.isSegment = true := Operator.isSegment_iff.mpr op
    have named : c.segment? = some segment := by
      obtain ⟨v, present, string⟩ := Option.map_eq_some_iff.mp given
      rw [segment?, if_pos asked, present, Option.bind_some, string]
      rfl
    refine ⟨segment, given, fun q inner scope key member outside known => ?_⟩
    have judged : Gives (q.judge inner scope key c)
        ((fun holds => (c.seen (q.lookup? scope), holds)) <$>
          q.rules (fun _ _ => .ok member) scope c) :=
      Inquiry.gives_judge c fun s same _ => by
        cases named.symm.trans same
        exact known
    have ruled : q.rules (fun _ _ => .ok member) scope c =
        .ok (member == (c.operator == .inSegment)) := by
      simp [Inquiry.rules, ruling, asks, asked, named, outside]
    have unseen : c.seen (q.lookup? scope) = none := by
      simp [seen, asked]
    rw [ruled, unseen] at judged
    exact judged

end Criterion

/-- Validation accepts exactly the well-formed configs, and these can be evaluated: under every
environment at most one row for it is tried and at most one for none after it, and every list,
range or segment criterion can be answered. -/
theorem Config.validate_exact (c : Config) : (c.validate = .ok () ↔ c.WellFormed) ∧
    (c.validate = .ok () →
      (∀ environment, c.Orderly environment) ∧ ∀ k ∈ c.criteria, k.Decisive) := by
  refine ⟨validate_eq_ok_iff, fun accepted => ?_⟩
  have sound := validate_eq_ok_iff.mp accepted
  exact ⟨sound.orderly, fun k member => (sound.criteria k member).decisive⟩

/-- A config with a row for one environment, whose criteria read a list and a range, and after it
in the order of rows, though before it in the document, a row for none that asks about a segment. -/
def Config.staged : Config where
  key := "checkout"
  id := 1
  kind := .config
  valueType := some .bool
  rows := [
    ⟨none, .empty, [⟨[⟨"", .inSegment, some (Value.string "staff").plain⟩],
      (Value.bool true).plain⟩]⟩,
    ⟨some 7, .empty, [⟨[⟨"user.plan", .isNotOneOf, some (Value.stringList ["free"]).plain⟩,
      ⟨"user.age", .inIntRange, some (Value.range ⟨some 18, none⟩).plain⟩],
      (Value.bool true).plain⟩]⟩]
  allowableValues := []

theorem Config.staged_valid : staged.validate = .ok () ∧ staged.rowOrder (some 7) = [1, 0] ∧
    staged.criteria.length = 3 ∧ staged.WellFormed ∧ staged.Orderly (some 7) ∧
    ∀ k ∈ staged.criteria, k.Decisive := by
  have accepted : staged.validate = .ok () := by decide +kernel
  have exact := Config.validate_exact staged
  exact ⟨accepted, by decide +kernel, by decide +kernel, exact.1.mp accepted,
    (exact.2 accepted).1 (some 7), (exact.2 accepted).2⟩

end LiveConfig

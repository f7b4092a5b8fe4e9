import LiveConfig.Proofs.Evaluation.Result

/-! The way of an evaluation through a config.

An evaluation gets past a row in which nothing is chosen, past a conditional value of which some
criterion does not hold, and past a criterion that holds. `Reaches` says which criteria it comes to
that way, and how many positions have been drawn by then. A criterion that fails ends the way: the
failure is that of the whole search, and nothing that stands later is reached. Every failure of a
search has such a place where it came about. -/
namespace LiveConfig

open Drawing (runFrom_bind runFrom_of_ok runFrom_of_error runFrom_attempt)

/-- A search gets past the first `i` items of a list, each by a step, and from `n` draws to `m`. -/
inductive Passes {α : Type} (step : α → Nat → Nat → Prop) : List α → Nat → Nat → Nat → Prop
  | start {l : List α} {n : Nat} : Passes step l n 0 n
  | next {a : α} {l : List α} {n m k i : Nat} (first : step a n m) (rest : Passes step l m i k) :
      Passes step (a :: l) n (i + 1) k

namespace Passes

variable {α : Type} {step : α → Nat → Nat → Prop} {l : List α} {a : α} {n m k i j : Nat}

/-- Where the next item cannot be passed, no search gets further. -/
theorem le_of_stuck (passed : Passes step l n i m)
    (functional : ∀ a n m m', step a n m → step a n m' → m = m')
    (found : l[i]? = some a) (stuck : ∀ k, ¬ step a m k) (other : Passes step l n j k) : j ≤ i := by
  induction passed generalizing j with
  | start =>
    cases other with
    | start => exact Nat.le_refl 0
    | next first _ =>
      cases found
      exact (stuck _ first).elim
  | next first _ ih =>
    cases other with
    | start => exact Nat.zero_le _
    | next first' rest' =>
      cases functional _ _ _ _ first first'
      exact Nat.succ_le_succ (ih found stuck rest')

theorem unique (passed : Passes step l n i m)
    (functional : ∀ a n m m', step a n m → step a n m' → m = m')
    (other : Passes step l n i k) : m = k := by
  induction passed with
  | start =>
    cases other
    rfl
  | next first _ ih =>
    cases other with
    | next first' rest' =>
      cases functional _ _ _ _ first first'
      exact ih rest'

end Passes

/-- Where a criterion stands in some rows: its row, the conditional value in that, and its own place
in the conditional value. -/
structure Place where
  row : Nat
  value : Nat
  criterion : Nat

/-- One place comes before another in the order of the rows. -/
def Place.Before (p p' : Place) : Prop :=
  p.row < p'.row ∨ p.row = p'.row ∧
    (p.value < p'.value ∨ p.value = p'.value ∧ p.criterion < p'.criterion)

theorem drop_of_getElem? {α : Type} {l : List α} {i : Nat} {a : α} (found : l[i]? = some a) :
    l.drop i = a :: l.drop (i + 1) := by
  obtain ⟨inside, rfl⟩ := List.getElem?_eq_some_iff.mp found
  exact List.drop_eq_getElem_cons inside

namespace Inquiry

section Search

variable {q : Inquiry} {inner : Scope → String → Drawing Match} {scope : Scope} {key : String}

theorem runFrom_judgeAll_cons (i : Nat) (c : Criterion) (cs : List Criterion) (n : Nat) :
    (q.judgeAll inner scope key i (c :: cs)).runFrom n =
      match (q.judge inner scope key c).runFrom n with
      | (.ok (_, false), m) => (.ok none, m)
      | (.ok (seen, true), m) =>
        match (q.judgeAll inner scope key (i + 1) cs).runFrom m with
        | (.ok rest, k) => (.ok (rest.map (⟨i, seen, true⟩ :: ·)), k)
        | (.error e, k) => (.error e, k)
      | (.error e, m) => (.error e, m) := by
  rw [judgeAll, runFrom_bind]
  rcases (q.judge inner scope key c).runFrom n with ⟨_ | ⟨seen, _ | _⟩, m⟩
  · rfl
  · rfl
  · simp only [Bool.not_true, Bool.false_eq_true, if_false]
    rw [runFrom_bind]
    rcases (q.judgeAll inner scope key (i + 1) cs).runFrom m with ⟨_ | _ | _, k⟩ <;> rfl

theorem runFrom_firstHolding_cons (i : Nat) (v : ConditionalValue) (vs : List ConditionalValue)
    (n : Nat) : (q.firstHolding inner scope key i (v :: vs)).runFrom n =
      match (q.judgeAll inner scope key 0 v.criteria).runFrom n with
      | (.ok (some criteria), m) => (.ok (some (i, v.value, criteria)), m)
      | (.ok none, m) => (q.firstHolding inner scope key (i + 1) vs).runFrom m
      | (.error e, m) => (.error e, m) := by
  rw [firstHolding, runFrom_bind]
  rcases (q.judgeAll inner scope key 0 v.criteria).runFrom n with ⟨_ | _ | _, m⟩ <;> rfl

theorem runFrom_firstRow_cons (row : Nat × Row) (rows : List (Nat × Row)) (n : Nat) :
    (q.firstRow inner scope key (row :: rows)).runFrom n =
      match (q.firstHolding inner (scope.within row.2.properties) key 0 row.2.values).runFrom n with
      | (.ok (some found), m) => (.ok (some (row.1, found)), m)
      | (.ok none, m) => (q.firstRow inner scope key rows).runFrom m
      | (.error e, m) => (.error e, m) := by
  rw [firstRow, runFrom_bind]
  rcases (q.firstHolding inner (scope.within row.2.properties) key 0 row.2.values).runFrom n with
    ⟨_ | _ | _, m⟩ <;> rfl

/-- A criterion that holds. -/
def PastCriterion (q : Inquiry) (inner : Scope → String → Drawing Match) (scope : Scope)
    (key : String) (c : Criterion) (n m : Nat) : Prop :=
  ∃ seen, (q.judge inner scope key c).runFrom n = (.ok (seen, true), m)

/-- A conditional value of which some criterion does not hold, those before it holding. -/
def PastValue (q : Inquiry) (inner : Scope → String → Drawing Match) (scope : Scope)
    (key : String) (v : ConditionalValue) (n m : Nat) : Prop :=
  (q.judgeAll inner scope key 0 v.criteria).runFrom n = (.ok none, m)

/-- A row of which no conditional value is chosen. -/
def PastRow (q : Inquiry) (inner : Scope → String → Drawing Match) (scope : Scope)
    (key : String) (row : Nat × Row) (n m : Nat) : Prop :=
  (q.firstHolding inner (scope.within row.2.properties) key 0 row.2.values).runFrom n =
    (.ok none, m)

theorem PastCriterion.functional (c : Criterion) (n m m' : Nat)
    (past : q.PastCriterion inner scope key c n m)
    (past' : q.PastCriterion inner scope key c n m') : m = m' := by
  obtain ⟨_, ran⟩ := past
  obtain ⟨_, ran'⟩ := past'
  exact congrArg Prod.snd (ran.symm.trans ran')

theorem PastValue.functional (v : ConditionalValue) (n m m' : Nat)
    (past : q.PastValue inner scope key v n m) (past' : q.PastValue inner scope key v n m') :
    m = m' :=
  congrArg Prod.snd (past.symm.trans past')

theorem PastRow.functional (row : Nat × Row) (n m m' : Nat)
    (past : q.PastRow inner scope key row n m) (past' : q.PastRow inner scope key row n m') :
    m = m' :=
  congrArg Prod.snd (past.symm.trans past')

section Failing

variable {n m k i : Nat} {e : EvaluationError}

theorem runFrom_judgeAll_of_passed {cs : List Criterion}
    (passed : Passes (q.PastCriterion inner scope key) cs n i m) (j : Nat)
    (stops : ∀ rest, ((q.judgeAll inner scope key (j + i) (cs.drop i)).runFrom m).1 ≠
      .ok (some rest)) :
    (q.judgeAll inner scope key j cs).runFrom n =
      (q.judgeAll inner scope key (j + i) (cs.drop i)).runFrom m := by
  induction passed generalizing j with
  | start => rfl
  | @next c cs n m k i first _ ih =>
    obtain ⟨seen, holds⟩ := first
    have index : j + (i + 1) = j + 1 + i := by omega
    rw [List.drop_succ_cons, index] at stops ⊢
    rw [runFrom_judgeAll_cons, holds]
    simp only [ih (j + 1) stops]
    -- what does not hold in the end is not recorded
    rcases ended : (q.judgeAll inner scope key (j + 1 + i) (cs.drop i)).runFrom k with
      ⟨_ | _ | rest, l⟩
    · rfl
    · rfl
    · exact (stops rest (congrArg Prod.fst ended)).elim

theorem runFrom_judgeAll_of_error {c : Criterion} {cs : List Criterion}
    (passed : Passes (q.PastCriterion inner scope key) cs n i m) (found : cs[i]? = some c)
    (failed : (q.judge inner scope key c).runFrom m = (.error e, k)) :
    (q.judgeAll inner scope key 0 cs).runFrom n = (.error e, k) := by
  have ended : (q.judgeAll inner scope key (0 + i) (cs.drop i)).runFrom m = (.error e, k) := by
    rw [drop_of_getElem? found, runFrom_judgeAll_cons, failed]
  rw [runFrom_judgeAll_of_passed passed, ended]
  rw [ended]
  rintro _ ⟨⟩

theorem runFrom_judgeAll_of_not {c : Criterion} {cs : List Criterion} {seen : Option ConfigValue}
    (passed : Passes (q.PastCriterion inner scope key) cs n i m) (found : cs[i]? = some c)
    (failed : (q.judge inner scope key c).runFrom m = (.ok (seen, false), k)) :
    (q.judgeAll inner scope key 0 cs).runFrom n = (.ok none, k) := by
  have ended : (q.judgeAll inner scope key (0 + i) (cs.drop i)).runFrom m = (.ok none, k) := by
    rw [drop_of_getElem? found, runFrom_judgeAll_cons, failed]
  rw [runFrom_judgeAll_of_passed passed, ended]
  rw [ended]
  rintro _ ⟨⟩

theorem runFrom_firstHolding_of_passed {vs : List ConditionalValue}
    (passed : Passes (q.PastValue inner scope key) vs n i m) (j : Nat) :
    (q.firstHolding inner scope key j vs).runFrom n =
      (q.firstHolding inner scope key (j + i) (vs.drop i)).runFrom m := by
  induction passed generalizing j with
  | start => rfl
  | @next v vs n m k i first _ ih =>
    rw [runFrom_firstHolding_cons, first, List.drop_succ_cons,
      show j + (i + 1) = j + 1 + i by omega]
    exact ih (j + 1)

theorem runFrom_firstRow_of_passed {rows : List (Nat × Row)}
    (passed : Passes (q.PastRow inner scope key) rows n i m) :
    (q.firstRow inner scope key rows).runFrom n =
      (q.firstRow inner scope key (rows.drop i)).runFrom m := by
  induction passed with
  | start => rfl
  | next first _ ih =>
    rw [runFrom_firstRow_cons, first, List.drop_succ_cons]
    exact ih

theorem exists_of_judgeAll_error {cs : List Criterion} {j : Nat}
    (failed : (q.judgeAll inner scope key j cs).runFrom n = (.error e, k)) :
    ∃ i m c, Passes (q.PastCriterion inner scope key) cs n i m ∧ cs[i]? = some c ∧
      (q.judge inner scope key c).runFrom m = (.error e, k) := by
  induction cs generalizing j n with
  | nil => cases failed
  | cons c cs ih =>
    rw [runFrom_judgeAll_cons] at failed
    rcases judged : (q.judge inner scope key c).runFrom n with ⟨_ | ⟨seen, _ | _⟩, m⟩
    · rw [judged] at failed
      cases failed
      exact ⟨0, n, c, .start, rfl, judged⟩
    · rw [judged] at failed
      cases failed
    · rw [judged] at failed
      rcases rest : (q.judgeAll inner scope key (j + 1) cs).runFrom m with ⟨_ | _, k'⟩
      · simp only [rest] at failed
        cases failed
        obtain ⟨i, m', c', passed, found, later⟩ := ih rest
        exact ⟨i + 1, m', c', .next ⟨seen, judged⟩ passed, found, later⟩
      · simp only [rest] at failed
        cases failed

theorem exists_of_firstHolding_error {vs : List ConditionalValue} {j : Nat}
    (failed : (q.firstHolding inner scope key j vs).runFrom n = (.error e, k)) :
    ∃ i m v, Passes (q.PastValue inner scope key) vs n i m ∧ vs[i]? = some v ∧
      (q.judgeAll inner scope key 0 v.criteria).runFrom m = (.error e, k) := by
  induction vs generalizing j n with
  | nil => cases failed
  | cons v vs ih =>
    rw [runFrom_firstHolding_cons] at failed
    rcases judged : (q.judgeAll inner scope key 0 v.criteria).runFrom n with ⟨_ | _ | _, m⟩
    · rw [judged] at failed
      cases failed
      exact ⟨0, n, v, .start, rfl, judged⟩
    · rw [judged] at failed
      obtain ⟨i, m', v', passed, found, later⟩ := ih failed
      exact ⟨i + 1, m', v', .next judged passed, found, later⟩
    · rw [judged] at failed
      cases failed

theorem exists_of_firstRow_error {rows : List (Nat × Row)}
    (failed : (q.firstRow inner scope key rows).runFrom n = (.error e, k)) :
    ∃ i m row, Passes (q.PastRow inner scope key) rows n i m ∧ rows[i]? = some row ∧
      (q.firstHolding inner (scope.within row.2.properties) key 0 row.2.values).runFrom m =
        (.error e, k) := by
  induction rows generalizing n with
  | nil => cases failed
  | cons row rows ih =>
    rw [runFrom_firstRow_cons] at failed
    rcases searched : (q.firstHolding inner (scope.within row.2.properties) key 0
      row.2.values).runFrom n with ⟨_ | _ | _, m⟩
    · rw [searched] at failed
      cases failed
      exact ⟨0, n, row, .start, rfl, searched⟩
    · rw [searched] at failed
      obtain ⟨i, m', row', passed, found, later⟩ := ih failed
      exact ⟨i + 1, m', row', .next searched passed, found, later⟩
    · rw [searched] at failed
      cases failed

end Failing

/-- The search from the `j`-th conditional value of a row on, and then through some rows. -/
def searchFrom (q : Inquiry) (inner : Scope → String → Drawing Match) (scope : Scope)
    (key : String) (j : Nat) (row : Nat × Row) (rows : List (Nat × Row)) :
    Drawing (Option (Nat × Nat × ConfigValue × List EvaluatedCriterion)) := do
  match ← q.firstHolding inner (scope.within row.2.properties) key j (row.2.values.drop j) with
  | some found => return some (row.1, found)
  | none => q.firstRow inner scope key rows

/-- The search of some rows, from `n` draws on, comes to a criterion after `m` draws. -/
structure Reaches (q : Inquiry) (inner : Scope → String → Drawing Match) (scope : Scope)
    (key : String) (rows : List (Nat × Row)) (n : Nat) (p : Place) (row : Nat × Row)
    (v : ConditionalValue) (c : Criterion) (m : Nat) : Prop where
  atRow : rows[p.row]? = some row
  atValue : row.2.values[p.value]? = some v
  atCriterion : v.criteria[p.criterion]? = some c
  passed : ∃ k l, Passes (q.PastRow inner scope key) rows n p.row k ∧
    Passes (q.PastValue inner (scope.within row.2.properties) key) row.2.values k p.value l ∧
    Passes (q.PastCriterion inner (scope.within row.2.properties) key) v.criteria l p.criterion m

section Reaching

variable {rows : List (Nat × Row)} {n m k : Nat} {p : Place} {row : Nat × Row}
variable {v : ConditionalValue} {c : Criterion} {e : EvaluationError}

/-- A criterion that fails is the end of the search. -/
theorem Reaches.fails (reached : q.Reaches inner scope key rows n p row v c m)
    (failed : (q.judge inner (scope.within row.2.properties) key c).runFrom m = (.error e, k)) :
    (q.firstRow inner scope key rows).runFrom n = (.error e, k) := by
  obtain ⟨_, _, pastRows, pastValues, pastCriteria⟩ := reached.passed
  rw [runFrom_firstRow_of_passed pastRows, drop_of_getElem? reached.atRow, runFrom_firstRow_cons,
    runFrom_firstHolding_of_passed pastValues, drop_of_getElem? reached.atValue,
    runFrom_firstHolding_cons, runFrom_judgeAll_of_error pastCriteria reached.atCriterion failed]

/-- After a criterion that does not hold, the search goes on with the next conditional value. -/
theorem Reaches.goesOn {seen : Option ConfigValue}
    (reached : q.Reaches inner scope key rows n p row v c m)
    (failed : (q.judge inner (scope.within row.2.properties) key c).runFrom m =
      (.ok (seen, false), k)) :
    (q.firstRow inner scope key rows).runFrom n =
      (q.searchFrom inner scope key (p.value + 1) row (rows.drop (p.row + 1))).runFrom k := by
  obtain ⟨drawn, _, pastRows, pastValues, pastCriteria⟩ := reached.passed
  have inRow : (q.firstHolding inner (scope.within row.2.properties) key 0 row.2.values).runFrom
      drawn = (q.firstHolding inner (scope.within row.2.properties) key (p.value + 1)
        (row.2.values.drop (p.value + 1))).runFrom k := by
    rw [runFrom_firstHolding_of_passed pastValues, drop_of_getElem? reached.atValue,
      runFrom_firstHolding_cons, runFrom_judgeAll_of_not pastCriteria reached.atCriterion failed,
      Nat.zero_add]
  rw [runFrom_firstRow_of_passed pastRows, drop_of_getElem? reached.atRow, runFrom_firstRow_cons,
    inRow, searchFrom, runFrom_bind]
  rcases (q.firstHolding inner (scope.within row.2.properties) key (p.value + 1)
    (row.2.values.drop (p.value + 1))).runFrom k with ⟨_ | _ | _, _⟩ <;> rfl

/-- Nothing that stands after a criterion that fails is reached. -/
theorem Reaches.not_before (reached : q.Reaches inner scope key rows n p row v c m)
    (failed : (q.judge inner (scope.within row.2.properties) key c).runFrom m = (.error e, k))
    {p' : Place} {row' : Nat × Row} {v' : ConditionalValue} {c' : Criterion} {m' : Nat}
    (other : q.Reaches inner scope key rows n p' row' v' c' m') : ¬ p.Before p' := by
  obtain ⟨rowFound, valueFound, criterionFound, drawn, _, pastRows, pastValues, pastCriteria⟩ :=
    reached
  obtain ⟨rowFound', valueFound', _, _, _, pastRows', pastValues', pastCriteria'⟩ := other
  have allFail := runFrom_judgeAll_of_error pastCriteria criterionFound failed
  have rowFails : (q.firstHolding inner (scope.within row.2.properties) key 0
      row.2.values).runFrom drawn = (.error e, k) := by
    rw [runFrom_firstHolding_of_passed pastValues, drop_of_getElem? valueFound,
      runFrom_firstHolding_cons, allFail]
  have rowStuck : p'.row ≤ p.row := by
    refine pastRows.le_of_stuck PastRow.functional rowFound (fun l past => ?_) pastRows'
    cases rowFails.symm.trans past
  rintro (laterRow | ⟨sameRow, later⟩)
  · omega
  rw [← sameRow] at rowFound' pastRows'
  cases rowFound.symm.trans rowFound'
  cases pastRows.unique PastRow.functional pastRows'
  have valueStuck : p'.value ≤ p.value := by
    refine pastValues.le_of_stuck PastValue.functional valueFound (fun l past => ?_) pastValues'
    cases allFail.symm.trans past
  rcases later with laterValue | ⟨sameValue, later⟩
  · omega
  rw [← sameValue] at valueFound' pastValues'
  cases valueFound.symm.trans valueFound'
  cases pastValues.unique PastValue.functional pastValues'
  have criterionStuck : p'.criterion ≤ p.criterion := by
    refine pastCriteria.le_of_stuck PastCriterion.functional criterionFound (fun l past => ?_)
      pastCriteria'
    obtain ⟨seen, holds⟩ := past
    cases failed.symm.trans holds
  omega

/-- The failure of a search is that of a criterion that it reaches. -/
theorem exists_reaches_of_error
    (failed : (q.firstRow inner scope key rows).runFrom n = (.error e, k)) :
    ∃ p row v c m, q.Reaches inner scope key rows n p row v c m ∧
      (q.judge inner (scope.within row.2.properties) key c).runFrom m = (.error e, k) := by
  obtain ⟨i, atRow, row, pastRows, rowFound, inRow⟩ := exists_of_firstRow_error failed
  obtain ⟨j, atValue, v, pastValues, valueFound, inValue⟩ := exists_of_firstHolding_error inRow
  obtain ⟨l, m, c, pastCriteria, criterionFound, judged⟩ := exists_of_judgeAll_error inValue
  exact ⟨⟨i, j, l⟩, row, v, c, m, ⟨rowFound, valueFound, criterionFound,
    atRow, atValue, pastRows, pastValues, pastCriteria⟩, judged⟩

end Reaching
end Search
end Inquiry
end LiveConfig

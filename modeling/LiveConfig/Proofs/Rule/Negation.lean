import LiveConfig.Rule.Decision
import LiveConfig.Proofs.Table
import LiveConfig.Proofs.Binary64.Quotient

/-! Operators and their negations.

Most operators that ask something of a property have a negation, which asks for the contrary. Such
a pair is coherent: where the two sides fit the operator exactly one of the two holds, and elsewhere
both decline, so that a rule with a negated operator never holds by mistake. A list operator fits as
soon as there is a list to match; an absent property is then on the negated side. The operators that
compare points in time or versions have no negations, but no two of them hold together.

An element keeps the patterns that its criteria name, so that none of them is read twice. A pattern
that is kept is the one that its text would be read as now. -/
namespace LiveConfig

namespace Element

/-- The patterns that an element keeps, by their texts: those of its criteria that can be read. -/
def patterns (e : Element) : Table Pattern :=
  .ofList ((e.config.criteria.filterMap Criterion.pattern?).filterMap fun source =>
    (Pattern.read? source).map fun p => (source, p))

/-- The pattern of a text: the one that is kept, and where none is kept the one read now. -/
def pattern? (e : Element) (source : String) : Option Pattern :=
  match e.patterns.get? source with
  | some kept => some kept
  | none => Pattern.read? source

/-- Search for the pattern that is to match, which the element may keep. -/
def patternFound? (e : Element) : Option Value → Option Value → Option Bool
  | some (.string s), some (.string p) => (e.pattern? p).map fun p => p.occursIn s
  | _, _ => none

def decide? (e : Element) (o : Operator) (property toMatch : Option Value) : Option Bool :=
  match o with
  | .matchesPattern => e.patternFound? property toMatch
  | .doesNotMatchPattern => (e.patternFound? property toMatch).map (!·)
  | o => o.decide? property toMatch

/-- Whether a criterion of the element with this operator holds of a property. -/
def holds (e : Element) (o : Operator) (property toMatch : Option ConfigValue) : Bool :=
  (e.decide? o (property.map Labelled.value) (toMatch.map Labelled.value)).getD false

variable {e : Element} {source : String} {p : Pattern}

theorem read?_of_kept (kept : e.patterns.get? source = some p) : Pattern.read? source = some p := by
  unfold patterns Table.ofList at kept
  rw [Table.get?_insertAll, Table.get?_empty, Option.or_none] at kept
  have member := List.mem_reverse.mp (Table.mem_of_lookup kept)
  obtain ⟨text, _, entry⟩ := List.mem_filterMap.mp member
  obtain ⟨q, read, same⟩ := Option.map_eq_some_iff.mp entry
  cases same
  exact read

/-- Keeping patterns changes none. -/
theorem pattern?_eq (e : Element) (source : String) : e.pattern? source = Pattern.read? source := by
  simp only [pattern?]
  split
  · rename_i kept
    exact (read?_of_kept kept).symm
  · rfl

theorem patternFound?_eq (e : Element) (property toMatch : Option Value) :
    e.patternFound? property toMatch = LiveConfig.patternFound? property toMatch := by
  have same : e.pattern? = Pattern.read? := funext e.pattern?_eq
  unfold patternFound?
  rw [same]
  rfl

/-- The criteria of an element are decided as those of no element at all. -/
theorem holds_eq (e : Element) (o : Operator) (property toMatch : Option ConfigValue) :
    e.holds o property toMatch = o.holds property toMatch := by
  cases o with
  | matchesPattern | doesNotMatchPattern =>
    simp only [holds, decide?, patternFound?_eq, Operator.holds, Operator.decide?]
  | _ => rfl

end Element

/-- A number, and not NaN. -/
def Value.isNumber : Value → Bool
  | .int _ => true
  | .double x => !x.isNaN
  | _ => false

theorem Binary64.isNaN_ofInt (n : Int) : (Binary64.ofInt n).isNaN = false :=
  isNaN_ofFields (ratioFields_le_infinity n.natAbs 1)

/-- Two values are comparable as numbers exactly if both are numbers. -/
theorem isSome_compareNumbers? (v w : Value) :
    (compareNumbers? v w).isSome = (v.isNumber && w.isNumber) := by
  have ordered (x y : Binary64) : (x.compare? y).isSome = (!x.isNaN && !y.isNaN) := by
    simp only [Binary64.compare?]
    cases x.isNaN <;> cases y.isNaN <;> rfl
  cases v <;> cases w <;>
    simp [compareNumbers?, Value.isNumber, ordered, Binary64.isNaN_ofInt]

namespace Operator

section Order

variable (property toMatch : Option Value) (accept : Ordering → Bool)

def numberOrder? : Option Ordering := property.bind fun p => toMatch.bind (compareNumbers? p)

def versionOrder? : Option Ordering :=
  (property.bind Value.version?).bind fun p => (toMatch.bind Value.version?).map p.order

def timeOrder? : Option Ordering :=
  (property.bind Value.instant?).bind fun p => (toMatch.bind Value.instant?).map (compare p)

theorem compared?_eq : compared? property toMatch accept =
    (numberOrder? property toMatch).map accept := by
  rcases property with _ | p
  · rfl
  · rcases toMatch with _ | m
    · rfl
    · change (compareNumbers? p m).bind _ = (compareNumbers? p m).map accept
      cases compareNumbers? p m <;> rfl

theorem versionCompared?_eq : versionCompared? property toMatch accept =
    (versionOrder? property toMatch).map accept := by
  simp only [versionCompared?, versionOrder?]
  cases property.bind Value.version? <;> cases toMatch.bind Value.version? <;> rfl

theorem timeCompared?_eq : timeCompared? property toMatch accept =
    (timeOrder? property toMatch).map accept := by
  simp only [timeCompared?, timeOrder?]
  cases property.bind Value.instant? <;> cases toMatch.bind Value.instant? <;> rfl

end Order

def negation? : Operator → Option Operator
  | isOneOf => some isNotOneOf
  | endsWithOneOf => some doesNotEndWithOneOf
  | startsWithOneOf => some doesNotStartWithOneOf
  | containsOneOf => some doesNotContainOneOf
  | matchesPattern => some doesNotMatchPattern
  | greaterThan => some lessThanOrEqual
  | lessThan => some greaterThanOrEqual
  | _ => none

/-- What the two sides must be for an operator with a negation, and this negation, to be
decided. -/
def Fits (o : Operator) (property toMatch : Option Value) : Prop :=
  if o.expectsStringList then ∃ candidates, toMatch = some (.stringList candidates)
  else if o.isPattern then
    ∃ s p, property = some (.string s) ∧ toMatch = some (.string p) ∧ (Pattern.read? p).isSome
  else ∃ v w, property = some v ∧ toMatch = some w ∧ v.isNumber ∧ w.isNumber

variable {o o' : Operator} {property toMatch : Option Value}

theorem isSome_stringList? : (toMatch.bind Value.stringList?).isSome = true ↔
    ∃ candidates, toMatch = some (.stringList candidates) := by
  rcases toMatch with _ | v
  · simp
  · cases v <;> simp [Value.stringList?]

theorem isSome_patternFound? : (patternFound? property toMatch).isSome = true ↔
    ∃ s p, property = some (.string s) ∧ toMatch = some (.string p) ∧
      (Pattern.read? p).isSome = true := by
  simp only [patternFound?]
  split
  · rename_i s p
    simp [Option.isSome_map]
  · rename_i other
    simp only [Option.isSome_none, Bool.false_eq_true, false_iff]
    rintro ⟨s, p, rfl, rfl, _⟩
    exact other s p rfl rfl

theorem isSome_numberOrder? : (numberOrder? property toMatch).isSome = true ↔
    ∃ v w, property = some v ∧ toMatch = some w ∧ v.isNumber = true ∧
      w.isNumber = true := by
  rcases property with _ | v
  · simp [numberOrder?]
  · rcases toMatch with _ | w
    · simp [numberOrder?]
    · simp [numberOrder?, isSome_compareNumbers?]

/-- An operator with a negation is decided exactly where the two sides fit it. -/
theorem isSome_decide?_iff_fits (pair : o.negation? = some o') :
    (o.decide? property toMatch).isSome = true ↔ o.Fits property toMatch := by
  cases o with
  | isOneOf | endsWithOneOf | startsWithOneOf | containsOneOf =>
    change ((toMatch.bind Value.stringList?).map _).isSome = true ↔ _
    rw [Option.isSome_map]
    exact isSome_stringList?
  | matchesPattern => exact isSome_patternFound?
  | greaterThan | lessThan =>
    simp only [decide?, compared?_eq, Option.isSome_map]
    exact isSome_numberOrder?
  | _ => cases pair

/-- A negation is decided where its operator is, and to the contrary. -/
theorem decide?_negation (pair : o.negation? = some o') :
    o'.decide? property toMatch = (o.decide? property toMatch).map (!·) := by
  cases o with
  | isOneOf | endsWithOneOf | startsWithOneOf | containsOneOf =>
    cases pair
    exact (Option.map_map (!·) _ (toMatch.bind Value.stringList?)).symm
  | matchesPattern =>
    cases pair
    rfl
  | greaterThan | lessThan =>
    cases pair
    simp only [decide?, compared?_eq, Option.map_map]
    congr 1
  | _ => cases pair

/-- Nothing is decided about an absent property, unless there is a list to match. -/
theorem decide?_absent (reads : o.readsProperty = true) (other : o.expectsStringList = false) :
    o.decide? none toMatch = none := by
  cases o with
  | isOneOf | isNotOneOf | endsWithOneOf | doesNotEndWithOneOf | startsWithOneOf
  | doesNotStartWithOneOf | containsOneOf | doesNotContainOneOf => cases other
  | alwaysTrue | inSegment | notInSegment | unknown => cases reads
  | _ => rfl

/-- An absent property is in no relation to any text of a list. -/
theorem decide?_unlisted {candidates : List String} (pair : o.negation? = some o')
    (list : o.expectsStringList = true) :
    o.decide? none (some (.stringList candidates)) = some false := by
  cases o with
  | isOneOf | endsWithOneOf | startsWithOneOf | containsOneOf => rfl
  | isNotOneOf | doesNotEndWithOneOf | doesNotStartWithOneOf | doesNotContainOneOf => cases pair
  | _ => cases list

theorem isMember_of_empty {v : Value} (empty : v.isEmptyMember = true) (candidates : List String) :
    isMember (some v) candidates = false := by
  simp [isMember, empty]

def ofVersionOrder : Ordering → Operator
  | .lt => versionLessThan
  | .eq => versionEqual
  | .gt => versionGreaterThan

theorem decide?_ofVersionOrder (order : Ordering) :
    (ofVersionOrder order).decide? property toMatch =
      (versionOrder? property toMatch).map (· == order) := by
  cases order <;> simp only [ofVersionOrder, decide?, versionCompared?_eq]

theorem order_unique {order : Option Ordering} {a b : Ordering}
    (first : (order.map (· == a)).getD false = true)
    (second : (order.map (· == b)).getD false = true) : a = b := by
  rcases order with _ | order
  · cases first
  · exact (eq_of_beq first).symm.trans (eq_of_beq second)

end Operator

/-- What the operators answer together, of a property and a value to match. -/
structure Element.Coherent (e : Element) (property toMatch : Option ConfigValue) : Prop where
  /-- Of an operator and its negation exactly one holds where the two sides fit them. -/
  decided (o o' : Operator) : o.negation? = some o' →
    o.Fits (property.map Labelled.value) (toMatch.map Labelled.value) →
    e.holds o' property toMatch = !e.holds o property toMatch
  /-- Where the two sides do not fit neither of them holds. -/
  declined (o o' : Operator) : o.negation? = some o' →
    ¬ o.Fits (property.map Labelled.value) (toMatch.map Labelled.value) →
    e.holds o property toMatch = false ∧ e.holds o' property toMatch = false
  /-- No point in time is both before and after another. -/
  times : ¬ (e.holds .before property toMatch = true ∧ e.holds .after property toMatch = true)
  /-- Two versions stand in one order only. -/
  versions (order order' : Ordering) : e.holds (.ofVersionOrder order) property toMatch = true →
    e.holds (.ofVersionOrder order') property toMatch = true → order = order'
  /-- With a list to match, an absent property is on the negated side. -/
  unlisted (o o' : Operator) (candidates : List String) :
    toMatch.map Labelled.value = some (.stringList candidates) → property = none →
    o.negation? = some o' → o.expectsStringList = true →
    e.holds o property toMatch = false ∧ e.holds o' property toMatch = true
  /-- With a list to match, an empty text and an empty list are members of nothing. -/
  empty (v : ConfigValue) (candidates : List String) :
    toMatch.map Labelled.value = some (.stringList candidates) → property = some v →
    v.value = .string "" ∨ v.value = .stringList [] →
    e.holds .isOneOf property toMatch = false ∧ e.holds .isNotOneOf property toMatch = true
  /-- Of an absent property no operator holds that reads one and does not expect a list. -/
  absent (o : Operator) : property = none → o.readsProperty = true →
    o.expectsStringList = false → e.holds o property toMatch = false

section Coherent

variable {e : Element} {o o' : Operator} {property toMatch : Option ConfigValue}

theorem Element.holds_of_decide? {b : Bool}
    (decided : o.decide? (property.map Labelled.value) (toMatch.map Labelled.value) = some b) :
    e.holds o property toMatch = b := by
  rw [holds_eq, Operator.holds, decided]
  rfl

theorem Element.holds_of_undecided
    (undecided : o.decide? (property.map Labelled.value) (toMatch.map Labelled.value) = none) :
    e.holds o property toMatch = false := by
  rw [holds_eq, Operator.holds, undecided]
  rfl

/-- Where an operator is decided its negation holds exactly if it does not. -/
theorem Element.holds_negation {b : Bool} (pair : o.negation? = some o')
    (decided : o.decide? (property.map Labelled.value) (toMatch.map Labelled.value) = some b) :
    e.holds o property toMatch = b ∧ e.holds o' property toMatch = !b := by
  constructor
  · exact holds_of_decide? decided
  · apply holds_of_decide?
    rw [Operator.decide?_negation pair, decided]
    rfl

/-- The operators are coherent and decline what they cannot decide: for every element, every
property or none, and every value to match or none. -/
theorem Element.coherent (e : Element) (property toMatch : Option ConfigValue) :
    e.Coherent property toMatch where
  decided o o' pair fits := by
    obtain ⟨b, decided⟩ := Option.isSome_iff_exists.mp
      ((Operator.isSome_decide?_iff_fits pair).mpr fits)
    obtain ⟨asked, negated⟩ := holds_negation (e := e) pair decided
    rw [negated, asked]
  declined o o' pair unfit := by
    have undecided := Option.not_isSome_iff_eq_none.mp
      fun decided => unfit ((Operator.isSome_decide?_iff_fits pair).mp decided)
    refine ⟨holds_of_undecided undecided, holds_of_undecided ?_⟩
    rw [Operator.decide?_negation pair, undecided]
    rfl
  times := by
    rintro ⟨earlier, later⟩
    simp only [holds_eq, Operator.holds, Operator.decide?, Operator.timeCompared?_eq]
      at earlier later
    cases Operator.order_unique earlier later
  versions order order' holds holds' := by
    rw [holds_eq, Operator.holds, Operator.decide?_ofVersionOrder] at holds holds'
    exact Operator.order_unique holds holds'
  unlisted o o' candidates list none pair listed := by
    subst none
    apply holds_negation pair (b := false)
    rw [list]
    exact Operator.decide?_unlisted pair listed
  empty v candidates list present nothing := by
    subst present
    apply holds_negation (o := .isOneOf) rfl (b := false)
    rw [list]
    have empty : v.value.isEmptyMember = true := by
      rcases nothing with text | texts
      · rw [text]; rfl
      · rw [texts]; rfl
    exact congrArg some (Operator.isMember_of_empty empty candidates)
  absent o none reads other := by
    subst none
    exact holds_of_undecided (Operator.decide?_absent reads other)

end Coherent
end LiveConfig

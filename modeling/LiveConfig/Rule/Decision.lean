import LiveConfig.Rule.Basic
import LiveConfig.Value.Text
import LiveConfig.Binary64.Rounding
import LiveConfig.Pattern.Reader
import LiveConfig.Pattern.Automaton
import LiveConfig.Version
import LiveConfig.Instant

/-! Deciding criteria over a property.

An operator is decided from the property, which may be absent, and the value to match. Where the
kinds of the two do not fit the operator there is no decision, and the criterion does not hold. The
list operators are decided for every property once there is a list to match: an absent property is
in no list and begins, ends or contains nothing. Two integers are compared exactly, other numbers
as binary64. Segment operators need further configs and are decided elsewhere. -/
namespace LiveConfig

/-- Order of two numbers. -/
def compareNumbers? : Value → Value → Option Ordering
  | .int a, .int b => some (compare a b)
  | .int a, .double y => (Binary64.ofInt a.toInt).compare? y
  | .double x, .int b => x.compare? (.ofInt b.toInt)
  | .double x, .double y => x.compare? y
  | _, _ => none

/-- A point in time, in milliseconds: an integer, or a timestamp. -/
def Value.instant? : Value → Option Int
  | .int n => some n.toInt
  | .string s => Instant.read? s.toList
  | _ => none

def Value.version? : Value → Option Version
  | .string s => Version.read? (Text.trim s.toList)
  | _ => none

/-- Whether a property belongs to a list. An empty text and an empty list belong to none. -/
def isMember (property : Option Value) (candidates : List String) : Bool :=
  match property with
  | some v => !v.isEmptyMember && v.memberTexts.any candidates.contains
  | none => false

/-- Whether a text property stands in a relation to some candidate. -/
def anyCandidate (relation : List Char → List Char → Bool) (property : Option Value)
    (candidates : List String) : Bool :=
  match property with
  | some (.string s) => candidates.any fun c => relation c.toList s.toList
  | _ => false

/-- Search for the pattern that is to match in the property. -/
def patternFound? : Option Value → Option Value → Option Bool
  | some (.string s), some (.string p) => (Pattern.read? p).map fun p => p.occursIn s
  | _, _ => none

def compared? (property toMatch : Option Value) (accept : Ordering → Bool) : Option Bool := do
  let p ← property
  let m ← toMatch
  let o ← compareNumbers? p m
  some (accept o)

def versionCompared? (property toMatch : Option Value) (accept : Ordering → Bool) :
    Option Bool := do
  let p ← property.bind Value.version?
  let m ← toMatch.bind Value.version?
  some (accept (p.order m))

def timeCompared? (property toMatch : Option Value) (accept : Ordering → Bool) : Option Bool := do
  let p ← property.bind Value.instant?
  let m ← toMatch.bind Value.instant?
  some (accept (compare p m))

namespace Operator

def decide? (o : Operator) (property toMatch : Option Value) : Option Bool :=
  let listed (f : List String → Bool) : Option Bool :=
    (toMatch.bind Value.stringList?).map f
  match o with
  | alwaysTrue => some true
  | isOneOf => listed (isMember property)
  | isNotOneOf => listed fun cs => !isMember property cs
  | endsWithOneOf => listed (anyCandidate List.isSuffixOf property)
  | doesNotEndWithOneOf => listed fun cs => !anyCandidate List.isSuffixOf property cs
  | startsWithOneOf => listed (anyCandidate List.isPrefixOf property)
  | doesNotStartWithOneOf => listed fun cs => !anyCandidate List.isPrefixOf property cs
  | containsOneOf => listed (anyCandidate Text.hasInfix property)
  | doesNotContainOneOf => listed fun cs => !anyCandidate Text.hasInfix property cs
  | hierarchicalMatch =>
    match property, toMatch with
    | some (.string s), some (.string p) => some (p.toList.isPrefixOf s.toList)
    | _, _ => none
  | inIntRange =>
    match property, toMatch with
    | some (.int n), some (.range r) => some (r.contains n)
    | _, _ => none
  | greaterThan => compared? property toMatch (· == .gt)
  | greaterThanOrEqual => compared? property toMatch (· != .lt)
  | lessThan => compared? property toMatch (· == .lt)
  | lessThanOrEqual => compared? property toMatch (· != .gt)
  | matchesPattern => patternFound? property toMatch
  | doesNotMatchPattern => (patternFound? property toMatch).map (!·)
  | versionLessThan => versionCompared? property toMatch (· == .lt)
  | versionEqual => versionCompared? property toMatch (· == .eq)
  | versionGreaterThan => versionCompared? property toMatch (· == .gt)
  | before => timeCompared? property toMatch (· == .lt)
  | after => timeCompared? property toMatch (· == .gt)
  | inSegment | notInSegment | unknown => none

/-- Whether a criterion with this operator holds of a property. -/
def holds (o : Operator) (property toMatch : Option ConfigValue) : Bool :=
  (o.decide? (property.map Labelled.value) (toMatch.map Labelled.value)).getD false

end Operator
end LiveConfig

/-! Criterion operators, and what each of them asks of a criterion.

The set is closed: a name that is none of these is the unknown operator, which never holds. An
operator reads a property of the caller unless it always holds, asks about a segment, or is
unknown. -/
namespace LiveConfig

inductive Operator
  | alwaysTrue
  | isOneOf | isNotOneOf
  | endsWithOneOf | doesNotEndWithOneOf
  | startsWithOneOf | doesNotStartWithOneOf
  | containsOneOf | doesNotContainOneOf
  | hierarchicalMatch
  | inSegment | notInSegment
  | inIntRange
  | greaterThan | greaterThanOrEqual | lessThan | lessThanOrEqual
  | matchesPattern | doesNotMatchPattern
  | versionLessThan | versionEqual | versionGreaterThan
  | before | after
  | unknown
deriving DecidableEq, Inhabited

namespace Operator

def all : List Operator := [
  alwaysTrue, isOneOf, isNotOneOf, endsWithOneOf, doesNotEndWithOneOf, startsWithOneOf,
  doesNotStartWithOneOf, containsOneOf, doesNotContainOneOf, hierarchicalMatch, inSegment,
  notInSegment, inIntRange, greaterThan, greaterThanOrEqual, lessThan, lessThanOrEqual,
  matchesPattern, doesNotMatchPattern, versionLessThan, versionEqual, versionGreaterThan, before,
  after, unknown]

/-- Name in the data format. -/
def name : Operator → String
  | alwaysTrue => "ALWAYS_TRUE"
  | isOneOf => "PROP_IS_ONE_OF"
  | isNotOneOf => "PROP_IS_NOT_ONE_OF"
  | endsWithOneOf => "PROP_ENDS_WITH_ONE_OF"
  | doesNotEndWithOneOf => "PROP_DOES_NOT_END_WITH_ONE_OF"
  | startsWithOneOf => "PROP_STARTS_WITH_ONE_OF"
  | doesNotStartWithOneOf => "PROP_DOES_NOT_START_WITH_ONE_OF"
  | containsOneOf => "PROP_CONTAINS_ONE_OF"
  | doesNotContainOneOf => "PROP_DOES_NOT_CONTAIN_ONE_OF"
  | hierarchicalMatch => "HIERARCHICAL_MATCH"
  | inSegment => "IN_SEG"
  | notInSegment => "NOT_IN_SEG"
  | inIntRange => "IN_INT_RANGE"
  | greaterThan => "PROP_GREATER_THAN"
  | greaterThanOrEqual => "PROP_GREATER_THAN_OR_EQUAL"
  | lessThan => "PROP_LESS_THAN"
  | lessThanOrEqual => "PROP_LESS_THAN_OR_EQUAL"
  | matchesPattern => "PROP_MATCHES"
  | doesNotMatchPattern => "PROP_DOES_NOT_MATCH"
  | versionLessThan => "PROP_SEMVER_LESS_THAN"
  | versionEqual => "PROP_SEMVER_EQUAL"
  | versionGreaterThan => "PROP_SEMVER_GREATER_THAN"
  | before => "PROP_BEFORE"
  | after => "PROP_AFTER"
  | unknown => "UNKNOWN"

/-- Name in messages. -/
def label : Operator → String
  | alwaysTrue => "AlwaysTrue"
  | isOneOf => "PropIsOneOf"
  | isNotOneOf => "PropIsNotOneOf"
  | endsWithOneOf => "PropEndsWithOneOf"
  | doesNotEndWithOneOf => "PropDoesNotEndWithOneOf"
  | startsWithOneOf => "PropStartsWithOneOf"
  | doesNotStartWithOneOf => "PropDoesNotStartWithOneOf"
  | containsOneOf => "PropContainsOneOf"
  | doesNotContainOneOf => "PropDoesNotContainOneOf"
  | hierarchicalMatch => "HierarchicalMatch"
  | inSegment => "InSeg"
  | notInSegment => "NotInSeg"
  | inIntRange => "InIntRange"
  | greaterThan => "PropGreaterThan"
  | greaterThanOrEqual => "PropGreaterThanOrEqual"
  | lessThan => "PropLessThan"
  | lessThanOrEqual => "PropLessThanOrEqual"
  | matchesPattern => "PropMatches"
  | doesNotMatchPattern => "PropDoesNotMatch"
  | versionLessThan => "PropSemverLessThan"
  | versionEqual => "PropSemverEqual"
  | versionGreaterThan => "PropSemverGreaterThan"
  | before => "PropBefore"
  | after => "PropAfter"
  | unknown => "Unknown"

def ofName (s : String) : Operator := (all.find? fun o => o.name = s).getD unknown

theorem ofName_name (o : Operator) : ofName o.name = o := by cases o <;> decide

def readsProperty : Operator → Bool
  | alwaysTrue | inSegment | notInSegment | unknown => false
  | _ => true

def expectsStringList : Operator → Bool
  | isOneOf | isNotOneOf | endsWithOneOf | doesNotEndWithOneOf | startsWithOneOf
  | doesNotStartWithOneOf | containsOneOf | doesNotContainOneOf => true
  | _ => false

def isSegment : Operator → Bool
  | inSegment | notInSegment => true
  | _ => false

def isPattern : Operator → Bool
  | matchesPattern | doesNotMatchPattern => true
  | _ => false

end Operator
end LiveConfig

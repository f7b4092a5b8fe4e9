import LiveConfig.Rule.Basic
import LiveConfig.Error

/-! Structural validation of a config.

Rows are checked in order: a row for an environment that an earlier row already has is a fault, and
then each of its criteria in turn. A criterion has to name a property if its operator reads one, and
has to carry a value to match of the kind that its operator needs. The first fault is reported. A
faulty config is still usable: what is checked here only keeps a criterion from never holding. -/
namespace LiveConfig

inductive RuleFault
  | duplicateRow (environment : Option Int64)
  | noProperty (operator : Operator)
  | noStringList (operator : Operator)
  | noIntRange
  | noSegmentKey (operator : Operator)
deriving DecidableEq, Inhabited

/-- An environment as it is shown in messages. -/
def environmentLabel : Option Int64 → String
  | some e => "Some(" ++ Decimal.text e.toInt ++ ")"
  | none => "None"

def RuleFault.message : RuleFault → String
  | duplicateRow e => "duplicate row for environment " ++ environmentLabel e
  | noProperty o => o.label ++ " requires a property name"
  | noStringList o => o.label ++ " requires a string list to match"
  | noIntRange => "IN_INT_RANGE requires an int range to match"
  | noSegmentKey o => o.label ++ " requires a segment key"

def Value.isString : Value → Bool
  | .string _ => true
  | _ => false

def Value.isStringList : Value → Bool
  | .stringList _ => true
  | _ => false

def Value.isRange : Value → Bool
  | .range _ => true
  | _ => false

/-- Whether the value to match is there and of the given kind. -/
def Criterion.toMatchIs (c : Criterion) (kind : Value → Bool) : Bool :=
  match c.toMatch with
  | some v => kind v.value
  | none => false

def Criterion.fault? (c : Criterion) : Option RuleFault :=
  if c.operator.readsProperty && c.property.isEmpty then some (.noProperty c.operator)
  else if c.operator.expectsStringList && !c.toMatchIs Value.isStringList then
    some (.noStringList c.operator)
  else if c.operator = .inIntRange && !c.toMatchIs Value.isRange then some .noIntRange
  else if c.operator.isSegment && !c.toMatchIs Value.isString then some (.noSegmentKey c.operator)
  else none

def Row.criteria (row : Row) : List Criterion := row.values.flatMap fun v => v.criteria

/-- The first fault of rows, given the environments of the rows before them. -/
def firstFault? (seen : List (Option Int64)) : List Row → Option RuleFault
  | [] => none
  | row :: rows =>
    if seen.contains row.environment then some (.duplicateRow row.environment)
    else
      match row.criteria.findSome? Criterion.fault? with
      | some fault => some fault
      | none => firstFault? (row.environment :: seen) rows

namespace Config

def fault? (c : Config) : Option RuleFault := firstFault? [] c.rows

def validate (c : Config) : Except ConfigError Unit :=
  match c.fault? with
  | some fault => .error (.invalidConfig c.key fault.message)
  | none => .ok ()

end Config
end LiveConfig

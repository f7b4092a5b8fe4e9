/-! Why an evaluation produces no value. A missing key and a key without a matching rule are part of
normal operation; the other two say that a segment cannot be decided. -/
namespace LiveConfig

inductive EvaluationError
  | keyNotFound
  | noMatch
  | segmentTooDeep
  | segmentCycle
deriving DecidableEq, Inhabited

namespace EvaluationError

def isNormal : EvaluationError → Bool
  | keyNotFound | noMatch => true
  | segmentTooDeep | segmentCycle => false

def message : EvaluationError → String
  | keyNotFound => "config not found"
  | noMatch => "no matching conditional value"
  | segmentTooDeep => "segment nesting too deep"
  | segmentCycle => "segment references itself"

end EvaluationError
end LiveConfig

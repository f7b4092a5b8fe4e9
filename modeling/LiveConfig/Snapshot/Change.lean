import LiveConfig.Evaluation.Evaluator
import LiveConfig.World

/-! What changes from one snapshot to another.

Every key of either snapshot is evaluated in both, for the default contexts of each under one
namespace; a key whose values differ gives an event. Distributions are compared whole and references
unread, so no draw and no environment takes part. Each evaluation may see its own reading of the
clock, the evaluations being numbered in order: for each key first the old snapshot, then the
new. -/
namespace LiveConfig

structure ChangeEvent where
  key : String
  old : Option ConfigValue
  new : Option ConfigValue
deriving BEq

namespace Snapshot

/-- What a key evaluates to for the snapshot's own default contexts. -/
def configuredValue (s : Snapshot) (scope : Option String) (now : Int64) (key : String) :
    Logged (Option ConfigValue) := do
  match ← (s.evaluateUnselected now ⟨scope, s.defaultContext⟩ key).run with
  | .ok m => return some m.value
  | .error _ => return none

/-- Keys of either snapshot in increasing order. -/
def unionKeys (old new : Snapshot) : List String :=
  (old.elements.keys ++ new.elements.keys.filter fun k => !old.contains k).mergeSort
    fun a b => a ≤ b

/-- Events for the given keys, the first of which is evaluated as number `turn`. -/
def changes (scope : Option String) (clock : Clock) (old new : Snapshot) (turn : Nat) :
    List String → Logged (List ChangeEvent)
  | [] => return []
  | key :: keys => do
    let before ← old.configuredValue scope (clock turn) key
    let after ← new.configuredValue scope (clock (turn + 1)) key
    let rest ← changes scope clock old new (turn + 2) keys
    return if before == after then rest else ⟨key, before, after⟩ :: rest

/-- Events from one snapshot to another, in the order of their keys. -/
def diff (scope : Option String) (clock : Clock) (old new : Snapshot) : Logged (List ChangeEvent) :=
  changes scope clock old new 0 (unionKeys old new)

end Snapshot
end LiveConfig

import LiveConfig.Evaluation.Evaluator
import LiveConfig.Snapshot.Cell
import LiveConfig.Snapshot.Change

/-! Evaluating against elements in memory.

A generation is a snapshot whose elements are held by reference. Evaluating a key asks every element
that is entered for the order of its rows, which it may remember from an earlier evaluation against
this generation or another one. -/
namespace LiveConfig

structure Generation where
  cells : Table Cell
  environment : Option Int64
  defaultContext : ContextSet

namespace Generation

/-- The snapshot that readers see. -/
def snapshot (g : Generation) : Snapshot :=
  ⟨g.cells.map Cell.element, g.environment, g.defaultContext⟩

/-- Evaluates a key in a scope; `budget` configs may still be entered. -/
def resolve (g : Generation) (q : Inquiry) : Nat → Scope → String → DrawingT Recalling Match
  | 0, _, _ => throw .segmentTooDeep
  | budget + 1, scope, key =>
    match g.cells.get? key with
    | none => throw .keyNotFound
    | some cell => do
      let order ← cell.rowOrder g.environment
      q.tryRows (resolve g q budget) (scope.enter cell.element.key) cell.element
        (cell.element.config.rowsAt order)

def evaluate (g : Generation) (selection : Selection) (now : Int64) (context : LookupContext)
    (key : String) : Recalling (Except EvaluationError Match) := do
  let q := g.snapshot.inquiry selection now context
  let (outcome, _) ← (g.resolve q (maxSegmentDepth + 1) .outermost key).run.run 0
  return outcome

/-- What a key evaluates to for the generation's own default contexts. -/
def configuredValue (g : Generation) (scope : Option String) (now : Int64) (key : String) :
    Recalling (Option ConfigValue) := do
  match ← g.evaluate .keep now ⟨scope, g.defaultContext⟩ key with
  | .ok m => return some m.value
  | .error _ => return none

/-- Events for the given keys, the first of which is evaluated as number `turn`. -/
def changes (scope : Option String) (clock : Clock) (old new : Generation) (turn : Nat) :
    List String → Recalling (List ChangeEvent)
  | [] => return []
  | key :: keys => do
    let before ← old.configuredValue scope (clock turn) key
    let after ← new.configuredValue scope (clock (turn + 1)) key
    let rest ← changes scope clock old new (turn + 2) keys
    return if before == after then rest else ⟨key, before, after⟩ :: rest

/-- Events from one generation to another, in the order of their keys. -/
def diff (scope : Option String) (clock : Clock) (old new : Generation) :
    Recalling (List ChangeEvent) :=
  changes scope clock old new 0 (old.snapshot.unionKeys new.snapshot)

end Generation
end LiveConfig

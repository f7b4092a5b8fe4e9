import LiveConfig.Snapshot.Basic
import LiveConfig.Distribution
import LiveConfig.Rule.Decision

/-! Evaluating a key.

The rows that apply under the snapshot's environment are tried in order, and in a row the
conditional values; the first whose criteria all hold is selected. While a row is tried, its
properties are visible in front of those of the rows around it, of the caller's contexts and of the
current time, also in the segments that its criteria ask about. A segment is another config of the
snapshot, evaluated in the same scope: it has the caller as a member when it gives `true`.

A segment that asks about itself, directly or through others, or that lies deeper than
`maxSegmentDepth`, cannot be decided. Then no segment on the way gives a value and the criterion of
the outermost config does not hold, whether it asks for membership or for its absence. The budget of
`Inquiry.resolve` counts the configs that may still be entered; it is also what makes the recursion
end.

A selection without an identity takes the next position of a source; the number of positions drawn
so far is the only state of an evaluation. -/
namespace LiveConfig

structure EvaluatedCriterion where
  index : Nat
  property : Option ConfigValue
  matched : Bool

/-- What was selected, and where in the config. The indexes are those of the document. -/
structure Match where
  value : ConfigValue
  element : Element
  criteria : List EvaluatedCriterion
  rowIndex : Nat
  valueIndex : Nat
  variantIndex : Option Nat

namespace Match

def key (m : Match) : String := m.element.key

/-- The criterion that an entry of the record refers to. -/
def criterion? (m : Match) (c : EvaluatedCriterion) : Option Criterion := do
  let row ← m.element.config.rows[m.rowIndex]?
  let value ← row.values[m.valueIndex]?
  value.criteria[c.index]?

end Match

def maxSegmentDepth : Nat := 16

/-- Properties of the rows being tried and keys of the configs being evaluated, innermost first. -/
structure Scope where
  frames : List Properties
  keys : List String

namespace Scope

def outermost : Scope := ⟨[], []⟩

def property? (s : Scope) (name : String) : Option ConfigValue :=
  s.frames.findSome? fun f => f.get? name

def enter (s : Scope) (key : String) : Scope := { s with keys := key :: s.keys }

/-- The scope of a row; one without properties adds nothing. -/
def within (s : Scope) (properties : Properties) : Scope :=
  if properties.isEmpty then s else { s with frames := properties :: s.frames }

end Scope

/-- Whether a selected distribution is resolved to a variant or kept as the value. -/
inductive Selection
  | resolve (sharder : Sharder) (draws : Draws)
  | keep

/-- Resolving with the same position at every draw. -/
def Chance.selection (chance : Chance) : Selection := .resolve chance.sharder fun _ => chance.draw

/-- What stays fixed throughout one evaluation. -/
structure Inquiry where
  snapshot : Snapshot
  properties : Properties
  selection : Selection
  now : Int64

abbrev Evaluation := ExceptT EvaluationError Logged

def Evaluation.outcome {α : Type} (x : Evaluation α) : Except EvaluationError α := x.run.result

/-- An evaluation on its way, with the number of positions that it has drawn so far. What else it
may do is left open: where it asks for nothing but the log, it runs over `Logged`. -/
abbrev DrawingT (m : Type → Type) := ExceptT EvaluationError (StateT Nat m)

abbrev Drawing := DrawingT Logged

namespace DrawingT

variable {m : Type → Type} [Monad m]

def log [MonadLiftT Logged m] (e : LogEvent) : DrawingT m Unit := liftM (Logged.log e)

def draw (draws : Draws) : DrawingT m Binary64 :=
  ExceptT.lift fun n => pure (draws n, n + 1)

/-- Runs to the end and gives the outcome, errors included. -/
def attempt {α : Type} (x : DrawingT m α) : DrawingT m (Except EvaluationError α) :=
  ExceptT.lift x.run

end DrawingT

namespace Drawing

export DrawingT (log draw)

/-- The whole evaluation: nothing has been drawn before. -/
def evaluation {α : Type} (x : Drawing α) : Evaluation α := ExceptT.mk do
  let (outcome, _) ← x.run.run 0
  return outcome

end Drawing

namespace Inquiry

/-- Row properties innermost first, then the caller's, then the current time. -/
def lookup? (q : Inquiry) (scope : Scope) (name : String) : Option ConfigValue :=
  (scope.property? name).or <| (q.properties.get? name).or <|
    if name = currentTimeName then some (Value.int q.now).plain else none

section Steps

variable {m : Type → Type} [Monad m] [MonadLiftT Logged m]

/-- Whether the caller is in the segment that a criterion names; nothing if it names none. -/
def membership (inner : Scope → String → DrawingT m Match) (scope : Scope) (key : String)
    (c : Criterion) : DrawingT m (Option Bool) := do
  match c.segment? with
  | none => do
    Drawing.log (.noSegmentKey key)
    return none
  | some segment =>
    if scope.keys.contains segment then throw .segmentCycle
    match ← (inner scope segment).attempt with
    | .ok m => return some (m.value.value == .bool true)
    | .error e => if e.isNormal then return some false else throw e

/-- The property that a criterion saw, and whether it holds. Only within a segment does an
undecided segment end the evaluation. -/
def judge (q : Inquiry) (inner : Scope → String → DrawingT m Match) (scope : Scope) (key : String)
    (c : Criterion) : DrawingT m (Option ConfigValue × Bool) := do
  match c.operator with
  | .inSegment | .notInSegment =>
    match ← (membership inner scope key c).attempt with
    | .ok (some member) => return (none, member == (c.operator == .inSegment))
    | .ok none => return (none, false)
    | .error e =>
      if 1 < scope.keys.length then throw e
      Drawing.log (.undecidedSegment key c.toMatch e)
      return (none, false)
  | .unknown => do
    Drawing.log (.unknownOperator key c)
    return (none, false)
  | o =>
    let property := q.lookup? scope c.property
    return (property, o.holds property c.toMatch)

/-- The record of criteria that all hold, or nothing from the first that does not. -/
def judgeAll (q : Inquiry) (inner : Scope → String → DrawingT m Match) (scope : Scope)
    (key : String) : Nat → List Criterion → DrawingT m (Option (List EvaluatedCriterion))
  | _, [] => return some []
  | i, c :: cs => do
    let (property, matched) ← q.judge inner scope key c
    if !matched then return none
    match ← judgeAll q inner scope key (i + 1) cs with
    | some rest => return some (⟨i, property, matched⟩ :: rest)
    | none => return none

/-- Index, value and record of the first conditional value whose criteria all hold. -/
def firstHolding (q : Inquiry) (inner : Scope → String → DrawingT m Match) (scope : Scope)
    (key : String) : Nat → List ConditionalValue →
    DrawingT m (Option (Nat × ConfigValue × List EvaluatedCriterion))
  | _, [] => return none
  | i, v :: vs => do
    match ← q.judgeAll inner scope key 0 v.criteria with
    | some criteria => return some (i, v.value, criteria)
    | none => firstHolding q inner scope key (i + 1) vs

/-- Index of the row, and index, value and record of the conditional value in it, of the first
conditional value of some rows whose criteria all hold. -/
def firstRow (q : Inquiry) (inner : Scope → String → DrawingT m Match) (scope : Scope)
    (key : String) : List (Nat × Row) →
    DrawingT m (Option (Nat × Nat × ConfigValue × List EvaluatedCriterion))
  | [] => return none
  | (rowIndex, row) :: rows => do
    match ← q.firstHolding inner (scope.within row.properties) key 0 row.values with
    | some found => return some (rowIndex, found)
    | none => firstRow q inner scope key rows

/-- The position at which a variant is selected: that of the caller's identity, or else the next one
drawn. -/
def locate (q : Inquiry) (sharder : Sharder) (draws : Draws) (key : String) (d : WeightedValues) :
    DrawingT m Binary64 :=
  match d.identity? q.properties with
  | some identity => pure (sharder.place key identity)
  | none => Drawing.draw draws

/-- The value of a selected conditional value, with the index of the variant it was resolved to. -/
def conclude (q : Inquiry) (key : String) (v : ConfigValue) :
    DrawingT m (ConfigValue × Option Nat) := do
  match v.value, q.selection with
  | .weighted d, .resolve sharder draws =>
    match d.at? (← q.locate sharder draws key d) with
    | some (variant, i) => return (variant, some i)
    | none => do
      Drawing.log (.emptyDistribution key)
      throw .noMatch
  | _, _ => return (v, none)

/-- The match of the first row that has a conditional value whose criteria all hold. -/
def tryRows (q : Inquiry) (inner : Scope → String → DrawingT m Match) (scope : Scope)
    (element : Element) (rows : List (Nat × Row)) : DrawingT m Match := do
  match ← q.firstRow inner scope element.key rows with
  | some (rowIndex, valueIndex, v, criteria) => do
    let (value, variantIndex) ← q.conclude element.key v
    return ⟨value, element, criteria, rowIndex, valueIndex, variantIndex⟩
  | none => throw .noMatch

end Steps

/-- Evaluates a key in a scope; `budget` configs may still be entered. -/
def resolve (q : Inquiry) : Nat → Scope → String → Drawing Match
  | 0, _, _ => throw .segmentTooDeep
  | budget + 1, scope, key =>
    match q.snapshot.get? key with
    | none => throw .keyNotFound
    | some element =>
      q.tryRows (resolve q budget) (scope.enter element.key) element
        (element.config.applicableRows q.snapshot.environment)

def answer (q : Inquiry) (key : String) : Evaluation Match :=
  (q.resolve (maxSegmentDepth + 1) .outermost key).evaluation

end Inquiry

namespace Snapshot

/-- What is asked about a snapshot for a caller. -/
def inquiry (s : Snapshot) (selection : Selection) (now : Int64) (context : LookupContext) :
    Inquiry :=
  ⟨s, context.flattened, selection, now⟩

/-- Evaluates a key with any source of positions, or says why there is no match. -/
def tryEvaluateDrawing (s : Snapshot) (sharder : Sharder) (draws : Draws) (now : Int64)
    (context : LookupContext) (key : String) : Evaluation Match :=
  (s.inquiry (.resolve sharder draws) now context).answer key

/-- Evaluates a key with the same position at every draw. -/
def tryEvaluate (s : Snapshot) (chance : Chance) (now : Int64) (context : LookupContext)
    (key : String) : Evaluation Match :=
  (s.inquiry chance.selection now context).answer key

/-- Evaluates a key and leaves distributions as they are. -/
def evaluateUnselected (s : Snapshot) (now : Int64) (context : LookupContext) (key : String) :
    Evaluation Match :=
  (s.inquiry .keep now context).answer key

def evaluate (s : Snapshot) (sharder : Sharder) (draws : Draws) (now : Int64)
    (context : LookupContext) (key : String) : Logged (Option Match) := do
  match ← (s.tryEvaluateDrawing sharder draws now context key).run with
  | .ok m => do
    Logged.log (.evaluated key m.value m.rowIndex m.valueIndex)
    return some m
  | .error e => do
    Logged.log (if e.isNormal then .noValue key e else .failed key e)
    return none

end Snapshot
end LiveConfig

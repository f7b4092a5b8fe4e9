import LiveConfig.Evaluation.Evaluator

/-! Evaluating with stacks that all calls share.

`Inquiry.resolve` hands a scope to every call that it makes. Here an evaluation has one scope, whose
stacks change as it goes: the key of a config is put on while its rows are tried, and the properties
of a row while its conditional values are. What was put on is taken off when the call in between has
returned, by an error as by a result, and a criterion reads the stacks as they are by then.

What happens to the stacks is kept as a record. Calls lie within each other, and those under way are
known throughout. The record has an entry and an exit for every call, and a reading wherever the
stacks are looked at. They change nowhere but right before an entry and right after an exit, so the
record shows everything that ever lies on them. -/
namespace LiveConfig

namespace Scope

def leave (s : Scope) : Scope := { s with keys := s.keys.tail }

/-- Takes off what `within` has put on. -/
def without (s : Scope) (properties : Properties) : Scope :=
  if properties.isEmpty then s else { s with frames := s.frames.tail }

end Scope

inductive Activity
  | key (key : String)
  | rows (element : Element)
  | row (element : Element) (row : Row)
  | criterion (element : Element) (c : Criterion)
  | membership (element : Element) (c : Criterion)

/-- The stacks at one time, with the calls that are under way, innermost first. -/
inductive Moment
  | entry (underWay : List Activity) (scope : Scope)
  | reading (underWay : List Activity) (scope : Scope)
  | exit (underWay : List Activity) (scope : Scope)

namespace Moment

def underWay : Moment → List Activity
  | entry u _ | reading u _ | exit u _ => u

def scope : Moment → Scope
  | entry _ s | reading _ s | exit _ s => s

end Moment

structure Watch where
  scope : Scope
  moments : List Moment

/-- Computations that use the stacks and know which calls are under way. -/
abbrev Watching := ReaderT (List Activity) (StateT Watch Logged)

namespace Watching

variable {α : Type}

def note (moment : List Activity → Scope → Moment) : Watching Unit := do
  let underWay ← read
  modify fun w => { w with moments := w.moments ++ [moment underWay w.scope] }

/-- A call. It exits whichever way it ends. -/
def during (a : Activity) (x : DrawingT Watching α) : DrawingT Watching α :=
  ExceptT.mk fun n => withReader (a :: ·) do
    note .entry
    let ended ← x.run.run n
    note .exit
    return ended

def look : DrawingT Watching Scope := do
  liftM (note .reading)
  return (← getThe Watch).scope

def change (f : Scope → Scope) : DrawingT Watching Unit :=
  modifyThe Watch fun w => { w with scope := f w.scope }

/-- Puts something on a stack and takes it off again after a call, whichever way this returns. -/
def holding (put take : Scope → Scope) (call : DrawingT Watching α) : DrawingT Watching α := do
  change put
  let outcome ← call.attempt
  change take
  liftExcept outcome

open Drawing (log)

section Steps

variable (q : Inquiry) (inner : String → DrawingT Watching Match) (e : Element)

/-- Whether the caller is in the segment that a criterion names; nothing if it names none. -/
def membership (c : Criterion) : DrawingT Watching (Option Bool) :=
  during (.membership e c) do
    match c.segment? with
    | none => do
      log (.noSegmentKey e.key)
      return none
    | some segment =>
      if (← look).keys.contains segment then throw .segmentCycle
      match ← (inner segment).attempt with
      | .ok m => return some (m.value.value == .bool true)
      | .error failure => if failure.isNormal then return some false else throw failure

/-- The property that a criterion saw, and whether it holds. -/
def judge (c : Criterion) : DrawingT Watching (Option ConfigValue × Bool) :=
  during (.criterion e c) do
    match c.operator with
    | .inSegment | .notInSegment =>
      match ← (membership inner e c).attempt with
      | .ok (some member) => return (none, member == (c.operator == .inSegment))
      | .ok none => return (none, false)
      | .error failure =>
        if 1 < (← look).keys.length then throw failure
        log (.undecidedSegment e.key c.toMatch failure)
        return (none, false)
    | .unknown => do
      log (.unknownOperator e.key c)
      return (none, false)
    | o => do
      let property := q.lookup? (← look) c.property
      return (property, o.holds property c.toMatch)

def judgeAll : Nat → List Criterion → DrawingT Watching (Option (List EvaluatedCriterion))
  | _, [] => return some []
  | i, c :: cs => do
    let (property, matched) ← judge q inner e c
    if !matched then return none
    match ← judgeAll (i + 1) cs with
    | some rest => return some (⟨i, property, matched⟩ :: rest)
    | none => return none

def firstHolding : Nat → List ConditionalValue →
    DrawingT Watching (Option (Nat × ConfigValue × List EvaluatedCriterion))
  | _, [] => return none
  | i, v :: vs => do
    match ← judgeAll q inner e 0 v.criteria with
    | some criteria => return some (i, v.value, criteria)
    | none => firstHolding (i + 1) vs

def tryRow (row : Row) :
    DrawingT Watching (Option (Nat × ConfigValue × List EvaluatedCriterion)) :=
  during (.row e row) (firstHolding q inner e 0 row.values)

/-- The first conditional value of some rows whose criteria all hold, with where it is. -/
def firstRow : List (Nat × Row) →
    DrawingT Watching (Option (Nat × Nat × ConfigValue × List EvaluatedCriterion))
  | [] => return none
  | (rowIndex, row) :: rows => do
    match ← holding (·.within row.properties) (·.without row.properties) (tryRow q inner e row) with
    | some found => return some (rowIndex, found)
    | none => firstRow rows

def tryRows : DrawingT Watching Match :=
  during (.rows e) do
    match ← firstRow q inner e (e.config.applicableRows q.snapshot.environment) with
    | some (rowIndex, valueIndex, v, criteria) => do
      let (value, variantIndex) ← q.conclude e.key v
      return ⟨value, e, criteria, rowIndex, valueIndex, variantIndex⟩
    | none => throw .noMatch

end Steps

/-- Evaluates a key. How deep it lies is told by the stack of keys; `budget` ends the recursion. -/
def resolve (q : Inquiry) : Nat → String → DrawingT Watching Match
  | 0, key => during (.key key) (throw .segmentTooDeep)
  | budget + 1, key =>
    during (.key key) do
      if maxSegmentDepth < (← look).keys.length then throw .segmentTooDeep
      else
        match q.snapshot.get? key with
        | none => throw .keyNotFound
        | some e => holding (·.enter e.key) Scope.leave (tryRows q (resolve q budget) e)

def runFrom (x : DrawingT Watching α) (n : Nat) (underWay : List Activity) (w : Watch) :
    Logged ((Except EvaluationError α × Nat) × Watch) :=
  ((x.run.run n).run underWay).run w

end Watching

/-- Evaluates a key for a caller and keeps the record. -/
def Inquiry.watched (q : Inquiry) (budget : Nat) (key : String) :
    Logged (Except EvaluationError Match × Watch) := do
  let ((outcome, _), watch) ← Watching.runFrom (Watching.resolve q budget key) 0 []
    ⟨.outermost, []⟩
  return (outcome, watch)

end LiveConfig

import LiveConfig.Client.Update
import LiveConfig.Evaluation.Recall

/-! The memory of a client.

The elements of a client are made one by one: those of the fixed layers at the start, the others as
configs are stored. Publishing makes a generation of the references that the layers hold, so an
element that stays is shared by all the generations that it is in, also if they are published for
different environments, and so is what it remembers. A reader may hold any generation for as long as
it likes. A generation also remembers the look-up context of reads that bring none of their own. -/
namespace LiveConfig

/-- `made` are the elements in the order in which they were made; the place of a cell is the number
of its element. Generations are numbered from the first one on, which is published as revision 1;
`shared` has their look-up contexts. -/
structure Memory where
  scope : Option String
  globalContext : ContextSet
  listings : Nat → Listing
  made : List Element
  defaults : Table Cell
  delivered : Table Cell
  overrides : Table Cell
  past : List Generation
  current : Generation
  memos : Memos
  shared : Nat → Option LookupContext

namespace Memory

/-- The elements of a layer under their own keys, each in a place of its own from `place` on. -/
def index (place : Nat) (es : List Element) : Table Cell :=
  .ofList ((es.zipIdx place).map fun e => (e.1.key, ⟨e.2, e.1⟩))

def merged (m : Memory) : Table Cell :=
  (m.defaults.insertAll m.delivered.entries).insertAll m.overrides.entries

def generations (m : Memory) : List Generation := m.past ++ [m.current]

/-- The memory of a new client, whose first generation is that of the fixed layers. -/
def start (config : ClientConfig) : Memory :=
  let m : Memory :=
    { scope := config.scope
      globalContext := config.globalContext
      listings := config.listings
      made := config.bundledDefaults ++ config.localOverrides
      defaults := index 0 config.bundledDefaults
      delivered := .empty
      overrides := index config.bundledDefaults.length config.localOverrides
      past := []
      current := ⟨.empty, none, .empty⟩
      memos := .empty
      shared := fun _ => none }
  { m with current := ⟨m.merged, none, .empty⟩ }

def newer? (m : Memory) (key : String) (id : Int64) : Option Cell :=
  (m.delivered.get? key).bind fun c => if id < c.element.config.id then some c else none

/-- A delivery drops its config, removes what is held under the key, or makes an element. -/
def deliver (m : Memory) (a : Config × Provenance) : Memory :=
  match m.newer? a.1.key a.1.id with
  | some _ => m
  | none =>
    if a.1.isTombstone then { m with delivered := m.delivered.erase a.1.key }
    else
      let element : Element := ⟨a.1, a.2⟩
      { m with
        made := m.made ++ [element]
        delivered := m.delivered.insert a.1.key ⟨m.made.length, element⟩ }

def publish (m : Memory) (environment : Option Int64) (defaultContext : ContextSet) : Memory :=
  { m with
    past := m.past ++ [m.current]
    current := ⟨m.merged, environment, defaultContext⟩ }

def renew (m : Memory) (u : Update) : Memory :=
  (u.configs.foldl deliver m).publish (u.environment.or m.current.environment)
    (u.defaultContext.getD m.current.defaultContext)

def update (m : Memory) (clock : Clock) (u : Update) : List ChangeEvent × Memory :=
  let (events, memos) := ((Generation.diff m.scope clock m.current (m.renew u).current).run
    (m.renew u).memos).result
  (events, { m.renew u with memos })

def evaluate (m : Memory) (g : Generation) (selection : Selection) (now : Int64)
    (context : LookupContext) (key : String) : Logged (Except EvaluationError Match × Memory) := do
  let (outcome, memos) ← (g.evaluate selection now context key).run m.memos
  return (outcome, { m with memos })

def rowOrder (m : Memory) (c : Cell) (environment : Option Int64) : List Nat × Memory :=
  let (order, memos) := ((c.rowOrder environment).run m.memos).result
  (order, { m with memos })

/-- The look-up context of reads of generation number `i` that bring none of their own. -/
def sharedLookup (m : Memory) (i : Nat) (g : Generation) : LookupContext × Memory :=
  match m.shared i with
  | some context => (context, m)
  | none =>
    let context : LookupContext := ⟨m.scope, (ContextSources.merge
      ⟨some m.globalContext, some g.defaultContext, none, none⟩).listed (m.listings (i + 1))⟩
    (context, { m with shared := fun j => if j = i then some context else m.shared j })

end Memory

inductive Access
  | update (clock : Clock) (u : Update)
  | evaluate (i : Nat) (selection : Selection) (now : Int64) (context : LookupContext)
    (key : String)
  | rowOrder (i : Nat) (key : String) (environment : Option Int64)
  | sharedLookup (i : Nat)

namespace Memory

/-- The memory after an access. One to what is not there does nothing. -/
def perform (m : Memory) : Access → Memory
  | .update clock u => (m.update clock u).2
  | .evaluate i selection now context key =>
    match m.generations[i]? with
    | some g => (m.evaluate g selection now context key).result.2
    | none => m
  | .rowOrder i key environment =>
    match m.generations[i]?.bind fun g => g.cells.get? key with
    | some c => (m.rowOrder c environment).2
    | none => m
  | .sharedLookup i =>
    match m.generations[i]? with
    | some g => (m.sharedLookup i g).2
    | none => m

def after (m : Memory) (accesses : List Access) : Memory := accesses.foldl perform m

end Memory
end LiveConfig

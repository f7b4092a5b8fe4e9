import LiveConfig.Snapshot.Basic
import LiveConfig.Rule.Validation

/-! Layers of configs and the view that they merge to.

Bundled defaults and local overrides are fixed at the start; delivered configs arrive one by one in
between. A delivery is dropped when its key holds a config with a greater id; otherwise a tombstone
removes the key and any other config takes it, faulty rules included. The highwater mark is the
greatest id accepted so far, and never below zero: a transport resumes after it. -/
namespace LiveConfig

structure Layers where
  defaults : Table Element
  delivered : Table Element
  overrides : Table Element
  highwater : Int64

/-- What became of a delivery. -/
inductive Outcome
  | stored
  | removed
  | stale
deriving DecidableEq, Inhabited

def Outcome.name : Outcome → String
  | .stored => "Stored"
  | .removed => "Removed"
  | .stale => "Stale"

namespace Layers

def start (defaults overrides : List Element) : Layers :=
  ⟨Snapshot.index defaults, .empty, Snapshot.index overrides, 0⟩

def greater (a b : Int64) : Int64 := if a ≤ b then b else a

/-- The greatest id in a layer, and zero for an empty one. -/
def greatestId (t : Table Element) : Int64 :=
  match t.values.map fun e => e.config.id with
  | [] => 0
  | id :: ids => ids.foldl greater id

/-- Raises the mark to the ids that are held and to one that was accepted. -/
def mark (l : Layers) (accepted : Int64) : Layers :=
  { l with highwater := greater (greater l.highwater (greatestId l.delivered)) accepted }

/-- The config that is held under a key with a greater id than the given one. -/
def newer? (l : Layers) (key : String) (id : Int64) : Option Element :=
  (l.delivered.get? key).bind fun e => if id < e.config.id then some e else none

def apply (l : Layers) (config : Config) (provenance : Provenance) : Logged (Outcome × Layers) := do
  match l.newer? config.key config.id with
  | some existing => do
    Logged.log (.outOfOrder config.key config.id existing.config.id)
    return (.stale, l.mark 0)
  | none =>
    if config.isTombstone then
      return (.removed, { l with delivered := l.delivered.erase config.key }.mark config.id)
    else do
      match config.validate with
      | .error e => Logged.log (.invalidRules config.key config.id e)
      | .ok () => pure ()
      let element ← Element.wrap config provenance
      return (.stored, { l with delivered := l.delivered.insert config.key element }.mark config.id)

/-- Defaults, then delivered configs, then overrides: the last layer that has a key decides. -/
def merged (l : Layers) : Table Element :=
  (l.defaults.insertAll l.delivered.entries).insertAll l.overrides.entries

end Layers
end LiveConfig

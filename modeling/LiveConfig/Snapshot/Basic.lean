import LiveConfig.Context.Basic
import LiveConfig.Log
import LiveConfig.Pattern.Reader

/-! Elements and snapshots.

Wrapping a config as an element logs the patterns in it that cannot be read, each time one occurs.
A snapshot is what evaluations read: the elements by key, the active environment and the contexts
that the server supplies as defaults. It never changes; an update makes a new one. -/
namespace LiveConfig

/-- The patterns of a config that cannot be read, in the order of the document. -/
def Config.invalidPatterns (c : Config) : List String :=
  (c.criteria.filterMap Criterion.pattern?).filter fun p => (Pattern.read? p).isNone

def Element.wrap (config : Config) (provenance : Provenance) : Logged Element :=
  ⟨⟨config, provenance⟩, config.invalidPatterns.map fun p => .invalidPattern config.key p⟩

structure Snapshot where
  elements : Table Element
  environment : Option Int64
  defaultContext : ContextSet

namespace Snapshot

def empty : Snapshot := ⟨.empty, none, .empty⟩

/-- Elements under their own keys: of two with one key the later stays. -/
def index (es : List Element) : Table Element := .ofList (es.map fun e => (e.key, e))

def get? (s : Snapshot) (key : String) : Option Element := s.elements.get? key

def contains (s : Snapshot) (key : String) : Bool := s.elements.contains key

def keys (s : Snapshot) : List String := s.elements.sortedKeys

end Snapshot
end LiveConfig

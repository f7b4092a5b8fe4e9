import LiveConfig.Context.Ambient
import LiveConfig.Context.Merge
import LiveConfig.Layers
import LiveConfig.Snapshot.Change
import LiveConfig.Snapshot.Store

/-! A client: what it is configured with and what it holds.

The published snapshot is the merged view of the layers, with the environment and the default
contexts that the server last sent. Publishing also merges the contexts for reads that bring none of
their own, so that these share one look-up context; every other read merges its own. A listener is a
name and what it registers when it hears events, which may differ from one published revision to the
next; what listeners heard and which matches were reported is kept until it is taken. -/
namespace LiveConfig

/-- `listings` has the orders of the contexts that reads share, by the revision that is published;
they are nobody's choice. -/
structure ClientConfig where
  scope : Option String
  globalContext : ContextSet
  bundledDefaults : List Element
  localOverrides : List Element
  timeoutMillis : Nat
  reporting : Bool
  listings : Nat → Listing

/-- How long a client waits for its first update if it is not told otherwise. -/
def defaultTimeoutMillis : Nat := 10000

inductive Listener
  | mk (name : String) (registers : Nat → List ChangeEvent → List Listener)

namespace Listener

def name : Listener → String
  | mk name _ => name

/-- Listeners that this one adds when it hears the given events at a revision. -/
def registers : Listener → Nat → List ChangeEvent → List Listener
  | mk _ registers => registers

/-- A listener that adds no others. -/
def plain (name : String) : Listener := mk name fun _ _ => []

end Listener

/-- One call of a listener, and the revision that was published when it was called. -/
structure Delivery where
  listener : String
  events : List ChangeEvent
  revision : Nat

structure Client where
  scope : Option String
  globalContext : ContextSet
  timeoutMillis : Nat
  reporting : Bool
  listings : Nat → Listing
  layers : Layers
  store : Store
  base : LookupContext
  listeners : List Listener
  deliveries : List Delivery
  reports : List Match
  initialized : Bool

/-- Actions on a client in the scope of an ambient context set. -/
abbrev ClientM := ReaderT Ambient (StateT Client Logged)

namespace Client

def snapshot (c : Client) : Snapshot := c.store.current

/-- The contexts of a read merged with those of the client and of the server. -/
def mergedFor (c : Client) (ambient passed : Option ContextSet) : LookupContext :=
  ⟨c.scope, ContextSources.merge
    ⟨some c.globalContext, some c.snapshot.defaultContext, ambient, passed⟩⟩

def lookupContext (c : Client) (l : Listing) (ambient passed : Option ContextSet) :
    LookupContext :=
  (c.mergedFor ambient passed).listed l

/-- The look-up context that reads of the published snapshot share. -/
def sharedLookup (c : Client) : LookupContext :=
  c.lookupContext (c.listings c.store.revision) none none

/-- What a read looks properties up in: the shared context when it brings none of its own. -/
def lookupFor (c : Client) (l : Listing) (ambient passed : Option ContextSet) : LookupContext :=
  if ambient.isNone && passed.isNone then c.base else c.lookupContext l ambient passed

/-- Publishes the layers with an environment and default contexts. -/
def publish (c : Client) (environment : Option Int64) (defaultContext : ContextSet) : Client :=
  let snapshot : Snapshot := ⟨c.layers.merged, environment, defaultContext⟩
  let published := { c with store := (c.store.replace snapshot).2 }
  { published with base := published.sharedLookup }

def start (config : ClientConfig) : Client :=
  publish
    { scope := config.scope
      globalContext := config.globalContext
      timeoutMillis := config.timeoutMillis
      reporting := config.reporting
      listings := config.listings
      layers := .start config.bundledDefaults config.localOverrides
      store := .start
      base := ⟨config.scope, .empty⟩
      listeners := []
      deliveries := []
      reports := []
      initialized := false }
    none .empty

def keys (c : Client) : List String := c.snapshot.keys

def highwater (c : Client) : Int64 := c.layers.highwater

end Client
end LiveConfig

import LiveConfig.Client.Basic

/-! Updates of a client and the listeners that hear of them.

An update is applied as a whole: its configs in order, then the environment and the default contexts
if it brings any, then one new snapshot is published and compared with the one before. When a value
changed, every listener that was registered before the update hears all events, in the order of
registration; a listener added meanwhile hears the next. -/
namespace LiveConfig

structure Update where
  configs : List (Config × Provenance)
  environment : Option Int64
  defaultContext : Option ContextSet

/-- Applies deliveries in order. -/
def Layers.applyAll (l : Layers) : List (Config × Provenance) → Logged Layers
  | [] => return l
  | (config, provenance) :: rest => do
    let (_, l) ← l.apply config provenance
    applyAll l rest

namespace Client

/-- Calls one listener with events. -/
def call (events : List ChangeEvent) (c : Client) (l : Listener) : Client :=
  { c with
    deliveries := c.deliveries ++ [⟨l.name, events, c.store.revision⟩]
    listeners := c.listeners ++ l.registers c.store.revision events }

/-- Calls the listeners that are registered now, unless there is nothing to tell. -/
def dispatch (c : Client) (events : List ChangeEvent) : Client :=
  if events.isEmpty then c else c.listeners.foldl (call events) c

/-- Applies an update; gives the events and the client after it. -/
def apply (c : Client) (clock : Clock) (u : Update) : Logged (List ChangeEvent × Client) := do
  let layers ← c.layers.applyAll u.configs
  let published := { c with layers }.publish (u.environment.or c.snapshot.environment)
    (u.defaultContext.getD c.snapshot.defaultContext)
  let events ← Snapshot.diff c.scope clock c.snapshot published.snapshot
  Logged.log (.updateApplied published.highwater published.snapshot.environment
    published.snapshot.elements.size events.length)
  return (events, { published.dispatch events with initialized := true })

end Client

namespace ClientM

def apply (clock : Clock) (u : Update) : ClientM (List ChangeEvent) := do
  let (events, client) ← (← getThe Client).apply clock u
  set client
  return events

def addListener (l : Listener) : ClientM Unit :=
  modifyThe Client fun c => { c with listeners := c.listeners ++ [l] }

/-- What listeners heard since the last time. -/
def takeDeliveries : ClientM (List Delivery) :=
  modifyGetThe Client fun c => (c.deliveries, { c with deliveries := [] })

/-- Matches reported since the last time. -/
def takeReports : ClientM (List Match) :=
  modifyGetThe Client fun c => (c.reports, { c with reports := [] })

end ClientM
end LiveConfig

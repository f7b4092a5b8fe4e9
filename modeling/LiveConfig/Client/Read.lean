import LiveConfig.Client.Basic
import LiveConfig.LoggerLevel

/-! Reads of a client.

Each read takes the published snapshot once and evaluates against it, for the contexts that are
passed, ambient, global and default. A tracked read reports its match before the value is made from
it, so a match is reported even if its value turns out to be of another type than was asked for. -/
namespace LiveConfig

/-- A double; an integer counts as the nearest one. -/
def Value.widened? : Value → Option Binary64
  | .double x => some x
  | .int n => some (.ofInt n.toInt)
  | _ => none

namespace ClientM

/-- The match of a key, references unread and nothing reported. -/
def getMatch (w : World) (passed : Option ContextSet) (key : String) : ClientM (Option Match) := do
  let client ← getThe Client
  let context := client.lookupFor w.listing (← Ambient.current) passed
  client.snapshot.evaluate Murmur3.fraction (w.draws 0) (w.clock 0) context key

/-- Hands a match to the sink, if there is one. -/
def report (m : Match) : ClientM Unit :=
  modifyThe Client fun c => if c.reporting then { c with reports := c.reports ++ [m] } else c

def resolve (tracked : Bool) (w : World) (passed : Option ContextSet) (key : String) :
    ClientM (Option ConfigValue) := do
  match ← getMatch w passed key with
  | some m => do
    if tracked then report m
    let v ← m.reify w.vars
    return some v
  | none => return none

def getValue (w : World) (passed : Option ContextSet) (key : String) :
    ClientM (Option ConfigValue) :=
  resolve true w passed key

def getUntracked (w : World) (passed : Option ContextSet) (key : String) :
    ClientM (Option ConfigValue) :=
  resolve false w passed key

/-- The value of a key under a view; a value of another kind is logged and counts as none. -/
def getAs {α : Type} (view : Value → Option α) (w : World) (passed : Option ContextSet)
    (key : String) : ClientM (Option α) := do
  match ← getValue w passed key with
  | some v =>
    match view v.value with
    | some a => return some a
    | none => do
      Logged.log (.unexpectedType key)
      return none
  | none => return none

def getString := getAs Value.string?

def getInt := getAs Value.int?

def getDouble := getAs Value.widened?

def getBool := getAs Value.bool?

def getStringList := getAs Value.stringList?

def getDuration := getAs Value.duration?

/-- Whether a key resolves to `true`. -/
def featureIsOn (w : World) (passed : Option ContextSet) (key : String) : ClientM Bool := do
  return (← getBool w passed key).getD false

def levelFor (w : World) (logger : String) : ClientM (Option LogLevel) := do
  let client ← getThe Client
  client.snapshot.levelFor w (client.lookupFor w.listing (← Ambient.current) none) logger

/-- Succeeds once an update has been applied. The wait itself has no part in the result: before the
first update it ends with the timeout. -/
def waitForInitialization : ClientM (Except ConfigError Unit) := do
  let client ← getThe Client
  if client.initialized then return .ok ()
  else do
    Logged.log (.notInitialized client.timeoutMillis)
    return .error .initializationTimeout

end ClientM
end LiveConfig

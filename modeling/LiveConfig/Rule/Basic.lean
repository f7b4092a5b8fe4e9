import LiveConfig.Value.Basic
import LiveConfig.Rule.Operator
import LiveConfig.Table

/-! Configs: keyed sets of rules at one version.

A config has rows, each for one environment or for none; a row has conditional values, tried in
order; a conditional value is guarded by a conjunction of criteria. The rows that apply under an
environment are its own rows followed by the rows of no environment, each in the order of the
document and with its index there. A config without any value is a tombstone: it deletes its key. -/
namespace LiveConfig

structure Criterion where
  property : String
  operator : Operator
  toMatch : Option ConfigValue
deriving BEq, Inhabited

namespace Criterion

def alwaysTrue : Criterion := ⟨"", .alwaysTrue, none⟩

/-- The pattern of a pattern criterion. -/
def pattern? (c : Criterion) : Option String :=
  if c.operator.isPattern then c.toMatch.bind fun v => v.value.string? else none

/-- The key of the segment that a segment criterion asks about. -/
def segment? (c : Criterion) : Option String :=
  if c.operator.isSegment then c.toMatch.bind fun v => v.value.string? else none

end Criterion

structure ConditionalValue where
  criteria : List Criterion
  value : ConfigValue
deriving BEq

/-- A value without conditions. -/
def ConditionalValue.always (v : ConfigValue) : ConditionalValue := ⟨[], v⟩

abbrev Properties := Table ConfigValue

structure Row where
  environment : Option Int64
  properties : Properties
  values : List ConditionalValue
deriving BEq

inductive ConfigKind
  | config | featureFlag | logLevel | segment | unknown
deriving DecidableEq, Inhabited

namespace ConfigKind

def all : List ConfigKind := [config, featureFlag, logLevel, segment, unknown]

def name : ConfigKind → String
  | config => "CONFIG"
  | featureFlag => "FEATURE_FLAG"
  | logLevel => "LOG_LEVEL"
  | segment => "SEGMENT"
  | unknown => "UNKNOWN"

def ofName (s : String) : ConfigKind := (all.find? fun k => k.name = s).getD unknown

theorem ofName_name (k : ConfigKind) : ofName k.name = k := by cases k <;> decide

end ConfigKind

structure Config where
  key : String
  id : Int64
  kind : ConfigKind
  valueType : Option ValueType
  rows : List Row
  allowableValues : List ConfigValue
deriving BEq

namespace Config

def isTombstone (c : Config) : Bool := c.rows.all fun row => row.values.isEmpty

/-- Every criterion, in the order of the document. -/
def criteria (c : Config) : List Criterion :=
  c.rows.flatMap fun row => row.values.flatMap fun v => v.criteria

/-- Rows with their indexes. -/
def indexedRows (c : Config) : List (Nat × Row) := c.rows.zipIdx.map fun r => (r.2, r.1)

/-- Rows that apply under an environment, in the order in which they are tried. -/
def applicableRows (c : Config) (environment : Option Int64) : List (Nat × Row) :=
  (c.indexedRows.filter fun r => environment.isSome && r.2.environment == environment) ++
    c.indexedRows.filter fun r => r.2.environment.isNone

def rowOrder (c : Config) (environment : Option Int64) : List Nat :=
  (c.applicableRows environment).map Prod.fst

end Config

inductive ProvenanceSource
  | bundledDefault | remote | streaming | localOverride | unknown
deriving DecidableEq, Inhabited

namespace ProvenanceSource

def all : List ProvenanceSource := [bundledDefault, remote, streaming, localOverride, unknown]

def name : ProvenanceSource → String
  | bundledDefault => "BUNDLED_DEFAULT"
  | remote => "REMOTE"
  | streaming => "STREAMING"
  | localOverride => "LOCAL_OVERRIDE"
  | unknown => "UNKNOWN"

def ofName? (s : String) : Option ProvenanceSource := all.find? fun p => p.name = s

end ProvenanceSource

/-- Where a config came from. It is recorded for audits and never decides anything. -/
structure Provenance where
  source : ProvenanceSource
  location : Option String
deriving DecidableEq, Inhabited

/-- A config as it is held: with its provenance. -/
structure Element where
  config : Config
  provenance : Provenance

def Element.key (e : Element) : String := e.config.key

end LiveConfig

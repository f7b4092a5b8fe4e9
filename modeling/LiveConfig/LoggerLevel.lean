import LiveConfig.Reification

/-! Levels of loggers.

A logger's level is a config of its own, and a logger without one inherits from the names above it:
the name is cut before its last dot until nothing is left, and the first of these names whose config
gives a level decides. The name that is left at the end is the empty one. -/
namespace LiveConfig

def levelKeyStart : String := "log-level"

/-- The key of the config for a logger. -/
def levelKey (name : List Char) : String :=
  if name.isEmpty then levelKeyStart else levelKeyStart ++ "." ++ String.ofList name

/-- A name and the names above it, down to the empty one. -/
def loggerAncestry (name : List Char) : List (List Char) :=
  if name.isEmpty then [[]] else name :: loggerAncestry (Text.dottedParent name)
termination_by name.length
decreasing_by
  rename_i h
  have := Text.dottedParent_length_le name
  have : name.length ≠ 0 := by
    intro h0
    exact h (by simp [List.length_eq_zero_iff.mp h0])
  omega

namespace Snapshot

/-- The first level that one of the names gives, evaluations being numbered from `turn` on. -/
def firstLevel (s : Snapshot) (w : World) (context : LookupContext) :
    Nat → List (List Char) → Logged (Option LogLevel)
  | _, [] => return none
  | turn, name :: names => do
    match (← s.get w turn context (levelKey name)).bind fun v => v.value.logLevel? with
    | some level => return some level
    | none => firstLevel s w context (turn + 1) names

def levelFor (s : Snapshot) (w : World) (context : LookupContext) (logger : String) :
    Logged (Option LogLevel) :=
  s.firstLevel w context 0 (loggerAncestry logger.toList)

end Snapshot
end LiveConfig

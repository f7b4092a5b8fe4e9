import LiveConfig.Error
import LiveConfig.Evaluation.Error
import LiveConfig.Json.Writer
import LiveConfig.Rule.Json
import LiveConfig.Value.Detail

/-! What is logged, and computations that log.

A log event says what happened and to what; its level, message and data are functions of it, so
wording is in one place and a record can be examined for what it gives away: `verbatim` is read off
the data that are put into text. A computation that logs pairs its result with its events in order.
The result of a sequence depends on the results of its parts alone: `result_bind` and `result_pure`
remove the log from statements about results. -/
namespace LiveConfig

/-- What a record carries besides its message. -/
inductive Datum
  | label (text : String)
  | number (n : Int)
  | pattern (p : String)
  | value (v : ConfigValue)
  | payload (v : Option Value)
  | criterion (c : Criterion)
  | lookup (r : Reference)

namespace Datum

/-- A labelled value is shown by its digest; a payload is shown in full, and a criterion as the data
that it is read from. -/
def text : Datum → String
  | label t => t
  | number n => Decimal.text n
  | pattern p => p
  | value v => v.redacted
  | payload v => Detail.option Value.detail v
  | criterion c => (c.toJsonWith .ofBinary64).write
  | lookup r => r.lookup

/-- The payloads that the text shows as they are. -/
def verbatim : Datum → List Value
  | label _ | number _ => []
  | pattern p => [.string p]
  | value v => if v.confidential then [] else [v.value]
  | payload v => v.toList
  | criterion c => c.toMatch.toList.map Labelled.value
  | lookup r => [.reference r]

end Datum

inductive LogEvent
  | invalidPattern (key pattern : String)
  | outOfOrder (key : String) (id existing : Int64)
  | invalidRules (key : String) (id : Int64) (error : ConfigError)
  | evaluated (key : String) (value : ConfigValue) (row conditionalValue : Nat)
  | noValue (key : String) (error : EvaluationError)
  | failed (key : String) (error : EvaluationError)
  | undecidedSegment (key : String) (segment : Option ConfigValue) (error : EvaluationError)
  | noSegmentKey (key : String)
  | unknownOperator (key : String) (criterion : Criterion)
  | emptyDistribution (key : String)
  | unknownSource (key lookup : String)
  | unreadable (key : String) (error : ConfigError)
  | unexpectedType (key : String)
  | updateApplied (highwater : Int64) (environment : Option Int64) (keys changes : Nat)
  | notInitialized (timeoutMillis : Nat)

namespace LogEvent

def level : LogEvent → LogLevel
  | evaluated .. | noValue .. => .trace
  | invalidRules .. | notInitialized .. => .warn
  | unknownSource .. | unreadable .. => .error
  | _ => .debug

/-- A record of an invalid pattern goes on to say what is wrong with it; these words, which quote
the pattern once more, are left to the library that reads patterns. -/
def message : LogEvent → String
  | invalidPattern .. => "ignoring invalid pattern"
  | outOfOrder .. => "ignoring out-of-order config update"
  | invalidRules _ _ e => "accepting config with invalid rules: " ++ e.message
  | evaluated .. => "evaluated config"
  | noValue _ e => "no value: " ++ e.message
  | failed _ e => "evaluation failed: " ++ e.message
  | undecidedSegment _ _ e => "unable to evaluate segment, criterion does not match: " ++ e.message
  | noSegmentKey _ => "segment criterion without segment key"
  | unknownOperator .. => "unsupported operator, criterion does not match"
  | emptyDistribution _ => "empty weighted value"
  | unknownSource .. => "unsupported provided value source"
  | unreadable _ e => e.message
  | unexpectedType _ => "config value has an unexpected type"
  | updateApplied .. => "applied config update"
  | notInitialized _ => "no configuration received before initialization timeout"

/-- The reference that the message names. -/
def named? : LogEvent → Option Reference
  | unreadable _ (.missingVariable name) => some ⟨.environment, name⟩
  | unreadable _ (.unreadableVariable name _) => some ⟨.environment, name⟩
  | _ => none

/-- Named data that accompany the message. -/
def data : LogEvent → List (String × Datum)
  | invalidPattern k p => [("key", .label k), ("pattern", .pattern p)]
  | outOfOrder k i e =>
    [("key", .label k), ("id", .number i.toInt), ("existing_id", .number e.toInt)]
  | invalidRules k i _ => [("key", .label k), ("id", .number i.toInt)]
  | evaluated k v r c =>
    [("key", .label k), ("value", .value v), ("row_index", .number r),
      ("conditional_value_index", .number c)]
  | undecidedSegment k s _ => [("key", .label k), ("segment", .payload (s.map Labelled.value))]
  | unknownOperator k c => [("key", .label k), ("criterion", .criterion c)]
  | noValue k _ | failed k _ | noSegmentKey k | emptyDistribution k | unreadable k _
  | unexpectedType k => [("key", .label k)]
  | unknownSource k l => [("key", .label k), ("lookup", .lookup ⟨.unknown, l⟩)]
  | updateApplied h e n c =>
    [("highwater_mark", .number h.toInt),
      ("environment_id", .label (Detail.option (fun i => Decimal.text i.toInt) e)),
      ("keys", .number n), ("changes", .number c)]
  | notInitialized t => [("timeout", .label (Detail.span (t / 1000) (t % 1000 * 1000000)))]

/-- The texts of the data. -/
def fields (e : LogEvent) : List (String × String) := e.data.map fun d => (d.1, d.2.text)

/-- The payloads that a record shows as they are, whatever their labels say. -/
def verbatim (e : LogEvent) : List Value :=
  e.named?.toList.map .reference ++ e.data.flatMap fun d => d.2.verbatim

end LogEvent

/-- A result and the events logged on the way to it. -/
structure Logged (α : Type) where
  result : α
  events : List LogEvent

namespace Logged

instance : Monad Logged where
  pure a := ⟨a, []⟩
  bind x f := ⟨(f x.result).result, x.events ++ (f x.result).events⟩

instance : LawfulMonad Logged := LawfulMonad.mk' Logged
  (by intro α x; cases x; simp [Functor.map])
  (by intros; simp [Bind.bind, Pure.pure])
  (by intros; simp [Bind.bind])

def log (e : LogEvent) : Logged Unit := ⟨(), [e]⟩

@[simp] theorem result_pure {α : Type} (a : α) : (pure a : Logged α).result = a := rfl

@[simp] theorem result_bind {α β : Type} (x : Logged α) (f : α → Logged β) :
    (x >>= f).result = (f x.result).result := rfl

@[simp] theorem events_pure {α : Type} (a : α) : (pure a : Logged α).events = [] := rfl

@[simp] theorem events_bind {α β : Type} (x : Logged α) (f : α → Logged β) :
    (x >>= f).events = x.events ++ (f x.result).events := rfl

theorem events_map {α β : Type} (f : α → β) (x : Logged α) :
    (f <$> x).events = x.events := by
  rw [map_eq_pure_bind, events_bind]
  exact List.append_nil _

/-- What follows a logged result is only asked about this result. -/
theorem bind_congr {α β : Type} {x : Logged α} {f g : α → Logged β}
    (same : f x.result = g x.result) : x >>= f = x >>= g := by
  change Logged.mk (f x.result).result (x.events ++ (f x.result).events) = _
  rw [same]
  rfl

@[simp] theorem result_log (e : LogEvent) : (log e).result = () := rfl

end Logged
end LiveConfig

import LiveConfig.Binary64.Basic
import LiveConfig.Text.Decimal
import LiveConfig.Table

/-! JSON values and the views that readers of structured data take of them.

A number is an integer when it was written without fraction and exponent and a 64-bit word, signed
or unsigned, can hold it; every other number is a binary64. The two kinds stay apart: an integer can
stand where a binary64 is wanted, never the reverse. A record may be written as an object or as the
list of its members in declared order; unknown members are ignored unless the record is exact, and
no other may be written twice. -/
namespace LiveConfig

inductive Json
  | null
  | bool (b : Bool)
  | int (n : Int)
  | number (x : Binary64)
  | string (s : String)
  | array (items : List Json)
  | object (members : List (String × Json))
deriving Inhabited

namespace Json

/-- A binary64 as JSON, which has no spelling for NaN and the infinities. -/
def ofBinary64 (x : Binary64) : Json := if x.isFinite then .number x else .null

def ofInt64 (n : Int64) : Json := .int n.toInt

/-- `null` for nothing. -/
def ofOption {α : Type} (f : α → Json) : Option α → Json
  | some a => f a
  | none => .null

def ofTable {α : Type} (f : α → Json) (t : Table α) : Json :=
  .object (t.entries.map fun e => (e.1, f e.2))

def isNull : Json → Bool
  | .null => true
  | _ => false

def bool? : Json → Option Bool
  | .bool b => some b
  | _ => none

def string? : Json → Option String
  | .string s => some s
  | _ => none

def array? : Json → Option (List Json)
  | .array xs => some xs
  | _ => none

def object? : Json → Option (List (String × Json))
  | .object ms => some ms
  | _ => none

/-- An integer below `bound`. -/
def below? (bound : Nat) : Json → Option Nat
  | .int n => if 0 ≤ n ∧ n < bound then some n.toNat else none
  | _ => none

def int64? : Json → Option Int64
  | .int n => Decimal.toInt64? n
  | _ => none

def isEmptyObject : Json → Bool
  | .object [] => true
  | _ => false

/-- The name of a constant: a string, or an object whose only member is that name with nothing. -/
def constant? (isNothing : Json → Bool) : Json → Option String
  | .string s => some s
  | .object [(s, j)] => if isNothing j then some s else none
  | _ => none

/-- The name of a constant, where `null` is nothing. -/
def name? : Json → Option String := constant? isNull

/-- The name of a constant inside a value, where an empty object is nothing too. -/
def innerName? : Json → Option String := constant? fun j => j.isNull || j.isEmptyObject

/-- Every item under `f`, or nothing when one fails. -/
def listOf? {α : Type} (f : Json → Option α) (j : Json) : Option (List α) :=
  j.array?.bind fun xs => xs.mapM f

def optionOf? {α : Type} (f : Json → Option α) : Json → Option (Option α)
  | .null => some none
  | j => (f j).map some

def tableOf? {α : Type} (f : Json → Option α) (j : Json) : Option (Table α) :=
  j.object?.bind fun ms => (ms.mapM fun m => (f m.2).map fun v => (m.1, v)).map Table.ofList

/-- Whether none of the names is written twice. -/
def once (names : List String) (ms : List (String × Json)) : Bool :=
  names.all fun name => ms.countP (·.1 = name) ≤ 1

/-- Members of a record with the given member names in declared order. -/
def record? (names : List String) : Json → Option (List (String × Json))
  | .object ms => if once names ms then some ms else none
  | .array xs => if xs.length ≤ names.length then some (names.zip xs) else none
  | _ => none

/-- Members of a record that may not have others. -/
def exactRecord? (names : List String) (j : Json) : Option (List (String × Json)) :=
  (j.record? names).filter fun ms => ms.all fun m => names.contains m.1

/-- A member that has to be there. -/
def required? {α : Type} (ms : List (String × Json)) (name : String) (f : Json → Option α) :
    Option α :=
  (ms.lookup name).bind f

/-- A member that may be missing; one that is there has to be of the right kind. -/
def default? {α : Type} (ms : List (String × Json)) (name : String) (missing : α)
    (f : Json → Option α) : Option α :=
  match ms.lookup name with
  | some j => f j
  | none => some missing

end Json
end LiveConfig

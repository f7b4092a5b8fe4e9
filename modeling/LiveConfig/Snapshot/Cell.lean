import LiveConfig.Log
import LiveConfig.Snapshot.Basic

/-! Elements in memory.

Snapshots share their elements by reference, and an element remembers in which order its rows are
tried, for every environment that it has been asked about. A cell is such a reference: an element
and its place, which tells it from all others, also from one that is equal. What is remembered is
kept beside the cells, by place. -/
namespace LiveConfig

structure Cell where
  place : Nat
  element : Element

/-- Row orders that are remembered, by place and environment. -/
abbrev Memos := Nat → Option Int64 → Option (List Nat)

namespace Memos

def empty : Memos := fun _ _ => none

def remember (memos : Memos) (place : Nat) (environment : Option Int64) (order : List Nat) :
    Memos :=
  fun p e => if p = place ∧ e = environment then some order else memos p e

end Memos

/-- Computations that read and extend what is remembered. -/
abbrev Recalling := StateT Memos Logged

/-- In which order the rows of an element are tried: as remembered, or computed and remembered. -/
def Cell.rowOrder (c : Cell) (environment : Option Int64) : Recalling (List Nat) := do
  match (← get) c.place environment with
  | some order => return order
  | none => do
    let order := c.element.config.rowOrder environment
    modify fun memos => memos.remember c.place environment order
    return order

/-- The rows at some indexes. -/
def Config.rowsAt (c : Config) (order : List Nat) : List (Nat × Row) :=
  order.filterMap fun i => c.rows[i]?.map fun row => (i, row)

end LiveConfig

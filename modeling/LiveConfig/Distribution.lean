import LiveConfig.Value.Text
import LiveConfig.Rule.Basic
import LiveConfig.Digest.Murmur3

/-! Selecting one variant of a weighted distribution.

A selection needs a position in the unit interval. When the distribution names a property that the
caller has and that has a scalar text, the position is a hash of the config's key and that text, so
it is the same in every evaluation; otherwise it is drawn. The variant at a position is the first
whose cumulative share of the total weight reaches it. When no weight is positive it is the first
variant, and an empty distribution has none. -/
namespace LiveConfig

/-- Gives an input a position in the unit interval. -/
abbrev Sharder := List UInt8 → Binary64

/-- The position of an identity under a config's key. -/
def Sharder.place (sharder : Sharder) (key identity : String) : Binary64 :=
  sharder (key.toUTF8.toList ++ identity.toUTF8.toList)

/-- A source of positions for selections without an identity: one for each draw, in order. -/
abbrev Draws := Nat → Binary64

/-- How positions are found: the sharder, and the position drawn where there is no identity. -/
structure Chance where
  sharder : Sharder
  draw : Binary64

/-- Hashes with murmur3; the draw is the given one. -/
def Chance.murmur3 (draw : Binary64) : Chance := ⟨Murmur3.fraction, draw⟩

/-- Whether a cumulative weight reaches a position. -/
def reaches (position : Binary64) (running total : Nat) : Bool :=
  ((Binary64.ofNat running / Binary64.ofNat total).compare? position).any Ordering.isGE

/-- Index, from `index` on, of the first weight at which the cumulative weight reaches a
position. -/
def firstReaching? (position : Binary64) (total : Nat) (running index : Nat) : List Nat → Option Nat
  | [] => none
  | w :: ws =>
    if reaches position (running + w) total then some index
    else firstReaching? position total (running + w) (index + 1) ws

/-- The total of some weights. -/
def totalWeight : List Nat → Nat
  | [] => 0
  | w :: ws => w + totalWeight ws

/-- The index selected by a position among variants of the given weights. -/
def bucket? (weights : List Nat) (position : Binary64) : Option Nat :=
  if weights.isEmpty then none
  else if totalWeight weights = 0 then some 0
  else some ((firstReaching? position (totalWeight weights) 0 0 weights).getD 0)

namespace Distribution

def weights {α : Type} (d : Distribution α) : List Nat := d.variants.map fun v => v.weight.toNat

/-- The text that pins a caller to a variant, if the caller has one. -/
def identity? (d : WeightedValues) (properties : Properties) : Option String := do
  let name ← d.hashBy
  let v ← properties.get? name
  v.value.scalarText?

def position (d : WeightedValues) (chance : Chance) (key : String) (properties : Properties) :
    Binary64 :=
  match d.identity? properties with
  | some identity => chance.sharder.place key identity
  | none => chance.draw

/-- The value and index of the variant at a position. -/
def at? (d : WeightedValues) (position : Binary64) : Option (ConfigValue × Nat) := do
  let i ← bucket? d.weights position
  let v ← d.variants[i]?
  some (v.value, i)

/-- The selected variant's value and index. -/
def select? (d : WeightedValues) (chance : Chance) (key : String) (properties : Properties) :
    Option (ConfigValue × Nat) :=
  d.at? (d.position chance key properties)

end Distribution
end LiveConfig

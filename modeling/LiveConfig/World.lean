import LiveConfig.Context.Merge
import LiveConfig.Distribution

/-! What reads find outside of the snapshot: the clock, the draws, the environment, and the order of
merged contexts.

Each is a value, so that a result is a function of it. Evaluations are numbered in the order in
which an operation performs them, and each sees one reading of the clock and a source of positions
of its own. -/
namespace LiveConfig

/-- Readings of the clock in milliseconds, by the number of the evaluation that takes them. -/
abbrev Clock := Nat → Int64

abbrev Variables := String → Option String

/-- What one read finds. `draws` has the positions for the selections of each evaluation, and
`listing` is the order of the contexts that are merged for the read. -/
structure World where
  clock : Clock
  draws : Nat → Draws
  vars : Variables
  listing : Listing

end LiveConfig

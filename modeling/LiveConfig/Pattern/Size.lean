import LiveConfig.Pattern.Basic
import LiveConfig.Text.Encoding

/-! The size of a pattern.

A pattern is worth a search only if its automaton stays small. The size is the memory of the
automaton that reads a text byte by byte: thirty-two bytes for a state, eight for each range of
bytes that a state tells apart, four for each way out of a fork. Repetitions are written out, so the
counts in a pattern multiply. Sets beyond ASCII take a tree of states, in which equal branches are
shared; the table of branches that can be shared has a fixed number of places, and a branch takes
the place that its hash gives away from the one before it. A pattern has two automata, one for
either direction of reading, and both have to stay within the limit.

`measure` adds the states of a pattern to a draft of the automaton, and stops once the draft is over
the limit, so its time is bounded whatever the counts are. It also tells whether the piece ends in a
fork, which has one more way out when another piece follows. -/
namespace LiveConfig.Pattern

def sizeLimit : Nat := 10 * 1024 * 1024

/-- Sets beyond ASCII with the sequences that encode them. Each is worked out once however often it
is repeated. -/
abbrev Encodings := List (CodeSet × List (List (Nat × Nat)))

def Encodings.get (known : Encodings) (s : CodeSet) : List (List (Nat × Nat)) :=
  match known.find? fun e => e.1 = s with
  | some e => e.2
  | none => Encoding.sequences s

def sets : Pattern → List CodeSet
  | .empty | .text _ | .look _ => []
  | .one s => [s]
  | .group p => p.sets
  | .times p _ _ _ => p.sets
  | .seq ps => all ps
  | .alt ps => all ps
where
  all : List Pattern → List CodeSet
    | [] => []
    | p :: ps => p.sets ++ all ps

def encodings (p : Pattern) : Encodings :=
  (p.sets.filter fun s => !s.isAscii).eraseDups.map fun s => (s, Encoding.sequences s)

/-- A step on a range of bytes to a state. -/
structure Edge where
  least : Nat
  most : Nat
  target : Nat
deriving DecidableEq, Inhabited

/-- An automaton under construction: how many states it has, how many bytes beyond those of the
states alone, and the branches that can be shared, each with its state. States are numbered in the
order in which they are added. -/
structure Draft where
  states : Nat
  extra : Nat
  branches : Array (List Edge × Nat)
  steps : Array (Edge × Nat)

namespace Draft

def start : Draft :=
  ⟨0, 0, Array.replicate 10000 ([], 0), Array.replicate 1000 (default, 0)⟩

def size (d : Draft) : Nat := 32 * d.states + d.extra

def isFull (d : Draft) : Bool := sizeLimit < d.size

def add (d : Draft) (states extra : Nat) : Draft :=
  { d with states := d.states + states, extra := d.extra + extra }

/-- Connects a piece to what follows it. -/
def follow (d : Draft) (fork : Bool) : Draft := if fork then d.add 0 4 else d

def mix (hash : UInt64) (n : Nat) : UInt64 := (hash ^^^ n.toUInt64) * 1099511628211

def seed : UInt64 := 14695981039346656037

def mixEdges (hash : UInt64) : List Edge → UInt64
  | [] => hash
  | e :: rest => mixEdges (mix (mix (mix hash e.least) e.most) e.target) rest

/-- The state with the given edges, which is a known one if it has kept its place. -/
def branch (d : Draft) (edges : List Edge) : Nat × Draft :=
  let i := (mixEdges seed edges).toNat % d.branches.size
  let known := d.branches.getD i ([], 0)
  if known.1 = edges then (known.2, d)
  else
    (d.states,
      { d with
        states := d.states + 1
        extra := d.extra + 8 * edges.length
        branches := d.branches.setIfInBounds i (edges, d.states) })

/-- The state with one edge, which is a known one if it has kept its place. -/
def step (d : Draft) (e : Edge) : Nat × Draft :=
  let i := (mix (mix (mix seed e.target) e.least) e.most).toNat % d.steps.size
  let known := d.steps.getD i (default, 0)
  if known.1 = e then (known.2, d)
  else
    (d.states,
      { d with states := d.states + 1, steps := d.steps.setIfInBounds i (e, d.states) })

/-- A branch that may still grow: its finished edges, last first, and the range of an edge whose
target is not finished. -/
structure OpenBranch where
  edges : List Edge
  last : Option (Nat × Nat)

/-- The edges of a branch when its last target is known, last first. -/
def OpenBranch.finish (b : OpenBranch) (target : Nat) : List Edge :=
  match b.last with
  | some (lo, hi) => ⟨lo, hi, target⟩ :: b.edges
  | none => b.edges

/-- Finishes open branches, each being the target of the one before it. -/
def finish (goal : Nat) : List OpenBranch → Draft → Nat × Draft
  | [], d => (goal, d)
  | b :: deeper, d =>
    let (target, d) := finish goal deeper d
    d.branch (b.finish target).reverse

/-- Adds a sequence of byte ranges to a tree. The open branches lead to the sequence before it, and
those stay open that the two have in common. -/
def grow (goal : Nat) : List OpenBranch → List (Nat × Nat) → Draft → List OpenBranch × Draft
  | b :: deeper, r :: rest, d =>
    if b.last = some r && !rest.isEmpty then
      let (deeper, d) := grow goal deeper rest d
      (b :: deeper, d)
    else
      let (target, d) := finish goal deeper d
      (⟨b.finish target, some r⟩ :: rest.map fun r => ⟨[], some r⟩, d)
  | branches, _, d => (branches, d)

/-- Sequences as a tree that shares their ends. -/
def addTree (d : Draft) (sequences : List (List (Nat × Nat))) : Draft :=
  let goal := d.states
  let (branches, d) := sequences.foldl
    (fun (branches, d) sequence => grow goal branches sequence d) ([⟨[], none⟩], d.add 1 0)
  (finish goal branches d).2

/-- Sequences as a fork into all of them read backward, which share their ends. -/
def addFork (d : Draft) (sequences : List (List (Nat × Nat))) : Draft :=
  let goal := d.states + 1
  sequences.foldl (fun d sequence =>
    (sequence.foldl (fun (target, d) r => d.step ⟨r.1, r.2, target⟩) (goal, d)).2.add 0 4)
    (d.add 2 0)

def addSet (d : Draft) (known : Encodings) (backward : Bool) (s : CodeSet) : Draft :=
  if s.isAscii then d.add 2 (8 * s.ranges.length)
  else if backward then d.addFork (known.get s)
  else d.addTree (known.get s)

/-- Pieces in a row, the first after a piece that ends as told. -/
def copies (piece : Draft → Bool × Draft) : Nat → Bool → Draft → Bool × Draft
  | 0, fork, d => (fork, d)
  | n + 1, fork, d =>
    if d.isFull then (fork, d)
    else
      let (next, d) := piece (d.follow fork)
      copies piece n next d

def exactly (piece : Draft → Bool × Draft) (n : Nat) (d : Draft) : Bool × Draft :=
  if n = 0 then (false, d.add 1 0) else copies piece n false d

/-- Pieces that may be left out, each together with those after it. -/
def options (piece : Draft → Bool × Draft) : Nat → Bool → Draft → Bool × Draft
  | 0, fork, d => (fork, d)
  | n + 1, fork, d =>
    if d.isFull then (fork, d)
    else
      let (next, d) := piece ((d.add 1 8).follow fork)
      options piece n next d

/-- Any number of pieces from `n` on. A piece that may be empty needs a fork of its own to leave the
loop before it has been entered. -/
def atLeast (piece : Draft → Bool × Draft) (neverEmpty : Bool) (n : Nat) (d : Draft) :
    Bool × Draft :=
  if n = 0 then
    if neverEmpty then
      let (fork, d) := piece (d.add 1 4)
      (true, d.follow fork)
    else
      let (fork, d) := piece d
      (false, (d.add 3 16).follow fork)
  else
    let (fork, d) := copies piece n false d
    (true, (d.add 1 4).follow fork)

def between (piece : Draft → Bool × Draft) (least most : Nat) (d : Draft) : Bool × Draft :=
  if most = least then exactly piece least d
  else if least = 0 && most = 1 then
    let (fork, d) := piece (d.add 1 0)
    (false, (d.add 1 8).follow fork)
  else
    let (fork, d) := exactly piece least d
    let (fork, d) := options piece (most - least) fork (d.add 1 0)
    (false, d.follow fork)

end Draft

def firstBytes (texts : List (List UInt8)) : List UInt8 := (texts.filterMap List.head?).eraseDups

/-- Splits texts at those that are empty. -/
def splitAtEmpty (texts : List (List UInt8)) : List (List (List UInt8)) :=
  texts.foldr (fun t runs =>
    if t.isEmpty then [] :: runs
    else match runs with
      | run :: rest => (t :: run) :: rest
      | [] => [[t]]) [[]]

/-- Adds the tree of texts, in which texts share their beginnings unless a text that ends there
stands between them. `depth` is more than the length of the texts. -/
def addTexts : Nat → List (List UInt8) → Draft → Draft
  | 0, _, d => d
  | depth + 1, texts, d =>
    let (ends, others) := texts.span List.isEmpty
    if others.isEmpty then d
    else
      let runs := splitAtEmpty (ends.take 1 ++ others)
      let ways := (runs.filter fun run => !run.isEmpty).length + (runs.length - 1)
      runs.foldl (fun d run =>
        let firsts := firstBytes run
        let d := firsts.foldl (fun d first =>
          addTexts depth ((run.filter fun t => t.head? = some first).map List.tail) d) d
        if firsts.isEmpty then d
        else d.add 1 (if 1 < firsts.length then 8 * firsts.length else 0)) (d.add 1 (4 * ways))

def text? : Pattern → Option (List Char)
  | .text cs => some cs
  | _ => none

def addChoice (backward : Bool) (texts : List (List Char)) (d : Draft) : Draft :=
  let encoded := texts.map fun cs =>
    let bytes := cs.flatMap String.utf8EncodeChar
    if backward then bytes.reverse else bytes
  addTexts ((encoded.map List.length).foldl max 0 + 1) encoded (d.add 1 0)

/-- Adds the states of a pattern; tells whether it ends in a fork. -/
def measure (known : Encodings) (backward : Bool) : Pattern → Draft → Bool × Draft
  | .empty, d => (false, d.add 1 0)
  | .text cs, d => (false, d.add (cs.flatMap String.utf8EncodeChar).length 0)
  | .one s, d => (false, d.addSet known backward s)
  | .look _, d => (false, d.add 1 0)
  | .group p, d =>
    if backward then measure known backward p d
    else
      let (fork, d) := measure known backward p (d.add 1 0)
      (false, (d.add 1 0).follow fork)
  | .times p least most _, d =>
    match most with
    | none => d.atLeast (measure known backward p) (p.leastLength.any (0 < ·)) least
    | some most => d.between (measure known backward p) least most
  | .seq ps, d => row ps false d
  | .alt ps, d =>
    match ps.mapM text? with
    | some texts => (false, addChoice backward texts d)
    | none => (false, alternatives 0 ps d)
where
  row : List Pattern → Bool → Draft → Bool × Draft
    | [], fork, d => (fork, d)
    | p :: ps, fork, d =>
      if d.isFull then (fork, d)
      else if backward then
        let (fork, d) := row ps fork d
        measure known backward p (d.follow fork)
      else
        let (fork, d) := measure known backward p (d.follow fork)
        row ps fork d
  /-- Alternatives between a fork and a state where they meet, both added after the second. -/
  alternatives : Nat → List Pattern → Draft → Draft
    | _, [], d => d
    | i, p :: ps, d =>
      if d.isFull then d
      else
        let (fork, d) := measure known backward p d
        alternatives (i + 1) ps ((d.add (if i = 1 then 2 else 0) 4).follow fork)

/-- The size of the automaton for one direction. A match may start anywhere unless the pattern says
where, which takes a loop in front of it. -/
def size (known : Encodings) (backward : Bool) (p : Pattern) : Nat :=
  let anchored := if backward then p.endsWith .textEnd else p.startsWith .textStart
  let d := if anchored then Draft.start.add 1 0 else Draft.start.add 3 16
  let (fork, d) := measure known backward (.group p) d
  ((d.add 1 0).follow fork).size

def fits (p : Pattern) : Bool :=
  let known := p.encodings
  p.size known false ≤ sizeLimit && p.size known true ≤ sizeLimit

end LiveConfig.Pattern

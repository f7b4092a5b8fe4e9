import LiveConfig.Pattern.Look

/-! Search patterns after their notation has been read.

A pattern consumes texts and characters from sets, in sequence, by choice and by repetition, and
looks at the characters on the two sides of a position without consuming any. Patterns are kept in a
simple form, which the functions `ofSet`, `sequence`, `choice` and `repeated` build: texts side by
side are one text, a sequence has no sequence and no empty pattern among its parts, a choice has no
choice among its own and is a set where it can be one, and a repetition of what is always empty
happens once at most. The simple form matches what the written form does; it matters because the
size of a pattern is that of its simple form. -/
namespace LiveConfig

inductive Pattern
  | empty
  /-- One or more characters. -/
  | text (cs : List Char)
  /-- A character from a set; nothing matches the empty set. -/
  | one (s : CodeSet)
  | look (l : Look)
  /-- A group whose match is remembered, which a search for the pattern does not ask for. -/
  | group (p : Pattern)
  /-- From `least` to `most` times; without `most` any number of times from `least` on. Greed says
  which of several matches is preferred. -/
  | times (p : Pattern) (least : Nat) (most : Option Nat) (greedy : Bool)
  | seq (ps : List Pattern)
  | alt (ps : List Pattern)
deriving Inhabited

namespace Pattern

/-- Whether all that matches is empty. -/
def onlyEmpty : Pattern → Bool
  | .empty | .look _ => true
  | .text _ | .one _ => false
  | .group p => p.onlyEmpty
  | .times p _ _ _ => p.onlyEmpty
  | .seq ps => allOnlyEmpty ps
  | .alt ps => allOnlyEmpty ps
where
  allOnlyEmpty : List Pattern → Bool
    | [] => true
    | p :: ps => p.onlyEmpty && allOnlyEmpty ps

/-- The least number of characters in a match, as far as it is known: a part that may match nothing
at all makes it unknown. -/
def leastLength : Pattern → Option Nat
  | .empty | .look _ => some 0
  | .text cs => some cs.length
  | .one s => if s = .empty then none else some 1
  | .group p => p.leastLength
  | .times p least _ _ => p.leastLength.map (· * least)
  | .seq ps => sum ps
  | .alt ps => least ps
where
  sum : List Pattern → Option Nat
    | [] => some 0
    | p :: ps => do return (← p.leastLength) + (← sum ps)
  least : List Pattern → Option Nat
    | [] => none
    | [p] => p.leastLength
    | p :: ps => do return min (← p.leastLength) (← least ps)

/-- Whether a match of the parts in a row starts with the condition: the first part that may be
other than empty is the last that is asked. -/
def startsWith (l : Look) : Pattern → Bool
  | .look k => k = l
  | .group p => p.startsWith l
  | .times p least _ _ => 0 < least && p.startsWith l
  | .seq ps => some ps
  | .alt ps => every ps
  | _ => false
where
  some : List Pattern → Bool
    | [] => false
    | p :: ps => p.startsWith l || (p.onlyEmpty && some ps)
  every : List Pattern → Bool
    | [] => true
    | p :: ps => p.startsWith l && every ps

/-- The same for the end of a match. -/
def endsWith (l : Look) : Pattern → Bool
  | .look k => k = l
  | .group p => p.endsWith l
  | .times p least _ _ => 0 < least && p.endsWith l
  | .seq ps => some ps
  | .alt ps => every ps
  | _ => false
where
  some : List Pattern → Bool
    | [] => false
    | p :: ps => some ps || (ps.all onlyEmpty && p.endsWith l)
  every : List Pattern → Bool
    | [] => true
    | p :: ps => p.endsWith l && every ps

/-- Whether two patterns are built alike. Two groups are never alike, since each remembers a match
of its own. -/
def same : Pattern → Pattern → Bool
  | .empty, .empty => true
  | .text a, .text b => a = b
  | .one s, .one t => s = t
  | .look k, .look l => k = l
  | .times p a b g, .times q a' b' g' => a = a' && b = b' && g = g' && p.same q
  | .seq ps, .seq qs => sameList ps qs
  | .alt ps, .alt qs => sameList ps qs
  | _, _ => false
where
  sameList : List Pattern → List Pattern → Bool
    | [], [] => true
    | p :: ps, q :: qs => p.same q && sameList ps qs
    | _, _ => false

/-- A character from a set, as a text if there is only one. -/
def ofSet (s : CodeSet) : Pattern :=
  match s.ranges with
  | [(lo, hi)] => if lo = hi then .text [Char.ofNat lo] else .one s
  | _ => .one s

def parts : Pattern → List Pattern
  | .seq ps => ps
  | .empty => []
  | p => [p]

/-- Joins texts that stand side by side. -/
def joinTexts (ps : List Pattern) : List Pattern :=
  ps.foldr (fun p joined =>
    match p, joined with
    | .text a, .text b :: rest => .text (a ++ b) :: rest
    | _, _ => p :: joined) []

def sequence (ps : List Pattern) : Pattern :=
  match joinTexts (ps.flatMap parts) with
  | [] => .empty
  | [p] => p
  | joined => .seq joined

def alternatives : Pattern → List Pattern
  | .alt ps => ps
  | p => [p]

/-- The set of a text of one character. -/
def charSet? : Pattern → Option CodeSet
  | .text [c] => some (.ofChar c)
  | _ => none

def set? : Pattern → Option CodeSet
  | .one s => some s
  | _ => none

/-- A choice between alternatives that are no choices: a set if all of them are single characters,
or all of them sets. -/
def flatChoice (ps : List Pattern) : Pattern :=
  match ps with
  | [] => .one .empty
  | [p] => p
  | ps =>
    match (ps.mapM charSet?).or (ps.mapM set?) with
    | some sets => ofSet (.unions sets)
    | none => .alt ps

/-- How many parts two sequences have in common at their start. -/
def commonLength : List Pattern → List Pattern → Nat
  | p :: ps, q :: qs => if p.same q then commonLength ps qs + 1 else 0
  | _, _ => 0

def sequence? : Pattern → Option (List Pattern)
  | .seq ps => some ps
  | _ => none

/-- A choice between sequences that start alike is the common start and then a choice. -/
def liftStart? (ps : List Pattern) : Option Pattern := do
  let sequences ← ps.mapM sequence?
  match sequences with
  | first :: others =>
    let common := others.foldl (fun n other => min n (commonLength first other)) first.length
    if common = 0 then none
    else
      let rests := sequences.map fun s => sequence (s.drop common)
      return sequence (first.take common ++ [flatChoice (rests.flatMap alternatives)])
  | [] => none

def choice (ps : List Pattern) : Pattern :=
  match flatChoice (ps.flatMap alternatives) with
  | .alt ps => (liftStart? ps).getD (.alt ps)
  | p => p

def repeated (p : Pattern) (least : Nat) (most : Option Nat) (greedy : Bool) : Pattern :=
  let (least, most) :=
    if p.onlyEmpty then (min least 1, some (min (most.getD 1) 1)) else (least, most)
  if most = some 0 then .empty
  else if least = 1 && most = some 1 then p
  else .times p least most greedy

end Pattern
end LiveConfig

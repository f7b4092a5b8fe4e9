import LiveConfig.Text.Pieces

/-! Sets of Unicode code points as lists of ranges.

A set lists closed ranges in increasing order with a gap between neighbours. `ofRanges` brings any
list of ranges into that form, and each operation keeps it. The surrogates are no characters: where
an operation steps to the character after a range or before one, it steps over them. Tables of
character properties are written as text, each range as hexadecimal bounds. -/
namespace LiveConfig

/-- The last code point. -/
def lastCodePoint : Nat := 0x10FFFF

structure CodeSet where
  ranges : List (Nat × Nat)
deriving DecidableEq, Inhabited

namespace CodeSet

def empty : CodeSet := ⟨[]⟩

def all : CodeSet := ⟨[(0, lastCodePoint)]⟩

def single (n : Nat) : CodeSet := ⟨[(n, n)]⟩

def ofChar (c : Char) : CodeSet := single c.toNat

/-- Membership in ranges that increase. -/
def containsIn (n : Nat) : List (Nat × Nat) → Bool
  | [] => false
  | (lo, hi) :: rest => if n < lo then false else if n ≤ hi then true else containsIn n rest

def contains (s : CodeSet) (c : Char) : Bool := containsIn c.toNat s.ranges

/-- Extends the range `lo` to `hi` by the ranges that touch it, in a list ordered by lower bound. -/
def joinFrom (lo hi : Nat) : List (Nat × Nat) → List (Nat × Nat)
  | [] => [(lo, hi)]
  | (lo', hi') :: rest =>
    if lo' ≤ hi + 1 then joinFrom lo (max hi hi') rest else (lo, hi) :: joinFrom lo' hi' rest

def join : List (Nat × Nat) → List (Nat × Nat)
  | [] => []
  | (lo, hi) :: rest => joinFrom lo hi rest

def ofRanges (rs : List (Nat × Nat)) : CodeSet := ⟨join (rs.mergeSort fun a b => a.1 ≤ b.1)⟩

def ofRange (lo hi : Nat) : CodeSet := ofRanges [(lo, hi)]

def union (s t : CodeSet) : CodeSet := ofRanges (s.ranges ++ t.ranges)

/-- The next character after one, over the surrogates, which are no characters. -/
def next (n : Nat) : Nat := if n = 0xD7FF then 0xE000 else n + 1

/-- The character before one. -/
def previous (n : Nat) : Nat := if n = 0xE000 then 0xD7FF else n - 1

/-- The range with two ends, in either order. -/
def between (a b : Nat) : Nat × Nat := (min a b, max a b)

/-- The gaps of increasing ranges, from `start` on. A gap that holds the surrogates alone is taken
to be its two neighbours. -/
def gaps (start : Nat) : List (Nat × Nat) → List (Nat × Nat)
  | [] => if start ≤ lastCodePoint then [(start, lastCodePoint)] else []
  | (lo, hi) :: rest => between start (previous lo) :: gaps (next hi) rest

def complement (s : CodeSet) : CodeSet :=
  match s.ranges with
  | (0, hi) :: rest => ⟨gaps (next hi) rest⟩
  | rs => ⟨gaps 0 rs⟩

def interRange (r s : Nat × Nat) : Option (Nat × Nat) :=
  if max r.1 s.1 ≤ min r.2 s.2 then some (max r.1 s.1, min r.2 s.2) else none

def inter (s t : CodeSet) : CodeSet :=
  ⟨s.ranges.flatMap fun r => t.ranges.filterMap (interRange r)⟩

/-- What is left of a range without increasing others. -/
def diffRange (lo hi : Nat) : List (Nat × Nat) → List (Nat × Nat)
  | [] => [(lo, hi)]
  | (lo', hi') :: rest =>
    if hi' < lo then diffRange lo hi rest
    else if hi < lo' then [(lo, hi)]
    else
      let before := if lo < lo' then [(lo, previous lo')] else []
      if hi' < hi then before ++ diffRange (next hi') hi rest else before

def diff (s t : CodeSet) : CodeSet := ⟨s.ranges.flatMap fun r => diffRange r.1 r.2 t.ranges⟩

def symmDiff (s t : CodeSet) : CodeSet := (s.union t).diff (s.inter t)

def unions (sets : List CodeSet) : CodeSet := ofRanges (sets.flatMap ranges)

/-- Whether every member is an ASCII character. -/
def isAscii (s : CodeSet) : Bool := s.ranges.all fun r => r.2 < 128

def hexDigit? (c : Char) : Option Nat :=
  if '0' ≤ c ∧ c ≤ '9' then some (c.toNat - 48)
  else if 'A' ≤ c ∧ c ≤ 'F' then some (c.toNat - 55)
  else if 'a' ≤ c ∧ c ≤ 'f' then some (c.toNat - 87)
  else none

/-- Value of hexadecimal digits; other characters count nothing. -/
def hexValue (cs : List Char) : Nat := cs.foldl (fun n c => n * 16 + (hexDigit? c).getD 0) 0

/-- Ranges written `lo-hi`, `lo` for one code point, or `lo~hi` for every second code point. -/
def rangesOfText (cs : List Char) : List (Nat × Nat) :=
  let isDigit (c : Char) : Bool := (hexDigit? c).isSome
  let lo := hexValue (cs.takeWhile isDigit)
  match cs.dropWhile isDigit with
  | '-' :: rest => [(lo, hexValue rest)]
  | '~' :: rest =>
    (List.range ((hexValue rest - lo) / 2 + 1)).map fun i => (lo + 2 * i, lo + 2 * i)
  | _ => [(lo, lo)]

/-- Ranges written one after another. -/
def ofText (s : String) : CodeSet := ofRanges ((Text.words s.toList).flatMap rangesOfText)

end CodeSet
end LiveConfig

import LiveConfig.Text.CodeSet

/-! Sets of characters as sequences of byte ranges.

A character is encoded in one to four bytes. A range of code points is cut into pieces such that the
encodings of a piece are all the sequences that take each byte from a range of its own. -/
namespace LiveConfig.Encoding

def bytes (n : Nat) : List Nat := (String.utf8EncodeChar (Char.ofNat n)).map UInt8.toNat

/-- Where a range has to be cut: where encodings grow longer, and at the last and the first code
point of a block that it covers in part. A block holds the code points that differ in their last
one, two or three bytes alone. -/
def cuts (lo hi : Nat) : List Nat :=
  if hi < 0x80 then []
  else
    [0x80, 0x800, 0x10000] ++
      [0x40, 0x1000, 0x40000].flatMap fun block =>
        [(lo + block - 1) / block * block, (hi + 1) / block * block]

/-- The pieces of a range in increasing order. -/
def pieces (lo hi : Nat) : List (Nat × Nat) :=
  match _h : (cuts lo hi).find? fun c => lo < c && c ≤ hi with
  | some c => pieces lo (c - 1) ++ pieces c hi
  | none => [(lo, hi)]
termination_by hi - lo
decreasing_by
  all_goals
    have := List.find?_some _h
    simp only [Bool.and_eq_true, decide_eq_true_eq] at this
    omega

def surrogates : CodeSet := .ofRange 0xD800 0xDFFF

/-- The sequences of byte ranges that encode the members of a set. -/
def sequences (s : CodeSet) : List (List (Nat × Nat)) :=
  ((s.diff surrogates).ranges.flatMap fun r => pieces r.1 r.2).map fun p =>
    (bytes p.1).zip (bytes p.2)

end LiveConfig.Encoding

import LiveConfig.Text.Pieces
import LiveConfig.Text.Property

/-! Trimming of white space, and the case of ASCII letters.

White space is the Unicode property, so the no-break space and the ideographic space are trimmed
along with the blank. Words are compared without the case of ASCII letters only. -/
namespace LiveConfig.Text

def isBlank (c : Char) : Bool := Property.whiteSpace.contains c

/-- Text without the white space at its two ends. -/
def trim (cs : List Char) : List Char :=
  ((cs.dropWhile isBlank).reverse.dropWhile isBlank).reverse

/-- Text with the ASCII letters in upper case. -/
def upperAscii (cs : List Char) : List Char := cs.map Char.toUpper

def sameWord (a b : List Char) : Bool := upperAscii a = upperAscii b

/-- Whether `part` stands somewhere in a text. -/
def hasInfix (part : List Char) : List Char → Bool
  | [] => part.isEmpty
  | c :: cs => part.isPrefixOf (c :: cs) || hasInfix part cs

/-- The longest dotted ancestor: what stands before the last dot, or nothing. -/
def dottedParent (cs : List Char) : List Char := ((cs.reverse.dropWhile (· ≠ '.')).drop 1).reverse

theorem dottedParent_length_le (cs : List Char) : (dottedParent cs).length ≤ cs.length - 1 := by
  have h := (List.dropWhile_sublist (fun c : Char => decide (c ≠ '.')) (l := cs.reverse)).length_le
  simp only [dottedParent, List.length_reverse, List.length_drop] at *
  omega

end LiveConfig.Text

import LiveConfig.Text.Property

/-! Conditions on the characters around a position.

A condition sees one character on either side and consumes neither. The flag of a word condition
tells whether words are made of Unicode or only of ASCII characters. -/
namespace LiveConfig

inductive Look
  | textStart | textEnd
  | lineStart | lineEnd
  | lineStartCrlf | lineEndCrlf
  | wordBoundary (unicode : Bool) | notWordBoundary (unicode : Bool)
  | wordStart (unicode : Bool) | wordEnd (unicode : Bool)
  | wordStartHalf (unicode : Bool) | wordEndHalf (unicode : Bool)
deriving DecidableEq, Inhabited

namespace Look

def asciiWord : CodeSet := .ofText "30-39 41-5A 5F 61-7A"

def inWord (unicode : Bool) : Option Char → Bool
  | some c => if unicode then Property.wordLike.contains c else asciiWord.contains c
  | none => false

def holds (before next : Option Char) : Look → Bool
  | textStart => before.isNone
  | textEnd => next.isNone
  | lineStart => before.isNone || before = some '\n'
  | lineEnd => next.isNone || next = some '\n'
  | lineStartCrlf => before.isNone || before = some '\n' || (before = some '\r' && next ≠ some '\n')
  | lineEndCrlf => next.isNone || next = some '\r' || (next = some '\n' && before ≠ some '\r')
  | wordBoundary u => inWord u before != inWord u next
  | notWordBoundary u => inWord u before == inWord u next
  | wordStart u => !inWord u before && inWord u next
  | wordEnd u => inWord u before && !inWord u next
  | wordStartHalf u => !inWord u before
  | wordEndHalf u => !inWord u next

end Look
end LiveConfig

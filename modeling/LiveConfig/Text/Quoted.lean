import LiveConfig.Text.Current

/-! Quoted text.

A quoted text stands between double quotes. The quote, the backslash and the common controls are
written with a backslash and a letter; every other character that does not print, or that would
attach itself to the character before it, is written as its code point in hexadecimal. -/
namespace LiveConfig.Text

/-- Code point in braces after a backslash and the letter u. -/
def escapeCodePoint (c : Char) : List Char :=
  '\\' :: 'u' :: '\x7b' :: (Nat.toDigits 16 c.toNat ++ ['\x7d'])

def quoteChar (c : Char) : List Char :=
  match c with
  | '\x00' => ['\\', '0']
  | '\t' => ['\\', 't']
  | '\n' => ['\\', 'n']
  | '\r' => ['\\', 'r']
  | '"' => ['\\', '"']
  | '\\' => ['\\', '\\']
  | c =>
    if Current.graphemeExtend.contains c || !Current.printable.contains c then escapeCodePoint c
    else [c]

def quoted (s : String) : String := String.ofList ('"' :: (s.toList.flatMap quoteChar ++ ['"']))

end LiveConfig.Text

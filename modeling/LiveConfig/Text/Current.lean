import LiveConfig.Text.Property

/-! Character properties, by Unicode 17.

Quoted texts and the names of groups follow this version, while the tables of the other modules hold
version 16. The later version changed none of these properties for characters that were there
before, so each is the earlier one with the characters that were added. -/
namespace LiveConfig.Current

def added : CodeSet := .ofText
  "88F C5C CDC 1ACF-1ADD 1AE0-1AEB 20C1 2B96 A7CE-A7CF A7D2 A7D4 A7F1 FBC3-FBD2 FD90-FD91 FDC8-FDCE
    10940-10959 10EC5-10EC7 10ED0-10ED8 10EFA-10EFB 11B60-11B67 11DB0-11DDB 11DE0-11DE9 16EA0-16EB8
    16EBB-16ED3 16FF2-16FF6 187F8-187FF 18D09-18D1E 18D80-18DF2 1CCFA-1CCFC 1CEBA-1CED0 1CEE0-1CEF0
    1E6C0-1E6DE 1E6E0-1E6F5 1E6FE-1E6FF 1F6D8 1F777-1F77A 1F8D0-1F8D8 1FA54-1FA57 1FA8A 1FA8E 1FAC8
    1FACD 1FAEA 1FAEF 1FBFA 2B73A-2B73F 2CEA2-2CEAD 323B0-33479"

def addedAlphabetic : CodeSet := .ofText
  "88F C5C CDC A7CE-A7CF A7D2 A7D4 A7F1 10940-10959 10EC5-10EC7 10EFA-10EFB 11B60-11B67 11DB0-11DDB
    16EA0-16EB8 16EBB-16ED3 16FF2-16FF6 187F8-187FF 18D09-18D1E 18D80-18DF2 1E6C0-1E6DE 1E6E0-1E6F5
    1E6FE-1E6FF 2B73A-2B73F 2CEA2-2CEAD 323B0-33479"

def addedNumber : CodeSet := .ofText "11DE0-11DE9 16FF4-16FF6"

def addedExtend : CodeSet := .ofText
  "1ACF-1ADD 1AE0-1AEB 10EFA-10EFB 11B60 11B62-11B64 11B66 1E6E3 1E6E6 1E6EE-1E6EF 1E6F5"

def alphabetic : CodeSet := Property.alphabetic.union addedAlphabetic

/-- Letters and all that counts as a number. -/
def alphanumeric : CodeSet := .unions [alphabetic, Category.number, addedNumber]

def graphemeExtend : CodeSet := Property.graphemeExtend.union addedExtend

/-- Everything but controls, formats, private and unassigned code points, separators other than the
blank, and what is not displayed. -/
def printable : CodeSet :=
  ((CodeSet.unions [Category.other, Category.separator.diff (.single 0x20),
    Property.defaultIgnorableCodePoint]).diff added).complement

end LiveConfig.Current

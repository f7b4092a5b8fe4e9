import LiveConfig.Text.Property
import LiveConfig.Text.Script

/-! Where characters, words and sentences may end, by Unicode 16.

Three properties sort the characters by what they do at such a boundary. Most of their values follow
from categories and other properties by the rules of the standard; the short lists hold the
characters that the rules name one by one. -/
namespace LiveConfig.Boundary

def lineFeed : CodeSet := .single 0xA

def carriageReturn : CodeSet := .single 0xD

def zeroWidthJoiner : CodeSet := .single 0x200D

/-- Number signs that stand before the digits that they join. -/
def arabicNumberSign : CodeSet := .ofText "600-605 6DD 890-891 8E2"

/-- Marks that belong to the character before them. -/
def attached : CodeSet := Property.graphemeExtend.union Category.spacingMark

def scriptOf (name : String) : CodeSet := (Script.named? name).getD .empty

/-- The first syllable of each row of Hangul, which has no final consonant. -/
def openSyllable : CodeSet :=
  .ofRanges ((List.range 399).map fun i => (0xAC00 + 28 * i, 0xAC00 + 28 * i))

def closedSyllable : CodeSet := (CodeSet.ofRange 0xAC00 0xD7A3).diff openSyllable

def graphemeControl : CodeSet :=
  (CodeSet.unions [Category.lineSeparator, Category.paragraphSeparator, Category.control,
    Category.format, Category.unassigned.inter Property.defaultIgnorableCodePoint]).diff
    (.unions [lineFeed, carriageReturn, zeroWidthJoiner, Property.graphemeExtend,
      Property.prependedConcatenationMark])

def graphemeExtender : CodeSet := Property.graphemeExtend.union Property.emojiModifier

def prepended : CodeSet :=
  Property.prependedConcatenationMark.union
    (.ofText "D4E 111C2-111C3 113D1 1193F 11941 11A3A 11A84-11A89 11D46 11F02")

/-- Spacing marks that do not part from their base, which some scripts let them do. -/
def boundSpacingMark : CodeSet :=
  ((Category.spacingMark.diff Property.graphemeExtend).union (.ofText "E33 EB3")).diff
    (.ofText
      "102B-102C 1038 1062-1064 1067-106D 1083 1087-108C 108F 109A-109C 1A61 1A63-1A64 AA7B AA7D
       11720-11721")

/-- Values of the grapheme cluster break under their names. -/
def grapheme : List (List String × CodeSet) := [
  (["cr"], carriageReturn),
  (["lf"], lineFeed),
  (["cn", "control"], graphemeControl),
  (["ex", "extend"], graphemeExtender),
  (["zwj"], zeroWidthJoiner),
  (["ri", "regionalindicator"], Property.regionalIndicator),
  (["pp", "prepend"], prepended),
  (["sm", "spacingmark"], boundSpacingMark),
  (["l"], .ofText "1100-115F A960-A97C"),
  (["v"], .ofText "1160-11A7 D7B0-D7C6 16D63 16D67-16D6A"),
  (["t"], .ofText "11A8-11FF D7CB-D7FB"),
  (["lv"], openSyllable),
  (["lvt"], closedSyllable)]

def paragraphEnd : CodeSet := .ofText "85 2028-2029"

def sentenceExtend : CodeSet := attached.union zeroWidthJoiner

def georgian : CodeSet := .ofText "10D0-10FF 1C90-1CBF"

def sentenceLower : CodeSet :=
  ((Property.lowercase.diff Property.graphemeExtend).diff georgian).union (.single 0x10FC)

def sentenceUpper : CodeSet := (Property.uppercase.union Category.titlecaseLetter).diff georgian

def numeric : CodeSet :=
  .unions [Category.decimalNumber, arabicNumberSign, .ofText "66B-66C 19DA 110BD 110CD"]

/-- Full stops that may also stand inside a sentence. -/
def ambiguousStop : CodeSet := .ofText "2E 2024 FE52 FF0E"

/-- Values of the sentence break under their names. -/
def sentence : List (List String × CodeSet) := [
  (["cr"], carriageReturn),
  (["lf"], lineFeed),
  (["ex", "extend"], sentenceExtend),
  (["se", "sep"], paragraphEnd),
  (["fo", "format"], Category.format.diff
    (.unions [sentenceExtend, arabicNumberSign, .ofText "110BD 110CD"])),
  (["sp"], Property.whiteSpace.diff (.unions [paragraphEnd, lineFeed, carriageReturn])),
  (["lo", "lower"], sentenceLower),
  (["up", "upper"], sentenceUpper),
  (["le", "oletter"], (Property.alphabetic.union (.single 0x5F3)).diff
    (.unions [sentenceLower, sentenceUpper, sentenceExtend])),
  (["nu", "numeric"], numeric),
  (["at", "aterm"], ambiguousStop),
  (["sc", "scontinue"], .ofText
    "2C-2D 3A-3B 37E 55D 60C-60D 7F8 1802 1808 2013-2014 3001 FE10-FE11 FE13-FE14 FE31-FE32
     FE50-FE51 FE54-FE55 FE58 FE63 FF0C-FF0D FF1A-FF1B FF64"),
  (["st", "sterm"], Property.sentenceTerminal.diff ambiguousStop),
  (["cl", "close"], .unions [Category.openPunctuation, Category.closePunctuation,
    Category.initialPunctuation, Category.finalPunctuation,
    .ofText "22 27 275B-2760 2E00-2E01 2E06-2E08 2E0B 1F676-1F678"])]

def wordExtend : CodeSet := attached.union Property.emojiModifier

def hebrewLetter : CodeSet := (scriptOf "hebr").inter Category.otherLetter

def katakana : CodeSet := (scriptOf "kana").union (.ofText "3031-3035 309B-309C 30A0 30FC FF70")

/-- Letters of scripts that are written without spaces between words. -/
def unspacedLetter : CodeSet :=
  .unions [scriptOf "thai", scriptOf "laoo", scriptOf "khmr", scriptOf "mymr", .ofText
    "1950-196D 1970-1974 1980-19AB 19B0-19C9 1A20-1A54 1AA7 AA80-AAAF AAB1 AAB5-AAB6 AAB9-AABD AAC0
     AAC2 AADB-AADD 11700-1171A 11740-11746"]

/-- Values of the word break under their names. -/
def word : List (List String × CodeSet) := [
  (["cr"], carriageReturn),
  (["lf"], lineFeed),
  (["nl", "newline"], paragraphEnd.union (.ofText "B-C")),
  (["extend"], wordExtend),
  (["zwj"], zeroWidthJoiner),
  (["ri", "regionalindicator"], Property.regionalIndicator),
  (["fo", "format"], Category.format.diff
    (.unions [wordExtend, zeroWidthJoiner, arabicNumberSign, .ofText "70F 200B 110BD 110CD"])),
  (["ka", "katakana"], katakana),
  (["hl", "hebrewletter"], hebrewLetter),
  (["le", "aletter"], (Property.alphabetic.diff
    (.unions [Property.ideographic, katakana, scriptOf "hira", wordExtend, hebrewLetter,
      unspacedLetter])).union
    (.ofText "2C2-2C5 2D2-2D7 2DE-2DF 2E5-2EB 2ED 2EF-2FF 55A-55C 55E 58A 5F3 70F A708-A716
       A720-A721 A789-A78A AB5B")),
  (["sq", "singlequote"], .single 0x27),
  (["dq", "doublequote"], .single 0x22),
  (["mb", "midnumlet"], .ofText "2E 2018-2019 2024 FE52 FF07 FF0E"),
  (["ml", "midletter"], .ofText "3A B7 387 55F 5F4 2027 FE13 FE55 FF1A"),
  (["mn", "midnum"], .ofText "2C 3B 37E 589 60C-60D 66C 7F8 2044 FE50 FE54 FF0C FF1B"),
  (["nu", "numeric"], numeric.diff (.single 0x66C)),
  (["ex", "extendnumlet"], Category.connectorPunctuation.union (.single 0x202F)),
  (["wsegspace"], Category.spaceSeparator.diff (.ofText "A0 2007 202F"))]

/-- The set of a value by one of its names, without case, blanks, hyphens and underscores. -/
def named? (values : List (List String × CodeSet)) (name : String) : Option CodeSet :=
  (values.find? fun row => row.1.contains name).map fun row => row.2

end LiveConfig.Boundary

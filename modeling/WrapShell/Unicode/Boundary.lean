import WrapShell.Unicode.Trait
import WrapShell.Unicode.Script
/-!
# Characters at boundaries

Where a character that is seen as one, a word or a sentence may end depends on the parts that
the characters around the place play. Each of the three has its own parts; most of them follow
from category and traits, up to a few characters.
-/

namespace WrapShell

/-- Characters of one script. -/
def Script.chars (name : Text) : CharSet := ((Script.named? name).map Prod.snd).getD .empty

/-! ## Clusters: what is seen as one character -/

namespace Cluster

/-- Characters that no other joins, apart from the two that end lines. -/
def control : CharSet :=
  (CharSet.unionOf
    [Category.among ["zl", "zp", "cc", "cf"], Category.unassigned.inter Trait.defaultIgnorable]).diff
    (.unionOf [Trait.prependedConcatenationMark, Trait.graphemeExtend, .ofRuns ["A D 200C-200D"]])

/-- Characters that join the one before them. -/
def extend : CharSet := Trait.graphemeExtend.union Trait.emojiModifier

/-- The joiner of pictures. -/
def joiner : CharSet := .ofRuns ["200D"]

/-- Marks that take room and join the character before them. -/
def spacingMark : CharSet :=
  ((Category.spacingMark.diff Trait.graphemeExtend).union (.ofRuns ["E33 EB3"])).diff (.ofRuns [
    "102B-102C 1038 1062-1064 1067-106D 1083 1087-108C 108F 109A-109C 1A61 1A63-1A64 AA7B AA7D 11720-11721"])

/-- Characters that join the one behind them. -/
def prepending : CharSet :=
  Trait.prependedConcatenationMark.union
    (.ofRuns ["D4E 111C2-111C3 113D1 1193F 11941 11A3A 11A84-11A89 11D46 11F02"])

/-- Leading consonants of Korean syllables. -/
def leading : CharSet := .ofRuns ["1100-115F A960-A97C"]

/-- Vowels of Korean syllables, and vowels that behave as those do. -/
def vowel : CharSet := .ofRuns ["1160-11A7 D7B0-D7C6 16D63 16D67-16D6A"]

/-- Trailing consonants of Korean syllables. -/
def trailing : CharSet := .ofRuns ["11A8-11FF D7CB-D7FB"]

/-- Korean syllables without a trailing consonant. -/
def openSyllable : CharSet := .ofRuns ["AC00-D788/1C"]

/-- Korean syllables with a trailing consonant. -/
def closedSyllable : CharSet := (CharSet.ofRange 0xAC00 0xD7A3).diff openSyllable

/-- The parts of characters in clusters, with short and long names. -/
def parts : List (List Text × CharSet) :=
  [(["cn", "control"], control), (["cr"], .ofRuns ["D"]), (["ex", "extend"], extend), (["l"], leading),
    (["lf"], .ofRuns ["A"]), (["lv"], openSyllable), (["lvt"], closedSyllable), (["pp", "prepend"], prepending),
    (["ri", "regionalindicator"], Trait.regionalIndicator), (["sm", "spacingmark"], spacingMark), (["t"], trailing),
    (["v"], vowel), (["zwj"], joiner)]

end Cluster

/-! ## Words -/

namespace WordPart

/-- Signs in front of digits, which belong to the number. -/
def numberSign : CharSet := Trait.prependedConcatenationMark.diff (.ofRuns ["70F"])

def numeric : CharSet := .unionOf [Category.decimalNumber, numberSign, .ofRuns ["66B"]]

def extension : CharSet :=
  (CharSet.unionOf [Trait.graphemeExtend, Category.spacingMark, Trait.emojiModifier]).diff (.ofRuns ["200D"])

def formatting : CharSet :=
  Category.format.diff (.unionOf [Trait.graphemeExtend, Trait.prependedConcatenationMark, .ofRuns ["200B-200D"]])

def katakana : CharSet := (Script.chars "katakana").union (.ofRuns ["3031-3035 309B-309C 30A0 30FC FF70"])

def hebrewLetter : CharSet := (Script.chars "hebrew").inter Category.otherLetter

/-- Scripts that put no blanks between words. -/
def unspaced : CharSet :=
  .unionOf (["hiragana", "thai", "lao", "myanmar", "khmer", "taile", "newtailue", "taitham", "taiviet",
    "ahom"].map fun name => Script.chars name.toList)

/-- Letters of words that blanks keep apart. -/
def letter : CharSet :=
  (Trait.alphabetic.union (.ofRuns [
    "2C2-2C5 2D2-2D7 2DE-2DF 2E5-2EB 2ED 2EF-2FF 55A-55C 55E 58A 5F3 70F A708-A716 A720-A721",
    "A789-A78A AB5B"])).diff
    (.unionOf [Trait.ideographic, katakana, hebrewLetter, unspaced, Trait.graphemeExtend, Category.spacingMark])

def connector : CharSet := Category.connectorPunctuation.union (.ofRuns ["202F"])

/-- The parts of characters in words, with short and long names. -/
def parts : List (List Text × CharSet) :=
  [(["cr"], .ofRuns ["D"]), (["dq", "doublequote"], .ofRuns ["22"]), (["ex", "extendnumlet"], connector),
    (["extend"], extension), (["fo", "format"], formatting), (["hl", "hebrewletter"], hebrewLetter),
    (["ka", "katakana"], katakana), (["le", "aletter"], letter), (["lf"], .ofRuns ["A"]),
    (["mb", "midnumlet"], .ofRuns ["2E 2018-2019 2024 FE52 FF07 FF0E"]),
    (["ml", "midletter"], .ofRuns ["3A B7 387 55F 5F4 2027 FE13 FE55 FF1A"]),
    (["mn", "midnum"], .ofRuns ["2C 3B 37E 589 60C-60D 66C 7F8 2044 FE10 FE14 FE50 FE54 FF0C FF1B"]),
    (["nl", "newline"], .ofRuns ["B-C 85 2028-2029"]), (["nu", "numeric"], numeric),
    (["ri", "regionalindicator"], Trait.regionalIndicator), (["sq", "singlequote"], .ofRuns ["27"]),
    (["wsegspace"], .ofRuns ["20 1680 2000-2006 2008-200A 205F 3000"]), (["zwj"], .ofRuns ["200D"])]

end WordPart

/-! ## Sentences -/

namespace SentencePart

def extension : CharSet := .unionOf [Trait.graphemeExtend, Category.spacingMark, .ofRuns ["200D"]]

def formatting : CharSet :=
  Category.format.diff (.unionOf [Trait.graphemeExtend, WordPart.numberSign, .ofRuns ["200C-200D"]])

def numeric : CharSet := .unionOf [Category.decimalNumber, WordPart.numberSign, .ofRuns ["66B-66C"]]

/-- Letters of a script whose case does not start sentences. -/
def caseless : CharSet := .ofRuns ["10D0-10FA 10FD-10FF 1C90-1CBA 1CBD-1CBF"]

def lower : CharSet := Trait.lowercase.diff (Trait.graphemeExtend.union caseless)

def upper : CharSet := (Category.titlecaseLetter.union Trait.uppercase).diff caseless

def letter : CharSet :=
  (Trait.alphabetic.union (.ofRuns ["5F3"])).diff (.unionOf [lower, upper, extension])

def close : CharSet :=
  ((CharSet.unionOf [Category.among ["ps", "pe", "pi", "pf"], Trait.quotationMark,
    .ofRuns ["275B-2760 2E00-2E01 2E06-2E08 2E0B 1F676-1F678"]])).diff (.ofRuns ["FF02 FF07"])

/-- The parts of characters in sentences, with short and long names. -/
def parts : List (List Text × CharSet) :=
  [(["at", "aterm"], .ofRuns ["2E 2024 FE52 FF0E"]), (["cl", "close"], close), (["cr"], .ofRuns ["D"]),
    (["ex", "extend"], extension),
    (["fo", "format"], formatting),
    (["le", "oletter"], letter), (["lf"], .ofRuns ["A"]), (["lo", "lower"], lower),
    (["nu", "numeric"], numeric),
    (["sc", "scontinue"], .ofRuns [
      "2C-2D 3A-3B 37E 55D 60C-60D 7F8 1802 1808 2013-2014 3001 FE10-FE11 FE13-FE14 FE31-FE32 FE50-FE51",
      "FE54-FE55 FE58 FE63 FF0C-FF0D FF1A-FF1B FF64"]),
    (["se", "sep"], .ofRuns ["85 2028-2029"]),
    (["sp"], Trait.whiteSpace.diff (.ofRuns ["A D 85 2028-2029"])),
    (["st", "sterm"], Trait.sentenceTerminal.diff (.ofRuns ["2E 2024 FE52 FF0E"])), (["up", "upper"], upper)]

end SentencePart

end WrapShell

import RecordSchema.Unicode.Property
import RecordSchema.Unicode.Script

/-!
# Segmentation

Where graphemes, words and sentences end is told by three properties, each of which splits the code
points into classes. Most classes come from the categories and other properties, up to some code
points that are listed here. Code points of no class have the class `Other`, which has no name in
regular expressions.
-/

namespace RecordSchema.Unicode

/-! ## Graphemes -/

/-- The spacing marks of writing systems in which they may stand alone. -/
def notSpacingMarkRanges : CodeRanges := CodeRanges.parse <|
    "102b-102c 1038 1062-1064 1067-106d 1083 1087-108c 108f 109a-109c 1a61 1a63-1a64 aa7b aa7d " ++
    "11720-11721"

/-- The letters and signs that join what comes behind them. -/
def prependedLetterRanges : CodeRanges := CodeRanges.parse <|
    "d4e 111c2-111c3 1193f 11941 11a3a 11a84-11a89 11d46 11f02"

/-- The code points that join what comes before them: Thai and Lao AM, and most spacing marks. -/
def graphemeSpacingMarkRanges : CodeRanges :=
  .union (.diff spacingMarkRanges (.union graphemeExtendRanges notSpacingMarkRanges))
    (.parse "e33 eb3")

/-- The code points that stand alone. -/
def graphemeControlRanges : CodeRanges :=
  .diff (.unions [controlRanges, formatRanges, lineSeparatorRanges, paragraphSeparatorRanges,
      .diff defaultIgnorableCodePointRanges assignedRanges])
    (.unions [.parse "a d 200c-200d", prependedConcatenationMarkRanges, graphemeExtendRanges])

/-- The ranges of Hangul syllables between two ends, which are counted from the syllable that has
the same beginning and nothing at its end. -/
def hangulSyllableRanges (first last : Nat) : CodeRanges :=
  CodeRanges.empty.insertAll ((List.range 399).map fun i ↦
    (0xac00 + 28 * i + first, 0xac00 + 28 * i + last))

/-- The classes of `Grapheme_Cluster_Break`, with their names. -/
def graphemeBreaks : NamedRanges :=
  [(["cn", "control"], graphemeControlRanges),
   (["cr"], .parse "d"),
   (["ex", "extend"], .union graphemeExtendRanges emojiModifierRanges),
   (["l"], .parse "1100-115f a960-a97c"),
   (["lf"], .parse "a"),
   (["lv"], hangulSyllableRanges 0 0),
   (["lvt"], hangulSyllableRanges 1 27),
   (["pp", "prepend"], .union prependedConcatenationMarkRanges prependedLetterRanges),
   (["ri", "regionalindicator"], regionalIndicatorRanges),
   (["sm", "spacingmark"], graphemeSpacingMarkRanges),
   (["t"], .parse "11a8-11ff d7cb-d7fb"),
   (["v"], .parse "1160-11a7 d7b0-d7c6"),
   (["zwj"], .parse "200d")]

/-! ## Words -/

/-- The code points that are letters in words without being alphabetic. -/
def otherWordLetterRanges : CodeRanges := CodeRanges.parse <|
    "2c2-2c5 2d2-2d7 2de-2df 2e5-2eb 2ed 2ef-2ff 55a-55c 55e 58a 5f3 a708-a716 a720-a721 " ++
    "a789-a78a ab5b"

/-- The letters of writing systems that do not leave blanks between words. -/
def unspacedLetterRanges : CodeRanges := CodeRanges.parse <|
    "e01-e30 e32-e33 e40-e46 e81-e82 e84 e86-e8a e8c-ea3 ea5 ea7-eb0 eb2-eb3 ebd ec0-ec4 ec6 " ++
    "edc-edf 1000-102a 103f 1050-1055 105a-105d 1061 1065-1066 106e-1070 1075-1081 108e " ++
    "1780-17b3 17d7 17dc 1950-196d 1970-1974 1980-19ab 19b0-19c9 1a20-1a54 1aa7 a9e0-a9e4 " ++
    "a9e6-a9ef a9fa-a9fe aa60-aa76 aa7a aa7e-aaaf aab1 aab5-aab6 aab9-aabd aac0 aac2 aadb-aadd " ++
    "11700-1171a 11740-11746"

/-- The code points that join what comes before them in a word. -/
def wordExtendRanges : CodeRanges :=
  .diff (.unions [graphemeExtendRanges, spacingMarkRanges, emojiModifierRanges]) (.parse "200d")

/-- The letters of Katakana and the signs used with them. -/
def wordKatakanaRanges : CodeRanges :=
  .union katakanaScript.ranges (.parse "3031-3035 309b-309c 30a0 30fc ff70")

/-- The letters of Hebrew. -/
def wordHebrewRanges : CodeRanges :=
  .inter hebrewScript.ranges otherLetterRanges

/-- The letters that make words with each other. -/
def wordLetterRanges : CodeRanges :=
  .union otherWordLetterRanges (.diff alphabeticRanges (.unions [ideographicRanges,
    wordKatakanaRanges, hiraganaScript.ranges, wordExtendRanges, wordHebrewRanges,
    unspacedLetterRanges]))

/-- The classes of `Word_Break`, with their names. -/
def wordBreaks : NamedRanges :=
  [(["cr"], .parse "d"),
   (["dq", "doublequote"], .parse "22"),
   (["ex", "extendnumlet"], .union connectorPunctuationRanges (.parse "202f")),
   (["extend"], wordExtendRanges),
   (["fo", "format"],
    formatRanges.diff (.union (.parse "200b-200d") wordExtendRanges)),
   (["hl", "hebrewletter"], wordHebrewRanges),
   (["ka", "katakana"], wordKatakanaRanges),
   (["le", "aletter"], wordLetterRanges),
   (["lf"], .parse "a"),
   (["mb", "midnumlet"], .parse "2e 2018-2019 2024 fe52 ff07 ff0e"),
   (["ml", "midletter"], .parse "3a b7 387 55f 5f4 2027 fe13 fe55 ff1a"),
   (["mn", "midnum"],
    .parse "2c 3b 37e 589 60c-60d 66c 7f8 2044 fe10 fe14 fe50 fe54 ff0c ff1b"),
   (["nl", "newline"], .parse "b-c 85 2028-2029"),
   (["nu", "numeric"], .union decimalNumberRanges (.parse "66b")),
   (["ri", "regionalindicator"], regionalIndicatorRanges),
   (["sq", "singlequote"], .parse "27"),
   (["wsegspace"], .diff spaceSeparatorRanges (.parse "a0 2007 202f")),
   (["zwj"], .parse "200d")]

/-! ## Sentences -/

/-- The code points that join what comes before them in a sentence. -/
def sentenceExtendRanges : CodeRanges :=
  .unions [graphemeExtendRanges, spacingMarkRanges, .parse "200d"]

/-- The stops that also stand in abbreviations. -/
def ambiguousStopRanges : CodeRanges := .parse "2e 2024 fe52 ff0e"

/-- The lower-case letters, without those of Georgian, which is mostly written without capitals. -/
def sentenceLowerRanges : CodeRanges :=
  .diff lowercaseRanges (.union graphemeExtendRanges (.parse "10d0-10fa 10fd-10ff"))

/-- The capitals, without those of Georgian. -/
def sentenceUpperRanges : CodeRanges :=
  .diff (.union uppercaseRanges titlecaseLetterRanges) (.parse "1c90-1cba 1cbd-1cbf")

/-- Brackets and quotation marks. -/
def sentenceCloseRanges : CodeRanges :=
  .diff (.unions [openPunctuationRanges, closePunctuationRanges, initialPunctuationRanges,
      finalPunctuationRanges, .parse "22 27 275b-2760 2e00-2e01 2e06-2e08 2e0b 1f676-1f678"])
    (.union ambiguousStopRanges sentenceTerminalRanges)

/-- The classes of `Sentence_Break`, with their names. -/
def sentenceBreaks : NamedRanges :=
  [(["at", "aterm"], ambiguousStopRanges),
   (["cl", "close"], sentenceCloseRanges),
   (["cr"], .parse "d"),
   (["ex", "extend"], sentenceExtendRanges),
   (["fo", "format"],
    formatRanges.diff (.union (.parse "200c-200d") sentenceExtendRanges)),
   (["le", "oletter"],
    .diff (.union alphabeticRanges (.parse "5f3"))
      (.unions [sentenceLowerRanges, sentenceUpperRanges, sentenceExtendRanges])),
   (["lf"], .parse "a"),
   (["lo", "lower"], sentenceLowerRanges),
   (["nu", "numeric"], .union decimalNumberRanges (.parse "66b-66c")),
   (["sc", "scontinue"],
    .parse <| "2c-2d 3a 55d 60c-60d 7f8 1802 1808 2013-2014 3001 fe10-fe11 fe13 fe31-fe32 " ++
      "fe50-fe51 fe55 fe58 fe63 ff0c-ff0d ff1a ff64"),
   (["se", "sep"], .parse "85 2028-2029"),
   (["sp"], .parse "9 b-c 20 a0 1680 2000-200a 202f 205f 3000"),
   (["st", "sterm"], sentenceTerminalRanges.diff ambiguousStopRanges),
   (["up", "upper"], sentenceUpperRanges)]

end RecordSchema.Unicode

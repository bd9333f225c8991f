import Signpost.Unicode.CharSet

/-! Where text may be divided, by Unicode 16.0: the classes of characters that its rules for
user-perceived characters, words and sentences speak of. Most follow from categories and
properties; short tables hold the rest. -/
namespace Signpost.Unicode

abbrev NamedSets := List (List String × CharSet)

def runs (text : String) : CharSet := .table (.ofRuns text)

def carriageReturn : CharSet := .single '\r'

def lineFeed : CharSet := .single '\n'

def zeroWidthJoiner : CharSet := .single '\u200d'

/- The syllables of Hangul are ordered so that every twenty-eighth ends in its vowel. -/
def openSyllables : CharSet :=
  .table ⟨((List.range 399).flatMap fun i => [44032 + 28 * i, 44033 + 28 * i]).toArray⟩

def syllables : CharSet := .range '\uac00' '\ud7a3'

def looseSpacingMarks : CharSet := runs
  "4139 2 11 1 41 3 2 7 21 1 3 6 2 1 10 3 2500 1 1 2 36886 1 1 1 27810 2"

def graphemeBreaks : NamedSets :=
  [(["cr"], carriageReturn),
   (["lf"], lineFeed),
   (["control", "cn"], .diff
      (.union (categories [.control, .format, .lineSeparator, .paragraphSeparator])
        (.diff defaultIgnorable assigned))
      (.unionAll [carriageReturn, lineFeed, zeroWidthJoiner, graphemeExtend,
        Property.set .prependedConcatenationMark])),
   (["extend", "ex"], .union graphemeExtend (Property.set .emojiModifier)),
   (["zwj"], zeroWidthJoiner),
   (["regionalindicator", "ri"], Property.set .regionalIndicator),
   (["prepend", "pp"], .union (Property.set .prependedConcatenationMark) (runs
      "3406 1 66675 2 525 1 1389 1 1 1 248 1 73 6 700 1 443 1")),
   (["spacingmark", "sm"], .union (.chars ['\u0e33', '\u0eb3'])
      (.diff (Category.set .spacingMark) (.union graphemeExtend looseSpacingMarks))),
   (["l"], runs "4352 96 38912 29"),
   (["v"], runs "4448 72 50696 23 38300 1 3 4"),
   (["t"], runs "4520 88 50635 49"),
   (["lv"], openSyllables),
   (["lvt"], .diff syllables openSyllables)]

/- Format characters that stand in front of numbers count as part of them, all but one. -/
def numberSigns : CharSet :=
  .diff (Property.set .prependedConcatenationMark) (.single '\u070f')

def sentenceNumeric : CharSet :=
  .unionAll [decimalDigit, numberSigns, .chars ['\u066b', '\u066c', '\u19da']]

def sentenceFormat : CharSet :=
  .diff (Category.set .format) (.unionAll [numberSigns, graphemeExtend, zeroWidthJoiner])

def sentenceExtend : CharSet :=
  .unionAll [graphemeExtend, Category.set .spacingMark, zeroWidthJoiner]

def sentenceSeparator : CharSet := .chars ['\u0085', '\u2028', '\u2029']

/- Georgian letters count as neither case in sentences. -/
def sentenceLower : CharSet :=
  .diff lowercase (.union graphemeExtend
    (.diff (.range '\u10d0' '\u10ff') (.single '\u10fc')))

def sentenceUpper : CharSet :=
  .diff (.union uppercase (Category.set .titlecaseLetter)) (.range '\u1c90' '\u1cbf')

def sentenceStop : CharSet := .chars ['.', '\u2024', '\ufe52', '\uff0e']

def sentenceBreaks : NamedSets :=
  [(["cr"], carriageReturn),
   (["lf"], lineFeed),
   (["extend", "ex"], sentenceExtend),
   (["sep", "se"], sentenceSeparator),
   (["format", "fo"], sentenceFormat),
   (["sp"], .diff whiteSpace (.unionAll [sentenceSeparator, carriageReturn, lineFeed])),
   (["lower", "lo"], sentenceLower),
   (["upper", "up"], sentenceUpper),
   (["oletter", "le"], .diff (.union alphabetic (.single '\u05f3'))
      (.unionAll [sentenceLower, sentenceUpper, sentenceExtend])),
   (["numeric", "nu"], sentenceNumeric),
   (["aterm", "at"], sentenceStop),
   (["sterm", "st"], .diff (Property.set .sentenceTerminal) sentenceStop),
   (["scontinue", "sc"], runs
      "44 2 12 2 834 1 478 1 174 2 490 1 4105 1 5 1 2058 2 4076 1 52750 2 1 2 28 2 29 2 2
      2 2 1 10 1 168 2 12 2 72 1"),
   (["close", "cl"], .diff
      (.unionAll [categories [.openPunctuation, .closePunctuation, .initialPunctuation,
          .finalPunctuation],
        Property.set .quotationMark,
        runs "10075 6 1695 2 4 3 2 1 116842 3"])
      (.chars ['\uff02', '\uff07']))]

def wordExtend : CharSet := .union sentenceExtend (Property.set .emojiModifier)

def wordHebrew : CharSet := runs
  "1488 27 4 4 62762 1 1 10 1 13 1 5 1 1 1 2 1 2 1 10"

def wordKatakana : CharSet := runs
  "12337 5 101 2 3 91 1 4 240 16 208 47 1 88 52238 56 45138 4 1 7 1 2 1 1 287 3 50 1 14 4"

def unspacedLetters : CharSet := runs
  "3585 48 1 2 12 7 58 2 1 1 1 5 1 24 1 1 1 10 1 2 9 1 2 5 1 1 21 4 288 43 20 1 16 6 4 4
  3 1 3 2 7 3 4 13 12 1 1777 52 35 1 4 1 371 30 2 5 11 44 4 26 86 53 82 1 5529 86 6 3
  31040 5 1 10 10 5 97 23 3 1 3 50 1 1 3 2 2 5 2 1 1 1 24 3 27682 27 37 7 39098 287 18 1
  29 3"

def wordSigns : CharSet := runs
  "706 4 12 6 6 2 5 7 1 1 1 17 602 3 1 1 43 1 104 1 283 1 40952 15 9 2 103 2 976 1"

def wordBreaks : NamedSets :=
  [(["cr"], carriageReturn),
   (["lf"], lineFeed),
   (["newline", "nl"], .union sentenceSeparator (.range '\u000b' '\u000c')),
   (["extend"], .diff wordExtend zeroWidthJoiner),
   (["zwj"], zeroWidthJoiner),
   (["format", "fo"], .diff sentenceFormat (.chars ['\u070f', '\u200b'])),
   (["regionalindicator", "ri"], Property.set .regionalIndicator),
   (["katakana", "ka"], wordKatakana),
   (["hebrewletter", "hl"], wordHebrew),
   (["aletter", "le"], .union wordSigns
      (.diff alphabetic (.unionAll [Property.set .ideographic, wordKatakana, wordHebrew,
        wordExtend, unspacedLetters]))),
   (["singlequote", "sq"], .single '\''),
   (["doublequote", "dq"], .single '"'),
   (["midnumlet", "mb"], .union sentenceStop (.chars ['\u2018', '\u2019', '\uff07'])),
   (["midletter", "ml"], .chars [':', '\u00b7', '\u0387', '\u055f', '\u05f4', '\u2027',
      '\ufe13', '\ufe55', '\uff1a']),
   (["midnum", "mn"], .chars [',', ';', '\u037e', '\u0589', '\u060c', '\u060d', '\u066c',
      '\u07f8', '\u2044', '\ufe50', '\ufe54', '\uff0c', '\uff1b']),
   (["numeric", "nu"], .diff sentenceNumeric (.single '\u066c')),
   (["extendnumlet", "ex"], .union (Category.set .connectorPunctuation) (.single '\u202f')),
   (["wsegspace"], .diff (Category.set .spaceSeparator)
      (.chars ['\u00a0', '\u2007', '\u202f']))]

end Signpost.Unicode

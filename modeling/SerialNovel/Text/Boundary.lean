import SerialNovel.Text.Property
import SerialNovel.Text.Script

namespace SerialNovel

namespace CharSet

def lineFeed : CharSet := .single '\n'

def carriageReturn : CharSet := .single '\r'

def joiner : CharSet := ⟨[(0x200D, 0x200D)]⟩

def regionalIndicator : CharSet := ⟨[(0x1F1E6, 0x1F1FF)]⟩

def graphemeExtender : CharSet := .union graphemeExtend ⟨emojiModifierRanges⟩

def graphemeControl : CharSet :=
  .diff
    (.union (ofCategories [.lineSeparator, .paragraphSeparator, .control, .format])
      (.inter unassigned ⟨defaultIgnorableRanges⟩))
    (unions [lineFeed, carriageReturn, joiner, ⟨prependedConcatenationMarkRanges⟩,
      graphemeExtender])

/-- Letters and signs that belong to the character after them. -/
def graphemePrepend : CharSet :=
  .union ⟨prependedConcatenationMarkRanges⟩
    ⟨[(0xD4E, 0xD4E), (0x111C2, 0x111C3), (0x113D1, 0x113D1), (0x1193F, 0x1193F),
      (0x11941, 0x11941), (0x11A3A, 0x11A3A), (0x11A84, 0x11A89), (0x11D46, 0x11D46),
      (0x11F02, 0x11F02)]⟩

/-- Spacing marks that start a grapheme of their own. -/
def looseMarks : CharSet :=
  ⟨[(0x102B, 0x102C), (0x1038, 0x1038), (0x1062, 0x1064), (0x1067, 0x106D), (0x1083, 0x1083),
    (0x1087, 0x108C), (0x108F, 0x108F), (0x109A, 0x109C), (0x1A61, 0x1A61), (0x1A63, 0x1A64),
    (0xAA7B, 0xAA7B), (0xAA7D, 0xAA7D), (0x11720, 0x11721)]⟩

def graphemeSpacing : CharSet :=
  .union (.diff Category.spacingMark.set (.union graphemeExtender looseMarks))
    ⟨[(0xE33, 0xE33), (0xEB3, 0xEB3)]⟩

/-- Hangul syllables without a final consonant, each followed by 27 with one. -/
def openSyllables : CharSet :=
  ⟨(List.range 399).map fun i => (0xAC00 + 28 * i, 0xAC00 + 28 * i)⟩

def closedSyllables : CharSet :=
  ⟨(List.range 399).map fun i => (0xAC01 + 28 * i, 0xAC1B + 28 * i)⟩

def graphemeRoles : List (List String × CharSet) := [
  (["cn", "control"], graphemeControl),
  (["cr"], carriageReturn),
  (["ex", "extend"], graphemeExtender),
  (["l"], ⟨[(0x1100, 0x115F), (0xA960, 0xA97C)]⟩),
  (["lf"], lineFeed),
  (["lv"], openSyllables),
  (["lvt"], closedSyllables),
  (["pp", "prepend"], graphemePrepend),
  (["ri", "regionalindicator"], regionalIndicator),
  (["sm", "spacingmark"], graphemeSpacing),
  (["t"], ⟨[(0x11A8, 0x11FF), (0xD7CB, 0xD7FB)]⟩),
  (["v"], ⟨[(0x1160, 0x11A7), (0xD7B0, 0xD7C6), (0x16D63, 0x16D63), (0x16D67, 0x16D6A)]⟩),
  (["zwj"], joiner)]

/-- Marks in front of a number that belong to it. -/
def numberSigns : CharSet :=
  ⟨[(0x600, 0x605), (0x6DD, 0x6DD), (0x890, 0x891), (0x8E2, 0x8E2), (0x110BD, 0x110BD),
    (0x110CD, 0x110CD)]⟩

def wordExtend : CharSet := unions [graphemeExtender, Category.spacingMark.set]

def wordFormat : CharSet :=
  .diff Category.format.set
    (unions [⟨[(0x70F, 0x70F), (0x200B, 0x200D)]⟩, wordExtend, numberSigns])

def hebrewLetter : CharSet := .inter Script.hebrew.set Category.otherLetter.set

def wordKatakana : CharSet :=
  .union Script.katakana.set
    ⟨[(0x3031, 0x3035), (0x309B, 0x309C), (0x30A0, 0x30A0), (0x30FC, 0x30FC), (0xFF70, 0xFF70)]⟩

/-- Symbols and marks that words hold as if they were letters. -/
def letterLike : CharSet :=
  ⟨[(0x2C2, 0x2C5), (0x2D2, 0x2D7), (0x2DE, 0x2DF), (0x2E5, 0x2EB), (0x2ED, 0x2ED),
    (0x2EF, 0x2FF), (0x55A, 0x55C), (0x55E, 0x55E), (0x58A, 0x58A), (0x5F3, 0x5F3),
    (0x70F, 0x70F), (0xA708, 0xA716), (0xA720, 0xA721), (0xA789, 0xA78A), (0xAB5B, 0xAB5B)]⟩

/-- Scripts whose words are found with a dictionary. -/
def unspacedScripts : CharSet :=
  unions
    (([.thai, .lao, .myanmar, .khmer, .taiLe, .newTaiLue, .taiTham, .taiViet, .ahom] :
      List Script).map Script.set)

def wordLetter : CharSet :=
  .diff (.union alphabetic letterLike)
    (unions [⟨ideographicRanges⟩, wordKatakana, unspacedScripts, Script.hiragana.set, wordExtend,
      hebrewLetter])

def wordRoles : List (List String × CharSet) := [
  (["cr"], carriageReturn),
  (["dq", "doublequote"], .single '"'),
  (["ex", "extendnumlet"], .union Category.connector.set ⟨[(0x202F, 0x202F)]⟩),
  (["extend"], wordExtend),
  (["fo", "format"], wordFormat),
  (["hl", "hebrewletter"], hebrewLetter),
  (["ka", "katakana"], wordKatakana),
  (["le", "aletter"], wordLetter),
  (["lf"], lineFeed),
  (["mb", "midnumlet"],
    ⟨[(0x2E, 0x2E), (0x2018, 0x2019), (0x2024, 0x2024), (0xFE52, 0xFE52), (0xFF07, 0xFF07),
      (0xFF0E, 0xFF0E)]⟩),
  (["ml", "midletter"],
    ⟨[(0x3A, 0x3A), (0xB7, 0xB7), (0x387, 0x387), (0x55F, 0x55F), (0x5F4, 0x5F4),
      (0x2027, 0x2027), (0xFE13, 0xFE13), (0xFE55, 0xFE55), (0xFF1A, 0xFF1A)]⟩),
  (["mn", "midnum"],
    ⟨[(0x2C, 0x2C), (0x3B, 0x3B), (0x37E, 0x37E), (0x589, 0x589), (0x60C, 0x60D), (0x66C, 0x66C),
      (0x7F8, 0x7F8), (0x2044, 0x2044), (0xFE10, 0xFE10), (0xFE14, 0xFE14), (0xFE50, 0xFE50),
      (0xFE54, 0xFE54), (0xFF0C, 0xFF0C), (0xFF1B, 0xFF1B)]⟩),
  (["nl", "newline"], ⟨[(0xB, 0xC), (0x85, 0x85), (0x2028, 0x2029)]⟩),
  (["nu", "numeric"], unions [decimal, ⟨[(0x66B, 0x66B)]⟩, numberSigns]),
  (["ri", "regionalindicator"], regionalIndicator),
  (["sq", "singlequote"], .single '\''),
  (["wsegspace"],
    ⟨[(0x20, 0x20), (0x1680, 0x1680), (0x2000, 0x2006), (0x2008, 0x200A), (0x205F, 0x205F),
      (0x3000, 0x3000)]⟩),
  (["zwj"], joiner)]

def sentenceExtend : CharSet := unions [graphemeExtend, joiner, Category.spacingMark.set]

def sentenceFormat : CharSet :=
  .diff Category.format.set (unions [sentenceExtend, numberSigns])

def sentenceSeparator : CharSet := ⟨[(0x85, 0x85), (0x2028, 0x2029)]⟩

def fullStop : CharSet :=
  ⟨[(0x2E, 0x2E), (0x2024, 0x2024), (0xFE52, 0xFE52), (0xFF0E, 0xFF0E)]⟩

/-- The small letters except Georgian ones, whose capitals are not used at the start of words. -/
def sentenceLower : CharSet :=
  .diff lowercase (.union sentenceExtend ⟨[(0x10D0, 0x10FA), (0x10FD, 0x10FF)]⟩)

def sentenceUpper : CharSet :=
  .diff (.union uppercase Category.title.set) ⟨[(0x1C90, 0x1CBF)]⟩

def sentenceLetter : CharSet :=
  .diff (.union alphabetic ⟨[(0x5F3, 0x5F3)]⟩)
    (unions [sentenceLower, sentenceUpper, sentenceExtend])

def sentenceRoles : List (List String × CharSet) := [
  (["at", "aterm"], fullStop),
  (["cl", "close"],
    .union (ofCategories [.opening, .closing, .initialQuote, .finalQuote])
      ⟨[(0x22, 0x22), (0x27, 0x27), (0x275B, 0x2760), (0x2E00, 0x2E01), (0x2E06, 0x2E08),
        (0x2E0B, 0x2E0B), (0x1F676, 0x1F678)]⟩),
  (["cr"], carriageReturn),
  (["ex", "extend"], sentenceExtend),
  (["fo", "format"], sentenceFormat),
  (["le", "oletter"], sentenceLetter),
  (["lf"], lineFeed),
  (["lo", "lower"], sentenceLower),
  (["nu", "numeric"], unions [decimal, ⟨[(0x66B, 0x66C)]⟩, numberSigns]),
  (["sc", "scontinue"],
    ⟨[(0x2C, 0x2D), (0x3A, 0x3B), (0x37E, 0x37E), (0x55D, 0x55D), (0x60C, 0x60D), (0x7F8, 0x7F8),
      (0x1802, 0x1802), (0x1808, 0x1808), (0x2013, 0x2014), (0x3001, 0x3001), (0xFE10, 0xFE11),
      (0xFE13, 0xFE14), (0xFE31, 0xFE32), (0xFE50, 0xFE51), (0xFE54, 0xFE55), (0xFE58, 0xFE58),
      (0xFE63, 0xFE63), (0xFF0C, 0xFF0D), (0xFF1A, 0xFF1B), (0xFF64, 0xFF64)]⟩),
  (["se", "sep"], sentenceSeparator),
  (["sp"], .diff blank (unions [lineFeed, carriageReturn, sentenceSeparator])),
  (["st", "sterm"], .diff ⟨sentenceTerminalRanges⟩ fullStop),
  (["up", "upper"], sentenceUpper)]

end CharSet

end SerialNovel

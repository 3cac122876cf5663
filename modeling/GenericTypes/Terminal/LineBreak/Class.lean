import GenericTypes.Terminal.LineBreak.Ranges
import GenericTypes.Terminal.Ranges

namespace GenericTypes.Terminal

inductive BreakClass where
  | mandatoryBreak
  | carriageReturn
  | lineFeed
  | nextLine
  | space
  | zeroWidthSpace
  | zeroWidthJoiner
  | combiningMark
  | wordJoiner
  | glue
  | breakAfter
  | breakBefore
  | breakBoth
  | contingent
  | hyphen
  | closePunctuation
  | closeParenthesis
  | openPunctuation
  | eastAsianOpen
  | quotation
  | exclamation
  | inseparable
  | nonstarter
  | infixNumeric
  | slash
  | numeric
  | postfixNumeric
  | prefixNumeric
  | alphabetic
  | hebrewLetter
  | ideographic
  | emojiBase
  | emojiModifier
  | regionalIndicator
  | leadingJamo
  | vowelJamo
  | trailingJamo
  | openSyllable
  | closedSyllable
deriving DecidableEq, Repr

namespace BreakClass

def ofAscii (c : Char) : BreakClass :=
  if c.isAlpha then .alphabetic
  else if c.isDigit then .numeric
  else match c with
    | ' ' => .space
    | '\n' => .lineFeed
    | '\r' => .carriageReturn
    | '\x0b' | '\x0c' => .mandatoryBreak
    | '\t' | '|' => .breakAfter
    | '-' => .hyphen
    | '}' => .closePunctuation
    | ')' | ']' => .closeParenthesis
    | '(' | '[' | '{' => .openPunctuation
    | '\x22' | '\x27' => .quotation
    | '!' | '?' => .exclamation
    | ',' | '.' | ':' | ';' => .infixNumeric
    | '/' => .slash
    | '%' => .postfixNumeric
    | '$' | '+' | '\\' => .prefixNumeric
    | _ => if c.toNat < 0x20 ∨ c.toNat = 0x7F then .combiningMark else .alphabetic

/-- The classes that are given by ranges, as of Unicode 15.0. Letters of scripts that need a
    dictionary are alphabetic and their marks combining, small kana are nonstarters. -/
def tabled : List (BreakClass × List (Nat × Nat)) :=
  [(.ideographic, LineBreak.ideographicRanges),
   (.combiningMark, LineBreak.combiningMarkRanges),
   (.mandatoryBreak, LineBreak.mandatoryBreakRanges),
   (.nextLine, LineBreak.nextLineRanges),
   (.zeroWidthSpace, LineBreak.zeroWidthSpaceRanges),
   (.zeroWidthJoiner, LineBreak.zeroWidthJoinerRanges),
   (.wordJoiner, LineBreak.wordJoinerRanges),
   (.glue, LineBreak.glueRanges),
   (.breakAfter, LineBreak.breakAfterRanges),
   (.breakBefore, LineBreak.breakBeforeRanges),
   (.breakBoth, LineBreak.breakBothRanges),
   (.contingent, LineBreak.contingentRanges),
   (.closePunctuation, LineBreak.closePunctuationRanges),
   (.openPunctuation, LineBreak.openPunctuationRanges),
   (.eastAsianOpen, LineBreak.eastAsianOpenRanges),
   (.quotation, LineBreak.quotationRanges),
   (.exclamation, LineBreak.exclamationRanges),
   (.inseparable, LineBreak.inseparableRanges),
   (.nonstarter, LineBreak.nonstarterRanges),
   (.infixNumeric, LineBreak.infixNumericRanges),
   (.numeric, LineBreak.numericRanges),
   (.postfixNumeric, LineBreak.postfixNumericRanges),
   (.prefixNumeric, LineBreak.prefixNumericRanges),
   (.hebrewLetter, LineBreak.hebrewLetterRanges),
   (.emojiBase, LineBreak.emojiBaseRanges),
   (.emojiModifier, LineBreak.emojiModifierRanges),
   (.regionalIndicator, LineBreak.regionalIndicatorRanges),
   (.leadingJamo, LineBreak.leadingJamoRanges),
   (.vowelJamo, LineBreak.vowelJamoRanges),
   (.trailingJamo, LineBreak.trailingJamoRanges)]

/-- Hangul syllables stand in groups of 28, the one without a final consonant first. -/
def ofChar (c : Char) : BreakClass :=
  if c.toNat < 0x80 then ofAscii c
  else if 0xAC00 ≤ c.toNat ∧ c.toNat ≤ 0xD7A3 then
    if (c.toNat - 0xAC00) % 28 = 0 then .openSyllable else .closedSyllable
  else
    match tabled.find? fun entry => inRanges entry.2 c.toNat with
    | some (cls, _) => cls
    | none => .alphabetic

def isMark : BreakClass → Bool
  | combiningMark | zeroWidthJoiner => true
  | _ => false

def isLetter : BreakClass → Bool
  | alphabetic | hebrewLetter => true
  | _ => false

def isNumericSign : BreakClass → Bool
  | prefixNumeric | postfixNumeric => true
  | _ => false

def isPictograph : BreakClass → Bool
  | ideographic | emojiBase | emojiModifier => true
  | _ => false

def isHangul : BreakClass → Bool
  | leadingJamo | vowelJamo | trailingJamo | openSyllable | closedSyllable => true
  | _ => false

end BreakClass

end GenericTypes.Terminal

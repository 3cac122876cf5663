import GenericTypes.Terminal.LineBreak.Class

namespace GenericTypes.Terminal.LineBreak

/-- What the rules look at before a place in a text. Marks count as part of the character before
    them, and `last` is the class of the last character that is no space. -/
structure Context where
  last : BreakClass
  spaced : Bool
  joined : Bool
  afterHebrew : Bool
  oddIndicators : Bool
deriving DecidableEq, Repr

namespace Context

def start : Context := ⟨.space, true, false, false, false⟩

/-- Line ends, spaces and zero-width spaces take no marks; a mark after one is a letter. -/
def takesMarks (context : Context) : Bool :=
  !context.spaced &&
    !(context.last matches
      .mandatoryBreak | .carriageReturn | .lineFeed | .nextLine | .zeroWidthSpace)

def push (context : Context) (cls : BreakClass) : Context :=
  if cls = .space then
    { context with spaced := true, joined := false }
  else if cls.isMark && context.takesMarks then
    { context with joined := cls = .zeroWidthJoiner }
  else
    { last := if cls.isMark then .alphabetic else cls
      spaced := false
      joined := cls = .zeroWidthJoiner
      afterHebrew := !context.spaced && context.last = .hebrewLetter
      oddIndicators := cls = .regionalIndicator && (context.spaced || !context.oddIndicators) }

/-- A line end closes the line; a carriage return leaves it open for a line feed. -/
def closed (context : Context) (next : BreakClass) : Bool :=
  !context.spaced &&
    match context.last with
    | .mandatoryBreak | .lineFeed | .nextLine => true
    | .carriageReturn => next ≠ .lineFeed
    | _ => false

end Context

/-- Pairs that stay together whether or not spaces stand between them. A quotation mark may close as
    well as open, so it holds nothing beyond spaces. -/
def heldAcrossSpaces (before after : BreakClass) : Bool :=
  match before, after with
  | .openPunctuation, _ | .eastAsianOpen, _ => true
  | _, .wordJoiner | _, .closePunctuation | _, .closeParenthesis | _, .exclamation
  | _, .infixNumeric | _, .slash => true
  | .closePunctuation, .nonstarter | .closeParenthesis, .nonstarter => true
  | .breakBoth, .breakBoth => true
  | _, _ => false

/-- Pairs that stay together even where one of the two is a contingent break. -/
def held (before after : BreakClass) : Bool :=
  (before matches .wordJoiner | .glue | .quotation) ||
  after == .quotation ||
  after == .glue && !(before matches .breakAfter | .hyphen)

def heldByLetter (before after : BreakClass) : Bool :=
  before.isLetter &&
      (after.isLetter || after.isNumericSign || (after matches .numeric | .openPunctuation)) ||
    after.isLetter &&
      (before.isNumericSign || (before matches .numeric | .infixNumeric | .closeParenthesis)) ||
    before == .slash && after == .hebrewLetter

def heldByNumber (before after : BreakClass) : Bool :=
  after == .numeric &&
      (before.isNumericSign ||
        (before matches .numeric | .hyphen | .infixNumeric | .slash | .closeParenthesis)) ||
    after.isNumericSign && (before matches .numeric | .closePunctuation | .closeParenthesis) ||
    before.isNumericSign && (after matches .openPunctuation | .eastAsianOpen) ||
    before == .numeric && after == .openPunctuation ||
    before == .prefixNumeric && (after.isPictograph || after.isHangul) ||
    after == .postfixNumeric && (before.isPictograph || before.isHangul)

def heldBySyllable (before after : BreakClass) : Bool :=
  match before, after with
  | .leadingJamo, .leadingJamo | .leadingJamo, .vowelJamo
  | .leadingJamo, .openSyllable | .leadingJamo, .closedSyllable
  | .vowelJamo, .vowelJamo | .vowelJamo, .trailingJamo
  | .openSyllable, .vowelJamo | .openSyllable, .trailingJamo
  | .trailingJamo, .trailingJamo | .closedSyllable, .trailingJamo => true
  | _, _ => false

def heldAdjacent (before after : BreakClass) : Bool :=
  (after matches .breakAfter | .hyphen | .nonstarter | .inseparable) ||
  before == .breakBefore ||
  before == .emojiBase && after == .emojiModifier ||
  heldByLetter before after || heldByNumber before after || heldBySyllable before after

/-- A hyphen after a Hebrew letter holds what follows, and regional indicators go in pairs. -/
def Context.holds (context : Context) (next : BreakClass) : Bool :=
  context.afterHebrew && (context.last matches .hyphen | .breakAfter) ||
  context.oddIndicators && next == .regionalIndicator

def Context.opens (context : Context) (next : BreakClass) : Bool :=
  if context.closed next then true
  else if next matches
    .mandatoryBreak | .carriageReturn | .lineFeed | .nextLine | .space | .zeroWidthSpace then false
  else if context.last = .zeroWidthSpace then true
  else if context.joined || next.isMark && context.takesMarks then false
  else
    let before := context.last
    let after := if next.isMark then .alphabetic else next
    if heldAcrossSpaces before after then false
    else if context.spaced then true
    else if held before after then false
    else if before = .contingent ∨ after = .contingent then true
    else !(context.holds after || heldAdjacent before after)

/-- For each character but the last, whether a line may end after it, by the line-breaking rules of
    Unicode. -/
def opportunities (chars : List Char) : List Bool :=
  let classes := chars.map BreakClass.ofChar
  List.zipWith Context.opens (classes.scanl Context.push .start).tail classes.tail

end GenericTypes.Terminal.LineBreak

import GenericTypes.Terminal.Alphanumeric
import GenericTypes.Terminal.Columns
import GenericTypes.Terminal.LineBreak.Context

namespace GenericTypes.Terminal

/-- The parts of a list. A part ends after an element that is marked as an end. -/
def segments {α : Type} (ends : List Bool) (xs : List α) : List (List α) :=
  let ends := ends.toArray
  (xs.zipIdx.splitBy fun left _ => !ends.getD left.2 false).map (·.map Prod.fst)

/-- Characters that stay on one line, and the number of spaces after them. -/
structure Word where
  chars : List Char
  spaces : Nat
deriving DecidableEq, Repr

namespace Word

def width (word : Word) : Nat := totalColumns word.chars

def text (word : Word) : List Char := word.chars ++ List.replicate word.spaces ' '

def ofChars (chars : List Char) : Word :=
  let spaces := (chars.reverse.takeWhile (· = ' ')).length
  ⟨chars.take (chars.length - spaces), spaces⟩

def isHyphen (c : Char) : Bool := c = '-' || c = '\u00ad'

/-- Whether a word ends after each shown character but the last. A hyphen ends no word. The last
    word ends with the text; where a hyphen denies it that end, it takes in the word before it. -/
def shownEnds (chars : List Char) : List Bool :=
  let ends :=
    List.zipWith (fun c opens => opens && !isHyphen c) chars (LineBreak.opportunities chars)
  if chars.getLast?.any isHyphen then (ends.reverse.replace true false).reverse else ends

/-- An escape sequence goes with the word of the character after it. -/
def wordEnds (chars : List Char) : List Bool :=
  let shown := Escape.shown chars
  let ends := (shownEnds (Escape.visible chars)).toArray
  let places := shown.scanl (fun place isShown => if isShown then place + 1 else place) 0
  List.zipWith (fun isShown place => isShown && ends.getD place false) shown places

def ofText (chars : List Char) : List Word :=
  (segments (wordEnds chars) chars).map ofChars

def divide (word : Word) (ends : List Bool) : List Word :=
  match (segments ends word.chars).reverse with
  | [] => [word]
  | last :: before => before.reverse.map (⟨·, 0⟩) ++ [⟨last, word.spaces⟩]

def hyphenEnds (chars : List Char) : List Bool :=
  false ::
    List.zipWith
      (fun (before, c) after => c = '-' && isAlphanumeric before && isAlphanumeric after)
      (chars.zip chars.tail) (chars.drop 2)

def overflows (limit used columns : Nat) : Bool := 0 < used && limit < used + columns

def overflowEnds (limit : Nat) (chars : List Char) : List Bool :=
  let columns := columnsOf chars
  let step used columns := if overflows limit used columns then columns else used + columns
  (List.zipWith (overflows limit) (columns.scanl step 0) columns).tail

def pieces (limit : Nat) (word : Word) : List Word :=
  (word.divide (hyphenEnds word.chars)).flatMap fun part =>
    part.divide (overflowEnds limit part.chars)

end Word

end GenericTypes.Terminal

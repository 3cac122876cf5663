import GenericTypes.Report.Layout
import GenericTypes.Terminal.Word

namespace GenericTypes.Terminal.Filling

open Report (Margin Line)

/-- A line under construction: its words, the last one first, and the columns they take. -/
structure OpenLine where
  words : List Word
  used : Nat

def OpenLine.empty : OpenLine := ⟨[], 0⟩

def OpenLine.add (line : OpenLine) (word : Word) : OpenLine :=
  ⟨word :: line.words, line.used + word.width + word.spaces⟩

def OpenLine.text (line : OpenLine) : List Char :=
  match line.words with
  | [] => []
  | last :: before => before.reverse.flatMap Word.text ++ last.chars

/-- Closed lines, the last one first, and the open line. A word that does not fit opens a new line,
    even when it does not fit there either. -/
def place (limit : Margin → Nat) (state : List OpenLine × OpenLine) (word : Word) :
    List OpenLine × OpenLine :=
  let (closed, line) := state
  if limit (if closed.isEmpty then .first else .further) < line.used + word.width then
    (line :: closed, OpenLine.empty.add word)
  else
    (closed, line.add word)

/-- The lines of text that holds no line break. Text without words is one empty line. A word has to
    fit on a line of its own behind the further margin. -/
def fillParagraph (limit : Margin → Nat) (chars : List Char) : List OpenLine :=
  let words := (Word.ofText chars).flatMap (Word.pieces (limit .further))
  let (closed, last) := words.foldl (place limit) ([], .empty)
  (last :: closed).reverse

def paragraphs (chars : List Char) : List (List Char) :=
  chars.foldr
    (fun c parts =>
      match parts with
      | [] => [[c]]
      | part :: rest => if c = '\n' then [] :: part :: rest else (c :: part) :: rest)
    [[]]

/-- The limit is for the text of a line, so it depends on the margin before it. -/
def fill (limit : Margin → Nat) (text : String) : List Line :=
  ((paragraphs text.toList).flatMap (fillParagraph limit)).zipIdx.map fun (line, index) =>
    ⟨if index = 0 then .first else .further, .ofList line.text⟩

end GenericTypes.Terminal.Filling

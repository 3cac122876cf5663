import GenericTypes.Terminal.Filling
import Mathlib.Data.List.SplitBy
import Mathlib.Data.List.TakeWhile

namespace GenericTypes.Terminal

open Report (Margin Line)

theorem flatten_segments {α : Type} (ends : List Bool) (xs : List α) :
    (segments ends xs).flatten = xs := by
  rw [segments, ← List.map_flatten, List.flatten_splitBy, List.zipIdx_map_fst]

namespace Word

theorem text_ofChars (chars : List Char) : (ofChars chars).text = chars := by
  let isSpace : Char → Bool := (· = ' ')
  let run := chars.reverse.takeWhile isSpace
  let body := (chars.reverse.dropWhile isSpace).reverse
  have allSpaces : ∀ c ∈ run, c = ' ' := fun c member => by
    simpa [isSpace] using List.mem_takeWhile_imp member
  have spaces : run = List.replicate run.length ' ' := List.eq_replicate_of_mem allSpaces
  have split : chars = body ++ List.replicate run.length ' ' := by
    rw [← List.reverse_replicate, ← spaces, ← List.reverse_append,
      List.takeWhile_append_dropWhile, List.reverse_reverse]
  have length : chars.length - run.length = body.length := by
    have total := congrArg List.length split
    rw [List.length_append, List.length_replicate] at total
    omega
  have before : chars.take (chars.length - run.length) = body := by
    rw [length, split, List.take_left]
  exact (congrArg (· ++ List.replicate run.length ' ') before).trans split.symm

theorem flatMap_text_ofText (chars : List Char) : (ofText chars).flatMap text = chars := by
  rw [ofText, List.flatMap_map]
  simp only [text_ofChars]
  rw [List.flatMap_id', flatten_segments]

theorem flatMap_text_divide (word : Word) (ends : List Bool) :
    (word.divide ends).flatMap text = word.text := by
  have joined := flatten_segments ends word.chars
  rw [divide]
  split
  next none => simp
  next last before parts =>
    have inOrder : segments ends word.chars = before.reverse ++ [last] := by
      rw [← List.reverse_reverse (segments ends word.chars), parts, List.reverse_cons]
    rw [inOrder] at joined
    have unspaced : text ∘ (⟨·, 0⟩) = id := funext fun chars => List.append_nil chars
    rw [List.flatMap_append, List.flatMap_def, List.map_map, unspaced]
    simp [text, ← joined]

theorem flatMap_text_pieces (limit : Nat) (word : Word) :
    (word.pieces limit).flatMap text = word.text := by
  rw [pieces, List.flatMap_assoc]
  simp only [flatMap_text_divide]

end Word

namespace Filling

def OpenLine.whole (line : OpenLine) : List Char := line.words.reverse.flatMap Word.text

theorem OpenLine.whole_add (line : OpenLine) (word : Word) :
    (line.add word).whole = line.whole ++ word.text := by
  simp [whole, add]

theorem OpenLine.whole_eq (line : OpenLine) :
    ∃ spaces, line.whole = line.text ++ List.replicate spaces ' ' := by
  cases line with
  | mk words used =>
    cases words with
    | nil => exact ⟨0, rfl⟩
    | cons last before => exact ⟨last.spaces, by simp [whole, text, Word.text]⟩

def placed (state : List OpenLine × OpenLine) : List Char :=
  (state.2 :: state.1).reverse.flatMap OpenLine.whole

theorem placed_place (limit : Margin → Nat) (state : List OpenLine × OpenLine) (word : Word) :
    placed (place limit state word) = placed state ++ word.text := by
  obtain ⟨closed, line⟩ := state
  by_cases overflows :
      limit (if closed.isEmpty then .first else .further) < line.used + word.width
  · have alone : (OpenLine.empty.add word).whole = word.text := OpenLine.whole_add .empty word
    rw [place, if_pos overflows]
    simp [placed, alone]
  · rw [place, if_neg overflows]
    simp [placed, OpenLine.whole_add]

theorem placed_foldl (limit : Margin → Nat) (words : List Word)
    (state : List OpenLine × OpenLine) :
    placed (words.foldl (place limit) state) = placed state ++ words.flatMap Word.text := by
  induction words generalizing state with
  | nil => simp
  | cons word words ih =>
    rw [List.foldl_cons, ih, placed_place, List.flatMap_cons, List.append_assoc]

/-- Filling loses nothing but the spaces that its lines leave off. -/
theorem flatMap_whole_fillParagraph (limit : Margin → Nat) (chars : List Char) :
    (fillParagraph limit chars).flatMap OpenLine.whole = chars := by
  let words := (Word.ofText chars).flatMap (Word.pieces (limit .further))
  have kept : words.flatMap Word.text = chars := by
    rw [List.flatMap_assoc]
    simp only [Word.flatMap_text_pieces, Word.flatMap_text_ofText]
  calc (fillParagraph limit chars).flatMap OpenLine.whole
      = placed (words.foldl (place limit) ([], .empty)) := rfl
    _ = words.flatMap Word.text := placed_foldl limit words ([], .empty)
    _ = chars := kept

theorem mem_of_mem_fillParagraph {limit : Margin → Nat} {chars : List Char} {line : OpenLine}
    (member : line ∈ fillParagraph limit chars) {c : Char} (inside : c ∈ line.text) :
    c ∈ chars := by
  rw [← flatMap_whole_fillParagraph limit chars, List.mem_flatMap]
  obtain ⟨spaces, whole⟩ := line.whole_eq
  exact ⟨line, member, whole ▸ List.mem_append_left _ inside⟩

theorem exists_paragraphs_cons (first : Char) (chars : List Char) :
    ∃ part rest, paragraphs chars = part :: rest ∧
      paragraphs (first :: chars) =
        if first = '\n' then [] :: part :: rest else (first :: part) :: rest := by
  have nonempty : ∃ part rest, paragraphs chars = part :: rest := by
    induction chars with
    | nil => exact ⟨[], [], rfl⟩
    | cons c chars ih =>
      obtain ⟨part, rest, parts⟩ := ih
      rw [paragraphs, List.foldr_cons, ← paragraphs, parts]
      by_cases ended : c = '\n'
      · exact ⟨[], part :: rest, if_pos ended⟩
      · exact ⟨c :: part, rest, if_neg ended⟩
  obtain ⟨part, rest, parts⟩ := nonempty
  refine ⟨part, rest, parts, ?_⟩
  rw [paragraphs, List.foldr_cons, ← paragraphs, parts]

theorem mem_of_mem_paragraphs {chars part : List Char} (member : part ∈ paragraphs chars)
    {c : Char} (inside : c ∈ part) : c ∈ chars ∧ c ≠ '\n' := by
  induction chars generalizing part with
  | nil =>
    obtain rfl := List.mem_singleton.mp member
    cases inside
  | cons first chars ih =>
    obtain ⟨next, rest, parts, step⟩ := exists_paragraphs_cons first chars
    have later {other : List Char} (known : other ∈ next :: rest) (inOther : c ∈ other) :
        c ∈ first :: chars ∧ c ≠ '\n' :=
      (ih (parts ▸ known) inOther).imp_left (List.mem_cons_of_mem first)
    rw [step] at member
    by_cases ended : first = '\n'
    · rw [if_pos ended] at member
      obtain rfl | known := List.mem_cons.mp member
      · cases inside
      · exact later known inside
    · rw [if_neg ended] at member
      obtain rfl | known := List.mem_cons.mp member
      · obtain rfl | inNext := List.mem_cons.mp inside
        · exact ⟨List.mem_cons_self, ended⟩
        · exact later List.mem_cons_self inNext
      · exact later (List.mem_cons_of_mem _ known) inside

theorem mem_of_mem_fill {limit : Margin → Nat} {text : String} {line : Line}
    (member : line ∈ fill limit text) {c : Char} (inside : c ∈ line.text.toList) :
    c ∈ text.toList ∧ c ≠ '\n' := by
  obtain ⟨⟨filled, index⟩, indexed, rfl⟩ := List.mem_map.mp member
  obtain ⟨part, ofText, ofPart⟩ := List.mem_flatMap.mp (List.fst_mem_of_mem_zipIdx indexed)
  rw [String.toList_ofList] at inside
  exact mem_of_mem_paragraphs ofText (mem_of_mem_fillParagraph ofPart inside)

end Filling

end GenericTypes.Terminal

import GenericTypes.Proofs.Text.Escape
import GenericTypes.Report.Layout

namespace GenericTypes.Report

open Escape

variable {printer : Printer} {typesetting : Typesetting} {alarm advice : Ink} {palette : Palette}
  {diagnostic : Diagnostic}

def signs : List Char := [' ', '&', '<', '>', '.', ',', ':', '\x27', '(', ')']

def PlainChar (c : Char) : Prop := c.isAlphanum ∨ c ∈ signs

def PlainText (text : String) : Prop := ∀ c ∈ text.toList, PlainChar c

instance (text : String) : Decidable (PlainText text) :=
  decidable_of_iff (text.toList.all fun c => c.isAlphanum || signs.contains c)
    (by simp [PlainText, PlainChar])

theorem PlainText.append {text more : String} (plain : PlainText text) (also : PlainText more) :
    PlainText (text ++ more) := by
  intro c inside
  rw [String.toList_append, List.mem_append] at inside
  exact inside.elim (plain c) (also c)

theorem bounds_of_isAlphanum {c : Char} (alphanumeric : c.isAlphanum) :
    48 ≤ c.toNat ∧ c.toNat ≤ 122 := by
  have kinds : ((c.isUpper || c.isLower) || c.isDigit) = true := alphanumeric
  rw [Bool.or_eq_true, Bool.or_eq_true] at kinds
  obtain (upper | lower) | digit := kinds
  · have range : 65 ≤ c.toNat ∧ c.toNat ≤ 90 := of_decide_eq_true upper
    omega
  · have range : 97 ≤ c.toNat ∧ c.toNat ≤ 122 :=
      ((Bool.and_eq_true _ _).mp lower).imp of_decide_eq_true of_decide_eq_true
    omega
  · have range : 48 ≤ c.toNat ∧ c.toNat ≤ 57 := Char.isDigit_iff_toNat.mp digit
    omega

theorem PlainChar.printable {c : Char} (plain : PlainChar c) : 0x20 ≤ c.toNat ∧ c.toNat < 0x80 := by
  have ofSigns : ∀ c ∈ signs, 0x20 ≤ c.toNat ∧ c.toNat < 0x80 := by simp [signs]
  rcases plain with alphanumeric | sign
  · have bounds := bounds_of_isAlphanum alphanumeric
    omega
  · exact ofSigns c sign

theorem PlainChar.ne_escape {c : Char} (plain : PlainChar c) : c ≠ escape := by
  rintro rfl
  exact absurd plain.printable.1 (by decide)

theorem PlainChar.ne_newline {c : Char} (plain : PlainChar c) : c ≠ '\n' := by
  rintro rfl
  exact absurd plain.printable.1 (by decide)

theorem PlainText.escape_not_mem {text : String} (plain : PlainText text) :
    escape ∉ text.toList :=
  fun inside => (plain _ inside).ne_escape rfl

/-- The sequences of an ink show nothing and break no line. -/
structure Ink.Invisible (ink : Ink) : Prop where
  start : Shows ink.start ""
  stop : Shows ink.stop ""
  unbroken : '\n' ∉ ink.start.toList ++ ink.stop.toList

theorem Ink.plain_invisible : Ink.plain.Invisible := ⟨⟨rfl, rfl⟩, ⟨rfl, rfl⟩, by decide⟩

namespace Palette

def inUnicode (alarm advice : Ink) : Palette := ⟨"×", "│", alarm, advice⟩

def inAscii (alarm advice : Ink) : Palette := ⟨"x", "|", alarm, advice⟩

end Palette

/-- What is relied on of a printer. Each theme lays reports out with its own palette, as far as the
    texts are plain; a text is filled into lines by its characters only, beside margins of which
    nothing but the columns counts; escape sequences take no columns, and all marks as many. -/
structure Printer.Lawful (printer : Printer) (typesetting : Typesetting) (alarm advice : Ink) :
    Prop where
  unicode : ∀ diagnostic, PlainText diagnostic.message → PlainText diagnostic.help →
    printer.print printer.unicode diagnostic =
      some (typesetting.page (.inUnicode alarm advice) diagnostic)
  unicodeNoColour : ∀ diagnostic, PlainText diagnostic.message → PlainText diagnostic.help →
    printer.print printer.unicodeNoColour diagnostic =
      some (typesetting.page (.inUnicode .plain .plain) diagnostic)
  ascii : ∀ diagnostic, PlainText diagnostic.message → PlainText diagnostic.help →
    printer.print printer.ascii diagnostic =
      some (typesetting.page (.inAscii alarm advice) diagnostic)
  asciiNoColour : ∀ diagnostic, PlainText diagnostic.message → PlainText diagnostic.help →
    printer.print printer.asciiNoColour diagnostic =
      some (typesetting.page (.inAscii .plain .plain) diagnostic)
  alarm_invisible : alarm.Invisible
  advice_invisible : advice.Invisible
  mem_of_mem_fill : ∀ limit text, PlainText text → ∀ line ∈ typesetting.fill limit text,
    ∀ c ∈ line.text.toList, c ∈ text.toList
  columns_eq : ∀ painted plain, Shows painted plain →
    typesetting.columns painted = typesetting.columns plain
  columns_cross : typesetting.columns (marked .plain "×") = typesetting.columns (marked .plain "x")
  columns_bar : typesetting.columns (marked .plain "│") = typesetting.columns (marked .plain "|")

namespace Printer.Lawful

/-- Margins of the same columns leave the same columns to the text, so it breaks at the same
    places. -/
theorem filled_eq (lawful : printer.Lawful typesetting alarm advice)
    {margin other : Margin → String}
    (columns : ∀ place, typesetting.columns (margin place) = typesetting.columns (other place))
    {text : String} (plain : PlainText text) :
    ∃ lines : List Line, (∀ line ∈ lines, PlainText line.text) ∧
      typesetting.filled margin text = lines.map (fun line => margin line.margin ++ line.text) ∧
      typesetting.filled other text = lines.map fun line => other line.margin ++ line.text := by
  refine ⟨_, ?_, rfl, ?_⟩
  · intro line member c inside
    exact plain c (lawful.mem_of_mem_fill _ text plain line member c inside)
  · simp only [Typesetting.filled, columns]

theorem forall_mem_lines (lawful : printer.Lawful typesetting alarm advice) {P : Char → Prop}
    (code : ∀ c ∈ (palette.alarm.paint diagnostic.code).toList, P c)
    (messageMargin : ∀ place, ∀ c ∈ (palette.messageMargin place).toList, P c)
    (helpMargin : ∀ place, ∀ c ∈ (palette.helpMargin place).toList, P c)
    (plainChars : ∀ c, PlainChar c → P c) (message : PlainText diagnostic.message)
    (help : PlainText diagnostic.help) :
    ∀ line ∈ typesetting.lines palette diagnostic, ∀ c ∈ line.toList, P c := by
  have ofFilled {margin : Margin → String} {text : String} (plain : PlainText text)
      (margins : ∀ place, ∀ c ∈ (margin place).toList, P c) :
      ∀ line ∈ typesetting.filled margin text, ∀ c ∈ line.toList, P c := by
    obtain ⟨lines, plainLines, filled, -⟩ := lawful.filled_eq (fun place => rfl) plain
    intro line member c inside
    rw [filled] at member
    obtain ⟨piece, known, rfl⟩ := List.mem_map.mp member
    rw [String.toList_append, List.mem_append] at inside
    rcases inside with inMargin | inText
    · exact margins piece.margin c inMargin
    · exact plainChars c (plainLines piece known c inText)
  intro line member
  simp only [Typesetting.lines, List.mem_cons, List.mem_append] at member
  rcases member with rfl | rfl | inMessage | inHelp
  · exact code
  · exact fun c inside => absurd inside List.not_mem_nil
  · exact ofFilled message messageMargin line inMessage
  · exact ofFilled help helpMargin line inHelp

end Printer.Lawful

theorem mem_page {c : Char} (inside : c ∈ (typesetting.page palette diagnostic).toList) :
    c = '\n' ∨ ∃ line ∈ typesetting.lines palette diagnostic, c ∈ line.toList := by
  rw [Typesetting.page, String.toList_join, List.flatMap_map, List.mem_flatMap] at inside
  obtain ⟨line, member, inLine⟩ := inside
  rw [String.toList_append, List.mem_append] at inLine
  rcases inLine with inLine | isBreak
  · exact .inr ⟨line, member, inLine⟩
  · exact .inl (List.mem_singleton.mp isBreak)

theorem flatMap_newline (parts : List (List Char)) :
    parts.flatMap (· ++ ['\n']) = ['\n'].intercalate (parts ++ [[]]) := by
  induction parts with
  | nil => rfl
  | cons part parts ih =>
    rw [List.flatMap_cons, List.cons_append, List.intercalate_cons_of_ne_nil (by simp), ih]

theorem splitOn_page
    (unbroken : ∀ line ∈ typesetting.lines palette diagnostic, '\n' ∉ line.toList) :
    (typesetting.page palette diagnostic).toList.splitOn '\n' =
      (typesetting.lines palette diagnostic).map String.toList ++ [[]] := by
  let parts := (typesetting.lines palette diagnostic).map String.toList
  have unbrokenParts : ∀ part ∈ parts ++ [[]], '\n' ∉ part := by
    intro part member
    rcases List.mem_append.mp member with ofLine | atEnd
    · obtain ⟨line, known, rfl⟩ := List.mem_map.mp ofLine
      exact unbroken line known
    · rw [List.mem_singleton.mp atEnd]
      exact List.not_mem_nil
  have written : (typesetting.page palette diagnostic).toList = parts.flatMap (· ++ ['\n']) := by
    simp only [Typesetting.page, parts, String.toList_join, List.flatMap_map, String.toList_append]
    rfl
  rw [written, flatMap_newline, List.splitOn_intercalate '\n' unbrokenParts (by simp)]

end GenericTypes.Report

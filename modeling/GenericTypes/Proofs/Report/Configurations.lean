import GenericTypes.Proofs.Report.Colour
import GenericTypes.Proofs.Terminal.Printer
import GenericTypes.Report.Basic
import GenericTypes.TypeName

namespace GenericTypes

open Escape

variable {H : Type} [Handle H]

namespace Report

variable {printer : Printer} {typesetting : Typesetting} {alarm advice : Ink}

omit [Handle H] in
theorem code_legible (error : InstantiationError H) :
    ∀ c ∈ error.code.toList, c.toNat < 0x80 ∧ c ≠ escape ∧ c ≠ '\n' := by
  have codes : ∀ code ∈
      ["typegraph::arity", "typegraph::owner_mismatch", "typegraph::unsupported_owner"],
      ∀ c ∈ code.toList, c.toNat < 0x80 ∧ c ≠ escape ∧ c ≠ '\n' := by simp [escape]
  apply codes
  cases error <;> simp [InstantiationError.code]

omit [Handle H] in
theorem escape_not_mem_code (error : InstantiationError H) : escape ∉ error.code.toList :=
  fun inside => (code_legible error _ inside).2.1 rfl

/-- A line with its mark in ASCII replaced by the one beyond ASCII, if it bears a mark. -/
def remark (ink : Ink) (line : List Char) : List Char :=
  if (marked ink "x").toList <+: line then
    (marked ink "×").toList ++ line.drop (marked ink "x").toList.length
  else if (marked ink "|").toList <+: line then
    (marked ink "│").toList ++ line.drop (marked ink "|").toList.length
  else line

theorem remark_cross (ink : Ink) (text : List Char) :
    remark ink ((marked ink "x").toList ++ text) = (marked ink "×").toList ++ text := by
  rw [remark, if_pos (List.prefix_append ..), List.drop_left]

theorem toList_marked (ink : Ink) (mark : String) :
    (marked ink mark).toList =
      (' ' :: ' ' :: ink.start.toList) ++ (mark.toList ++ (ink.stop.toList ++ [' '])) := by
  simp [marked, Ink.paint]

theorem remark_bar (ink : Ink) (text : List Char) :
    remark ink ((marked ink "|").toList ++ text) = (marked ink "│").toList ++ text := by
  have noCross : ¬ (marked ink "x").toList <+: (marked ink "|").toList ++ text := by
    -- Behind the same sequence come two different signs.
    rw [toList_marked, toList_marked, List.append_assoc, List.prefix_append_right_inj]
    simp
  rw [remark, if_neg noCross, if_pos (List.prefix_append ..), List.drop_left]

theorem marked_isPrefix_visible {ink : Ink} (invisible : ink.Invisible) {mark : String}
    (plain : escape ∉ mark.toList) {line : List Char}
    (isPrefix : (marked ink mark).toList <+: line) :
    (marked .plain mark).toList <+: visible line := by
  obtain ⟨rest, rfl⟩ := isPrefix
  have shown := invisible.shows_marked plain
  rw [visible_append shown.closes, shown.visible_eq]
  exact List.prefix_append ..

/-- A line bears no mark if what it shows does not begin with one. -/
theorem remark_of_visible {ink : Ink} (invisible : ink.Invisible) {line : List Char}
    (noCross : ¬ (marked .plain "x").toList <+: visible line)
    (noBar : ¬ (marked .plain "|").toList <+: visible line) : remark ink line = line := by
  have crossPlain : escape ∉ "x".toList := by decide
  have barPlain : escape ∉ "|".toList := by decide
  rw [remark,
    if_neg fun isPrefix => noCross (marked_isPrefix_visible invisible crossPlain isPrefix),
    if_neg fun isPrefix => noBar (marked_isPrefix_visible invisible barPlain isPrefix)]

theorem remark_nil {ink : Ink} (invisible : ink.Invisible) : remark ink [] = [] := by
  have nothing : visible [] = [] := rfl
  apply remark_of_visible invisible <;> rw [nothing, toList_marked] <;> simp

omit [Handle H] in
theorem remark_code {ink painted : Ink} (invisible : ink.Invisible)
    (paintedInvisible : painted.Invisible) (error : InstantiationError H) :
    remark ink (painted.paint error.code).toList = (painted.paint error.code).toList := by
  have shown := (paintedInvisible.shows_paint (escape_not_mem_code error)).visible_eq
  have start : ∃ rest, error.code.toList = 't' :: rest := by
    cases error <;> simp [InstantiationError.code]
  obtain ⟨rest, start⟩ := start
  apply remark_of_visible invisible <;> rw [shown, start, toList_marked] <;> simp

theorem remark_help {palette : Palette} (legible : palette.Legible) {ink : Ink}
    (invisible : ink.Invisible) (place : Margin) {text : String} (plain : PlainText text) :
    remark ink ((palette.helpMargin place).toList ++ text.toList) =
      (palette.helpMargin place).toList ++ text.toList := by
  have margin := legible.shows_helpMargin place
  have shown : visible ((palette.helpMargin place).toList ++ text.toList) =
      (palette.uncoloured.helpMargin place).toList ++ text.toList := by
    rw [visible_append margin.closes, margin.visible_eq, visible_of_plain plain.escape_not_mem]
  apply remark_of_visible invisible <;> rw [shown, toList_marked] <;>
    cases place <;> simp [Palette.helpMargin, Palette.uncoloured, Ink.paint, Ink.plain]

theorem remark_messageMargin (alarm advice : Ink) (place : Margin) (text : List Char) :
    remark alarm (((Palette.inAscii alarm advice).messageMargin place).toList ++ text) =
      ((Palette.inUnicode alarm advice).messageMargin place).toList ++ text := by
  cases place with
  | first => exact remark_cross alarm text
  | further => exact remark_bar alarm text

namespace Printer.Lawful

variable {own adviceInk : Ink}

theorem columns_marked (lawful : printer.Lawful typesetting alarm advice)
    (invisible : own.Invisible) {mark : String} (plain : escape ∉ mark.toList) :
    typesetting.columns (marked own mark) = typesetting.columns (marked .plain mark) :=
  lawful.columns_eq _ _ (invisible.shows_marked plain)

theorem columns_messageMargin (lawful : printer.Lawful typesetting alarm advice)
    (invisible : own.Invisible) (place : Margin) :
    typesetting.columns ((Palette.inAscii own adviceInk).messageMargin place) =
      typesetting.columns ((Palette.inUnicode own adviceInk).messageMargin place) := by
  cases place with
  | first =>
    show typesetting.columns (marked own "x") = typesetting.columns (marked own "×")
    rw [lawful.columns_marked invisible (by decide : escape ∉ "x".toList),
      lawful.columns_marked invisible (by decide : escape ∉ "×".toList), lawful.columns_cross]
  | further =>
    show typesetting.columns (marked own "|") = typesetting.columns (marked own "│")
    rw [lawful.columns_marked invisible (by decide : escape ∉ "|".toList),
      lawful.columns_marked invisible (by decide : escape ∉ "│".toList), lawful.columns_bar]

theorem filled_remarked (lawful : printer.Lawful typesetting alarm advice)
    {margin other : Margin → String}
    (columns : ∀ place, typesetting.columns (margin place) = typesetting.columns (other place))
    (remarks : ∀ place text, PlainText text →
      remark own ((margin place).toList ++ text.toList) = (other place).toList ++ text.toList)
    {text : String} (plain : PlainText text) :
    (typesetting.filled other text).map String.toList =
      ((typesetting.filled margin text).map String.toList).map (remark own) := by
  obtain ⟨lines, plainLines, ofMargin, ofOther⟩ := lawful.filled_eq columns plain
  rw [ofMargin, ofOther, List.map_map, List.map_map, List.map_map]
  apply List.map_congr_left
  intro line member
  have marks := remarks line.margin line.text (plainLines line member)
  simp only [Function.comp_apply, String.toList_append, marks]

theorem lines_remarked (lawful : printer.Lawful typesetting alarm advice)
    (invisible : own.Invisible) (adviceInvisible : adviceInk.Invisible)
    {error : InstantiationError H} (message : PlainText (diagnostic error).message)
    (help : PlainText (diagnostic error).help) :
    (typesetting.lines (.inUnicode own adviceInk) (diagnostic error)).map String.toList =
      ((typesetting.lines (.inAscii own adviceInk) (diagnostic error)).map String.toList).map
        (remark own) := by
  have legible := Palette.inAscii_legible invisible adviceInvisible
  have messageLines := lawful.filled_remarked (lawful.columns_messageMargin invisible)
    (fun place text _ => remark_messageMargin own adviceInk place text.toList) message
  have helpLines := lawful.filled_remarked (fun _ => rfl)
    (fun place text plain => remark_help legible invisible place plain) help
  have code :
      remark own ((Palette.inAscii own adviceInk).alarm.paint (diagnostic error).code).toList =
        ((Palette.inUnicode own adviceInk).alarm.paint (diagnostic error).code).toList :=
    remark_code invisible invisible error
  have sameHelp : (Palette.inUnicode own adviceInk).helpMargin =
      (Palette.inAscii own adviceInk).helpMargin := rfl
  simp only [Typesetting.lines, List.map_cons, List.map_append]
  rw [code, String.toList_empty, remark_nil invisible, messageLines, sameHelp, ← helpLines]

theorem newline_not_mem_lines (lawful : printer.Lawful typesetting alarm advice)
    {palette : Palette} (legible : palette.Legible) {error : InstantiationError H}
    (message : PlainText (diagnostic error).message) (help : PlainText (diagnostic error).help) :
    ∀ line ∈ typesetting.lines palette (diagnostic error), '\n' ∉ line.toList := by
  have code : '\n' ∉ (palette.alarm.paint error.code).toList :=
    legible.alarm.newline_not_mem_paint fun inside => (code_legible error _ inside).2.2 rfl
  intro line member inside
  refine lawful.forall_mem_lines ?_ ?_ ?_ (fun c plain => plain.ne_newline) message help line member
    _ inside rfl
  · exact fun c inside isBreak => code (isBreak ▸ inside)
  · intro place c inside isBreak
    exact legible.newline_not_mem_messageMargin place (isBreak ▸ inside)
  · intro place c inside isBreak
    exact legible.newline_not_mem_helpMargin place (isBreak ▸ inside)

theorem splitOn_remarked (lawful : printer.Lawful typesetting alarm advice)
    (invisible : own.Invisible) (adviceInvisible : adviceInk.Invisible)
    {error : InstantiationError H} (message : PlainText (diagnostic error).message)
    (help : PlainText (diagnostic error).help) :
    (typesetting.page (.inUnicode own adviceInk) (diagnostic error)).toList.splitOn '\n' =
      ((typesetting.page (.inAscii own adviceInk) (diagnostic error)).toList.splitOn '\n').map
        (remark own) := by
  have inUnicode := Palette.inUnicode_legible invisible adviceInvisible
  have inAscii := Palette.inAscii_legible invisible adviceInvisible
  rw [splitOn_page (lawful.newline_not_mem_lines inUnicode message help),
    splitOn_page (lawful.newline_not_mem_lines inAscii message help),
    lawful.lines_remarked invisible adviceInvisible message help, List.map_append,
    List.map_singleton, remark_nil invisible]

theorem forall_mem_page_ascii (lawful : printer.Lawful typesetting alarm advice)
    {error : InstantiationError H} (message : PlainText (diagnostic error).message)
    (help : PlainText (diagnostic error).help) :
    ∀ c ∈ (typesetting.page (.inAscii .plain .plain) (diagnostic error)).toList,
      c.toNat < 0x80 ∧ c ≠ escape := by
  have margins : ∀ place, ∀ c ∈ ((Palette.inAscii .plain .plain).messageMargin place).toList ++
      ((Palette.inAscii .plain .plain).helpMargin place).toList, c.toNat < 0x80 ∧ c ≠ escape := by
    intro place
    cases place <;>
      simp [Palette.inAscii, Palette.messageMargin, Palette.helpMargin, marked, Ink.paint,
        Ink.plain, escape]
  have code : ∀ c ∈ ((Palette.inAscii .plain .plain).alarm.paint (diagnostic error).code).toList,
      c.toNat < 0x80 ∧ c ≠ escape := by
    show ∀ c ∈ (Ink.plain.paint error.code).toList, c.toNat < 0x80 ∧ c ≠ escape
    rw [Ink.paint_plain]
    intro c inside
    obtain ⟨ascii, plain, -⟩ := code_legible error c inside
    exact ⟨ascii, plain⟩
  intro c inside
  rcases mem_page inside with rfl | ⟨line, member, inLine⟩
  · decide
  · have messageMargin := fun place c inside => margins place c (List.mem_append_left _ inside)
    have helpMargin := fun place c inside => margins place c (List.mem_append_right _ inside)
    exact lawful.forall_mem_lines code messageMargin helpMargin
      (fun c plain => ⟨plain.printable.2, plain.ne_escape⟩) message help line member c inLine

end Printer.Lawful

def Config.palette (alarm advice : Ink) : Config → Palette
  | ⟨true, .unicode⟩ => .inUnicode alarm advice
  | ⟨false, .unicode⟩ => .inUnicode .plain .plain
  | ⟨true, .ascii⟩ => .inAscii alarm advice
  | ⟨false, .ascii⟩ => .inAscii .plain .plain

theorem Config.palette_legible (alarm_invisible : alarm.Invisible)
    (advice_invisible : advice.Invisible) (config : Config) :
    (config.palette alarm advice).Legible := by
  obtain ⟨_ | _, _ | _⟩ := config
  · exact Palette.inUnicode_legible Ink.plain_invisible Ink.plain_invisible
  · exact Palette.inAscii_legible Ink.plain_invisible Ink.plain_invisible
  · exact Palette.inUnicode_legible alarm_invisible advice_invisible
  · exact Palette.inAscii_legible alarm_invisible advice_invisible

theorem Config.uncoloured_palette (charset : Charset) :
    (Config.palette alarm advice ⟨true, charset⟩).uncoloured =
      Config.palette alarm advice ⟨false, charset⟩ := by
  cases charset <;> rfl

theorem Printer.Lawful.print_eq (lawful : printer.Lawful typesetting alarm advice)
    (config : Config) {diagnostic : Diagnostic} (message : PlainText diagnostic.message)
    (help : PlainText diagnostic.help) :
    printer.print (printer.theme config) diagnostic =
      some (typesetting.page (config.palette alarm advice) diagnostic) := by
  obtain ⟨_ | _, _ | _⟩ := config
  · exact lawful.unicodeNoColour diagnostic message help
  · exact lawful.asciiNoColour diagnostic message help
  · exact lawful.unicode diagnostic message help
  · exact lawful.ascii diagnostic message help

theorem Printer.Lawful.report_eq (lawful : printer.Lawful typesetting alarm advice)
    (config : Config) {error : InstantiationError H} (message : PlainText error.message)
    (help : PlainText error.help) :
    printer.report config error =
      .ok (typesetting.page (config.palette alarm advice) (diagnostic error)) := by
  have printed : printer.print (printer.theme config) (diagnostic error) = _ :=
    lawful.print_eq config message help
  rw [Printer.report, printed]

/-- What a report says does not depend on its configuration, whatever lawful printer prints it: it
    is printed in each of them. Without its escape sequences a report in colour is the one without
    colour; beyond ASCII it has the same lines as in ASCII, with the mark at the start of a line
    replaced; and plain ASCII is what its configuration says. -/
theorem render_same_content (lawful : printer.Lawful typesetting alarm advice)
    (error : InstantiationError H) (message : PlainText error.message)
    (help : PlainText error.help) :
    ∃ text : Config → String, (∀ config, printer.report config error = .ok (text config)) ∧
      (∀ charset, String.ofList (visible (text ⟨true, charset⟩).toList) = text ⟨false, charset⟩) ∧
      (∀ colour, (text ⟨colour, .unicode⟩).toList.splitOn '\n' =
        ((text ⟨colour, .ascii⟩).toList.splitOn '\n').map
          (remark (if colour then alarm else .plain))) ∧
      ∀ c ∈ (text ⟨false, .ascii⟩).toList, c.toNat < 0x80 ∧ c ≠ escape := by
  have invisible := lawful.alarm_invisible
  have adviceInvisible := lawful.advice_invisible
  have code : escape ∉ (diagnostic error).code.toList := escape_not_mem_code error
  refine ⟨fun config => typesetting.page (config.palette alarm advice) (diagnostic error),
    fun config => lawful.report_eq config message help, fun charset => ?_, fun colour => ?_,
    lawful.forall_mem_page_ascii message help⟩
  · have legible := Config.palette_legible invisible adviceInvisible ⟨true, charset⟩
    have shown := (lawful.shows_page legible code message help).visible_eq
    rw [Config.uncoloured_palette] at shown
    rw [shown, String.ofList_toList]
  · cases colour with
    | true => exact lawful.splitOn_remarked invisible adviceInvisible message help
    | false =>
      exact lawful.splitOn_remarked Ink.plain_invisible Ink.plain_invisible message help

/-- The name of this owner does not fit on one line of a report. -/
def wideOwner : InstantiationError TypeName :=
  .unsupportedOwner (.plain "List") (.nominal (.plain (.ofList (List.replicate 400 'S'))))

theorem render_same_content_wide :
    Terminal.printer.Lawful Terminal.typesetting Terminal.red Terminal.cyan ∧
      PlainText wideOwner.message ∧ PlainText wideOwner.help ∧
      (∀ config, Terminal.printer.report config wideOwner = .ok (render config wideOwner)) ∧
      String.ofList (visible (render ⟨true, .unicode⟩ wideOwner).toList) =
        render ⟨false, .unicode⟩ wideOwner ∧
      (render ⟨true, .unicode⟩ wideOwner).toList.splitOn '\n' =
        ((render ⟨true, .ascii⟩ wideOwner).toList.splitOn '\n').map (remark Terminal.red) := by
  have letters : PlainText (.ofList (List.replicate 400 'S')) := by
    intro c inside
    rw [String.toList_ofList] at inside
    rw [List.eq_of_mem_replicate inside]
    exact .inl (by decide)
  have name : PlainText (TypeName.plain (.ofList (List.replicate 400 'S'))).text :=
    letters.append (by decide)
  have start : PlainText "unknown owner type " := by decide +kernel
  have middle : PlainText " of " := by decide +kernel
  have message : PlainText wideOwner.message :=
    ((start.append name).append middle).append (by decide +kernel : PlainText "List")
  have help : PlainText wideOwner.help := by decide +kernel
  have lawful := Terminal.printer_lawful
  have reports (config : Config) :
      Terminal.printer.report config wideOwner = .ok (render config wideOwner) := rfl
  obtain ⟨text, printed, colours, charsets, -⟩ := render_same_content lawful wideOwner message help
  obtain rfl : (render · wideOwner) = text := by
    funext config
    exact Except.ok.inj ((reports config).symm.trans (printed config))
  exact ⟨lawful, message, help, reports, colours .unicode, charsets true⟩

example : render ⟨false, .ascii⟩ (.argumentCountMismatch (TypeName.plain "Map") 2 1) =
    "typegraph::arity\n\n  x type parameter count mismatch of Map: 1 vs 2\n" ++
      "  help: Map declares 2 type parameter(s)\n" := by
  decide +kernel

end Report

end GenericTypes

import HelpPages.Proofs.Page.Listings

/-! # The labels of options in colour

The section of the options emphasises as many cells of a line as there are columns of labels.
The number comes from the options, while the columns come from the widths of their cells, and the
cells are found again by cutting the line at its tabs.  The three agree, since a column is shown
exactly if some option has something in it, and labels have no tabs; tabs in a description cut
only cells behind the labels (`emphasizeCells_joinWith`).  So a line has its labels in colour,
each without the blanks that fill its column, and nothing else (`Renderer.options_painted`).
-/
namespace HelpPages

open Table (Column cellAt columnWidths isMeasurable)
open Table.Config (plain paddedCells rowTexts)

namespace Text

variable {sep : CodePoint}

/-- Texts behind separators are cut into their pieces. -/
theorem splitOn_append_flatMap (s : Text) (ts : List Text) :
    splitOn sep (s ++ ts.flatMap ([sep] ++ ·)) = splitOn sep s ++ ts.flatMap (splitOn sep) := by
  induction ts generalizing s with
  | nil => simp
  | cons t ts ih =>
    have hsplit : s ++ (t :: ts).flatMap ([sep] ++ ·) =
        s ++ sep :: (t ++ ts.flatMap ([sep] ++ ·)) := rfl
    rw [hsplit, splitOn_append, ih, List.flatMap_cons]

/-- The pieces of texts stand behind separators as the texts do. -/
theorem flatMap_splitOn (ts : List Text) :
    (ts.flatMap (splitOn sep)).flatMap ([sep] ++ ·) = ts.flatMap ([sep] ++ ·) := by
  rw [List.flatMap_assoc]
  refine List.flatMap_congr fun t _ => ?_
  rw [flatMap_sep [sep] (splitOn_ne_nil sep t), joinWith_splitOn]

end Text

namespace CommandOption

/-- A label in one word, with nothing in it that moves or colours what follows. -/
def IsLabel (t : Text) : Prop :=
  ∀ c ∈ t, c ≠ .char '\t' ∧ c ≠ .char '\x1b' ∧ c ≠ .char ' ' ∧ Text.isLineBreak c = false

/-- The names of the option are labels, and its description keeps to a line and has no codes. -/
structure IsPlain (o : CommandOption) : Prop where
  longName : ∀ name ∈ o.longName, IsLabel name
  flag : ∀ name ∈ o.flag, IsLabel name
  description : o.description.IsUnbroken ∧ CodePoint.char '\x1b' ∉ o.description

instance (t : Text) : Decidable (IsLabel t) :=
  inferInstanceAs (Decidable (∀ c ∈ t, _ ∧ _ ∧ _ ∧ _))

instance (o : CommandOption) : Decidable o.IsPlain :=
  decidable_of_iff ((∀ name ∈ o.longName, IsLabel name) ∧ (∀ name ∈ o.flag, IsLabel name) ∧
      o.description.IsUnbroken ∧ CodePoint.char '\x1b' ∉ o.description)
    ⟨fun h => ⟨h.1, h.2.1, h.2.2⟩, fun h => ⟨h.1, h.2, h.3⟩⟩

theorem isLabel_label {dashes : Text} {name : Option Text} (hdashes : IsLabel dashes)
    (h : ∀ t ∈ name, IsLabel t) : IsLabel (label dashes name) := by
  rw [label.eq_def]
  split
  · exact List.forall_mem_nil _
  · exact List.forall_mem_nil _
  · next t _ => exact List.forall_mem_append.mpr ⟨hdashes, h _ rfl⟩

namespace IsPlain

variable {o : CommandOption}

theorem longLabel (h : o.IsPlain) : IsLabel o.longLabel := isLabel_label (by decide) h.longName

theorem shortLabel (h : o.IsPlain) : IsLabel o.shortLabel := isLabel_label (by decide) h.flag

end IsPlain

/-! ### Cells of options -/

/-- The width of the column of a part: that of the widest one. -/
def partWidth (options : List CommandOption) (part : CommandOption → Text) : Nat :=
  (options.map fun o => Text.width (part o)).foldr max 0

/-- The cell of an option in the column of a part.  There is no column if no option has the
part. -/
def partCell (options : List CommandOption) (part : CommandOption → Text)
    (fill : Nat → Text → Text) (o : CommandOption) : List Text :=
  if options.all (part · = []) then [] else [fill (partWidth options part) (part o)]

theorem forall_partCell {p : Text → Prop} {options : List CommandOption}
    {part : CommandOption → Text} {fill : Nat → Text → Text} {o : CommandOption}
    (h : p (fill (partWidth options part) (part o))) :
    ∀ cell ∈ partCell options part fill o, p cell := by
  intro cell hcell
  rw [partCell] at hcell
  split at hcell
  · cases hcell
  · rwa [List.mem_singleton.mp hcell]

/-- A label between the codes of the emphasis, or nothing for an absent one, and behind it the
blanks that fill its column. -/
def paintedLabel (w : Nat) (label : Text) : Text :=
  let painted : Text := if label = [] then [] else "\x1b[32m" ++ label ++ "\x1b[0m"
  painted ++ Text.spaces (w - Text.width label)

/-- The cells of the labels of an option in their columns. -/
def labelCells (fill : Nat → Text → Text) (options : List CommandOption) (o : CommandOption) :
    List Text :=
  partCell options longLabel fill o ++ partCell options shortLabel fill o

/-- The line of an option with its labels in colour. -/
def paintedLine (options : List CommandOption) (o : CommandOption) : Text :=
  Text.joinWith "\t"
    (labelCells paintedLabel options o ++ partCell options description Text.padRight o)

end CommandOption

namespace Renderer

open CommandOption (IsLabel partWidth partCell forall_partCell labelCells paintedLabel paintedLine)

variable {options : List CommandOption}

/-- A part of an option stands in the rows at a place. -/
def IsPartAt (part : CommandOption → Text) (i : Nat) : Prop := ∀ o, cellAt (optionRow o) i = part o

/-- The column of a part at its place, if some option has the part. -/
def partColumn (options : List CommandOption) (part : CommandOption → Text) (i : Nat) :
    List Column :=
  if options.all (part · = []) then [] else [⟨i, partWidth options part⟩]

theorem getD_columnWidths_options (options : List CommandOption) {part : CommandOption → Text}
    {i : Nat} (h : IsPartAt part i) :
    (columnWidths (options.map optionRow)).getD i 0 = partWidth options part := by
  rw [Table.getD_columnWidths, List.map_map, partWidth]
  exact congrArg _ (List.map_congr_left fun o _ => congrArg Text.width (h o))

/-- A column has no width exactly if no option has its part. -/
theorem partWidth_eq_zero_iff {part : CommandOption → Text} {i : Nat} (h : IsPartAt part i) :
    partWidth options part = 0 ↔ options.all (part · = []) = true := by
  rw [← getD_columnWidths_options options h, Table.getD_columnWidths_eq_zero_iff,
    List.forall_mem_map, List.all_eq_true]
  exact forall₂_congr fun o _ => by rw [h o, decide_eq_true_iff]

theorem filter_partColumn {part : CommandOption → Text} {i : Nat} (h : IsPartAt part i) :
    [Column.mk i (partWidth options part)].filter (fun c => !optionTable.skipEmpty || 0 < c.width) =
      partColumn options part i := by
  rw [partColumn, List.filter_singleton]
  by_cases hnone : options.all (part · = []) = true
  · rw [if_pos hnone, (partWidth_eq_zero_iff h).mpr hnone]
    rfl
  · have hpos : 0 < partWidth options part :=
      Nat.pos_of_ne_zero (mt (partWidth_eq_zero_iff h).mp hnone)
    rw [if_neg hnone, decide_eq_true hpos]
    rfl

/-- Every option has a row of three cells. -/
theorem longest_options (hne : options ≠ []) : Table.longest (options.map optionRow) = 3 := by
  have hle : ∀ options : List CommandOption, Table.longest (options.map optionRow) ≤ 3 := by
    intro options
    induction options with
    | nil => exact Nat.zero_le _
    | cons o options ih => exact Nat.max_le.mpr ⟨Nat.le_refl 3, ih⟩
  obtain ⟨o, options, rfl⟩ := List.exists_cons_of_ne_nil hne
  exact Nat.max_eq_left (hle options)

/-- Those columns are drawn for whose part some option has something. -/
theorem columns_options (hne : options ≠ []) :
    optionTable.columns (columnWidths (options.map optionRow)) =
      partColumn options CommandOption.longLabel 0 ++
        partColumn options CommandOption.shortLabel 1 ++
        partColumn options CommandOption.description 2 := by
  have hlong : IsPartAt CommandOption.longLabel 0 := fun _ => rfl
  have hshort : IsPartAt CommandOption.shortLabel 1 := fun _ => rfl
  have hdescription : IsPartAt CommandOption.description 2 := fun _ => rfl
  have hlength : (columnWidths (options.map optionRow)).length = 3 := by
    rw [Table.length_columnWidths, longest_options hne]
  obtain ⟨a, b, c, hwidths⟩ := List.length_eq_three.mp hlength
  have ha := getD_columnWidths_options options hlong
  have hb := getD_columnWidths_options options hshort
  have hc := getD_columnWidths_options options hdescription
  rw [hwidths] at ha hb hc
  obtain rfl : a = _ := ha
  obtain rfl : b = _ := hb
  obtain rfl : c = _ := hc
  rw [← filter_partColumn hlong, ← filter_partColumn hshort, ← filter_partColumn hdescription,
    ← List.filter_append, ← List.filter_append, hwidths]
  rfl

/-- The cells of an option in the columns that are drawn. -/
theorem paddedCells_options (hne : options ≠ []) (o : CommandOption) :
    paddedCells (optionTable.columns (columnWidths (options.map optionRow))) (optionRow o) =
      labelCells Text.padRight options o ++
        partCell options CommandOption.description Text.padRight o := by
  have hcell : ∀ (part : CommandOption → Text) (i : Nat), IsPartAt part i →
      paddedCells (partColumn options part i) (optionRow o) =
        partCell options part Text.padRight o := by
    intro part i h
    rw [partColumn, partCell]
    split
    · rfl
    · rw [← h o]
      rfl
  rw [columns_options hne, paddedCells, List.map_append, List.map_append]
  exact congrArg₂ _ (congrArg₂ _ (hcell _ 0 fun _ => rfl) (hcell _ 1 fun _ => rfl))
    (hcell _ 2 fun _ => rfl)

/-! ### Emphasised cells -/

/-- The first cells of a line are emphasised if they have no tabs, whatever follows them. -/
theorem emphasizeCells_joinWith (pen : Pen) (colored : pen.colored = true) {cells : List Text}
    (rest : List Text) (free : ∀ cell ∈ cells, CodePoint.char '\t' ∉ cell) :
    emphasizeCells pen cells.length (Text.joinWith "\t" (cells ++ rest)) =
      Text.joinWith "\t" (cells.map (emphasizeCell pen) ++ rest) := by
  by_cases hcells : cells = []
  · rw [hcells]
    simp [emphasizeCells]
  · have htab : (("\t" : String) : Text) = [.char '\t'] := rfl
    have hstyled : cells.map (emphasizeCell pen) ≠ [] := mt List.map_eq_nil_iff.mp hcells
    rw [emphasizeCells, if_neg (by simp [colored, hcells])]
    simp only [htab, Int.toNat_natCast]
    rw [Text.joinWith_append _ hcells, Text.splitOn_append_flatMap,
      Text.splitOn_joinWith hcells free, List.take_left, List.drop_left,
      Text.joinWith_append _ hstyled, Text.flatMap_splitOn, Text.joinWith_append _ hstyled]

/-- The blanks that fill the column of a label stay outside its codes. -/
theorem emphasizeCell_padRight (w : Nat) {label : Text} (h : IsLabel label) :
    emphasizeCell ⟨true⟩ (Text.padRight w label) = paintedLabel w label := by
  have hlast : label.getLast? ≠ some (.char ' ') := fun hlast =>
    (h _ (List.mem_of_getLast? hlast)).2.2.1 rfl
  have hcodes : Style.emphasisStyle.codes ≠ [] := by decide
  rw [emphasizeCell, Table.Config.dropEndWhile_padRight w hlast, Text.padRight, List.drop_left,
    paintedLabel]
  show Style.emphasisStyle.apply label ++ _ = _
  rw [Style.apply]
  by_cases hlabel : label = []
  · rw [if_pos (.inl hlabel), if_pos hlabel, hlabel]
  · rw [if_neg (not_or.mpr ⟨hlabel, hcodes⟩), if_neg hlabel]
    rfl

/-! ### The section of the options -/

/-- The line of an option as it is laid out. -/
theorem rowText_options (hne : options ≠ []) (o : CommandOption) :
    optionTable.rowText (optionTable.columns (columnWidths (options.map optionRow))) (optionRow o) =
      Text.joinWith "\t" (labelCells Text.padRight options o ++
        partCell options CommandOption.description Text.padRight o) := by
  rw [← paddedCells_options hne]
  exact Table.Config.rowText_plain true _ _

/-- As many cells of a line are emphasised as it has columns of labels. -/
theorem length_labelCells (fill : Nat → Text → Text) (o : CommandOption) :
    ((labelCells fill options o).length : Int) =
      (if options.any (CommandOption.longLabel · ≠ []) then 1 else 0) +
        if options.any (CommandOption.shortLabel · ≠ []) then 1 else 0 := by
  have hpart : ∀ part : CommandOption → Text, ((partCell options part fill o).length : Int) =
      if options.any (part · ≠ []) then 1 else 0 := by
    intro part
    have hany : options.any (part · ≠ []) = !options.all (part · = []) := by
      rw [Bool.eq_iff_iff]
      simp
    rw [partCell, hany]
    cases options.all (part · = []) <;> rfl
  rw [labelCells, List.length_append, Int.natCast_add, hpart, hpart]

theorem notMem_tab_of_mem_labelCells {o : CommandOption} (h : o.IsPlain) :
    ∀ cell ∈ labelCells Text.padRight options o, CodePoint.char '\t' ∉ cell := by
  have hfilled : ∀ {label : Text}, IsLabel label → ∀ w,
      CodePoint.char '\t' ∉ Text.padRight w label := by
    intro label hlabel w hmem
    rcases List.mem_append.mp hmem with hmem | hmem
    · exact (hlabel _ hmem).1 rfl
    · exact absurd (List.eq_of_mem_replicate hmem) (by decide)
  exact List.forall_mem_append.mpr
    ⟨forall_partCell (hfilled h.longLabel _), forall_partCell (hfilled h.shortLabel _)⟩

theorem map_emphasizeCell_labelCells {o : CommandOption} (h : o.IsPlain) :
    (labelCells Text.padRight options o).map (emphasizeCell ⟨true⟩) =
      labelCells paintedLabel options o := by
  have hpart : ∀ part : CommandOption → Text, IsLabel (part o) →
      (partCell options part Text.padRight o).map (emphasizeCell ⟨true⟩) =
        partCell options part paintedLabel o := by
    intro part hlabel
    rw [partCell, partCell]
    split
    · rfl
    · rw [List.map_singleton, emphasizeCell_padRight _ hlabel]
  rw [labelCells, List.map_append, hpart _ h.longLabel, hpart _ h.shortLabel]
  rfl

/-- The line of an option with its labels emphasised. -/
theorem emphasizeCells_rowText (hne : options ≠ []) {o : CommandOption} (h : o.IsPlain) :
    emphasizeCells ⟨true⟩
        ((if options.any (CommandOption.longLabel · ≠ []) then 1 else 0) +
          if options.any (CommandOption.shortLabel · ≠ []) then 1 else 0)
        (optionTable.rowText (optionTable.columns (columnWidths (options.map optionRow)))
          (optionRow o)) =
      paintedLine options o := by
  rw [← length_labelCells Text.padRight, rowText_options hne,
    emphasizeCells_joinWith ⟨true⟩ rfl _ (notMem_tab_of_mem_labelCells h),
    map_emphasizeCell_labelCells h, paintedLine]

/-- The cells of an option without line breaks. -/
theorem isUnbroken_optionRow {o : CommandOption} (h : o.IsPlain) :
    ∀ cell ∈ optionRow o, cell.IsUnbroken := by
  have hlabel : ∀ {t : Text}, IsLabel t → t.IsUnbroken := fun ht c hc => (ht c hc).2.2.2
  exact List.forall_mem_cons.mpr ⟨hlabel h.longLabel, List.forall_mem_cons.mpr
    ⟨hlabel h.shortLabel, List.forall_mem_singleton.mpr h.description.1⟩⟩

/-- The section of the options in colour has a line for each option with its labels in colour. -/
theorem options_colored {page : Page} (indent : Nat) (hne : page.options ≠ [])
    (h : ∀ o ∈ page.options, o.IsPlain) :
    (colored indent).options page =
      Style.headingStyle.apply "Options:" ++ .char '\n' :: (Text.joinWith [.char '\n']
        (page.options.map fun o => Text.spaces indent ++ paintedLine page.options o) ++
          .char '\n' :: [.char '\n']) := by
  have hunbroken : ∀ row ∈ page.options.map optionRow, ∀ cell ∈ row, cell.IsUnbroken := by
    intro row hrow
    obtain ⟨o, ho, rfl⟩ := List.mem_map.mp hrow
    exact isUnbroken_optionRow (h o ho)
  have hlines : Text.breakLines (optionTable.render (page.options.map optionRow)) =
      rowTexts true (page.options.map optionRow) :=
    (Table.Config.breakLines_render true _).trans
      (Table.Config.brokenLines_eq_iff.mpr (Table.Config.unbroken_rowTexts_iff.mpr hunbroken))
  have hpainted := List.map_congr_left fun o (ho : o ∈ page.options) =>
    congrArg (Text.spaces indent ++ ·) (emphasizeCells_rowText hne (h o ho))
  rw [Renderer.options, if_neg hne]
  dsimp only
  rw [tableSection, hlines, rowTexts, List.map_map, List.map_map, ← hpainted]
  simp only [List.append_assoc]
  rfl

theorem isUnbroken_paintedLabel (w : Nat) {label : Text} (h : IsLabel label) :
    (paintedLabel w label).IsUnbroken := by
  have hlabel : label.IsUnbroken := fun c hc => (h c hc).2.2.2
  have hstart : Text.IsUnbroken "\x1b[32m" := by decide
  have hend : Text.IsUnbroken "\x1b[0m" := by decide
  refine Text.IsUnbroken.append ?_ (Text.isUnbroken_spaces _)
  split
  · exact nofun
  · exact (hstart.append hlabel).append hend

theorem isUnbroken_paintedLine {o : CommandOption} (h : o.IsPlain) :
    (paintedLine options o).IsUnbroken := by
  have htab : Text.IsUnbroken "\t" := by decide
  have hcells : ∀ cell ∈ labelCells paintedLabel options o ++
      partCell options CommandOption.description Text.padRight o, cell.IsUnbroken :=
    List.forall_mem_append.mpr ⟨List.forall_mem_append.mpr
      ⟨forall_partCell (isUnbroken_paintedLabel _ h.longLabel),
        forall_partCell (isUnbroken_paintedLabel _ h.shortLabel)⟩,
      forall_partCell (h.description.1.append (Text.isUnbroken_spaces _))⟩
  intro c hc
  rcases Text.mem_joinWith hc with hc | ⟨cell, hcell, hc⟩
  · exact htab c hc
  · exact hcells cell hcell c hc

/-! ### Codes -/

theorem count_spaces (n : Nat) : (Text.spaces n).count (.char '\x1b') = 0 :=
  List.count_eq_zero_of_not_mem fun hmem => absurd (List.eq_of_mem_replicate hmem) (by decide)

theorem count_paintedLabel (w : Nat) {label : Text} (h : IsLabel label) :
    (paintedLabel w label).count (.char '\x1b') = if label = [] then 0 else 2 := by
  have hlabel : label.count (.char '\x1b') = 0 :=
    List.count_eq_zero_of_not_mem fun hmem => (h _ hmem).2.1 rfl
  have hcodes : List.count (CodePoint.char '\x1b') (("\x1b[32m" : String) : Text) = 1 ∧
      List.count (CodePoint.char '\x1b') (("\x1b[0m" : String) : Text) = 1 := by decide
  rw [paintedLabel, List.count_append, count_spaces]
  split
  · rfl
  · rw [List.count_append, List.count_append, hlabel, hcodes.1, hcodes.2]

/-- The codes in a line are those around its labels. -/
theorem count_paintedLine {o : CommandOption} (h : o.IsPlain) (ho : o ∈ options) :
    (paintedLine options o).count (.char '\x1b') =
      (if o.longLabel = [] then 0 else 2) + if o.shortLabel = [] then 0 else 2 := by
  -- an option has no label in a column that is left out
  have hlabel : ∀ part : CommandOption → Text, IsLabel (part o) →
      (partCell options part paintedLabel o).flatten.count (.char '\x1b') =
        if part o = [] then 0 else 2 := by
    intro part hpart
    rw [partCell]
    split
    · next hnone => rw [if_pos (of_decide_eq_true (List.all_eq_true.mp hnone o ho))]; rfl
    · rw [List.flatten_singleton, count_paintedLabel _ hpart]
  have hdescription : (partCell options CommandOption.description Text.padRight o).flatten.count
      (.char '\x1b') = 0 := by
    rw [partCell]
    split
    · rfl
    · rw [List.flatten_singleton, Text.padRight, List.count_append, count_spaces,
        List.count_eq_zero_of_not_mem h.description.2]
  rw [paintedLine, Text.count_joinWith (by decide), List.flatten_append, List.count_append,
    labelCells, List.flatten_append, List.count_append, hlabel _ h.longLabel,
    hlabel _ h.shortLabel, hdescription, Nat.add_zero]

/-- **Only labels are in colour in the section of the options.**  If names and flags are labels
and descriptions keep to their lines and have no codes, the section is a heading, one line for
each option, and an empty line.  In the line of an option the cells stand between tabs, one for
each part that some option has: a label between the codes of the emphasis with the blanks that
fill its column behind them, blanks only in place of a label that is absent, and the
description.  There are no other codes in the line. -/
theorem options_painted {page : Page} (indent : Nat) (hne : page.options ≠ [])
    (h : ∀ o ∈ page.options, o.IsPlain) :
    ∃ text,
      (do
        tellLayouts (optionLayouts page)
        return (colored indent).options page : Run Failure Text).outcome =
          (if isMeasurable (page.options.map optionRow) then .ok text else .error .unencodable) ∧
      Text.splitOn '\n' text = Style.headingStyle.apply "Options:" ::
        (page.options.map fun o => Text.spaces indent ++ paintedLine page.options o) ++ [[], []] ∧
      ∀ o ∈ page.options,
        (Text.spaces indent ++ paintedLine page.options o).count (.char '\x1b') =
          (if o.longLabel = [] then 0 else 2) + if o.shortLabel = [] then 0 else 2 := by
  refine ⟨(colored indent).options page, ?_, ?_, fun o ho => ?_⟩
  · rw [Run.outcome_bind, optionLayouts, if_neg hne, outcome_tellLayouts, areMeasurable_singleton]
    split <;> rfl
  · have hlines : ∀ line ∈ page.options.map fun o =>
        Text.spaces indent ++ paintedLine page.options o, CodePoint.char '\n' ∉ line := by
      intro line hline hmem
      obtain ⟨o, ho, rfl⟩ := List.mem_map.mp hline
      have hbreak := (Text.isUnbroken_spaces indent).append (isUnbroken_paintedLine (h o ho)) _ hmem
      exact absurd hbreak (by decide)
    rw [options_colored indent hne h]
    exact Text.splitOn_section (by decide) (mt List.map_eq_nil_iff.mp hne) hlines
  · rw [List.count_append, count_spaces, count_paintedLine (h o ho) ho, Nat.zero_add]

/-- Options with all mixes of labels and descriptions, one of them with a tab in it. -/
def mixedOptions : Page where
  options := [
    { longName := some "force", flag := some "f", description := "Force\tit" },
    { flag := some "q" },
    { longName := some "größe", flag := some [], description := "" }]

theorem options_painted_mixed :
    mixedOptions.options ≠ [] ∧ (∀ o ∈ mixedOptions.options, o.IsPlain) ∧
    ∃ text,
      (do
        tellLayouts (optionLayouts mixedOptions)
        return (colored 2).options mixedOptions : Run Failure Text).outcome =
          (if isMeasurable (mixedOptions.options.map optionRow) then .ok text
          else .error .unencodable) ∧
      Text.splitOn '\n' text = Style.headingStyle.apply "Options:" ::
        (mixedOptions.options.map fun o =>
          Text.spaces 2 ++ paintedLine mixedOptions.options o) ++ [[], []] ∧
      ∀ o ∈ mixedOptions.options,
        (Text.spaces 2 ++ paintedLine mixedOptions.options o).count (.char '\x1b') =
          (if o.longLabel = [] then 0 else 2) + if o.shortLabel = [] then 0 else 2 := by
  have hne : mixedOptions.options ≠ [] := List.cons_ne_nil _ _
  have hplain : ∀ o ∈ mixedOptions.options, o.IsPlain := by decide
  exact ⟨hne, hplain, options_painted 2 hne hplain⟩

example : mixedOptions.options.map (paintedLine mixedOptions.options) =
    ["\x1b[32m--force\x1b[0m  \t\x1b[32m-f\x1b[0m\tForce\tit",
      "         \t\x1b[32m-q\x1b[0m\t        ",
      "\x1b[32m--größe\x1b[0m\t  \t        "] := by decide +kernel

end Renderer
end HelpPages

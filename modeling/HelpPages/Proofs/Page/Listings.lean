import Mathlib.Data.List.GetD
import HelpPages.Proofs.Page.Colour
import HelpPages.Proofs.Table.Plain

/-! # Listings

A section of a page lists its entries in a table, and so does the list of all commands.  The
lines of a comment end at line feeds only, but the text of a table is broken at every line break
before the margin is set.  So an entry keeps to its line exactly if no other line break stands in
it, and otherwise its row goes on in lines of their own.  Names, long names and flags hold no
blanks; it is the descriptions that decide (`Renderer.isListing_sections`).
-/
namespace HelpPages

/-! ### Texts without line breaks -/

namespace Text

/-- No character of the text ends a line. -/
def IsUnbroken (t : Text) : Prop := ∀ c ∈ t, isLineBreak c = false

instance (t : Text) : Decidable t.IsUnbroken :=
  inferInstanceAs (Decidable (∀ c ∈ t, isLineBreak c = false))

theorem isBlank_of_isLineBreak {c : CodePoint} (h : isLineBreak c = true) : isBlank c = true := by
  simp only [isLineBreak, isBlank, inRanges, List.any_cons, List.any_nil, Bool.or_eq_true,
    Bool.and_eq_true, decide_eq_true_eq, Bool.or_false] at h ⊢
  omega

theorem isUnbroken_of_unblank {t : Text} (h : ∀ c ∈ t, isBlank c = false) : t.IsUnbroken := by
  intro c hc
  rw [Bool.eq_false_iff]
  intro hbreak
  exact absurd (isBlank_of_isLineBreak hbreak) (by rw [h c hc]; decide)

theorem IsUnbroken.append {s t : Text} (hs : s.IsUnbroken) (ht : t.IsUnbroken) :
    (s ++ t).IsUnbroken :=
  List.forall_mem_append.mpr ⟨hs, ht⟩

theorem isUnbroken_spaces (n : Nat) : (spaces n).IsUnbroken := by
  intro c hc
  rw [List.eq_of_mem_replicate hc]
  decide

/-- A code point of a piece is in the join. -/
theorem mem_joinWith_of_mem {sep t : Text} {ts : List Text} {c : CodePoint} (ht : t ∈ ts)
    (hc : c ∈ t) : c ∈ joinWith sep ts := by
  cases ts with
  | nil => cases ht
  | cons u us =>
    rcases List.mem_cons.mp ht with rfl | ht
    · exact List.mem_append_left _ hc
    · exact List.mem_append_right _
        (List.mem_flatMap.mpr ⟨t, ht, List.mem_append_right _ hc⟩)

end Text

/-! ### Rows without line breaks -/

namespace Table.Config

variable {skipEmpty : Bool} {rows : List (List Text)} {row : List Text} {cell : Text}
  {d : CodePoint}

/-- A column with text is drawn. -/
theorem mem_columns_of_pos {config : Config} {ws : List Nat} {i : Nat} (h : 0 < ws.getD i 0) :
    Column.mk i (ws.getD i 0) ∈ config.columns ws := by
  have hi : i < ws.length := by
    by_contra hi
    rw [List.getD_eq_default _ _ (Nat.le_of_not_lt hi)] at h
    exact Nat.lt_irrefl 0 h
  refine List.mem_filter.mpr ⟨mem_allColumns.mpr ?_, ?_⟩
  · rw [List.getElem?_eq_getElem hi, List.getD_eq_getElem _ _ hi]
  · exact Bool.or_eq_true_iff.mpr (.inr (decide_eq_true h))

/-- What stands in a cell is shown in the line of its row: a column that is left out has no
text. -/
theorem mem_rowText_of_mem (hrow : row ∈ rows) (hcell : cell ∈ row) (hd : d ∈ cell) :
    d ∈ (plain skipEmpty).rowText ((plain skipEmpty).columns (columnWidths rows)) row := by
  obtain ⟨i, hi, rfl⟩ := List.getElem_of_mem hcell
  have hcell : cellAt row i = row[i] := List.getD_eq_getElem _ _ hi
  have hpos : 0 < Text.width (cellAt row i) := by
    rw [hcell]
    exact Nat.pos_of_ne_zero fun hzero => List.ne_nil_of_mem hd (Text.eq_nil_of_width hzero)
  have hcolumn : Column.mk i ((columnWidths rows).getD i 0) ∈
      (plain skipEmpty).columns (columnWidths rows) :=
    mem_columns_of_pos (Nat.lt_of_lt_of_le hpos (width_le_columnWidths hrow i))
  rw [rowText_plain]
  refine Text.mem_joinWith_of_mem (List.mem_map_of_mem hcolumn) (List.mem_append_left _ ?_)
  rwa [hcell]

/-- The lines of the rows have no line breaks in them exactly if the cells have none. -/
theorem unbroken_rowTexts_iff :
    (∀ t ∈ rowTexts skipEmpty rows, t.IsUnbroken) ↔
      ∀ row ∈ rows, ∀ cell ∈ row, cell.IsUnbroken := by
  constructor
  · intro h row hrow cell hcell c hc
    exact h _ (List.mem_map_of_mem hrow) c (mem_rowText_of_mem hrow hcell hc)
  · intro h t ht c hc
    obtain ⟨row, hrow, rfl⟩ := List.mem_map.mp ht
    rcases mem_rowText hc with hdrawing | ⟨cell, hcell, hc⟩
    · have hall : ∀ d ∈ drawing, Text.isLineBreak d = false := by decide
      exact hall c hdrawing
    · exact h row hrow cell hcell c hc

/-- The lines of the rows, broken at every line break. -/
def brokenLines (skipEmpty : Bool) (rows : List (List Text)) : List Text :=
  (rowTexts skipEmpty rows).flatMap fun t => Text.breakLines (t ++ [CodePoint.char '\n'])

theorem breakLines_render (skipEmpty : Bool) (rows : List (List Text)) :
    Text.breakLines ((plain skipEmpty).render rows) = brokenLines skipEmpty rows := by
  rw [Text.breakLines_eq, render_plain, Text.linesAt_flatMap_ended rfl, brokenLines]
  simp only [Text.breakLines_eq]

theorem isUnbroken_of_mem_brokenLines {line : Text} (h : line ∈ brokenLines skipEmpty rows) :
    line.IsUnbroken := by
  obtain ⟨t, -, h⟩ := List.mem_flatMap.mp h
  rw [Text.breakLines_eq] at h
  exact (Text.of_mem_linesAt h).2

/-- The lines of the rows are not broken exactly if they have no line breaks in them. -/
theorem brokenLines_eq_iff :
    brokenLines skipEmpty rows = rowTexts skipEmpty rows ↔
      ∀ t ∈ rowTexts skipEmpty rows, t.IsUnbroken := by
  constructor
  · intro h t ht
    exact isUnbroken_of_mem_brokenLines (h ▸ ht)
  · intro h
    have hline : ∀ t ∈ rowTexts skipEmpty rows,
        Text.breakLines (t ++ [CodePoint.char '\n']) = [t] := by
      intro t ht
      rw [Text.breakLines_eq]
      exact (Text.linesAt_ended_iff rfl rfl).mpr (h t ht)
    rw [brokenLines, List.flatMap_congr hline]
    exact List.flatMap_singleton' _

/-- Rows have a line each, so rows are broken into some lines. -/
theorem brokenLines_ne_nil (h : rows ≠ []) : brokenLines skipEmpty rows ≠ [] := by
  intro hnil
  obtain ⟨row, rest, rfl⟩ := List.exists_cons_of_ne_nil h
  have hfirst := List.flatMap_eq_nil_iff.mp hnil _ (List.mem_cons_self ..)
  rw [Text.breakLines_eq] at hfirst
  exact Text.linesAt_ne_nil (List.append_ne_nil_of_right_ne_nil _ (List.cons_ne_nil _ [])) hfirst

end Table.Config

/-! ### Sections -/

namespace Renderer

open Table (isMeasurable)
open Table.Config (plain rowTexts brokenLines)

/-- The text is a heading, one whole line for each row behind the margin, and an empty line. -/
def IsListing (indent : Nat) (title : Text) (skipEmpty : Bool) (rows : List (List Text))
    (text : Text) : Prop :=
  Text.splitOn '\n' text =
    title :: (rowTexts skipEmpty rows).map (Text.spaces indent ++ ·) ++ [[], []]

/-- The text is that of a section: a heading, the lines of the rows broken at every line break
behind the margin, and an empty line.  It is drawn if all cells have a width. -/
structure IsSection (indent : Nat) (title : Text) (skipEmpty : Bool) (rows : List (List Text))
    (text : Text) : Prop where
  drawn : ∀ styled, ((uncolored indent).drawSection title rows (plain skipEmpty) styled).outcome =
    if isMeasurable rows then .ok text else .error .unencodable
  lines : Text.splitOn '\n' text =
    title :: (brokenLines skipEmpty rows).map (Text.spaces indent ++ ·) ++ [[], []]

variable {indent : Nat} {title text : Text} {skipEmpty : Bool} {rows : List (List Text)}

/-- A section is one whole line for each row exactly if no cell has a line break in it. -/
theorem IsSection.isListing_iff (h : IsSection indent title skipEmpty rows text) :
    IsListing indent title skipEmpty rows text ↔ ∀ row ∈ rows, ∀ cell ∈ row, cell.IsUnbroken := by
  have hinj : Function.Injective (Text.spaces indent ++ · : Text → Text) :=
    List.append_right_injective _
  have hsame : IsListing indent title skipEmpty rows text ↔
      brokenLines skipEmpty rows = rowTexts skipEmpty rows := by
    rw [IsListing, h.lines, List.append_left_inj, List.cons_inj_right,
      (List.map_injective_iff.mpr hinj).eq_iff]
  rw [hsame, Table.Config.brokenLines_eq_iff, Table.Config.unbroken_rowTexts_iff]

theorem tableSection_uncolored (indent : Nat) (title : Text) (skipEmpty : Bool)
    (rows : List (List Text)) (styled : Int) :
    (uncolored indent).tableSection title rows (plain skipEmpty) styled =
      title ++ .char '\n' :: (Text.joinWith [.char '\n']
        ((brokenLines skipEmpty rows).map (Text.spaces indent ++ ·)) ++
          .char '\n' :: [.char '\n']) := by
  have hplain : ∀ line : Text, emphasizeCells Pen.plain styled line = line := fun _ => rfl
  rw [tableSection, Table.Config.breakLines_render]
  simp only [uncolored, hplain, List.append_assoc]
  rfl

/-- Rows under a title are drawn as a section. -/
theorem isSection_tableSection (hrows : rows ≠ []) (htitle : title.IsUnbroken) (styled : Int) :
    IsSection indent title skipEmpty rows
      ((uncolored indent).tableSection title rows (plain skipEmpty) styled) where
  drawn other := by
    have hlines : ((plain skipEmpty).lines rows).mapM
        (emphasizedCells (uncolored indent).pen other) = .ok ((plain skipEmpty).lines rows) := by
      have hpure : emphasizedCells (uncolored indent).pen other = fun line => pure line := rfl
      rw [hpure, List.mapM_pure, List.map_id']
      rfl
    rw [drawSection, Run.outcome_bind, outcome_tellLayouts, areMeasurable_singleton]
    cases isMeasurable rows with
    | false => rfl
    | true =>
      show (Run.ofExcept _ >>= _ : Run Failure Text).outcome = _
      rw [Run.outcome_bind, hlines]
      rfl
  lines := by
    have hfeed : ∀ {t : Text}, t.IsUnbroken → CodePoint.char '\n' ∉ t :=
      fun ht hmem => absurd (ht _ hmem) (by decide)
    have hlines : ∀ line ∈ (brokenLines skipEmpty rows).map (Text.spaces indent ++ ·),
        CodePoint.char '\n' ∉ line := by
      intro line hline
      obtain ⟨broken, hbroken, rfl⟩ := List.mem_map.mp hline
      exact hfeed ((Text.isUnbroken_spaces indent).append
        (Table.Config.isUnbroken_of_mem_brokenLines hbroken))
    have hne : (brokenLines skipEmpty rows).map (Text.spaces indent ++ ·) ≠ [] :=
      mt List.map_eq_nil_iff.mp (Table.Config.brokenLines_ne_nil hrows)
    rw [tableSection_uncolored]
    exact Text.splitOn_section (hfeed htitle) hne hlines

end Renderer

/-! ### Names and labels -/

/-- The names in what arises from pairs are the names of pairs. -/
theorem Entries.mem_names_ofList {pairs : List (Text × Text)} {name : Text}
    (h : name ∈ Entries.names (Entries.ofList pairs)) : ∃ pair ∈ pairs, pair.1 = name := by
  have hstep : ∀ entries : Entries Text, name ∈ Entries.names
      (pairs.foldl (fun entries pair => Entries.put pair.1 pair.2 entries) entries) →
        name ∈ entries.names ∨ ∃ pair ∈ pairs, pair.1 = name := by
    clear h
    induction pairs with
    | nil => exact fun _ => .inl
    | cons pair pairs ih =>
      intro entries h
      rcases ih _ h with h | ⟨other, hother, he⟩
      · rw [Entries.names_put] at h
        split at h
        · exact .inl h
        · rcases List.mem_append.mp h with h | h
          · exact .inl h
          · exact .inr ⟨pair, List.mem_cons_self .., (List.mem_singleton.mp h).symm⟩
      · exact .inr ⟨other, List.mem_cons_of_mem _ hother, he⟩
  exact (hstep [] h).resolve_left List.not_mem_nil

namespace Comment

/-- The first word of a text has no line breaks. -/
theorem isUnbroken_cutWord (t : Text) : (Text.cutWord t).1.IsUnbroken :=
  Text.isUnbroken_of_unblank fun c hc => by
    simpa using List.mem_takeWhile_imp hc

/-- The names that a line gives hold no line breaks. -/
def Line.IsLabelled : Line → Prop
  | arg name _ => name.IsUnbroken
  | option o => (∀ name ∈ o.longName, name.IsUnbroken) ∧ ∀ flag ∈ o.flag, flag.IsUnbroken
  | _ => True

theorem isUnbroken_of_takeWord? {read? : Text → Option Text}
    (hread : ∀ {word found : Text}, read? word = some found → found ⊆ word) {t found : Text}
    (h : found ∈ (takeWord? read? t).1) : found.IsUnbroken := by
  rw [takeWord?] at h
  split at h
  · next word hword =>
    cases h
    exact fun c hc => isUnbroken_cutWord t c (hread hword hc)
  · cases h

theorem isLabelled_of_read? {tag : Tag} {body : Text} {line : Line}
    (h : tag.read? body = some line) : line.IsLabelled := by
  rw [Tag.read?] at h
  split at h
  · cases h
  · cases tag with
    | usage => cases h; trivial
    | arg => cases h; exact isUnbroken_cutWord body
    | opt =>
      cases h
      exact ⟨fun _ => isUnbroken_of_takeWord? longName?_subset,
        fun _ => isUnbroken_of_takeWord? shortFlag?_subset⟩
    | flag =>
      obtain ⟨flag, hmap, rfl⟩ := Option.map_eq_some_iff.mp h
      obtain ⟨letter, hletter, he⟩ := Option.bind_eq_some_iff.mp hmap
      cases he
      refine ⟨fun name hname => absurd hname (Option.not_mem_none name), fun found hfound => ?_⟩
      cases hfound
      exact fun c hc => isUnbroken_cutWord body c (bareFlag?_subset hletter hc)
    | «example» =>
      obtain ⟨e, -, rfl⟩ := Option.map_eq_some_iff.mp h
      trivial

theorem isLabelled_ofText (t : Text) : (Line.ofText t).IsLabelled := by
  rw [Line.ofText]
  dsimp only
  split
  · next line hline =>
    obtain ⟨tag, -, hread⟩ := Option.bind_eq_some_iff.mp hline
    exact isLabelled_of_read? hread
  · split <;> trivial

end Comment

namespace Page

variable (s : Substitution) (comment : Text)

/-- The name of an argument keeps to one line. -/
theorem isUnbroken_name {entry : Text × Text} (h : entry ∈ (ofComment s comment).args) :
    entry.1.IsUnbroken := by
  rw [ofComment, ofLines_eq] at h
  obtain ⟨pair, hpair, hname⟩ := Entries.mem_names_ofList (List.mem_map_of_mem h)
  obtain ⟨line, hline, hsome⟩ := List.mem_filterMap.mp hpair
  obtain ⟨t, -, rfl⟩ := List.mem_map.mp hline
  have hlabelled := Comment.isLabelled_ofText t
  rw [← hname]
  cases hread : Comment.Line.ofText t with
  | arg name description =>
    rw [hread] at hsome hlabelled
    cases hsome
    exact hlabelled
  | _ => rw [hread] at hsome; cases hsome

/-- The labels of an option keep to one line. -/
theorem isUnbroken_labels {o : CommandOption} (h : o ∈ (ofComment s comment).options) :
    o.longLabel.IsUnbroken ∧ o.shortLabel.IsUnbroken := by
  have hlabel : ∀ {dashes : Text} {name : Option Text}, dashes.IsUnbroken →
      (∀ t ∈ name, t.IsUnbroken) → (CommandOption.label dashes name).IsUnbroken := by
    intro dashes name hdashes hname
    rw [CommandOption.label.eq_def]
    split
    · exact List.forall_mem_nil _
    · exact List.forall_mem_nil _
    · exact hdashes.append (hname _ rfl)
  rw [ofComment, ofLines_eq] at h
  obtain ⟨line, hline, hsome⟩ := List.mem_filterMap.mp h
  obtain ⟨t, -, rfl⟩ := List.mem_map.mp hline
  have hlabelled := Comment.isLabelled_ofText t
  cases hread : Comment.Line.ofText t with
  | option read =>
    rw [hread] at hsome hlabelled
    cases hsome
    exact ⟨hlabel (by decide) hlabelled.1, hlabel (by decide) hlabelled.2⟩
  | _ => rw [hread] at hsome; cases hsome

end Page

theorem Catalog.names_of_describeAll {c : Catalog} {reader : Reader} {names : List Text}
    {commands : Entries Text} (h : (c.describeAll reader names).outcome = .ok commands) :
    commands.names = names := by
  induction names generalizing commands with
  | nil => cases h; rfl
  | cons name names ih =>
    rw [describeAll, Run.outcome_bind] at h
    obtain ⟨doc, -, h⟩ := bind_eq_ok_iff.mp h
    rw [Run.outcome_bind] at h
    obtain ⟨page, -, h⟩ := bind_eq_ok_iff.mp h
    rw [Run.outcome_bind] at h
    obtain ⟨rest, hrest, h⟩ := bind_eq_ok_iff.mp h
    cases h
    exact congrArg (name :: ·) (ih hrest)

/-! ### Listings -/

namespace Renderer

/-- The rows that list names with their descriptions. -/
def nameRows (entries : Entries Text) : List (List Text) :=
  entries.map fun (name, description) => [name, description]

theorem unbroken_nameRows_iff {entries : Entries Text} :
    (∀ row ∈ nameRows entries, ∀ cell ∈ row, cell.IsUnbroken) ↔
      ∀ entry ∈ entries, entry.1.IsUnbroken ∧ entry.2.IsUnbroken := by
  constructor
  · intro h entry hentry
    have hrow := h _ (List.mem_map_of_mem hentry)
    exact ⟨hrow entry.1 (by simp), hrow entry.2 (by simp)⟩
  · intro h row hrow cell hcell
    obtain ⟨entry, hentry, rfl⟩ := List.mem_map.mp hrow
    obtain ⟨hname, hdescription⟩ := h entry hentry
    rcases List.mem_pair.mp hcell with rfl | rfl
    · exact hname
    · exact hdescription

theorem unbroken_optionRows_iff {options : List CommandOption}
    (hlabels : ∀ o ∈ options, o.longLabel.IsUnbroken ∧ o.shortLabel.IsUnbroken) :
    (∀ row ∈ options.map optionRow, ∀ cell ∈ row, cell.IsUnbroken) ↔
      ∀ o ∈ options, o.description.IsUnbroken := by
  constructor
  · intro h o ho
    exact h _ (List.mem_map_of_mem ho) o.description (by simp [optionRow])
  · intro h row hrow cell hcell
    obtain ⟨o, ho, rfl⟩ := List.mem_map.mp hrow
    obtain ⟨hlong, hshort⟩ := hlabels o ho
    rcases List.mem_cons.mp hcell with rfl | hcell
    · exact hlong
    · rcases List.mem_pair.mp hcell with rfl | rfl
      · exact hshort
      · exact h o ho

theorem isListing_nameList (indent : Nat) {title : Text} (htitle : title.IsUnbroken)
    {entries : Entries Text} (hne : entries ≠ []) :
    IsSection indent title false (nameRows entries) ((uncolored indent).nameList title entries) ∧
      (IsListing indent title false (nameRows entries)
          ((uncolored indent).nameList title entries) ↔
        ∀ entry ∈ entries, entry.1.IsUnbroken ∧ entry.2.IsUnbroken) := by
  have hsection : IsSection indent title false (nameRows entries)
      ((uncolored indent).nameList title entries) :=
    isSection_tableSection (mt List.map_eq_nil_iff.mp hne) htitle 1
  exact ⟨hsection, hsection.isListing_iff.trans unbroken_nameRows_iff⟩

/-- Where names keep to one line, the descriptions decide. -/
theorem isListing_nameList_of_names (indent : Nat) {title : Text} (htitle : title.IsUnbroken)
    {entries : Entries Text} (hne : entries ≠ [])
    (hnames : ∀ entry ∈ entries, entry.1.IsUnbroken) :
    IsSection indent title false (nameRows entries) ((uncolored indent).nameList title entries) ∧
      (IsListing indent title false (nameRows entries)
          ((uncolored indent).nameList title entries) ↔
        ∀ entry ∈ entries, entry.2.IsUnbroken) := by
  obtain ⟨hsection, hlisting⟩ := isListing_nameList indent htitle hne
  refine ⟨hsection, hlisting.trans ⟨fun h entry hentry => (h entry hentry).2, ?_⟩⟩
  exact fun h entry hentry => ⟨hnames entry hentry, h entry hentry⟩

/-- **An entry keeps to its line exactly if its description does.**  Of every comment, with any
sub-commands added, a section of the plain page that is not empty lists its rows below a heading
and above an empty line, and so does the list of all commands of a catalog whose names hold no
blanks.  It is one whole line for each row exactly if no description has a line break in it, nor
the name of a sub-command; a row with one goes on in another line behind the margin.  A list of
no commands is a heading above two empty lines. -/
theorem isListing_sections (indent : Nat) (s : Substitution) (comment : Text)
    (subCommands : Entries Text) :
    let r := uncolored indent
    let page := (Page.ofComment s comment).addSubCommands subCommands
    (r.args page ≠ [] →
      IsSection indent "Arguments:" false (nameRows page.args) (r.args page) ∧
      (IsListing indent "Arguments:" false (nameRows page.args) (r.args page) ↔
        ∀ entry ∈ page.args, entry.2.IsUnbroken)) ∧
    (r.options page ≠ [] →
      IsSection indent "Options:" true (page.options.map optionRow) (r.options page) ∧
      (IsListing indent "Options:" true (page.options.map optionRow) (r.options page) ↔
        ∀ o ∈ page.options, o.description.IsUnbroken)) ∧
    (r.subCommands page ≠ [] →
      IsSection indent "Sub commands:" false (nameRows page.subCommands) (r.subCommands page) ∧
      (IsListing indent "Sub commands:" false (nameRows page.subCommands) (r.subCommands page) ↔
        ∀ entry ∈ page.subCommands, entry.1.IsUnbroken ∧ entry.2.IsUnbroken)) ∧
    (∀ (c : Catalog) (reader : Reader) (commands : Entries Text),
      (∀ name ∈ c.names, ∀ ch ∈ name, Text.isBlank ch = false) →
      (c.shortDescriptions reader).outcome = .ok commands → commands ≠ [] →
        IsSection indent "Available commands:" false (nameRows commands) (r.commandList commands) ∧
        (IsListing indent "Available commands:" false (nameRows commands)
            (r.commandList commands) ↔
          ∀ entry ∈ commands, entry.2.IsUnbroken)) ∧
    Text.splitOn '\n' (r.commandList []) = [("Available commands:" : Text), [], [], []] := by
  intro r page
  obtain ⟨all, hpage⟩ : ∃ all, page = { Page.ofComment s comment with subCommands := all } :=
    Page.addSubCommands_eq _ subCommands
  clear_value page
  have hargs : page.args = (Page.ofComment s comment).args := by rw [hpage]
  have hoptions : page.options = (Page.ofComment s comment).options := by rw [hpage]
  refine ⟨fun h => ?_, fun h => ?_, fun h => ?_, ?_, rfl⟩
  · have hne : page.args ≠ [] := fun hnil => h (if_pos hnil)
    have htext : r.args page = r.nameList "Arguments:" page.args := if_neg hne
    rw [htext]
    refine isListing_nameList_of_names indent (by decide) hne fun entry hentry => ?_
    rw [hargs] at hentry
    exact Page.isUnbroken_name s comment hentry
  · have hne : page.options ≠ [] := fun hnil => h (if_pos hnil)
    have hsection : IsSection indent "Options:" true (page.options.map optionRow)
        (r.options page) := by
      rw [options, if_neg hne]
      exact isSection_tableSection (mt List.map_eq_nil_iff.mp hne) (by decide) _
    refine ⟨hsection, hsection.isListing_iff.trans (unbroken_optionRows_iff fun o ho => ?_)⟩
    rw [hoptions] at ho
    exact Page.isUnbroken_labels s comment ho
  · have hne : page.subCommands ≠ [] := fun hnil => h (if_pos hnil)
    have htext : r.subCommands page = r.nameList "Sub commands:" page.subCommands := if_neg hne
    rw [htext]
    exact isListing_nameList indent (by decide) hne
  · intro c reader commands hblank hcommands hne
    refine isListing_nameList_of_names indent (by decide) hne fun entry hentry => ?_
    have hname : entry.1 ∈ c.names :=
      Catalog.names_of_describeAll hcommands ▸ List.mem_map_of_mem hentry
    exact Text.isUnbroken_of_unblank (hblank entry.1 hname)

/-- A comment about an argument, with a form feed in the description. -/
def formFeedComment : Text := "@arg a one\x0ctwo"

theorem isListing_sections_formFeed :
    (uncolored 2).args ((Page.ofComment {} formFeedComment).addSubCommands []) ≠ [] ∧
      Text.splitOn '\n' ((uncolored 2).args
          ((Page.ofComment {} formFeedComment).addSubCommands [])) =
        [("Arguments:" : Text), "  a\tone", "  two", [], []] ∧
      ¬ IsListing 2 "Arguments:" false
        (nameRows ((Page.ofComment {} formFeedComment).addSubCommands []).args)
        ((uncolored 2).args ((Page.ofComment {} formFeedComment).addSubCommands [])) := by
  have hargs : ((Page.ofComment {} formFeedComment).addSubCommands []).args =
      ([("a", "one\x0ctwo")] : Entries Text) := by decide +kernel
  have hne : (uncolored 2).args ((Page.ofComment {} formFeedComment).addSubCommands []) ≠ [] := by
    rw [args, hargs]
    decide
  have hsections := (isListing_sections 2 {} formFeedComment []).1 hne
  refine ⟨hne, ?_, fun h => ?_⟩
  · rw [hsections.1.lines, hargs]
    decide +kernel
  · have hunbroken := hsections.2.mp h ("a", "one\x0ctwo")
      (by rw [hargs]; exact List.mem_cons_self ..)
    exact absurd hunbroken (by decide)

end Renderer
end HelpPages

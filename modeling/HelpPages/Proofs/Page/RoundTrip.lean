import HelpPages.Proofs.Comment.TagLine
import HelpPages.Proofs.Page.Paragraphs
import HelpPages.Proofs.Value.Entries

/-! # Written pages

A page is written as a block comment: its paragraphs first, and then a line for each
thing it documents.  Reading the comment gives the page back, and it does so too when
the lines are arranged in another order, as long as the lines of each kind keep theirs,
and when more empty lines stand around and between the paragraphs
(`ofComment_write`).
-/
namespace HelpPages

open Comment (Line IsContent)
open Text (IsPhrase)


/-- What a line of prose must be so that it is read as it stands. -/
abbrev Comment.IsProse (line : Text) : Prop := (Line.prose line).IsWritable

namespace Page

/-- The page can be written so that reading gives it back. -/
structure IsWritable (page : Page) : Prop where
  description : ∀ line ∈ Text.linesOf page.description, line ≠ [] ∧ Comment.IsProse line
  longDescription : ∀ long ∈ page.longDescription, page.description ≠ [] ∧
    (∀ line ∈ Text.splitOn '\n' long, Comment.IsProse line) ∧
    (Text.splitOn '\n' long).head? ≠ some [] ∧ (Text.splitOn '\n' long).getLast? ≠ some []
  usage : ∀ text ∈ page.usage, (Line.usage text).IsWritable
  args : ∀ arg ∈ page.args, (Line.arg arg.1 arg.2).IsWritable
  argNames : page.args.names.Nodup
  options : ∀ o ∈ page.options, (Line.option o).IsWritable
  subCommands : page.subCommands = []
  examples : ∀ e ∈ page.examples, (Line.example e).IsWritable

instance (page : Page) : Decidable page.IsWritable :=
  decidable_of_iff ((∀ line ∈ Text.linesOf page.description, line ≠ [] ∧ Comment.IsProse line)
      ∧ (∀ long ∈ page.longDescription, page.description ≠ [] ∧
        (∀ line ∈ Text.splitOn '\n' long, Comment.IsProse line) ∧
        (Text.splitOn '\n' long).head? ≠ some [] ∧ (Text.splitOn '\n' long).getLast? ≠ some [])
      ∧ (∀ text ∈ page.usage, (Line.usage text).IsWritable)
      ∧ (∀ arg ∈ page.args, (Line.arg arg.1 arg.2).IsWritable) ∧ page.args.names.Nodup
      ∧ (∀ o ∈ page.options, (Line.option o).IsWritable) ∧ page.subCommands = []
      ∧ ∀ e ∈ page.examples, (Line.example e).IsWritable)
    ⟨fun ⟨a, b, c, d, e, f, g, h⟩ => ⟨a, b, c, d, e, f, g, h⟩,
      fun ⟨a, b, c, d, e, f, g, h⟩ => ⟨a, b, c, d, e, f, g, h⟩⟩

/-- The lines of the paragraphs of a page, with `extra` more empty lines than needed
between them. -/
def proseLines (extra : Nat) (page : Page) : List Text :=
  Text.linesOf page.description ++
    match page.longDescription with
    | none => []
    | some long => List.replicate (extra + 1) [] ++ Text.splitOn '\n' long

/-- The lines that document a page, kind by kind. -/
def toLines (page : Page) : List Line :=
  (page.proseLines 0).map Line.prose ++ page.usage.toList.map Line.usage
    ++ page.args.map (fun (name, description) => Line.arg name description)
    ++ page.options.map Line.option ++ page.examples.map Line.example

/-- The block comment that documents a page. -/
def write (page : Page) : Text := Comment.block (page.toLines.map Line.write)

/-- Lines document a page in any order that keeps the lines of each kind in theirs,
with empty lines around and between the paragraphs as one likes. -/
structure IsArrangedIn (page : Page) (lines : List Line) : Prop where
  prose : ∃ before between after, lines.filterMap Line.prose? =
    List.replicate before [] ++ page.proseLines between ++ List.replicate after []
  usage : lines.filterMap Line.usage? = page.usage.toList
  args : lines.filterMap Line.arg? = page.args
  options : lines.filterMap Line.option? = page.options
  examples : lines.filterMap Line.example? = page.examples
  dropped : lines.filterMap Line.dropped? = []

variable {page : Page} {lines : List Line}

/-- The lines of a page kind by kind are one of its arrangements. -/
theorem isArrangedIn_toLines (page : Page) : page.IsArrangedIn page.toLines where
  prose := by
    refine ⟨0, 0, 0, ?_⟩
    simp [toLines, List.filterMap_append, List.filterMap_map, Function.comp_def, Line.prose?]
  usage := by
    simp [toLines, List.filterMap_append, List.filterMap_map, Function.comp_def, Line.usage?]
  args := by
    simp [toLines, List.filterMap_append, List.filterMap_map, Function.comp_def, Line.arg?]
  options := by
    simp [toLines, List.filterMap_append, List.filterMap_map, Function.comp_def, Line.option?]
  examples := by
    simp [toLines, List.filterMap_append, List.filterMap_map, Function.comp_def, Line.example?]
  dropped := by
    simp [toLines, List.filterMap_append, List.filterMap_map, Function.comp_def, Line.dropped?]

theorem isProse_nil : Comment.IsProse [] := ⟨Comment.isContent_nil, rfl⟩

theorem IsWritable.isProse_of_mem (h : page.IsWritable) {between : Nat} {line : Text}
    (hline : line ∈ page.proseLines between) : Comment.IsProse line := by
  rcases List.mem_append.mp hline with hline | hline
  · exact (h.description line hline).2
  · cases hlong : page.longDescription with
    | none => rw [hlong] at hline; cases hline
    | some long =>
      rw [hlong] at hline
      rcases List.mem_append.mp hline with hline | hline
      · exact List.eq_of_mem_replicate hline ▸ isProse_nil
      · exact (h.longDescription long hlong).2.1 line hline

/-- Every line of an arrangement can be written. -/
theorem IsArrangedIn.isWritable (arranged : page.IsArrangedIn lines) (h : page.IsWritable) :
    ∀ line ∈ lines, line.IsWritable := by
  intro line hline
  cases line with
  | usage text =>
    have hmem : text ∈ page.usage.toList :=
      arranged.usage ▸ List.mem_filterMap.mpr ⟨_, hline, rfl⟩
    exact h.usage text (Option.mem_toList.mp hmem)
  | arg name description =>
    have hmem : (name, description) ∈ page.args :=
      arranged.args ▸ List.mem_filterMap.mpr ⟨_, hline, rfl⟩
    exact h.args _ hmem
  | option o =>
    have hmem : o ∈ page.options := arranged.options ▸ List.mem_filterMap.mpr ⟨_, hline, rfl⟩
    exact h.options o hmem
  | «example» e =>
    have hmem : e ∈ page.examples := arranged.examples ▸ List.mem_filterMap.mpr ⟨_, hline, rfl⟩
    exact h.examples e hmem
  | dropped text =>
    have hmem : text ∈ lines.filterMap Line.dropped? := List.mem_filterMap.mpr ⟨_, hline, rfl⟩
    rw [arranged.dropped] at hmem
    cases hmem
  | prose text =>
    obtain ⟨before, between, after, hprose⟩ := arranged.prose
    have hmem : text ∈ lines.filterMap Line.prose? := List.mem_filterMap.mpr ⟨_, hline, rfl⟩
    rw [hprose, List.mem_append, List.mem_append] at hmem
    -- empty lines of prose may stand before, between and behind the paragraphs
    rcases hmem with (hmem | hmem) | hmem
    · exact List.eq_of_mem_replicate hmem ▸ isProse_nil
    · exact h.isProse_of_mem hmem
    · exact List.eq_of_mem_replicate hmem ▸ isProse_nil

/-- The lines of an arrangement are read from its comment, between two lines of prose
without text. -/
theorem IsArrangedIn.read (arranged : page.IsArrangedIn lines) (h : page.IsWritable) :
    Comment.read (Comment.block (lines.map Line.write)) = .prose [] :: lines ++ [.prose []] := by
  have hwritable := arranged.isWritable h
  have hcontent : ∀ text ∈ lines.map Line.write, IsContent text := by
    intro text htext
    obtain ⟨line, hline, rfl⟩ := List.mem_map.mp htext
    exact Line.isContent_write (hwritable line hline)
  have hback : lines.map (Line.ofText ∘ Line.write) = lines :=
    (List.map_congr_left fun line hline => Line.ofText_write (hwritable line hline)).trans
      (List.map_id' lines)
  rw [Comment.read, Comment.lines_block hcontent, List.map_append, List.map_cons, List.map_map,
    hback]
  rfl

/-- A paragraph keeps no filler around it and has no gap. -/
theorem IsWritable.description_trimmed (h : page.IsWritable) (hne : page.description ≠ []) :
    Text.trim Text.isFiller page.description = page.description
      ∧ ¬ gap <:+: page.description := by
  have hlines : ∀ line ∈ Text.splitOn '\n' page.description,
      line ≠ [] ∧ Comment.IsProse line := by
    have hall := h.description
    rwa [Text.linesOf, if_neg hne] at hall
  refine ⟨Text.trim_isFiller_of_strip (Text.strip_of_lines
    (fun line hline => (hlines line hline).2.1.stripped) ?_ ?_),
    Text.not_gap_of_lines fun line hline => (hlines line hline).1⟩
  · exact fun he => (hlines [] (List.mem_of_mem_head? he)).1 rfl
  · exact fun he => (hlines [] (List.mem_of_mem_getLast? he)).1 rfl

/-- The description and the long description come back from the lines of prose. -/
theorem IsWritable.splitDescription_proseLines (h : page.IsWritable) (before between after : Nat) :
    splitDescription (Text.joinWith "\n"
      (List.replicate before [] ++ page.proseLines between ++ List.replicate after []))
      = (page.description, page.longDescription) := by
  rw [splitDescription_surrounded]
  by_cases hne : page.description = []
  · have hlong : page.longDescription = none := by
      cases hlong : page.longDescription with
      | none => rfl
      | some long => exact absurd hne (h.longDescription long hlong).1
    rw [proseLines, hlong, hne]
    rfl
  · obtain ⟨htrim, hgap⟩ := h.description_trimmed hne
    cases hlong : page.longDescription with
    | none =>
      have htext : Text.joinWith "\n" (page.proseLines between) = page.description := by
        rw [proseLines, hlong, List.append_nil]
        exact Text.joinWith_linesOf _
      rw [htext, splitDescription_whole htrim hgap]
    | some long =>
      obtain ⟨-, hprose, hfirst, hlast⟩ := h.longDescription long hlong
      have hlongTrim := Text.trim_isFiller_of_strip (Text.strip_of_lines
        (fun line hline => (hprose line hline).1.stripped) hfirst hlast)
      have hlongNe : long ≠ [] := fun he => hfirst (by rw [he]; rfl)
      have htext : Text.joinWith [.char '\n'] (page.proseLines between) = page.description
          ++ (gap ++ (List.replicate between (.char '\n') ++ long)) := by
        have hlinesOf : Text.linesOf page.description ≠ [] := by
          rw [Text.linesOf, if_neg hne]; exact Text.splitOn_ne_nil _ _
        have hfeeds : List.replicate (between + 1) (CodePoint.char '\n') ++ ([.char '\n'] ++ long)
            = gap ++ (List.replicate between (.char '\n') ++ long) := by
          rw [← List.append_assoc, ← List.replicate_succ', List.replicate_succ,
            List.replicate_succ]
          rfl
        rw [proseLines, hlong, Text.joinWith_append _ hlinesOf, Text.joinWith_linesOf,
          List.flatMap_append, Text.flatMap_blank,
          Text.flatMap_sep _ (Text.splitOn_ne_nil _ _), Text.joinWith_splitOn, hfeeds]
      have hsplit := splitDescription_apart between htrim hlongTrim hne hlongNe hgap
      rwa [← htext] at hsplit

/-- **A written page is read back**, from the comment that writes it kind by kind and from
the comment of every other arrangement of its lines. -/
theorem ofComment_write (h : page.IsWritable) (program : Text) :
    ofComment ⟨[], program⟩ page.write = page ∧
      ∀ lines, page.IsArrangedIn lines →
        ofComment ⟨[], program⟩ (Comment.block (lines.map Line.write)) = page := by
  have hany : ∀ lines, page.IsArrangedIn lines →
      ofComment ⟨[], program⟩ (Comment.block (lines.map Line.write)) = page := by
    intro lines arranged
    obtain ⟨before, between, after, hprose⟩ := arranged.prose
    -- the lines of the delimiters are read as one more empty line on either side
    have hblank : (Line.prose [] :: lines ++ [Line.prose []]).filterMap Line.prose? =
        List.replicate (before + 1) [] ++ page.proseLines between
          ++ List.replicate (after + 1) [] := by
      rw [List.replicate_succ, List.replicate_succ']
      simp [List.filterMap_append, Line.prose?, hprose]
    have hsplit := h.splitDescription_proseLines (before + 1) between (after + 1)
    have husage : page.usage.toList.getLast?.map (Substitution.apply ⟨[], program⟩)
        = page.usage := by
      cases page.usage with
      | none => rfl
      | some text => exact congrArg some (Substitution.apply_empty program text)
    have hexamples : page.examples.map
        (fun e => { e with code := Substitution.apply ⟨[], program⟩ e.code }) = page.examples := by
      simp only [Substitution.apply_empty, List.map_id']
    simp only [ofComment, arranged.read h, ofLines, hblank, hsplit]
    simp only [List.filterMap_append, List.cons_append, List.filterMap_cons, List.filterMap_nil,
      Line.usage?, Line.arg?, Line.option?, Line.example?, List.append_nil, arranged.usage,
      arranged.args, arranged.options, arranged.examples, husage, hexamples,
      Entries.ofList_of_nodup h.argNames]
    rw [← h.subCommands]
  exact ⟨hany _ page.isArrangedIn_toLines, hany⟩

/-- A page with something of every kind. -/
def copyPage : Page where
  description := "Copy files between hosts.\nSecond line of the summary."
  longDescription := some "Longer explanation.\n\nIt has paragraphs."
  usage := some "$0 copy [options] <src> <dest>"
  args := [("src", "Source path"), ("dest", [])]
  options := [
    { longName := some "recursive", flag := some "r", description := "Copy directories" },
    { longName := some "dry-run", description := "Preview only" },
    { flag := some "q" },
    { description := "(more options below)" }]
  examples := [{ code := "$0 copy -r a b ", description := "Copy directory a to b" }]

/-- The lines of `copyPage` with the tags between the paragraphs. -/
def copyLines : List Line := [
  .arg "src" "Source path", .prose "Copy files between hosts.",
  .option { longName := some "recursive", flag := some "r", description := "Copy directories" },
  .prose "Second line of the summary.", .prose [],
  .example { code := "$0 copy -r a b ", description := "Copy directory a to b" },
  .option { longName := some "dry-run", description := "Preview only" }, .prose [],
  .prose "Longer explanation.", .option { flag := some "q" }, .arg "dest" [], .prose [],
  .prose "It has paragraphs.", .usage "$0 copy [options] <src> <dest>", .prose [],
  .option { description := "(more options below)" }]

theorem ofComment_write_copyPage :
    copyPage.IsWritable ∧ copyPage.IsArrangedIn copyLines ∧
      ofComment ⟨[], "app"⟩ copyPage.write = copyPage ∧
      ofComment ⟨[], "app"⟩ (Comment.block (copyLines.map Line.write)) = copyPage := by
  have hwritable : copyPage.IsWritable := by decide +kernel
  have arranged : copyPage.IsArrangedIn copyLines :=
    ⟨⟨0, 1, 1, by decide +kernel⟩, by decide +kernel, by decide +kernel, by decide +kernel,
      by decide +kernel, by decide +kernel⟩
  obtain ⟨hwrite, hany⟩ := ofComment_write hwritable "app"
  exact ⟨hwritable, arranged, hwrite, hany copyLines arranged⟩

end Page
end HelpPages

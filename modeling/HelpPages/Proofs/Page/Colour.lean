import Mathlib.Data.List.Forall2
import HelpPages.Page.Run
import HelpPages.Proofs.Page.Characters
import HelpPages.Proofs.Page.Description
import HelpPages.Proofs.Style.Ending
import HelpPages.Proofs.Table.Alignment
import HelpPages.Proofs.Text.Lines

/-! # Pages in colour

Section by section a page in colour shows the plain page, since colours are put around
texts that are laid out already.  The page is trimmed as a whole, though, and there the
two may differ: blanks at the end of the code of an example stand inside its colour.  If
such an example is the last one that shows anything the page in colour keeps the blanks,
and otherwise it shows exactly the plain page (`Renderer.withoutCodes_draw_iff`).
-/
namespace HelpPages

open Style (Tints EndsInInk withoutCodes)
open Text (isFiller)

/-! ### Broken lines -/

/-- A broken line has characters of the text, and no line feeds. -/
theorem Text.of_mem_breakLines {t line : Text} (h : line ∈ breakLines t) :
    line ⊆ t ∧ CodePoint.char '\n' ∉ line := by
  rw [breakLines_eq] at h
  obtain ⟨hsubset, hfree⟩ := of_mem_linesAt h
  exact ⟨hsubset, fun hfeed => absurd (hfree _ hfeed) (by decide)⟩

/-! ### Sections -/

namespace Renderer

/-- The renderer with colours. -/
def colored (indent : Nat) : Renderer := ⟨⟨true⟩, indent⟩

/-- The renderer without colours. -/
def uncolored (indent : Nat) : Renderer := ⟨Pen.plain, indent⟩

variable {indent : Nat}

/-- A section that is left out in both pages has no say in how they end. -/
theorem endsInInk_ite {p : Prop} [Decidable p] {s t : Text} (h : EndsInInk s t) :
    EndsInInk (if p then [] else s) (if p then [] else t) := by
  split
  · exact Style.endsInInk_self List.not_mem_nil
  · exact h

theorem isFiller_of_mem_margin {r : Renderer} {c : CodePoint} (h : c ∈ r.margin) :
    isFiller c = true := by
  rw [List.eq_of_mem_replicate h]
  rfl

theorem escape_notMem_margin (r : Renderer) : CodePoint.char '\x1b' ∉ r.margin :=
  Style.escape_notMem_of_filler fun _ => isFiller_of_mem_margin

theorem endsInInk_heading {title : Text} (h : CodePoint.char '\x1b' ∉ title)
    (ink : ∀ c ∈ title.getLast?, isFiller c = false) :
    EndsInInk ((colored indent).pen.heading title) ((uncolored indent).pen.heading title) :=
  Style.endsInInk_apply (by decide) h ink

/-- The blanks of a cell stay outside its colour. -/
theorem endsInInk_emphasizeCell {cell : Text} (h : CodePoint.char '\x1b' ∉ cell)
    (hfeed : CodePoint.char '\n' ∉ cell) : EndsInInk (emphasizeCell ⟨true⟩ cell) cell := by
  obtain ⟨blanks, hcell, hblanks⟩ := Text.dropEndWhile_append_dropped (·.is ' ') cell
  have hpart := (Text.dropEndWhile_isPrefix (·.is ' ') cell).subset
  have hink : ∀ c ∈ (Text.dropEndWhile (·.is ' ') cell).getLast?, isFiller c = false := by
    intro c hc
    rw [Bool.eq_false_iff]
    intro hfiller
    rcases Text.isFiller_iff.mp hfiller with rfl | rfl
    · exact hfeed (hpart (List.mem_of_getLast? hc))
    · exact absurd (Text.not_of_getLast?_dropEndWhile hc) (by decide)
  have hdrop : cell.drop (Text.dropEndWhile (·.is ' ') cell).length = blanks :=
    (congrArg (List.drop _) hcell).trans List.drop_left
  have htext : EndsInInk (Style.emphasisStyle.apply (Text.dropEndWhile (·.is ' ') cell))
      (Text.dropEndWhile (·.is ' ') cell) :=
    Style.endsInInk_apply (by decide) (fun hmem => h (hpart hmem)) hink
  have hrest : EndsInInk blanks blanks := Style.endsInInk_self fun hmem =>
    h (by rw [hcell]; exact List.mem_append_right _ hmem)
  have hboth := htext.append hrest
  rw [← hcell, ← hdrop] at hboth
  exact hboth

theorem endsInInk_emphasizeCells {line : Text} (count : Int) (h : CodePoint.char '\x1b' ∉ line)
    (hfeed : CodePoint.char '\n' ∉ line) :
    EndsInInk (emphasizeCells ⟨true⟩ count line) (emphasizeCells Pen.plain count line) := by
  have hplain : emphasizeCells Pen.plain count line = line := rfl
  rw [hplain, emphasizeCells]
  split
  · exact Style.endsInInk_self h
  · have hcells : ∀ cell ∈ Text.splitOn '\t' line,
        CodePoint.char '\x1b' ∉ cell ∧ CodePoint.char '\n' ∉ cell := fun cell hcell =>
      ⟨fun hmem => h (Text.subset_of_mem_splitOn hcell hmem),
        fun hmem => hfeed (Text.subset_of_mem_splitOn hcell hmem)⟩
    have hstyled : List.Forall₂ EndsInInk
        (((Text.splitOn '\t' line).take count.toNat).map (emphasizeCell ⟨true⟩))
        ((Text.splitOn '\t' line).take count.toNat) := by
      rw [List.forall₂_map_left_iff, List.forall₂_same]
      intro cell hcell
      obtain ⟨hescape, hfeed⟩ := hcells cell (List.mem_of_mem_take hcell)
      exact endsInInk_emphasizeCell hescape hfeed
    have hrest : List.Forall₂ EndsInInk ((Text.splitOn '\t' line).drop count.toNat)
        ((Text.splitOn '\t' line).drop count.toNat) := by
      rw [List.forall₂_same]
      exact fun cell hcell => Style.endsInInk_self (hcells cell (List.mem_of_mem_drop hcell)).1
    have htab : CodePoint.char '\x1b' ∉ Text.ofString "\t" := by decide
    have hline : Text.joinWith "\t" (Text.splitOn '\t' line) = line :=
      Text.joinWith_splitOn '\t' line
    have hjoin := Style.endsInInk_joinWith htab (List.rel_append hstyled hrest)
    dsimp only at hjoin
    rw [List.take_append_drop, hline] at hjoin
    exact hjoin

theorem endsInInk_tableSection {title : Text} {rows : List (List Text)} (config : Table.Config)
    (styled : Int) (htitle : CodePoint.char '\x1b' ∉ title)
    (ink : ∀ c ∈ title.getLast?, isFiller c = false)
    (hrows : ∀ row ∈ rows, ∀ cell ∈ row, CodePoint.char '\x1b' ∉ cell) :
    EndsInInk ((colored indent).tableSection title rows config styled)
      ((uncolored indent).tableSection title rows config styled) := by
  have hrender : CodePoint.char '\x1b' ∉ config.render rows := by
    intro hmem
    rcases Table.Config.mem_render hmem with he | hdrawing | ⟨row, hrow, cell, hcell, hmem⟩
    · exact absurd he (by decide)
    · exact absurd hdrawing (by decide)
    · exact hrows row hrow cell hcell hmem
  have hlines : List.Forall₂ EndsInInk
      ((Text.breakLines (config.render rows)).map fun line =>
        (colored indent).margin ++ emphasizeCells (colored indent).pen styled line)
      ((Text.breakLines (config.render rows)).map fun line =>
        (uncolored indent).margin ++ emphasizeCells (uncolored indent).pen styled line) := by
    rw [List.forall₂_map_left_iff, List.forall₂_map_right_iff, List.forall₂_same]
    intro line hline
    obtain ⟨hsubset, hfeed⟩ := Text.of_mem_breakLines hline
    exact (Style.endsInInk_self (escape_notMem_margin (colored indent))).append
      (endsInInk_emphasizeCells styled (fun hmem => hrender (hsubset hmem)) hfeed)
  have hfeed : EndsInInk [CodePoint.char '\n'] [.char '\n'] := Style.endsInInk_self (by decide)
  have hgap : EndsInInk gap gap := Style.endsInInk_self (by decide)
  exact (((endsInInk_heading htitle ink).append hfeed).append
    (Style.endsInInk_joinWith (by decide) hlines)).append hgap

theorem endsInInk_nameList {title : Text} {entries : Entries Text}
    (htitle : CodePoint.char '\x1b' ∉ title) (ink : ∀ c ∈ title.getLast?, isFiller c = false)
    (h : entries.IsFreeOf (.char '\x1b')) :
    EndsInInk ((colored indent).nameList title entries)
      ((uncolored indent).nameList title entries) := by
  refine endsInInk_tableSection _ _ htitle ink fun row hrow cell hcell => ?_
  obtain ⟨entry, hentry, rfl⟩ := List.mem_map.mp hrow
  obtain ⟨hname, hdescription⟩ := h entry hentry
  rcases List.mem_cons.mp hcell with rfl | hcell
  · exact hname
  · rw [List.mem_singleton.mp hcell]
    exact hdescription

theorem escape_notMem_label {dashes : Text} {name : Option Text}
    (hdashes : CodePoint.char '\x1b' ∉ dashes) (h : ∀ t ∈ name, CodePoint.char '\x1b' ∉ t) :
    CodePoint.char '\x1b' ∉ CommandOption.label dashes name := by
  rw [CommandOption.label.eq_def]
  split
  · exact List.not_mem_nil
  · exact List.not_mem_nil
  · exact fun hmem => (List.mem_append.mp hmem).elim hdashes (h _ rfl)

theorem endsInInk_options {page : Page}
    (h : ∀ o ∈ page.options, o.IsFreeOf (.char '\x1b')) :
    EndsInInk ((colored indent).options page) ((uncolored indent).options page) := by
  rw [options, options]
  refine endsInInk_ite (endsInInk_tableSection _ _ (by decide) (by decide) ?_)
  intro row hrow cell hcell
  obtain ⟨o, ho, rfl⟩ := List.mem_map.mp hrow
  obtain ⟨hlongName, hflag, hdescription⟩ := h o ho
  rcases List.mem_cons.mp hcell with rfl | hcell
  · exact escape_notMem_label (by decide) hlongName
  · rcases List.mem_cons.mp hcell with rfl | hcell
    · exact escape_notMem_label (by decide) hflag
    · rw [List.mem_singleton.mp hcell]
      exact hdescription

theorem escape_notMem_getD {t : Option Text} (h : ∀ u ∈ t, CodePoint.char '\x1b' ∉ u) :
    CodePoint.char '\x1b' ∉ t.getD [] := by
  cases t with
  | none => exact List.not_mem_nil
  | some u => exact h u rfl

theorem endsInInk_usage {page : Page} (h : ∀ t ∈ page.usage, CodePoint.char '\x1b' ∉ t) :
    EndsInInk ((colored indent).usage page) ((uncolored indent).usage page) := by
  have hfeed : EndsInInk [CodePoint.char '\n'] [.char '\n'] := Style.endsInInk_self (by decide)
  have hgap : EndsInInk gap gap := Style.endsInInk_self (by decide)
  rw [usage, usage]
  exact endsInInk_ite (((((endsInInk_heading (by decide) (by decide)).append hfeed).append
    (Style.endsInInk_self (escape_notMem_margin (colored indent)))).append
      (Style.endsInInk_self (escape_notMem_getD h))).append hgap)

theorem endsInInk_paragraph {t : Text} (h : CodePoint.char '\x1b' ∉ t) :
    EndsInInk (paragraph t) (paragraph t) := by
  have hgap : EndsInInk gap gap := Style.endsInInk_self (by decide)
  rw [paragraph]
  exact endsInInk_ite ((Style.endsInInk_self h).append hgap)

/-- A page up to its examples. -/
def front (r : Renderer) (page : Page) : Text :=
  paragraph page.description ++ r.usage page ++ r.args page ++ r.options page
    ++ r.subCommands page ++ paragraph (page.longDescription.getD [])

/-- Up to the examples no filler shows last. -/
theorem endsInInk_front {page : Page} (h : page.IsFreeOf (.char '\x1b')) :
    EndsInInk ((colored indent).front page) ((uncolored indent).front page) := by
  have hargs : EndsInInk ((colored indent).args page) ((uncolored indent).args page) := by
    rw [args, args]
    exact endsInInk_ite (endsInInk_nameList (by decide) (by decide) h.args)
  have hsubs : EndsInInk ((colored indent).subCommands page)
      ((uncolored indent).subCommands page) := by
    rw [subCommands, subCommands]
    exact endsInInk_ite (endsInInk_nameList (by decide) (by decide) h.subCommands)
  exact (((((endsInInk_paragraph h.description).append (endsInInk_usage h.usage)).append
    hargs).append (endsInInk_options h.options)).append hsubs).append
      (endsInInk_paragraph (escape_notMem_getD h.longDescription))

end Renderer

/-! ### Examples -/

namespace Example

/-- An example has something to show. -/
def isShown (e : Example) : Bool := e.code ≠ [] || e.description ≠ []

/-- The code point of an example that shows last, leaving out filler that is in no
colour. -/
def ending (e : Example) : Option CodePoint :=
  e.code.getLast?.or (if e.description = [] then none else some ':')

theorem ending_eq_none_iff {e : Example} : e.ending = none ↔ e.isShown = false := by
  rw [ending, Option.or_eq_none_iff, List.getLast?_eq_none_iff, isShown, Bool.or_eq_false_iff]
  simp

/-- Filler shows last of an example exactly if its code ends in filler. -/
theorem ink_ending_iff {e : Example} :
    (∀ c ∈ e.ending, isFiller c = false) ↔ ∀ c ∈ e.code.getLast?, isFiller c = false := by
  cases hcode : e.code.getLast? with
  | some c => rw [ending, hcode, Option.some_or]
  | none =>
    rw [ending, hcode, Option.none_or]
    refine ⟨fun _ c hc => absurd hc (Option.not_mem_none c), fun _ c hc => ?_⟩
    split at hc
    · cases hc
    · cases hc
      rfl

end Example

/-- The last example of a page that shows anything ends with filler in its code. -/
def Page.EndsInBlankCode (page : Page) : Prop :=
  ∃ e ∈ (page.examples.filter Example.isShown).getLast?, ∃ c ∈ e.code.getLast?,
    isFiller c = true

namespace Renderer

theorem tints_filler {t : Text} (h : ∀ c ∈ t, isFiller c = true) : Tints t t none := by
  have htints := Style.tints_self (Style.escape_notMem_of_filler h)
  rwa [Text.dropEndWhile_eq_nil_iff.mpr h] at htints

theorem tints_caption (indent : Nat) {description : Text}
    (h : CodePoint.char '\x1b' ∉ description) :
    Tints ((colored indent).caption description) ((uncolored indent).caption description)
      (if description = [] then none else some (.char ':')) := by
  have hcaption : (colored indent).caption description = (uncolored indent).caption description :=
    rfl
  rw [hcaption, caption]
  split
  · exact tints_filler fun c hc => absurd hc List.not_mem_nil
  · have hmark : Tints [.char ':', .char '\n'] [.char ':', .char '\n'] (some (.char ':')) :=
      Style.tints_self (by decide)
    have hescape : CodePoint.char '\x1b' ∉ (uncolored indent).margin ++ description := fun hmem =>
      (List.mem_append.mp hmem).elim (escape_notMem_margin _) h
    exact (Style.tints_self hescape).append hmark

theorem tints_exampleLines (indent : Nat) {e : Example}
    (h : CodePoint.char '\x1b' ∉ e.code ∧ CodePoint.char '\x1b' ∉ e.description) :
    Tints ((colored indent).exampleLines e) ((uncolored indent).exampleLines e) e.ending := by
  have hmargin : Tints (colored indent).margin (uncolored indent).margin none :=
    tints_filler fun _ => isFiller_of_mem_margin
  have hcode : Tints ((colored indent).pen.emphasis e.code) ((uncolored indent).pen.emphasis e.code)
      e.code.getLast? := Style.tints_apply (by decide) h.1
  have hgap : Tints gap gap none := tints_filler (by decide)
  have hcaption := tints_caption indent h.2
  have hlines := (((hcaption.append hmargin).append hmargin).append hcode).append hgap
  simp only [Option.none_or] at hlines
  exact hlines

/-- What shows last of some examples is what shows last of the last one that shows. -/
theorem tints_flatMap_exampleLines (indent : Nat) {examples : List Example}
    (h : ∀ e ∈ examples, CodePoint.char '\x1b' ∉ e.code ∧ CodePoint.char '\x1b' ∉ e.description) :
    Tints (examples.flatMap (colored indent).exampleLines)
      (examples.flatMap (uncolored indent).exampleLines)
      ((examples.filter Example.isShown).getLast?.bind Example.ending) := by
  -- an example that shows nothing leaves the ending to the examples before it
  induction examples with
  | nil => exact tints_filler fun c hc => absurd hc List.not_mem_nil
  | cons e rest ih =>
    have hfirst := tints_exampleLines indent (h e (List.mem_cons_self ..))
    have hall := hfirst.append (ih fun x hx => h x (List.mem_cons_of_mem _ hx))
    have hending : (((e :: rest).filter Example.isShown).getLast?.bind Example.ending) =
        ((rest.filter Example.isShown).getLast?.bind Example.ending).or e.ending := by
      cases hshown : e.isShown with
      | false =>
        rw [List.filter_cons_of_neg (by rw [hshown]; decide),
          Example.ending_eq_none_iff.mpr hshown, Option.or_none]
      | true =>
        rw [List.filter_cons_of_pos hshown, List.getLast?_cons]
        cases hlast : (rest.filter Example.isShown).getLast? with
        | none => rfl
        | some x =>
          have hx : x.isShown = true := (List.mem_filter.mp (List.mem_of_getLast? hlast)).2
          obtain ⟨c, hc⟩ := Option.ne_none_iff_exists'.mp
            (mt Example.ending_eq_none_iff.mp (by rw [hx]; decide))
          show x.ending = (x.ending).or e.ending
          rw [hc, Option.some_or]
    rw [hending, List.flatMap_cons, List.flatMap_cons]
    exact hall

/-- Filler shows last of the examples exactly if the last one that shows anything ends
with filler in its code. -/
theorem tints_examples (indent : Nat) {page : Page} (h : page.IsFreeOf (.char '\x1b')) :
    ∃ last, Tints ((colored indent).examples page) ((uncolored indent).examples page) last ∧
      ((∀ c ∈ last, isFiller c = false) ↔ ¬ page.EndsInBlankCode) := by
  by_cases hnone : page.examples = []
  · rw [examples, examples, if_pos hnone, if_pos hnone]
    refine ⟨none, tints_filler fun c hc => absurd hc List.not_mem_nil, ?_⟩
    rw [Page.EndsInBlankCode, hnone]
    exact ⟨fun _ ⟨e, he, _⟩ => absurd he (Option.not_mem_none e),
      fun _ c hc => absurd hc (Option.not_mem_none c)⟩
  · have hheading : EndsInInk
        ((colored indent).pen.heading "Examples:" ++ [.char '\n'])
        ((uncolored indent).pen.heading "Examples:" ++ [.char '\n']) :=
      (endsInInk_heading (by decide) (by decide)).append (Style.endsInInk_self (by decide))
    obtain ⟨last, hlast, hiff⟩ :=
      hheading.append_tints (tints_flatMap_exampleLines indent h.examples)
    rw [examples, examples, if_neg hnone, if_neg hnone]
    refine ⟨last, hlast, hiff.trans ?_⟩
    rw [Page.EndsInBlankCode]
    cases (page.examples.filter Example.isShown).getLast? with
    | none => simp
    | some e =>
      rw [Option.bind_some, Example.ink_ending_iff]
      simp

end Renderer

/-! ### The start of a page -/

/-- A text does not start with filler. -/
def Text.StartsInInk (t : Text) : Prop := ∀ c ∈ t.head?, isFiller c = false

namespace Text

instance (t : Text) : Decidable t.StartsInInk :=
  inferInstanceAs (Decidable (∀ c ∈ t.head?, isFiller c = false))

theorem startsInInk_nil : StartsInInk [] := fun c hc => absurd hc (Option.not_mem_none c)

theorem startsInInk_ite {p : Prop} [Decidable p] {t : Text} (h : t.StartsInInk) :
    StartsInInk (if p then [] else t) := by
  split
  · exact startsInInk_nil
  · exact h

theorem StartsInInk.append_of_ne_nil {s : Text} (hs : s.StartsInInk) (hne : s ≠ []) (t : Text) :
    (s ++ t).StartsInInk := by
  rw [StartsInInk, List.head?_append_of_ne_nil _ hne]
  exact hs

theorem StartsInInk.append {s t : Text} (hs : s.StartsInInk) (ht : t.StartsInInk) :
    (s ++ t).StartsInInk := by
  by_cases hne : s = []
  · rw [hne, List.nil_append]
    exact ht
  · exact hs.append_of_ne_nil hne t

end Text

open Text (StartsInInk startsInInk_nil startsInInk_ite)

/-- The description of a page does not start with filler, and there is no long
description without it. -/
structure Page.StartsInInk (page : Page) : Prop where
  description : page.description.StartsInInk
  longDescription : page.description = [] → page.longDescription = none

theorem Page.startsInInk_ofComment (s : Substitution) (comment : Text) :
    (ofComment s comment).StartsInInk := by
  obtain ⟨prose, hprose⟩ := exists_splitDescription s comment
  have hstarts : (splitDescription prose).1.StartsInInk := fun _ =>
    not_isFiller_of_head?_splitDescription
  have hbehind := splitDescription_ne_nil (t := prose)
  rw [hprose] at hstarts hbehind
  dsimp only at hstarts hbehind
  exact ⟨hstarts, fun hnone => by_contra fun hlong => hbehind hlong hnone⟩

theorem Page.StartsInInk.addSubCommands {page : Page} (h : page.StartsInInk)
    (subCommands : Entries Text) : (page.addSubCommands subCommands).StartsInInk := by
  obtain ⟨all, hall⟩ := page.addSubCommands_eq subCommands
  rw [hall]
  exact ⟨h.description, h.longDescription⟩

namespace Renderer

theorem startsInInk_section (r : Renderer) {title : Text} (hne : title ≠ [])
    (h : title.StartsInInk) (rest : Text) : (r.pen.heading title ++ rest).StartsInInk := by
  have hheading : (r.pen.heading title).StartsInInk ∧ r.pen.heading title ≠ [] := by
    rw [Pen.heading, Pen.write]
    split
    · rw [Style.apply, if_neg (not_or.mpr ⟨hne, by decide⟩)]
      refine ⟨fun c hc => ?_, List.cons_ne_nil _ _⟩
      cases hc
      rfl
    · exact ⟨h, hne⟩
  exact hheading.1.append_of_ne_nil hheading.2 rest

theorem startsInInk_tableSection (r : Renderer) {title : Text} (rows : List (List Text))
    (config : Table.Config) (styled : Int) (hne : title ≠ []) (h : title.StartsInInk) :
    (r.tableSection title rows config styled).StartsInInk := by
  rw [tableSection]
  simp only [List.append_assoc]
  exact startsInInk_section r hne h _

/-- The text of a page starts with no filler, in whatever colours. -/
theorem startsInInk_text (r : Renderer) {page : Page} (h : page.StartsInInk) :
    (r.front page ++ r.examples page).StartsInInk := by
  have husage : (r.usage page).StartsInInk := by
    rw [usage]
    simp only [List.append_assoc]
    exact startsInInk_ite (startsInInk_section r (by decide) (by decide) _)
  have hargs : (r.args page).StartsInInk :=
    startsInInk_ite (startsInInk_tableSection r _ _ _ (by decide) (by decide))
  have hoptions : (r.options page).StartsInInk :=
    startsInInk_ite (startsInInk_tableSection r _ _ _ (by decide) (by decide))
  have hsubs : (r.subCommands page).StartsInInk :=
    startsInInk_ite (startsInInk_tableSection r _ _ _ (by decide) (by decide))
  have hexamples : (r.examples page).StartsInInk := by
    rw [examples]
    simp only [List.append_assoc]
    exact startsInInk_ite (startsInInk_section r (by decide) (by decide) _)
  -- without a description the first text is a heading, which starts with a letter or a code
  by_cases hnone : page.description = []
  · have hlong : paragraph (page.longDescription.getD []) = [] := by
      rw [h.longDescription hnone]
      rfl
    rw [front, hlong, hnone, List.append_nil]
    exact ((((startsInInk_nil.append husage).append hargs).append hoptions).append hsubs).append
      hexamples
  · rw [front, paragraph, if_neg hnone]
    simp only [List.append_assoc]
    exact h.description.append_of_ne_nil hnone _

/-! ### Whole pages -/

theorem render_eq_dropEndWhile (r : Renderer) {page : Page} (h : page.StartsInInk) :
    r.render page = Text.dropEndWhile isFiller (r.front page ++ r.examples page) := by
  show Text.dropEndWhile isFiller ((r.front page ++ r.examples page).dropWhile isFiller) = _
  rw [Text.dropWhile_eq_self_iff.mpr (startsInInk_text r h)]

/-- A page in colour shows the plain page, and filler behind it exactly if the page ends in
blank code. -/
theorem withoutCodes_render {page : Page} (hfree : page.IsFreeOf (.char '\x1b'))
    (hstarts : page.StartsInInk) (indent : Nat) :
    ∃ u, (∀ c ∈ u, isFiller c = true) ∧
      withoutCodes ((colored indent).render page) = (uncolored indent).render page ++ u ∧
      (u = [] ↔ ¬ page.EndsInBlankCode) := by
  obtain ⟨second, hexamples, hiff⟩ := tints_examples indent hfree
  obtain ⟨last, htints, hlast⟩ := (endsInInk_front hfree).append_tints hexamples
  obtain ⟨u, hfiller, hshows, hu⟩ := htints.dropEndWhile
  rw [render_eq_dropEndWhile _ hstarts, render_eq_dropEndWhile _ hstarts]
  exact ⟨u, hfiller, hshows, hu.trans (hlast.trans hiff)⟩

/-- All tables of a page can be laid out. -/
def isDrawable (page : Page) : Bool := areMeasurable (layouts page)

theorem outcome_draw_page (r : Renderer) (page : Page) :
    (r.draw page).outcome =
      if isDrawable page then .ok (r.render page) else .error .unencodable := by
  rw [draw, Run.outcome_bind, outcome_tellLayouts, isDrawable]
  split <;> rfl

theorem withoutCodes_draw {page : Page} (hfree : page.IsFreeOf (.char '\x1b'))
    (hstarts : page.StartsInInk) (indent : Nat) :
    (((colored indent).draw page).outcome.map withoutCodes = ((uncolored indent).draw page).outcome
        ↔ isDrawable page = false ∨ ¬ page.EndsInBlankCode) ∧
      ∃ blanks, (∀ c ∈ blanks, isFiller c = true) ∧
        ((colored indent).draw page).outcome.map withoutCodes =
          ((uncolored indent).draw page).outcome.map (· ++ blanks) := by
  obtain ⟨u, hfiller, hshows, hu⟩ := withoutCodes_render hfree hstarts indent
  rw [outcome_draw_page, outcome_draw_page, ← hu]
  cases isDrawable page with
  | false => exact ⟨⟨fun _ => Or.inl rfl, fun _ => rfl⟩, u, hfiller, rfl⟩
  | true =>
    have hshown : (Except.ok ((colored indent).render page) : Except Failure Text).map withoutCodes
        = .ok ((uncolored indent).render page ++ u) := congrArg Except.ok hshows
    refine ⟨?_, u, hfiller, hshown⟩
    rw [if_pos rfl, if_pos rfl, hshown]
    constructor
    · intro h
      exact Or.inr (List.append_right_eq_self.mp (Except.ok.inj h))
    · rintro (h | rfl)
      · cases h
      · rw [List.append_nil]

/-- **Colours change what a page shows only behind blank code.**  For every comment, name
of the program and sub-commands without escape characters the page in colour shows, or
fails, as the plain page does, unless the last example that shows anything ends with
filler in its code; and then it only shows more filler at the end. -/
theorem withoutCodes_draw_iff {s : Substitution} {comment : Text} {subCommands : Entries Text}
    (hcomment : CodePoint.char '\x1b' ∉ comment) (hprogram : CodePoint.char '\x1b' ∉ s.program)
    (hsubs : subCommands.IsFreeOf (.char '\x1b')) (indent : Nat) :
    let page := (Page.ofComment s comment).addSubCommands subCommands
    (((colored indent).draw page).outcome.map withoutCodes = ((uncolored indent).draw page).outcome
        ↔ isDrawable page = false ∨ ¬ page.EndsInBlankCode) ∧
      ∃ blanks, (∀ c ∈ blanks, isFiller c = true) ∧
        ((colored indent).draw page).outcome.map withoutCodes =
          ((uncolored indent).draw page).outcome.map (· ++ blanks) := by
  have hfree := Page.isFreeOf_ofComment hcomment hprogram (by decide)
  have hstarts := Page.startsInInk_ofComment s comment
  exact withoutCodes_draw (hfree.addSubCommands hsubs) (hstarts.addSubCommands subCommands) indent

/-- A comment with an example whose code ends with a blank. -/
def blankComment : Text := "@example \x60foo \x60"

/-- In colour the page of `blankComment` shows a blank that the plain page does not. -/
theorem withoutCodes_draw_iff_blankComment :
    CodePoint.char '\x1b' ∉ blankComment ∧ CodePoint.char '\x1b' ∉ (Substitution.program {}) ∧
      Entries.IsFreeOf (.char '\x1b') [] ∧
      let page := (Page.ofComment {} blankComment).addSubCommands []
      isDrawable page = true ∧ page.EndsInBlankCode ∧
        ((colored 2).draw page).outcome.map withoutCodes ≠ ((uncolored 2).draw page).outcome := by
  have hpage : (Page.ofComment {} blankComment).addSubCommands [] =
      { examples := [{ code := "foo " }] } := by
    have happly : Substitution.apply {} "foo " = "foo " := Text.replace_of_notMem _ _ (by decide)
    have hread : Comment.read blankComment = [.example { code := "foo " }] := by decide
    show Page.ofComment {} blankComment = _
    rw [Page.ofComment, Page.ofLines_eq, hread]
    show ({ examples := [{ code := Substitution.apply {} "foo " }] } : Page) = _
    rw [happly]
  have hcomment : CodePoint.char '\x1b' ∉ blankComment := by decide
  have hprogram : CodePoint.char '\x1b' ∉ (Substitution.program {}) := by decide
  have hsubs : Entries.IsFreeOf (.char '\x1b') [] := fun _ hentry => absurd hentry List.not_mem_nil
  obtain ⟨hiff, -⟩ := withoutCodes_draw_iff (s := {}) hcomment hprogram hsubs 2
  have hdrawable : isDrawable ((Page.ofComment {} blankComment).addSubCommands []) = true := by
    rw [hpage]
    rfl
  have hblank : ((Page.ofComment {} blankComment).addSubCommands []).EndsInBlankCode := by
    rw [hpage]
    exact ⟨{ code := "foo " }, rfl, .char ' ', rfl, rfl⟩
  refine ⟨hcomment, hprogram, hsubs, hdrawable, hblank, fun heq => ?_⟩
  rcases hiff.mp heq with hnot | hnot
  · rw [hdrawable] at hnot
    cases hnot
  · exact hnot hblank

end Renderer
end HelpPages

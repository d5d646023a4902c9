import HelpPages.Proofs.Table.Alignment
import HelpPages.Proofs.Text.Utf8
import Mathlib.Data.List.Forall2

/-! # Boxes

With a border and a frame a rule is drawn with a cross wherever a line of a row has a bar, and
with dashes over the cells.  Rules and lines are built from different pieces, so the pieces are
compared one by one: a bar stands under every cross, and the bytes of a cell and of the blanks
around it under a run of dashes of the same length (`Config.under_rowText`).  From there
`Config.draw_boxed` says what the bytes of a box are.
-/
namespace HelpPages
namespace Table

/-- The byte of a cross. -/
def cross : UInt8 := UInt8.ofNat '+'.toNat

/-- The byte of a dash. -/
def dash : UInt8 := UInt8.ofNat '-'.toNat

/-- The byte of a bar. -/
def bar : UInt8 := UInt8.ofNat '|'.toNat

/-! ### Texts that stand under each other -/

/-- Byte for byte a text stands under another one: bars under its crosses and anything under
its dashes, but bars only if the cells may have `bars`. -/
def IsUnder (bars : Prop) (above below : Text) : Prop :=
  List.Forall₂ (fun a b => a = cross ∧ b = bar ∨ a = dash ∧ (b = bar → bars))
    (Text.toUtf8 above) (Text.toUtf8 below)

namespace IsUnder

variable {bars : Prop} {above below s t : Text}

theorem append (h : IsUnder bars above below) (h' : IsUnder bars s t) :
    IsUnder bars (above ++ s) (below ++ t) := by
  rw [IsUnder, Text.toUtf8_append, Text.toUtf8_append]
  exact List.rel_append h h'

/-- A bar stands under a cross. -/
theorem cross_bar : IsUnder bars "+" "|" :=
  .cons (.inl ⟨rfl, rfl⟩) .nil

/-- Under a run of dashes stands a text of the same width. -/
theorem dashes (encodable : below.isEncodable = true)
    (hbars : CodePoint.char '|' ∈ below → bars) :
    IsUnder bars (List.replicate (Text.width below) (CodePoint.char '-')) below := by
  have hdashes : ∀ n, Text.toUtf8 (List.replicate n (CodePoint.char '-')) =
      List.replicate n dash := by
    intro n
    induction n with
    | zero => rfl
    | succ n ih =>
      rw [List.replicate_succ, List.replicate_succ, ← ih]
      rfl
  rw [IsUnder, hdashes, ← Text.length_toUtf8 encodable]
  have hbytes : ∀ bytes : List UInt8, (bar ∈ bytes → bars) → List.Forall₂
      (fun a b => a = cross ∧ b = bar ∨ a = dash ∧ (b = bar → bars))
        (List.replicate bytes.length dash) bytes := by
    intro bytes
    induction bytes with
    | nil => intro _; exact .nil
    | cons b bytes ih =>
      intro h
      refine .cons (.inr ⟨rfl, ?_⟩) (ih fun hmem => h (List.mem_cons_of_mem _ hmem))
      rintro rfl
      exact h (List.mem_cons_self ..)
  exact hbytes _ fun hmem => hbars (Text.mem_of_byte (by decide) hmem)

/-- Texts that stand under each other one by one do so when they are joined. -/
theorem joinWith {α : Type} {f g : α → Text} {items : List α}
    (h : ∀ item ∈ items, IsUnder bars (f item) (g item)) :
    IsUnder bars (Text.joinWith "+" (items.map f)) (Text.joinWith "|" (items.map g)) := by
  induction items with
  | nil => exact .nil
  | cons item items ih =>
    obtain ⟨hitem, hitems⟩ := List.forall_mem_cons.mp h
    by_cases hnil : items = []
    · -- nothing is drawn behind the last item
      subst hnil
      rw [List.map_singleton, List.map_singleton, Text.joinWith_singleton,
        Text.joinWith_singleton]
      exact hitem
    · rw [List.map_cons, List.map_cons, Text.joinWith_cons _ _ (by simpa using hnil),
        Text.joinWith_cons _ _ (by simpa using hnil)]
      exact (hitem.append cross_bar).append (ih hitems)

end IsUnder

/-- What can be seen of a line under a rule, when cells have `bars` or not. -/
structure IsBoxed (bars : Prop) (rule line : Text) : Prop where
  /-- The line has as many bytes as the rule. -/
  length_eq : (Text.toUtf8 line).length = (Text.toUtf8 rule).length
  /-- Under every cross of the rule stands a bar. -/
  bar_of_cross : ∀ i : Nat,
    (Text.toUtf8 rule)[i]? = some cross → (Text.toUtf8 line)[i]? = some bar
  /-- There is no other bar in the line, unless one is in a cell. -/
  cross_of_bar : ¬ bars → ∀ i : Nat,
    (Text.toUtf8 line)[i]? = some bar → (Text.toUtf8 rule)[i]? = some cross

theorem IsUnder.isBoxed {bars : Prop} {rule line : Text} (h : IsUnder bars rule line) :
    IsBoxed bars rule line := by
  obtain ⟨hlength, hbytes⟩ := List.forall₂_iff_get.mp h
  refine ⟨hlength.symm, fun i hcross => ?_, fun hbars i hbar => ?_⟩
  · obtain ⟨hi, ha⟩ := List.getElem?_eq_some_iff.mp hcross
    have hi' : i < (Text.toUtf8 line).length := by omega
    rcases hbytes i hi hi' with ⟨-, hb⟩ | ⟨hdash, -⟩
    · exact List.getElem?_eq_some_iff.mpr ⟨hi', hb⟩
    · exact absurd (ha.symm.trans hdash) (by decide)
  · obtain ⟨hi', hb⟩ := List.getElem?_eq_some_iff.mp hbar
    have hi : i < (Text.toUtf8 rule).length := by omega
    rcases hbytes i hi hi' with ⟨ha, -⟩ | ⟨-, hnot⟩
    · exact List.getElem?_eq_some_iff.mpr ⟨hi, ha⟩
    · exact absurd (hnot hb) hbars

/-! ### Rules and lines in a box -/

namespace Config

variable {config : Config} {columns : List Column} {row : List Text}

/-- In a frame a rule has a run of dashes for every column. -/
theorem ruleText_of_frame (hframe : config.frame = true) (columns : List Column) :
    config.ruleText columns = "+" ++ Text.joinWith "+"
      (columns.map fun c => List.replicate (c.width + 2) (CodePoint.char '-')) ++ "+" := by
  have hruled : config.isRuled = true := by rw [isRuled, hframe, Bool.or_true]
  rw [ruleText, dashRuns, if_pos hruled, if_pos hframe, List.map_map, List.map_map, List.map_map]
  rfl

/-- In a box a line has a bar before, between and behind the cells. -/
theorem rowText_of_box (hborder : config.border = true) (hframe : config.frame = true)
    (columns : List Column) (row : List Text) :
    config.rowText columns row =
      "|" ++ Text.joinWith "|" (columns.map (config.cell row)) ++ "|" := by
  rw [rowText, opening, closing, separator, hborder, hframe]
  rfl

/-- **Every line of a box stands under its rule.** -/
theorem under_rowText {bars : Prop} (hborder : config.border = true)
    (hframe : config.frame = true)
    (fits : ∀ c ∈ columns, Text.width (cellAt row c.index) ≤ c.width)
    (encodable : ∀ cell ∈ row, cell.isEncodable = true)
    (hbars : ∀ cell ∈ row, CodePoint.char '|' ∈ cell → bars) :
    IsUnder bars (config.ruleText columns) (config.rowText columns row) := by
  have hcell : ∀ c ∈ columns, IsUnder bars (List.replicate (c.width + 2) (CodePoint.char '-'))
      (config.cell row c) := by
    intro c hc
    have hwidth : Text.width (config.cell row c) = c.width + 2 := by
      rw [width_cell (fits c hc), side, if_pos hframe]
      show 1 + c.width + 1 = c.width + 2
      omega
    -- a cell stands with the blanks around it under the dashes of its column
    rw [← hwidth]
    refine .dashes (List.all_eq_true.mpr fun d hd => ?_) fun hbar => ?_
    · rcases mem_cell hd with rfl | ⟨cell, hmem, hd⟩
      · rfl
      · exact List.all_eq_true.mp (encodable cell hmem) d hd
    · rcases mem_cell hbar with he | ⟨cell, hmem, hbar⟩
      · exact absurd he (by decide)
      · exact hbars cell hmem hbar
  rw [ruleText_of_frame hframe, rowText_of_box hborder hframe]
  exact (IsUnder.cross_bar.append (.joinWith hcell)).append .cross_bar

/-- The rule of a box is drawn with crosses and dashes only. -/
theorem mem_toUtf8_ruleText {b : UInt8} (h : b ∈ Text.toUtf8 (config.ruleText columns)) :
    b = cross ∨ b = dash := by
  obtain ⟨d, hd, hb⟩ := List.mem_flatMap.mp h
  rcases mem_ruleText hd with rfl | rfl
  · exact .inl (List.mem_singleton.mp hb)
  · exact .inr (List.mem_singleton.mp hb)

/-- **In a box every bar stands under a cross.**  Rows of any lengths, whose cells are values
with texts on one line, are drawn with a border and a frame unless a cell has no text or no width.
The text is one line for each row and a rule of crosses and dashes around them, and every line is
boxed by the rule. -/
theorem draw_boxed (config : Config) (rows : List (List Value)) (hborder : config.border = true)
    (hframe : config.frame = true)
    (oneLine : ∀ row ∈ rows, ∀ value ∈ row, CodePoint.char '\n' ∉ cellText value) :
    (config.drawValues rows).outcome =
        (fault? rows).elim (.ok (config.render (texts rows))) .error ∧
      ∃ rule lines,
        Text.splitOn '\n' (config.render (texts rows)) = config.arrange rule lines ++ [[]] ∧
        lines.length = rows.length ∧
        (∀ b ∈ Text.toUtf8 rule, b = cross ∨ b = dash) ∧
        (isMeasurable (texts rows) = true → ∀ line ∈ lines,
          IsBoxed (∃ row ∈ rows, ∃ value ∈ row, CodePoint.char '|' ∈ cellText value) rule
            line) := by
  have hlayout := render_isLayout config (forall_texts.mpr oneLine)
  refine ⟨config.outcome_drawValues rows, _, _, hlayout.text, ?_, fun b => mem_toUtf8_ruleText, ?_⟩
  · rw [hlayout.length_eq, texts, List.length_map]
  · intro hmeasurable line hline
    obtain ⟨row, hrow, rfl⟩ := List.mem_map.mp hline
    have hencodable := isMeasurable_iff.mp hmeasurable row hrow
    refine (under_rowText hborder hframe (fits_columns hrow) hencodable ?_).isBoxed
    intro cell hcell hbar
    obtain ⟨values, hvalues, rfl⟩ := List.mem_map.mp hrow
    obtain ⟨value, hvalue, rfl⟩ := List.mem_map.mp hcell
    exact ⟨values, hvalues, value, hvalue, hbar⟩

theorem draw_boxed_raggedRows :
    fullConfig.border = true ∧ fullConfig.frame = true ∧
      (∀ row ∈ raggedRows, ∀ value ∈ row, CodePoint.char '\n' ∉ cellText value) ∧
      (¬ ∃ row ∈ raggedRows, ∃ value ∈ row, CodePoint.char '|' ∈ cellText value) ∧
      (fullConfig.drawValues raggedRows).outcome = .ok (fullConfig.render (texts raggedRows)) ∧
      ∃ rule lines,
        Text.splitOn '\n' (fullConfig.render (texts raggedRows)) =
          fullConfig.arrange rule lines ++ [[]] ∧
        lines.length = raggedRows.length ∧
        (∀ b ∈ Text.toUtf8 rule, b = cross ∨ b = dash) ∧
        ∀ line ∈ lines,
          IsBoxed (∃ row ∈ raggedRows, ∃ value ∈ row, CodePoint.char '|' ∈ cellText value)
            rule line := by
  have honeLine : ∀ row ∈ raggedRows, ∀ value ∈ row, CodePoint.char '\n' ∉ cellText value := by
    decide
  have hfault : fault? raggedRows = none := by decide +kernel
  obtain ⟨houtcome, rule, lines, htext, hlength, hrule, hboxed⟩ :=
    draw_boxed fullConfig raggedRows rfl rfl honeLine
  rw [hfault] at houtcome
  exact ⟨rfl, rfl, honeLine, by decide, houtcome, rule, lines, htext, hlength, hrule,
    hboxed (isMeasurable_texts hfault)⟩

end Config
end Table
end HelpPages

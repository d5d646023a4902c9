import HelpPages.Proofs.Page.Colour
import HelpPages.Proofs.Text.Encodable

/-! # Sections that can be written

Styles are made of characters, so a text that can be written can be written in any style, and a
table of cells that can be written can be written as a section, in colours too
(`Renderer.isEncodable_commandList`).
-/
namespace HelpPages
namespace Style

open Text (isEncodable_append isEncodable_joinWith isEncodable_ofChars)

theorem isEncodable_sequence (codes : List Nat) : (sequence codes).isEncodable = true := by
  refine isEncodable_append (isEncodable_append rfl (isEncodable_joinWith rfl fun t ht => ?_)) rfl
  obtain ⟨code, -, rfl⟩ := List.mem_map.mp ht
  exact isEncodable_ofChars _

theorem isEncodable_apply (style : Style) {t : Text} (h : t.isEncodable = true) :
    (style.apply t).isEncodable = true := by
  rw [apply]
  split
  · exact h
  · exact isEncodable_append (isEncodable_append (isEncodable_sequence _) h)
      (isEncodable_sequence _)

end Style

theorem Pen.isEncodable_write (pen : Pen) (style : Style) {t : Text} (h : t.isEncodable = true) :
    (pen.write style t).isEncodable = true := by
  rw [write]
  split
  · exact style.isEncodable_apply h
  · exact h

namespace Renderer

open Text (isEncodable_append isEncodable_joinWith isEncodable_of_subset)

theorem isEncodable_emphasizeCell (pen : Pen) {cell : Text} (h : cell.isEncodable = true) :
    (emphasizeCell pen cell).isEncodable = true := by
  have hcut : Text.dropEndWhile (·.is ' ') cell ⊆ cell :=
    (Text.dropEndWhile_isPrefix _ cell).subset
  exact isEncodable_append (pen.isEncodable_write _ (isEncodable_of_subset hcut h))
    (isEncodable_of_subset (List.drop_subset _ _) h)

theorem isEncodable_emphasizeCells (pen : Pen) (count : Int) {line : Text}
    (h : line.isEncodable = true) : (emphasizeCells pen count line).isEncodable = true := by
  rw [emphasizeCells]
  split
  · exact h
  · have hcell : ∀ cell ∈ Text.splitOn '\t' line, cell.isEncodable = true := fun cell hcell =>
      isEncodable_of_subset (Text.subset_of_mem_splitOn hcell) h
    refine isEncodable_joinWith rfl fun cell hmem => ?_
    rcases List.mem_append.mp hmem with hmem | hmem
    · obtain ⟨own, hown, rfl⟩ := List.mem_map.mp hmem
      exact isEncodable_emphasizeCell pen (hcell own (List.mem_of_mem_take hown))
    · exact hcell cell (List.mem_of_mem_drop hmem)

/-- The section of a table can be written if its title and the cells of the table can. -/
theorem isEncodable_tableSection (r : Renderer) {title : Text} {rows : List (List Text)}
    (config : Table.Config) (styled : Int) (htitle : title.isEncodable = true)
    (hrows : Table.isMeasurable rows = true) :
    (r.tableSection title rows config styled).isEncodable = true := by
  have htable : (config.render rows).isEncodable = true := config.isEncodable_render hrows
  have hlines : ∀ line ∈ (Text.breakLines (config.render rows)).map fun line =>
      r.margin ++ emphasizeCells r.pen styled line, line.isEncodable = true := by
    intro line hline
    obtain ⟨own, hown, rfl⟩ := List.mem_map.mp hline
    refine isEncodable_append (Text.isEncodable_spaces _) (isEncodable_emphasizeCells _ _ ?_)
    exact isEncodable_of_subset (Text.of_mem_breakLines hown).1 htable
  exact isEncodable_append (isEncodable_append (isEncodable_append
    (r.pen.isEncodable_write _ htitle) rfl) (isEncodable_joinWith rfl hlines)) rfl

/-- **The list of commands can be written** if their names and short descriptions can. -/
theorem isEncodable_commandList (r : Renderer) {commands : Entries Text}
    (h : Table.isMeasurable (nameLayout commands).2 = true) :
    (r.commandList commands).isEncodable = true :=
  r.isEncodable_tableSection nameTable 1 (by decide) h

end Renderer
end HelpPages

import HelpPages.Page.Run
import HelpPages.Proofs.Style.Codes
import HelpPages.Proofs.Text.Trim
import Mathlib.Algebra.Ring.Int.Defs
import Mathlib.Data.List.Forall2

/-! # The first cells of a line in colour

Emphasis goes to the cells at the start of a line, as many as are asked for, and stays inside
them: a cell keeps its place between the tabs and the spaces at its end, and the cells behind
stay as they are (`emphasizedCells_cells`).  So a terminal shows the line itself.  The number
has to fit into 64 bits; with a larger one there is no line at all.
-/
namespace HelpPages
namespace Renderer

open Style (Shows shows_self)

variable {cell styled line : Text} {count : Int}

/-- A cell in colour: its text between the codes of the emphasis, and behind them the spaces at
its end.  A cell without text has no codes. -/
inductive IsEmphasized : Text → Text → Prop
  | textless (n : Nat) : IsEmphasized (Text.spaces n) (Text.spaces n)
  | inked {text : Text} (n : Nat) (nonempty : text ≠ [])
      (ends : text.getLast? ≠ some (.char ' ')) :
      IsEmphasized (text ++ Text.spaces n) ("\x1b[32m" ++ text ++ "\x1b[0m" ++ Text.spaces n)

/-! ### Cells -/

theorem emphasis_colored (text : Text) :
    Pen.emphasis ⟨true⟩ text =
      (if text = [] then [] else "\x1b[32m" ++ text ++ "\x1b[0m" : Text) := by
  have hcodes : Style.emphasisStyle.codes ≠ [] := by decide
  show Style.emphasisStyle.apply text = _
  rw [Style.apply]
  by_cases htext : text = []
  · rw [if_pos (.inl htext), if_pos htext, htext]
  · rw [if_neg (not_or.mpr ⟨htext, hcodes⟩), if_neg htext]
    rfl

theorem isEmphasized_emphasizeCell (cell : Text) :
    IsEmphasized cell (emphasizeCell ⟨true⟩ cell) := by
  obtain ⟨blanks, hcell, hblanks⟩ := Text.dropEndWhile_append_dropped (·.is ' ') cell
  have hspaces : blanks = Text.spaces blanks.length :=
    List.eq_replicate_of_mem fun c hc => CodePoint.is_iff.mp (hblanks c hc)
  have hends : (Text.dropEndWhile (·.is ' ') cell).getLast? ≠ some (.char ' ') := fun hlast =>
    absurd (Text.not_of_getLast?_dropEndWhile hlast) (by decide)
  rw [emphasizeCell]
  generalize Text.dropEndWhile (·.is ' ') cell = text at hcell hends
  have hdrop : cell.drop text.length = blanks :=
    (congrArg (List.drop _) hcell).trans List.drop_left
  show IsEmphasized cell (Pen.emphasis ⟨true⟩ text ++ cell.drop text.length)
  rw [hdrop, emphasis_colored, hcell, hspaces]
  by_cases htext : text = []
  · rw [if_pos htext, htext, List.nil_append]
    exact .textless _
  · rw [if_neg htext]
    exact .inked _ htext hends

theorem notMem_spaces {c : CodePoint} (h : c ≠ .char ' ') (n : Nat) : c ∉ Text.spaces n :=
  fun hmem => h (List.eq_of_mem_replicate hmem)

namespace IsEmphasized

/-- Emphasis brings no tab into a cell. -/
theorem tab_notMem (h : IsEmphasized cell styled) (free : CodePoint.char '\t' ∉ cell) :
    CodePoint.char '\t' ∉ styled := by
  cases h with
  | textless n => exact free
  | @inked text n nonempty ends =>
    have htext : CodePoint.char '\t' ∉ text := fun hmem => free (List.mem_append_left _ hmem)
    have hcodes : CodePoint.char '\t' ∉ (("\x1b[32m" : String) : Text) ∧
        CodePoint.char '\t' ∉ (("\x1b[0m" : String) : Text) := by decide
    simp only [List.mem_append, not_or]
    exact ⟨⟨⟨hcodes.1, htext⟩, hcodes.2⟩, notMem_spaces (by decide) n⟩

/-- A cell in colour shows the cell. -/
theorem shows (h : IsEmphasized cell styled) (free : CodePoint.char '\x1b' ∉ cell) :
    Shows styled cell := by
  cases h with
  | textless n => exact shows_self free
  | @inked text n nonempty ends =>
    have htext : Shows text text := shows_self fun hmem => free (List.mem_append_left _ hmem)
    have hspaces : Shows (Text.spaces n) (Text.spaces n) :=
      shows_self (notMem_spaces (by decide) n)
    have hon : Shows "\x1b[32m" [] := Style.shows_sequence [32]
    have hoff : Shows "\x1b[0m" [] := Style.shows_sequence [0]
    have hcell := ((hon.append htext).append hoff).append hspaces
    rwa [List.nil_append, List.append_nil] at hcell

end IsEmphasized

/-! ### Lines -/

/-- A line in colour has its cells between the same tabs, the first ones emphasised. -/
theorem splitOn_emphasizeCells (count : Int) (line : Text) :
    Text.splitOn '\t' (emphasizeCells ⟨true⟩ count line) =
      ((Text.splitOn '\t' line).take count.toNat).map (emphasizeCell ⟨true⟩) ++
        (Text.splitOn '\t' line).drop count.toNat := by
  by_cases hnone : count ≤ 0
  · rw [emphasizeCells, if_pos (by simp [hnone]), Int.toNat_of_nonpos hnone]
    rfl
  · have hfree : ∀ cell ∈ ((Text.splitOn '\t' line).take count.toNat).map (emphasizeCell ⟨true⟩) ++
        (Text.splitOn '\t' line).drop count.toNat, CodePoint.char '\t' ∉ cell := by
      intro styled hstyled
      rcases List.mem_append.mp hstyled with hstyled | hbehind
      · obtain ⟨cell, hcell, rfl⟩ := List.mem_map.mp hstyled
        have htab := Text.notMem_of_mem_splitOn (List.mem_of_mem_take hcell)
        exact (isEmphasized_emphasizeCell cell).tab_notMem htab
      · exact Text.notMem_of_mem_splitOn (List.mem_of_mem_drop hbehind)
    have hne : ((Text.splitOn '\t' line).take count.toNat).map (emphasizeCell ⟨true⟩) ++
        (Text.splitOn '\t' line).drop count.toNat ≠ [] := by
      intro hnil
      have hlength := congrArg List.length hnil
      rw [List.length_append, List.length_map, ← List.length_append, List.take_append_drop,
        Text.length_splitOn] at hlength
      exact absurd hlength (Nat.succ_ne_zero _)
    rw [emphasizeCells, if_neg (by simp [hnone])]
    exact Text.splitOn_joinWith hne hfree

/-- Texts in colour between separators show the plain ones between them. -/
theorem shows_joinWith {sep : Text} {ss ts : List Text} (hsep : CodePoint.char '\x1b' ∉ sep)
    (h : List.Forall₂ Shows ss ts) : Shows (Text.joinWith sep ss) (Text.joinWith sep ts) := by
  cases h with
  | nil => exact shows_self List.not_mem_nil
  | cons hfirst hrest =>
    rw [Text.joinWith_cons_eq, Text.joinWith_cons_eq]
    refine hfirst.append ?_
    induction hrest with
    | nil => exact shows_self List.not_mem_nil
    | cons hhead _ ih => exact ((shows_self hsep).append hhead).append ih

/-- A line in colour shows the line. -/
theorem shows_emphasizeCells (count : Int) (free : CodePoint.char '\x1b' ∉ line) :
    Shows (emphasizeCells ⟨true⟩ count line) line := by
  have hescape : ∀ cell ∈ Text.splitOn '\t' line, CodePoint.char '\x1b' ∉ cell :=
    fun cell hcell hmem => free (Text.subset_of_mem_splitOn hcell hmem)
  have hfirst : List.Forall₂ Shows
      (((Text.splitOn '\t' line).take count.toNat).map (emphasizeCell ⟨true⟩))
      ((Text.splitOn '\t' line).take count.toNat) := by
    rw [List.forall₂_map_left_iff, List.forall₂_same]
    intro cell hcell
    exact (isEmphasized_emphasizeCell cell).shows (hescape cell (List.mem_of_mem_take hcell))
  have hrest : List.Forall₂ Shows ((Text.splitOn '\t' line).drop count.toNat)
      ((Text.splitOn '\t' line).drop count.toNat) := by
    rw [List.forall₂_same]
    exact fun cell hcell => shows_self (hescape cell (List.mem_of_mem_drop hcell))
  have hcells : List.Forall₂ Shows
      (((Text.splitOn '\t' line).take count.toNat).map (emphasizeCell ⟨true⟩) ++
        (Text.splitOn '\t' line).drop count.toNat)
      ((Text.splitOn '\t' line).take count.toNat ++ (Text.splitOn '\t' line).drop count.toNat) :=
    List.rel_append hfirst hrest
  rw [← splitOn_emphasizeCells, List.take_append_drop] at hcells
  have hseparator : CodePoint.char '\x1b' ∉ [CodePoint.char '\t'] := by decide
  have hline := shows_joinWith hseparator hcells
  rwa [Text.joinWith_splitOn, Text.joinWith_splitOn] at hline

/-- A cell of a line in colour is the cell of the line, emphasised if it is one of the first. -/
theorem getElem?_splitOn_emphasizeCells (count : Int) {i : Nat}
    (h : (Text.splitOn '\t' line)[i]? = some cell) :
    ∃ styled, (Text.splitOn '\t' (emphasizeCells ⟨true⟩ count line))[i]? = some styled ∧
      (i < count → IsEmphasized cell styled) ∧ (count ≤ i → styled = cell) := by
  rw [splitOn_emphasizeCells]
  by_cases hi : i < count.toNat
  · refine ⟨emphasizeCell ⟨true⟩ cell, ?_, fun _ => isEmphasized_emphasizeCell cell, ?_⟩
    · have hlength := (List.getElem?_eq_some_iff.mp h).1
      rw [List.getElem?_append_left (by simp; omega), List.getElem?_map,
        List.getElem?_take_of_lt hi, h]
      rfl
    · omega
  · refine ⟨cell, ?_, by omega, fun _ => rfl⟩
    have hlength := (List.getElem?_eq_some_iff.mp h).1
    have hbefore : (((Text.splitOn '\t' line).take count.toNat).map
        (emphasizeCell ⟨true⟩)).length = count.toNat := by
      rw [List.length_map, List.length_take]
      omega
    rw [List.getElem?_append_right (by omega), hbefore, List.getElem?_drop,
      Nat.add_sub_cancel' (by omega), h]

/-- **Emphasis goes around the text of the first cells and leaves all else as it is.**  A line
without escape characters has no form in colour if the number of cells needs more than 64 bits.
Otherwise it has as many cells in colour as before, each between the same tabs: the first ones
are emphasised, as many as are asked for, and the others are as they were.  Without its codes it
is the line again. -/
theorem emphasizedCells_cells (free : CodePoint.char '\x1b' ∉ line) (count : Int) :
    (2 ^ 63 ≤ count → emphasizedCells ⟨true⟩ count line = .error (.length .overflow)) ∧
    (count < 2 ^ 63 → ∃ text, emphasizedCells ⟨true⟩ count line = .ok text ∧
      (Text.splitOn '\t' text).length = (Text.splitOn '\t' line).length ∧
      (∀ (i : Nat) cell, (Text.splitOn '\t' line)[i]? = some cell →
        ∃ styled, (Text.splitOn '\t' text)[i]? = some styled ∧
          (i < count → IsEmphasized cell styled) ∧ (count ≤ i → styled = cell)) ∧
      Style.withoutCodes text = line) := by
  have hbound : ((Nat.pow 2 63 : Nat) : Int) = 2 ^ 63 := rfl
  constructor
  · intro hlarge
    have hcount : Text.isCount count = false := by
      rw [Text.isCount, hbound, Bool.and_eq_false_iff]
      exact .inr (decide_eq_false (by omega))
    rw [emphasizedCells, hcount, decide_eq_true (by omega : 0 < count)]
    rfl
  · intro hsmall
    have hfits : (decide (0 < count) && !Text.isCount count) = false := by
      by_cases hpos : 0 < count
      · have hcount : Text.isCount count = true := by
          rw [Text.isCount, hbound, Bool.and_eq_true]
          exact ⟨decide_eq_true (by omega), decide_eq_true hsmall⟩
        rw [hcount, Bool.not_true, Bool.and_false]
      · rw [decide_eq_false hpos, Bool.false_and]
    refine ⟨emphasizeCells ⟨true⟩ count line, ?_, ?_,
      fun i cell => getElem?_splitOn_emphasizeCells count,
      (shows_emphasizeCells count free).withoutCodes_eq⟩
    · rw [emphasizedCells, Bool.true_and, hfits]
      rfl
    · rw [splitOn_emphasizeCells, List.length_append, List.length_map, ← List.length_append,
        List.take_append_drop]

/-- A line with spaces behind its first cell, a cell of spaces, an empty cell and two more. -/
def mixedCells : Text := "--force  \t  \t\tForce it \tnow"

theorem emphasizedCells_cells_mixed :
    CodePoint.char '\x1b' ∉ mixedCells ∧ (4 : Int) < 2 ^ 63 ∧
    ∃ text, emphasizedCells ⟨true⟩ 4 mixedCells = .ok text ∧
      (Text.splitOn '\t' text).length = (Text.splitOn '\t' mixedCells).length ∧
      (∀ (i : Nat) cell, (Text.splitOn '\t' mixedCells)[i]? = some cell →
        ∃ styled, (Text.splitOn '\t' text)[i]? = some styled ∧
          (i < (4 : Int) → IsEmphasized cell styled) ∧ ((4 : Int) ≤ i → styled = cell)) ∧
      Style.withoutCodes text = mixedCells := by
  have hfree : CodePoint.char '\x1b' ∉ mixedCells := by decide
  have hsmall : (4 : Int) < 2 ^ 63 := by decide
  exact ⟨hfree, hsmall, (emphasizedCells_cells hfree 4).2 hsmall⟩

example : emphasizedCells ⟨true⟩ 4 mixedCells =
    .ok "\x1b[32m--force\x1b[0m  \t  \t\t\x1b[32mForce it\x1b[0m \tnow" := by decide +kernel

/-- No line comes out in colour for a number of cells that needs more than 64 bits. -/
theorem not_emphasizedCells_large :
    CodePoint.char '\x1b' ∉ (("a" : String) : Text) ∧
      ∀ text, emphasizedCells ⟨true⟩ (2 ^ 63) "a" ≠ .ok text := by
  refine ⟨by decide, fun text h => ?_⟩
  have hlarge : emphasizedCells ⟨true⟩ (2 ^ 63) "a" = .error (.length .overflow) := rfl
  rw [hlarge] at h
  cases h

end Renderer
end HelpPages

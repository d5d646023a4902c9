import HelpPages.Page.Reader
import HelpPages.Proofs.Log.Remarks

/-! # Remarks on pages

Reading a page tells one remark for each dropped line, in order, and one with the numbers of
things on the page (`Page.remarks_read`).  Their templates can always be filled in, so a page is
read in the same way whatever the log shows.  A reader without a name to put in makes the
remarks up to the first line that names the program (`Reader.exists_remarks_read`).
-/
namespace HelpPages

open Comment (Line)

variable {ε : Type} [TemplateFailure ε]

namespace Comment

/-- The remarks on dropped lines. -/
def dropRemarks (lines : List Line) : List Text :=
  (lines.filterMap Line.dropped?).map fun line => "dropped tag line: " ++ line

/-- The remark that sums up a page. -/
def summary (page : Page) : Text :=
  "parsed " ++ Integer.ofNat page.args.length ++ " args, " ++ Integer.ofNat page.options.length
    ++ " options, " ++ Integer.ofNat page.examples.length ++ " examples"

theorem textOf_droppedTemplate (line : Text) :
    Log.textOf droppedTemplate [("line", .text line)] = .ok ("dropped tag line: " ++ line) := by
  have hcut : Template.pieces droppedTemplate =
      ("dropped tag line: " : Text).map .char ++ [.field ⟨"line", none, []⟩] := by
    rw [droppedTemplate]
    repeat rw [Text.ofString_ofList]
    decide
  rw [Log.textOf_of_pieces ["line"] hcut (by decide) rfl (List.cons_ne_nil _ _)
    (List.forall_mem_singleton.mpr rfl)]
  simp [List.flatMap_map, Template.Piece.shown, Template.Field.shown, Entries.get?]

theorem textOf_summaryTemplate (page : Page) :
    Log.textOf summaryTemplate (counts page) = .ok (summary page) := by
  have hcut : Template.pieces summaryTemplate =
      ("parsed " : Text).map .char ++ .field ⟨"a", none, []⟩ ::
        (" args, " : Text).map .char ++ .field ⟨"o", none, []⟩ ::
        (" options, " : Text).map .char ++ .field ⟨"e", none, []⟩ ::
        (" examples" : Text).map .char := by
    rw [summaryTemplate]
    repeat rw [Text.ofString_ofList]
    decide
  have hnames : ("a" : Text) ≠ "o" ∧ ("a" : Text) ≠ "e" ∧ ("o" : Text) ≠ "e" := by decide
  rw [counts, Log.textOf_of_pieces ["a", "o", "e"] hcut (by decide) rfl (List.cons_ne_nil _ _)
    (by simp [Value.isWritable])]
  simp [List.flatMap_map, Template.Piece.shown, Template.Field.shown, Entries.get?, hnames, summary]

theorem remarks_tellDropped (lines : List Text) :
    (tellDropped lines : Run ε Unit).Remarks (.ok ()) 3 "parse"
      (lines.map fun line => "dropped tag line: " ++ line) := by
  induction lines with
  | nil => exact Run.remarks_done _ _ _
  | cons line lines ih => exact (Run.remarks_emit 3 "parse" (textOf_droppedTemplate line)).bind ih

/-- A remark on a dropped line is no line of the trace. -/
theorem isTraceLine_of_mem_dropRemarks {lines : List Line} {text : Text}
    (h : text ∈ dropRemarks lines) : isTraceLine text = false := by
  obtain ⟨line, -, rfl⟩ := List.mem_map.mp h
  rfl

end Comment

namespace Page

variable (s : Substitution) (comment : Text)

/-- The remarks on a comment: those on its dropped lines, and the one that sums up its page. -/
def remarks : List Text :=
  Comment.dropRemarks (Comment.read comment) ++ [Comment.summary (ofComment s comment)]

/-- Reading a page makes its remarks. -/
theorem remarks_read : (read s comment : Run ε Page).Remarks (.ok (ofComment s comment)) 3 "parse"
    (remarks s comment) := by
  refine (Comment.remarks_tellDropped _).bind ?_
  rw [← List.append_nil [Comment.summary (ofComment s comment)]]
  exact (Run.remarks_emit 3 "parse" (Comment.textOf_summaryTemplate _)).bind
    (Run.remarks_done _ _ _)

theorem outcome_read : (read s comment : Run ε Page).outcome = .ok (ofComment s comment) :=
  (remarks_read s comment).outcome_eq

theorem isTraceLine_of_mem_remarks {text : Text} (h : text ∈ remarks s comment) :
    isTraceLine text = false := by
  rcases List.mem_append.mp h with h | h
  · exact Comment.isTraceLine_of_mem_dropRemarks h
  · rw [List.mem_singleton.mp h]
    rfl

end Page

namespace Reader

/-- What a reader comes to: a page, or no page where it has no name to put in. -/
def pageOf (reader : Reader) (comment : Text) : Except Failure Page :=
  match reader with
  | replacing s => .ok (Page.ofComment s comment)
  | unable =>
    if (Comment.read comment).any Line.namesProgram then .error .wrongKind
    else .ok (Page.ofComment .none comment)

/-- Reading tells remarks only, none of which looks like a line of the trace. -/
theorem exists_remarks_read (reader : Reader) (comment : Text) :
    ∃ texts, (reader.read comment).Remarks (reader.pageOf comment) 3 "parse" texts ∧
      ∀ text ∈ texts, isTraceLine text = false := by
  cases reader with
  | replacing s =>
    exact ⟨_, Page.remarks_read s comment, fun _ => Page.isTraceLine_of_mem_remarks s comment⟩
  | unable =>
    rw [read, pageOf]
    split
    · refine ⟨_, (Comment.remarks_tellDropped _).bind (Run.remarks_done _ _ _), ?_⟩
      intro text htext
      rw [List.append_nil] at htext
      exact Comment.isTraceLine_of_mem_dropRemarks htext
    · exact ⟨_, Page.remarks_read .none comment,
        fun _ => Page.isTraceLine_of_mem_remarks .none comment⟩

theorem outcome_read (reader : Reader) (comment : Text) :
    (reader.read comment).outcome = reader.pageOf comment := by
  obtain ⟨texts, h, -⟩ := reader.exists_remarks_read comment
  exact h.outcome_eq

theorem isInert_read (reader : Reader) (comment : Text) (hints : Hints) :
    (reader.read comment).IsInert hints := by
  obtain ⟨texts, h, -⟩ := reader.exists_remarks_read comment
  exact h.isInert hints

/-- Reading a page has no line in the trace. -/
theorem hasTrace_read (reader : Reader) (comment : Text) : (reader.read comment).HasTrace [] := by
  obtain ⟨texts, h, hremarks⟩ := reader.exists_remarks_read comment
  exact h.hasTrace hremarks

end Reader
end HelpPages

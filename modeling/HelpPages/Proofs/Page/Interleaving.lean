import HelpPages.Page.OfComment
import HelpPages.Proofs.Comment.Kind

/-! # Lines in another order

A page can be put together line by line: every line adds to the part of the page that its
kind belongs to and leaves the other parts alone (`Parts.only_add`).  So after any number
of lines each part is what the lines of its kind alone have made of it
(`Parts.only_addAll`), and the parts together are the page of the lines (`page_addAll`).
Comments whose lines of each kind are the same have therefore the same page
(`ofComment_eq_of_fits`).
-/
namespace HelpPages

open Comment (Line Kind)

/-- The parts of a page as far as its lines have been read. -/
structure Parts where
  usage : Option Text := none
  args : Entries Text := []
  options : List CommandOption := []
  examples : List Example := []
  prose : List Text := []
deriving DecidableEq, Repr

namespace Parts

variable {s : Substitution}

/-- The parts with one more line. -/
def add (s : Substitution) (p : Parts) : Line → Parts
  | .usage text => { p with usage := some (s.apply text) }
  | .arg name description => { p with args := p.args.put name description }
  | .option o => { p with options := p.options ++ [o] }
  | .example e => { p with examples := p.examples ++ [{ e with code := s.apply e.code }] }
  | .dropped _ => p
  | .prose line => { p with prose := p.prose ++ [line] }

/-- The parts with more lines, one after the other. -/
def addAll (s : Substitution) (p : Parts) (lines : List Line) : Parts := lines.foldl (add s) p

/-- The page that the parts make. -/
def page (p : Parts) : Page :=
  let (description, longDescription) := splitDescription (Text.joinWith "\n" p.prose)
  { description, longDescription, usage := p.usage, args := p.args, options := p.options
    examples := p.examples }

/-- The part of one kind, and nothing of the others. -/
def only : Kind → Parts → Parts
  | .usage, p => { usage := p.usage }
  | .arg, p => { args := p.args }
  | .option, p => { options := p.options }
  | .example, p => { examples := p.examples }
  | .dropped, _ => {}
  | .prose, p => { prose := p.prose }

/-- Parts are known by what they hold of each kind; dropped lines leave nothing. -/
theorem ext_only {p q : Parts} (h : ∀ kind, kind ≠ .dropped → p.only kind = q.only kind) :
    p = q := by
  have husage := congrArg Parts.usage (h .usage (by decide))
  have hargs := congrArg Parts.args (h .arg (by decide))
  have hoptions := congrArg Parts.options (h .option (by decide))
  have hexamples := congrArg Parts.examples (h .example (by decide))
  have hprose := congrArg Parts.prose (h .prose (by decide))
  cases p
  cases q
  simp only [only] at husage hargs hoptions hexamples hprose
  simp only [mk.injEq]
  exact ⟨husage, hargs, hoptions, hexamples, hprose⟩

/-- A line adds to the part of its own kind, and to no other. -/
theorem only_add (kind : Kind) (p : Parts) (line : Line) :
    (p.add s line).only kind =
      if line.kind = kind then (p.only kind).add s line else p.only kind := by
  cases line <;> cases kind <;> rfl

/-- After any lines the part of a kind is what the lines of that kind made of it. -/
theorem only_addAll (kind : Kind) (p : Parts) (lines : List Line) :
    (p.addAll s lines).only kind =
      (p.only kind).addAll s (lines.filter fun line => line.kind = kind) := by
  induction lines generalizing p with
  | nil => rfl
  | cons line lines ih =>
    show ((p.add s line).addAll s lines).only kind = _
    rw [ih, only_add]
    by_cases hkind : line.kind = kind
    · rw [if_pos hkind, List.filter_cons_of_pos (by simp [hkind])]
      rfl
    · rw [if_neg hkind, List.filter_cons_of_neg (by simp [hkind])]

/-- What lines add to parts, part by part: the last usage text replaces the one before,
and everything else is added behind what was there. -/
theorem addAll_eq (p : Parts) (lines : List Line) :
    p.addAll s lines =
      { usage := ((lines.filterMap Line.usage?).getLast?.map s.apply).or p.usage
        args := (lines.filterMap Line.arg?).foldl
          (fun entries (name, description) => entries.put name description) p.args
        options := p.options ++ lines.filterMap Line.option?
        examples := p.examples ++
          (lines.filterMap Line.example?).map fun e => { e with code := s.apply e.code }
        prose := p.prose ++ lines.filterMap Line.prose? } := by
  induction lines generalizing p with
  | nil => simp [addAll]
  | cons line lines ih =>
    show (p.add s line).addAll s lines = _
    rw [ih]
    cases line with
    | usage text =>
      have hlast : (((text :: lines.filterMap Line.usage?).getLast?).map s.apply).or p.usage =
          ((lines.filterMap Line.usage?).getLast?.map s.apply).or (some (s.apply text)) := by
        rw [List.getLast?_cons]
        cases (lines.filterMap Line.usage?).getLast? <;> rfl
      simp only [add, List.filterMap_cons, Line.usage?, Line.arg?, Line.option?, Line.example?,
        Line.prose?, hlast]
    | _ => simp [add, List.filterMap_cons, Line.usage?, Line.arg?, Line.option?, Line.example?,
        Line.prose?]

end Parts

namespace Page

/-- The page of some lines is made of the parts to which they add one after the other. -/
theorem page_addAll (s : Substitution) (lines : List Line) :
    (Parts.addAll s {} lines).page = ofLines s lines := by
  rw [Parts.addAll_eq]
  simp [Parts.page, ofLines, Entries.ofList]

/-- **Tags may be interleaved freely.**  Two comments have the same page if they have the
same lines of each kind in the same order, wherever these stand between the lines of other
kinds, and whatever lines are dropped. -/
theorem ofComment_eq_of_fits (s : Substitution) {a b : Text}
    (same : ∀ kind : Kind, kind ≠ .dropped →
      (Comment.lines a).filter (kind.Fits ·) = (Comment.lines b).filter (kind.Fits ·)) :
    ofComment s a = ofComment s b := by
  have hread : ∀ (kind : Kind) (comment : Text),
      (Comment.read comment).filter (fun line => line.kind = kind) =
        ((Comment.lines comment).filter (kind.Fits ·)).map Line.ofText := by
    intro kind comment
    rw [Comment.read, List.filter_map]
    refine congrArg (List.map Line.ofText) (List.filter_congr fun line _ => ?_)
    exact decide_eq_decide.mpr Kind.fits_iff.symm
  have hparts : Parts.addAll s {} (Comment.read a) = Parts.addAll s {} (Comment.read b) := by
    refine Parts.ext_only fun kind hkind => ?_
    rw [Parts.only_addAll, Parts.only_addAll, hread, hread, same kind hkind]
  rw [ofComment, ofComment, ← page_addAll, ← page_addAll, hparts]

/-- A comment kind by kind. -/
def sortedComment : Text :=
  Text.joinWith "\n" ["/**", " * Copy files.", " *", " * @usage old", " * @usage $0 copy",
    " * @arg src  Source", " * @arg dest", " * @arg src  Source path", " * @opt --force",
    " * @flag -q  Quiet", " * @example `$0 copy a b`  Copy a", " */"]

/-- The lines of `sortedComment` in another order, with tags that say nothing. -/
def shuffledComment : Text :=
  Text.joinWith "\n" ["/** @arg src  Source", "@see nothing", "", " Copy files.", "@opt --force",
    "@usage old", "@example `$0 copy a b`  Copy a", "@flag", "@arg dest", "", "@usage $0 copy",
    "@flag -q  Quiet", "@arg src  Source path", "*/"]

theorem ofComment_eq_of_fits_shuffled :
    (∀ kind : Kind, kind ≠ .dropped →
      (Comment.lines sortedComment).filter (kind.Fits ·) =
        (Comment.lines shuffledComment).filter (kind.Fits ·)) ∧
      ofComment {} sortedComment = ofComment {} shuffledComment := by
  -- all kinds at once, so that the comments are cut into lines only once
  have hkinds : ∀ kind ∈ [Kind.usage, .arg, .option, .example, .prose],
      (Comment.lines sortedComment).filter (kind.Fits ·) =
        (Comment.lines shuffledComment).filter (kind.Fits ·) := by decide +kernel
  have same : ∀ kind : Kind, kind ≠ .dropped →
      (Comment.lines sortedComment).filter (kind.Fits ·) =
        (Comment.lines shuffledComment).filter (kind.Fits ·) := fun kind hkind =>
    hkinds kind (by cases kind <;> first | decide | exact absurd rfl hkind)
  exact ⟨same, ofComment_eq_of_fits {} same⟩

end Page
end HelpPages

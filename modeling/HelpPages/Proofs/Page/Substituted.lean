import HelpPages.Proofs.Page.Interleaving
import HelpPages.Proofs.Page.Remarks
import HelpPages.Proofs.Text.Replace

/-! # The name of the program in a page

Substitution changes the usage text and the code of the examples, and these only after a line
has been read: reading a line and then substituting in what it adds is the same as substituting
in what was there and then reading the line with the substitution (`Parts.substitute_add`).
So a page with the name of the program in it is the page without it, substituted
(`ofComment_substitute`), whatever the name looks like: it is never read as part of a comment.
What is substituted is every occurrence of the token, from the left and without overlap, and a
name that has no code point of the token makes no new one (`read_replaces_tokens`).
-/
namespace HelpPages

open Comment (Line)

/-- An example whose code names the program. -/
def Example.substitute (s : Substitution) (e : Example) : Example :=
  { e with code := s.apply e.code }

/-- A page whose usage text and examples name the program. -/
def Page.substitute (s : Substitution) (page : Page) : Page :=
  { page with usage := page.usage.map s.apply, examples := page.examples.map (·.substitute s) }

namespace Parts

variable (s : Substitution) (program : Text)

/-- Parts whose usage text and examples name the program. -/
def substitute (p : Parts) : Parts :=
  { p with usage := p.usage.map s.apply, examples := p.examples.map (·.substitute s) }

/-- A line adds the same before and after substitution, whichever part it adds to. -/
theorem substitute_add (p : Parts) (line : Line) :
    (p.add ⟨[], program⟩ line).substitute s = (p.substitute s).add s line := by
  cases line with
  | usage text => simp only [add, substitute, Substitution.apply_empty, Option.map_some]
  | arg name description => rfl
  | option o => rfl
  | «example» e =>
    simp only [add, substitute, Substitution.apply_empty, List.map_append, List.map_singleton,
      Example.substitute]
  | dropped text => rfl
  | prose text => rfl

/-- Lines add the same before and after substitution. -/
theorem substitute_addAll (p : Parts) (lines : List Line) :
    (p.addAll ⟨[], program⟩ lines).substitute s = (p.substitute s).addAll s lines := by
  induction lines generalizing p with
  | nil => rfl
  | cons line lines ih =>
    show ((p.add ⟨[], program⟩ line).addAll ⟨[], program⟩ lines).substitute s =
      ((p.substitute s).add s line).addAll s lines
    rw [ih, substitute_add]

theorem page_substitute (p : Parts) : (p.substitute s).page = p.page.substitute s := rfl

end Parts

namespace Page

variable (s s' : Substitution) (program comment : Text)

/-- A page that names the program is the page that does not, substituted. -/
theorem ofComment_substitute :
    ofComment s comment = (ofComment ⟨[], program⟩ comment).substitute s := by
  rw [ofComment, ofComment, ← page_addAll, ← page_addAll, ← Parts.page_substitute,
    Parts.substitute_addAll]
  rfl

/-- Substitution leaves the numbers of things on a page as they are. -/
theorem summary_substitute (page : Page) :
    Comment.summary (page.substitute s) = Comment.summary page := by
  simp only [Comment.summary, substitute, List.length_map]

/-- What is remarked while a page is read hangs on the comment alone. -/
theorem remarks_eq : remarks s comment = remarks s' comment := by
  have hsummary : ∀ s : Substitution, Comment.summary (ofComment s comment) =
      Comment.summary (ofComment ⟨[], []⟩ comment) := fun s => by
    rw [ofComment_substitute s [] comment, summary_substitute]
  rw [remarks, remarks, hsummary s, hsummary s']

/-- **Substitution commutes with reading.**  A page with the name of the program in it is the
page without it, with the name put into the usage text and the code of the examples.  A console
has no say in it, and what it is told about the lines of the comment is the same for all
names. -/
theorem read_substitute {ε : Type} [TemplateFailure ε] :
    (read s comment : Run ε Page).outcome =
        .ok ((ofComment ⟨[], program⟩ comment).substitute s) ∧
      (read ⟨[], program⟩ comment : Run ε Page).outcome = .ok (ofComment ⟨[], program⟩ comment) ∧
      ∀ c, ((read s comment : Run ε Page).perform c).1 = (read s comment : Run ε Page).outcome ∧
        ((read s comment : Run ε Page).perform c).2 =
          ((read s' comment : Run ε Page).perform c).2 := by
  refine ⟨?_, outcome_read _ comment, fun c => ⟨?_, ?_⟩⟩
  · rw [outcome_read, ofComment_substitute s program comment]
  · rw [remarks_read, outcome_read]
  · rw [remarks_read, remarks_read, remarks_eq s s']

-- a name that looks like lines of a comment is not read as such
example : ofComment ⟨"$0", "@opt\n* \x60x\x60"⟩ "@usage $0 copy" =
    { usage := some "@opt\n* \x60x\x60 copy" } := by decide +kernel

/-! ### No token is left -/

/-- A page that is substituted has no token in its usage text and its examples. -/
theorem not_infix_substitute {token program : Text} (htoken : token ≠ []) (hprogram : program ≠ [])
    (apart : ∀ c ∈ program, c ∉ token) (page : Page) :
    (∀ usage ∈ (page.substitute ⟨token, program⟩).usage, ¬ token <:+: usage) ∧
      ∀ e ∈ (page.substitute ⟨token, program⟩).examples, ¬ token <:+: e.code := by
  have hfree : ∀ t, ¬ token <:+: Substitution.apply ⟨token, program⟩ t :=
    Text.not_infix_replace htoken hprogram apart
  constructor
  · intro usage husage
    obtain ⟨text, -, rfl⟩ := Option.map_eq_some_iff.mp husage
    exact hfree text
  · intro e he
    obtain ⟨written, -, rfl⟩ := List.mem_map.mp he
    exact hfree written.code

/-- **Every token is replaced.**  A page has no token in its usage text and none in the code of
its examples, whatever the comment, if the name of the program has no code point of the token.
In any text and for any name the name stands between the pieces into which the text is cut at
the tokens, and there is only one such cut. -/
theorem read_replaces_tokens {ε : Type} [TemplateFailure ε] {token : Text} (htoken : token ≠ []) :
    (∀ program comment : Text, program ≠ [] → (∀ c ∈ program, c ∉ token) →
      ∃ page, (read ⟨token, program⟩ comment : Run ε Page).outcome = .ok page ∧
        (∀ usage ∈ page.usage, ¬ token <:+: usage) ∧ ∀ e ∈ page.examples, ¬ token <:+: e.code) ∧
      ∀ t, ∃ pieces, (∀ others, Text.IsCut token t others ↔ others = pieces) ∧
        ∀ program, Substitution.apply ⟨token, program⟩ t = Text.joinWith program pieces := by
  constructor
  · intro program comment hprogram apart
    exact ⟨(ofComment ⟨[], program⟩ comment).substitute ⟨token, program⟩,
      (outcome_read _ comment).trans
        (congrArg Except.ok (ofComment_substitute ⟨token, program⟩ program comment)),
      not_infix_substitute htoken hprogram apart _⟩
  · intro t
    obtain ⟨pieces, h⟩ := Text.exists_isCut htoken t
    refine ⟨pieces, fun others => ⟨fun h' => h'.eq htoken h, fun he => he ▸ h⟩, fun program => ?_⟩
    exact h.replace_eq htoken program

/-- A usage text and the code of an example in which tokens could overlap. -/
def stutteringComment : Text := "@usage aaa copy\n@example \x60aaaa b\x60 twice"

theorem read_replaces_tokens_overlapping :
    ("aa" : Text) ≠ [] ∧ ("go" : Text) ≠ [] ∧ (∀ c ∈ ("go" : Text), c ∉ ("aa" : Text)) ∧
      ofComment ⟨"aa", "go"⟩ stutteringComment =
        { usage := some "goa copy", examples := [{ code := "gogo b", description := "twice" }] } ∧
      (∃ page, (read ⟨"aa", "go"⟩ stutteringComment : Run Failure Page).outcome = .ok page ∧
        (∀ usage ∈ page.usage, ¬ ("aa" : Text) <:+: usage) ∧
        ∀ e ∈ page.examples, ¬ ("aa" : Text) <:+: e.code) ∧
      ∃ pieces, (∀ others, Text.IsCut "aa" "aaa" others ↔ others = pieces) ∧
        ∀ program, Substitution.apply ⟨"aa", program⟩ "aaa" = Text.joinWith program pieces :=
  have htoken : ("aa" : Text) ≠ [] := by decide
  have hprogram : ("go" : Text) ≠ [] := by decide
  have apart : ∀ c ∈ ("go" : Text), c ∉ ("aa" : Text) := by decide
  ⟨htoken, hprogram, apart, by decide +kernel,
    (read_replaces_tokens htoken).1 "go" stutteringComment hprogram apart,
    (read_replaces_tokens (ε := Failure) htoken).2 "aaa"⟩

end Page
end HelpPages

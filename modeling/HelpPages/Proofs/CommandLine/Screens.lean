import HelpPages.CommandLine.Screen
import HelpPages.Proofs.Text.Encodable

/-! # Screens that can be written

A screen is made of the texts of its grammar and of its manual, packed into lines.  Packing drops
blanks and adds line feeds, and nothing else, so a screen can be written if the texts can
(`Grammar.isEncodable_screen`).
-/
namespace HelpPages
namespace CommandLine

open Text (isEncodable_append isEncodable_joinWith isEncodable_of_subset isEncodable_spaces)

variable {α : Type}

/-! ### What a screen is made of -/

/-- The texts of a switch can be written. -/
def Switch.IsEncodable (s : Switch α) : Prop :=
  (∀ name ∈ s.names, name.isEncodable = true) ∧ s.placeholder.isEncodable = true ∧
    s.about.isEncodable = true

instance (s : Switch α) : Decidable s.IsEncodable := inferInstanceAs (Decidable (_ ∧ _ ∧ _))

/-- What is shown of an operand can be written. -/
def Operand.IsEncodable (o : Operand α) : Prop :=
  o.placeholder.isEncodable = true ∧ o.about.isEncodable = true

instance (o : Operand α) : Decidable o.IsEncodable := inferInstanceAs (Decidable (_ ∧ _))

/-- The texts of a grammar can be written. -/
def Grammar.IsEncodable (g : Grammar α) : Prop :=
  (∀ s ∈ g.switches, s.IsEncodable) ∧ ∀ o ∈ g.operands, o.IsEncodable

instance (g : Grammar α) : Decidable g.IsEncodable := inferInstanceAs (Decidable (_ ∧ _))

/-- The texts of a manual can be written. -/
def Manual.IsEncodable (m : Manual) : Prop :=
  m.description.isEncodable = true ∧
    (∀ command ∈ m.commands, command.1.isEncodable = true ∧ command.2.isEncodable = true) ∧
    m.closing.isEncodable = true

instance (m : Manual) : Decidable m.IsEncodable := inferInstanceAs (Decidable (_ ∧ _ ∧ _))

/-! ### Lines -/

theorem isEncodable_packFrom {room : Nat} {line : Text} {words : List Text}
    (hline : line.isEncodable = true) (hwords : ∀ w ∈ words, w.isEncodable = true) :
    ∀ packed ∈ packFrom room line words, packed.isEncodable = true := by
  fun_induction packFrom room line words with
  | case1 line => exact List.forall_mem_singleton.mpr hline
  | case2 line w ws hfits ih =>
    obtain ⟨hw, hws⟩ := List.forall_mem_cons.mp hwords
    exact ih (isEncodable_append (isEncodable_append hline rfl) hw) hws
  | case3 line w ws hfull ih =>
    obtain ⟨hw, hws⟩ := List.forall_mem_cons.mp hwords
    exact List.forall_mem_cons.mpr ⟨hline, ih hw hws⟩

theorem isEncodable_pack {room : Nat} {words : List Text}
    (h : ∀ w ∈ words, w.isEncodable = true) :
    ∀ packed ∈ pack room words, packed.isEncodable = true := by
  cases words with
  | nil => nofun
  | cons w ws =>
    obtain ⟨hw, hws⟩ := List.forall_mem_cons.mp h
    exact isEncodable_packFrom hw hws

theorem capGaps_subset (t : Text) : capGaps t ⊆ t := by
  fun_induction capGaps t with
  | case1 rest ih => exact List.Subset.trans ih (List.subset_cons_self _ _)
  | case2 c rest _ ih => exact List.cons_subset_cons c ih
  | case3 => exact List.Subset.refl _

/-! ### The usage -/

theorem Switch.IsEncodable.form {s : Switch α} (h : s.IsEncodable) {name : Text}
    (hname : name.isEncodable = true) : (s.form name).isEncodable = true := by
  rw [Switch.form]
  split
  · exact hname
  · exact isEncodable_append (isEncodable_append (isEncodable_append hname rfl) h.2.1) rfl
  · exact isEncodable_append (isEncodable_append hname rfl) h.2.1

theorem Switch.IsEncodable.usage {s : Switch α} (h : s.IsEncodable) :
    s.usage.isEncodable = true := by
  have hfirst : (s.names.headD []).isEncodable = true := by
    cases hnames : s.names with
    | nil => rfl
    | cons name _ => exact h.1 name (hnames ▸ List.mem_cons_self ..)
  exact isEncodable_append (isEncodable_append rfl (h.form hfirst)) rfl

theorem Switch.IsEncodable.heading {s : Switch α} (h : s.IsEncodable) :
    s.heading.isEncodable = true := by
  refine isEncodable_joinWith rfl fun t ht => ?_
  obtain ⟨name, hname, rfl⟩ := List.mem_map.mp ht
  exact h.form (h.1 name hname)

theorem Operand.IsEncodable.usage {o : Operand α} (h : o.IsEncodable) :
    o.usage.isEncodable = true := by
  rw [Operand.usage]
  split
  · exact h.1
  · exact isEncodable_append (isEncodable_append rfl h.1) rfl
  · exact isEncodable_append h.1 rfl

variable {g : Grammar α} {program : Text}

theorem Grammar.isEncodable_usage (h : g.IsEncodable) (hprogram : program.isEncodable = true) :
    (g.usage program).isEncodable = true := by
  have hswitches : ∀ t ∈ g.switches.map Switch.usage, t.isEncodable = true :=
    List.forall_mem_map.mpr fun s hs => (h.1 s hs).usage
  have hoperands : ∀ t ∈ g.operands.map Operand.usage, t.isEncodable = true :=
    List.forall_mem_map.mpr fun o ho => (h.2 o ho).usage
  have hindented (indent : Nat) {lines : List Text} (hlines : ∀ t ∈ lines, t.isEncodable = true) :
      (Text.joinWith ("\n" ++ Text.spaces indent) lines).isEncodable = true :=
    isEncodable_joinWith (isEncodable_append rfl (isEncodable_spaces _)) hlines
  have hpacked (room : Nat) : ∀ t ∈ pack room (g.switches.map Switch.usage) ++
      pack room (g.operands.map Operand.usage), t.isEncodable = true :=
    List.forall_mem_append.mpr ⟨isEncodable_pack hswitches, isEncodable_pack hoperands⟩
  refine isEncodable_of_subset (capGaps_subset _) ?_
  split
  · exact isEncodable_append rfl (isEncodable_joinWith rfl (List.forall_mem_append.mpr
      ⟨List.forall_mem_cons.mpr ⟨hprogram, hswitches⟩, hoperands⟩))
  · split
    · exact isEncodable_append (isEncodable_append (isEncodable_append rfl hprogram) rfl)
        (hindented _ (hpacked _))
    · refine isEncodable_append rfl (hindented _ (List.forall_mem_cons.mpr ⟨hprogram, ?_⟩))
      split
      · exact isEncodable_pack (List.forall_mem_append.mpr ⟨hswitches, hoperands⟩)
      · exact hpacked _

/-! ### Sections -/

/-- The texts of an entry can be written. -/
def Entry.IsEncodable (e : Entry) : Prop :=
  e.heading.isEncodable = true ∧ e.about.isEncodable = true

theorem Entry.IsEncodable.lines {e : Entry} (h : e.IsEncodable) (column : Nat) :
    ∀ line ∈ e.lines column, line.isEncodable = true := by
  have hstart : (Text.spaces e.indent ++ e.heading).isEncodable = true :=
    isEncodable_append (isEncodable_spaces _) h.1
  have hwords : ∀ w ∈ Text.splitOn ' ' e.about, w.isEncodable = true := fun w hw =>
    isEncodable_of_subset (Text.subset_of_mem_splitOn hw) h.2
  have habout : ∀ line ∈ (pack (lineLimit - column) (Text.splitOn ' ' e.about)).map
      (Text.spaces column ++ ·), line.isEncodable = true :=
    List.forall_mem_map.mpr fun packed hpacked =>
      isEncodable_append (isEncodable_spaces _) (isEncodable_pack hwords packed hpacked)
  rw [Entry.lines]
  split
  · next first more hlines =>
    rw [hlines] at habout
    obtain ⟨hfirst, hmore⟩ := List.forall_mem_cons.mp habout
    split
    · exact List.forall_mem_singleton.mpr hstart
    · split
      · refine List.forall_mem_cons.mpr ⟨isEncodable_append hstart ?_, hmore⟩
        exact isEncodable_of_subset (List.drop_subset _ first) hfirst
      · rw [hlines]
        exact List.forall_mem_cons.mpr ⟨hstart, habout⟩
  · exact List.forall_mem_singleton.mpr hstart

theorem isEncodable_sectionText {column : Nat} {title : Text} {entries : List Entry}
    (htitle : title.isEncodable = true) (h : ∀ e ∈ entries, e.IsEncodable) :
    ∀ block ∈ sectionText column title entries, block.isEncodable = true := by
  rw [sectionText]
  split
  · nofun
  · refine List.forall_mem_singleton.mpr (isEncodable_joinWith rfl (List.forall_mem_cons.mpr
      ⟨isEncodable_append htitle rfl, fun line hline => ?_⟩))
    obtain ⟨e, he, hline⟩ := List.mem_flatMap.mp hline
    exact (h e he).lines column line hline

/-! ### Screens -/

/-- **A screen can be written** if the name of the program and the texts of its grammar and its
manual can. -/
theorem Grammar.isEncodable_screen {manual : Manual} (h : g.IsEncodable)
    (hprogram : program.isEncodable = true) (hmanual : manual.IsEncodable) :
    (g.screen program manual).isEncodable = true := by
  have hoperands : ∀ e ∈ g.operandEntries, e.IsEncodable :=
    List.forall_mem_map.mpr fun o ho => h.2 o (List.mem_filter.mp ho).1
  have hswitches : ∀ e ∈ g.switchEntries, e.IsEncodable :=
    List.forall_mem_map.mpr fun s hs => ⟨(h.1 s hs).heading, (h.1 s hs).2.2⟩
  have hcommands : ∀ e ∈ g.commandEntries manual, e.IsEncodable :=
    List.forall_mem_append.mpr
      ⟨List.forall_mem_map.mpr fun o ho => ⟨(h.2 o (List.mem_filter.mp ho).1).1, rfl⟩,
        List.forall_mem_map.mpr fun command hcommand => hmanual.2.1 command hcommand⟩
  have hclosing : ∀ block ∈ (if manual.closing = [] then [] else [manual.closing] : List Text),
      block.isEncodable = true := by
    split
    · nofun
    · exact List.forall_mem_singleton.mpr hmanual.2.2
  rw [screen]
  refine isEncodable_joinWith rfl ?_
  simp only [List.forall_mem_append, List.forall_mem_cons]
  exact ⟨⟨⟨⟨⟨isEncodable_usage h hprogram, hmanual.1, nofun⟩,
    isEncodable_sectionText rfl hoperands⟩, isEncodable_sectionText rfl hswitches⟩,
    isEncodable_sectionText rfl hcommands⟩, hclosing⟩

end CommandLine
end HelpPages

import HelpPages.Proofs.Text.Pieces

/-! # Texts that can be written

Only texts made of characters have a form in bytes.  Putting texts together and cutting them up
keeps to characters.
-/
namespace HelpPages
namespace Text

variable {s t : Text}

theorem isEncodable_of_subset (h : s ⊆ t) (ht : t.isEncodable = true) : s.isEncodable = true :=
  List.all_eq_true.mpr fun c hc => List.all_eq_true.mp ht c (h hc)

theorem isEncodable_append (hs : s.isEncodable = true) (ht : t.isEncodable = true) :
    (s ++ t).isEncodable = true := by
  rw [isEncodable, List.all_append, Bool.and_eq_true]
  exact ⟨hs, ht⟩

theorem isEncodable_ofChars (chars : List Char) : (ofChars chars).isEncodable = true := by
  refine List.all_eq_true.mpr fun c hc => ?_
  obtain ⟨char, -, rfl⟩ := List.mem_map.mp hc
  rfl

@[simp] theorem isEncodable_nil : isEncodable [] = true := rfl

/-- A string is made of characters. -/
@[simp] theorem isEncodable_ofString (s : String) : (ofString s).isEncodable = true :=
  isEncodable_ofChars _

theorem isEncodable_joinWith {sep : Text} {ts : List Text} (hsep : sep.isEncodable = true)
    (h : ∀ t ∈ ts, t.isEncodable = true) : (joinWith sep ts).isEncodable = true := by
  refine List.all_eq_true.mpr fun c hc => ?_
  rcases mem_joinWith hc with hc | ⟨t, ht, hc⟩
  · exact List.all_eq_true.mp hsep c hc
  · exact List.all_eq_true.mp (h t ht) c hc

theorem isEncodable_spaces (n : Nat) : (spaces n).isEncodable = true := by
  refine List.all_eq_true.mpr fun c hc => ?_
  rw [(List.mem_replicate.mp hc).2]
  rfl

end Text
end HelpPages

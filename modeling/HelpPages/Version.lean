import HelpPages.Number.Integer

/-! # Versions

A version has three numbers and may name a phase before the release.
-/
namespace HelpPages

/-- A version. -/
structure Version where
  major : Int := 0
  minor : Int := 1
  patch : Int := 0
  phase : Text := "beta"
deriving DecidableEq, Repr

namespace Version

/-- The three numbers with points between them. -/
def numbers (v : Version) : Text :=
  Text.joinWith "." ([v.major, v.minor, v.patch].map Integer.toText)

/-- The version with its phase behind a dash. -/
def text (v : Version) : Text := v.numbers ++ (if v.phase = [] then [] else '-' :: v.phase : Text)

/-- The short form of a phase. -/
def shortPhase (phase : Text) : Text :=
  if phase = "alpha" then "a0" else if phase = "beta" then "b0" else phase

/-- The version as package indexes write it. -/
def packageText (v : Version) : Text := v.numbers ++ shortPhase v.phase

end Version

/-- The version of this program. -/
def Version.current : Version := {}

/-- The name of this program. -/
def programName : Text := "dochelp"

end HelpPages

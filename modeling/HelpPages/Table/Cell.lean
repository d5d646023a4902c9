import HelpPages.Table.Run

/-! # Cells on their own

The measures of single cells, for widths that come as values of any kind: how
wide a text is, a text filled up to a width, and a width rounded up to a tab
stop.
-/
namespace HelpPages
namespace Table

/-- A number is less than an integer. -/
def isBelow (n : Int) : Binary64 → Bool
  | .finite negative mantissa exponent =>
    let (num, den) := Binary64.ratio mantissa exponent
    (if negative then -(num : Int) else num) < n * den
  | .infinite negative => negative
  | .notANumber => false

/-- A text filled up with blanks to a width.  A number with a fraction is a width
only for a text that is wider. -/
def padded (width : Value) (t : Text) : Except Failure Text := do
  let own ← widthOf t
  let filled (w : Int) : Except Failure Text := do
    return t ++ Text.spaces (← (Text.lengthOf (max (w - own) 0)).mapError .length)
  match width with
  | .int w => filled w
  | .bool b => filled (if b then 1 else 0)
  | .float x => if isBelow own x then return t else throw .wrongKind
  | _ => throw .wrongKind

/-- A width rounded up to a tab stop. -/
def roundedWidth : Value → Except Failure Value
  | .int w => .ok (.int (roundToTabStop w))
  | .bool b => .ok (.int (roundToTabStop (if b then 1 else 0)))
  | .float x => .ok (.float (x.roundUpTo tabStop.toNat))
  | _ => .error .wrongKind

end Table
end HelpPages

import HelpPages.Value

/-! # JSON

A JSON document is read in two steps: the text becomes a list of tokens that
ends at the first fault, and an automaton with a stack of open lists and maps
turns the tokens into one value.  How deep lists and maps may be in each other is
up to the reader.  Beyond the standard the words `NaN`,
`Infinity` and `-Infinity` are numbers.  A repeated key of a map keeps its first
place and takes the last value.
-/
namespace HelpPages
namespace Json

/-- Why a text is not read as a document. -/
inductive Error where
  /-- The text breaks the grammar. -/
  | malformed
  /-- An integer has too many digits. -/
  | integer (error : Integer.Error)
  /-- Lists and maps are too deep in each other. -/
  | tooDeep
deriving DecidableEq, Repr

/-- A token of a document. -/
inductive Token where
  | openList | closeList | openMap | closeMap | comma | colon
  | value (v : Value)
  | text (t : Text)
  | fault (error : Error)

/-- A blank character of a document. -/
def isBlank (c : CodePoint) : Bool := c = ' ' || c = '\t' || c = '\n' || c = '\r'

/-- The value of four hexadecimal digits. -/
def hexQuad? (a b c d : CodePoint) : Option Nat := do
  let digits ← [a, b, c, d].mapM Text.hexDigitValue?
  return digits.foldl (· * 16 + ·) 0

/-- The character that stands behind a backslash for another one. -/
def escaped? : CodePoint → Option CodePoint
  | '"' => some '"'
  | '\\' => some '\\'
  | '/' => some '/'
  | 'b' => some '\x08'
  | 'f' => some '\x0c'
  | 'n' => some '\n'
  | 'r' => some '\r'
  | 't' => some '\t'
  | _ => none

/-- The code points of a quoted text up to its closing quote, and what follows
the quote. -/
def quotedCodes? : Text → Option (List Nat × Text)
  | [] => none
  | '"' :: rest => some ([], rest)
  | '\\' :: 'u' :: a :: b :: c :: d :: rest => do
    let code ← hexQuad? a b c d
    let (codes, rest) ← quotedCodes? rest
    return (code :: codes, rest)
  | '\\' :: c :: rest => do
    let char ← escaped? c
    let (codes, rest) ← quotedCodes? rest
    return (char.toNat :: codes, rest)
  | c :: rest => do
    if c.toNat < 0x20 then none
    let (codes, rest) ← quotedCodes? rest
    return (c.toNat :: codes, rest)

/-- The characters of code points in which a pair of surrogates stands for one
character. -/
def joinSurrogates : List Nat → Text
  | [] => []
  | [code] => [CodePoint.ofNat code]
  | high :: low :: rest =>
    if 0xD800 ≤ high ∧ high < 0xDC00 ∧ 0xDC00 ≤ low ∧ low < 0xE000 then
      CodePoint.ofNat (0x10000 + (high - 0xD800) * 0x400 + (low - 0xDC00)) :: joinSurrogates rest
    else CodePoint.ofNat high :: joinSurrogates (low :: rest)

/-- The digits at the start of a text, and what follows them. -/
def spanDigits (t : Text) : List Nat × Text :=
  ((t.takeWhile CodePoint.isDigit).map fun c => c.toNat - '0'.toNat, t.dropWhile CodePoint.isDigit)

/-- The digits of a fraction behind its point, if there is one, and what follows. -/
def fraction (t : Text) : Option (List Nat) × Text :=
  match t with
  | '.' :: rest =>
    let (digits, more) := spanDigits rest
    if digits = [] then (none, t) else (some digits, more)
  | _ => (none, t)

/-- The exponent of a number, if there is one, and what follows. -/
def exponent (t : Text) : Option Int × Text :=
  match t with
  | e :: rest =>
    if e = 'e' ∨ e = 'E' then
      let (negative, numeral) := Integer.sign rest
      let (digits, more) := spanDigits numeral
      if digits = [] then (none, t)
      else
        let n : Int := Integer.ofDigits digits
        (some (if negative then -n else n), more)
    else (none, t)
  | [] => (none, [])

/-- The number at the start of a text, and what follows it.  A number with a
fraction or an exponent is a binary64 number, any other an integer. -/
def number? (t : Text) : Option (Token × Text) :=
  let (negative, numeral) : Bool × Text :=
    match t with
    | '-' :: rest => (true, rest)
    | _ => (false, t)
  let (digits, rest) : List Nat × Text :=
    match numeral with
    | '0' :: rest => ([0], rest)
    | _ => spanDigits numeral
  if digits = [] then none
  else
    let (places, rest) := fraction rest
    let (power, rest) := exponent rest
    if places.isNone ∧ power.isNone then
      if Integer.maxDigits < digits.length then
        some (.fault (.integer (.tooLong digits.length)), rest)
      else
        let n : Int := Integer.ofDigits digits
        some (.value (.int (if negative then -n else n)), rest)
    else
      let places := places.getD []
      let x := Binary64.ofDecimal negative (Integer.ofDigits (digits ++ places))
        (power.getD 0 - places.length)
      some (.value (.float x), rest)

/-- The words that are values. -/
def wordValues : List (String × Value) :=
  [("null", .null), ("true", .bool true), ("false", .bool false),
    ("NaN", .float .notANumber), ("Infinity", .float (.infinite false)),
    ("-Infinity", .float (.infinite true))]

/-- The token at the start of a text, and what follows it. -/
def nextToken (t : Text) : Token × Text :=
  match t with
  | '[' :: rest => (.openList, rest)
  | ']' :: rest => (.closeList, rest)
  | '\x7b' :: rest => (.openMap, rest)
  | '\x7d' :: rest => (.closeMap, rest)
  | ',' :: rest => (.comma, rest)
  | ':' :: rest => (.colon, rest)
  | '"' :: rest =>
    match quotedCodes? rest with
    | some (codes, rest) => (.text (joinSurrogates codes), rest)
    | none => (.fault .malformed, [])
  | _ =>
    match wordValues.find? fun (word, _) => (word : Text).isPrefixOf t with
    | some (word, v) => (.value v, t.drop word.length)
    | none => (number? t).getD (.fault .malformed, [])

/-- The tokens of a text up to the first fault. -/
def tokens : Text → List Token
  | [] => []
  | c :: rest =>
    if isBlank c then tokens rest
    else
      let (token, after) := nextToken (c :: rest)
      token :: tokens (rest.drop (rest.length - after.length))
termination_by t => t.length
decreasing_by
  all_goals simp only [List.length_cons, List.length_drop]
  all_goals omega

/-- A list or map that is still open, with what was read of it. -/
inductive Frame where
  /-- A list with its items in reverse. -/
  | list (items : List Value)
  /-- A map with its entries and the key whose value is still to come. -/
  | map (entries : Entries Value) (key : Text)

/-- What the automaton waits for, inside the open frames. -/
inductive State where
  | value (frames : List Frame)
  | firstItem (frames : List Frame)
  | firstKey (frames : List Frame)
  | key (entries : Entries Value) (frames : List Frame)
  | colon (entries : Entries Value) (key : Text) (frames : List Frame)
  | after (v : Value) (frames : List Frame)

/-- The state after a token where a value is due, if at most `depth` lists and maps may be open
in each other. -/
def State.onValue (depth : Nat) (frames : List Frame) : Token → Except Error State
  | .value v => .ok (.after v frames)
  | .text t => .ok (.after (.text t) frames)
  | .openList =>
    if frames.length < depth then .ok (.firstItem (.list [] :: frames)) else .error .tooDeep
  | .openMap => if frames.length < depth then .ok (.firstKey frames) else .error .tooDeep
  | .fault error => .error error
  | _ => .error .malformed

/-- The state after one more token. -/
def State.step (depth : Nat) : State → Token → Except Error State
  | .value frames, token => State.onValue depth frames token
  | .firstItem (.list _ :: frames), .closeList => .ok (.after (.list []) frames)
  | .firstItem frames, token => State.onValue depth frames token
  | .firstKey frames, .closeMap => .ok (.after (.map []) frames)
  | .firstKey frames, .text t => .ok (.colon [] t frames)
  | .key entries frames, .text t => .ok (.colon entries t frames)
  | .colon entries name frames, .colon => .ok (.value (.map entries name :: frames))
  | .after v (.list items :: frames), .comma => .ok (.value (.list (v :: items) :: frames))
  | .after v (.list items :: frames), .closeList =>
    .ok (.after (.list (v :: items).reverse) frames)
  | .after v (.map entries name :: frames), .comma => .ok (.key (entries.put name v) frames)
  | .after v (.map entries name :: frames), .closeMap =>
    .ok (.after (.map (entries.put name v)) frames)
  | _, _ => .error .malformed

/-- The value of a document with at most `depth` lists and maps in each other. -/
def read (depth : Nat) (t : Text) : Except Error Value := do
  match ← (tokens t).foldlM (State.step depth) (.value []) with
  | .after v [] => return v
  | _ => throw .malformed

end Json
end HelpPages

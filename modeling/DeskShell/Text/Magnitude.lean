import DeskShell.Text.Blank
import DeskShell.Text.Digit

/-!
# The number at the start of a line

Numeric order compares lines by the decimal number they start with: blanks, an optional sign, digits
with an optional fraction. The number is rounded to a binary fraction of 53 significant bits; a line
without a number counts as zero.

* `leadingNumber?`: sign, digits and number of fraction digits.
* `nearest`: a decimal fraction as a whole number of units `2 ^ -1074`, rounded to 53 bits with ties
  to even, and cut at `overflow`.
* `magnitude`: the key of a line.
-/
namespace DeskShell.Text

/-- A number as written: `digits / 10 ^ places`. -/
structure Decimal where
  negative : Bool
  digits : List Nat
  places : Nat
  deriving Repr, DecidableEq

/-- The longest row of digits that starts a text, and the rest. -/
def takeDigits : List Char → List Nat × List Char
  | [] => ([], [])
  | c :: rest =>
    match digitValue? c with
    | some d => let (ds, tail) := takeDigits rest; (d :: ds, tail)
    | none => ([], c :: rest)

/-- The fraction digits after a point, none when no point follows. -/
def takeFraction : List Char → List Nat
  | '.' :: rest => (takeDigits rest).1
  | _ => []

def leadingNumber? (line : List Char) : Option Decimal :=
  let bare := trimLeft line
  let (negative, body) := match bare with
    | '-' :: rest => (true, rest)
    | '+' :: rest => (false, rest)
    | rest => (false, rest)
  let (whole, rest) := takeDigits body
  let fraction := takeFraction rest
  if whole.isEmpty && fraction.isEmpty then none
  else some ⟨negative, whole ++ fraction, fraction.length⟩

/-! ## Rounding -/

/-- The nearest whole number to `n / d`, a tie going to the even one. -/
def roundHalfEven (n d : Nat) : Nat :=
  let q := n / d
  let r := n % d
  if 2 * r < d then q
  else if d < 2 * r then q + 1
  else if q % 2 = 0 then q else q + 1

/-- The unit is `2 ^ -1074`, the least positive binary fraction of double width. -/
def unitExponent : Nat := 1074

/-- `2 ^ 1024` in units; all that rounds to it or beyond counts as equal. -/
def overflow : Nat := Nat.pow 2 2098

/-- `n / d` in units, to 53 significant bits. -/
def nearest (n d : Nat) : Nat :=
  let scaled := n * Nat.pow 2 unitExponent
  let bits := (scaled / d).log2 + 1
  let ulp := Nat.pow 2 (bits - 53)
  min overflow (roundHalfEven scaled (d * ulp) * ulp)

def Decimal.value (x : Decimal) : Int :=
  let size := nearest (number x.digits) (Nat.pow 10 x.places)
  if x.negative then -(size : Int) else size

/-- The numeric key of a line: zero for a line that starts with no number. -/
def magnitude (line : String) : Int :=
  match leadingNumber? line.toList with
  | some x => x.value
  | none => 0

end DeskShell.Text

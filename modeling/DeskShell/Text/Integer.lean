import DeskShell.Text.Blank
import DeskShell.Text.Digit

/-!
# Whole numbers as operands

A count on the command line: blanks around it, an optional sign, then decimal digits of any script,
where single low lines may stand between digits.

* `readInteger?`: the number, or `none` when the text is not of that form or has more than 4300
  digits.
-/
namespace DeskShell.Text

/-- The most digits that a number may have. -/
def maxDigits : Nat := 4300

/-- White space around a number. The information separators count as blanks elsewhere, not here. -/
def isNumberBlank (c : Char) : Bool :=
  isBlank c && !(0x1c ≤ c.toNat && c.toNat ≤ 0x1f)

/-- Digits with single low lines between them. -/
def digitRow? : List Char → Option (List Nat)
  | [] => none
  | [c] => (digitValue? c).map ([·])
  | c :: '_' :: rest =>
    match digitValue? c, digitRow? rest with
    | some d, some ds => some (d :: ds)
    | _, _ => none
  | c :: rest =>
    match digitValue? c, digitRow? rest with
    | some d, some ds => some (d :: ds)
    | _, _ => none

/-- The sign and what follows it. -/
def takeSign : List Char → Bool × List Char
  | '-' :: rest => (true, rest)
  | '+' :: rest => (false, rest)
  | rest => (false, rest)

def readInteger? (s : String) : Option Int :=
  let bare := (s.toList.dropWhile isNumberBlank).reverse.dropWhile isNumberBlank |>.reverse
  let (negative, row) := takeSign bare
  match digitRow? row with
  | none => none
  | some digits =>
    if digits.length > maxDigits then none
    else some (if negative then -(number digits : Int) else number digits)

end DeskShell.Text

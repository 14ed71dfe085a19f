/-!
# Fixed columns

* `padLeft`, `padRight`: a text brought to a least width with spaces.
* `twoDigits`: a number below a hundred in two digits.
-/
namespace DeskShell.Text

/-- `s` with spaces before it up to `width` characters. -/
def padLeft (width : Nat) (s : String) : String :=
  String.ofList (List.replicate (width - s.length) ' ') ++ s

/-- `s` with spaces after it up to `width` characters. -/
def padRight (width : Nat) (s : String) : String :=
  s ++ String.ofList (List.replicate (width - s.length) ' ')

def twoDigits (n : Nat) : String :=
  if n < 10 then "0" ++ toString n else toString n

end DeskShell.Text

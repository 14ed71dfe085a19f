import DeskShell.Pattern.Basic
import DeskShell.Text.Blank
import DeskShell.Text.CaseMap
import DeskShell.Text.Digit
import DeskShell.Text.Letter

/-!
# Characters against characters

When a code point of a text matches one that a pattern names, a class or a set, with and without
regard to case. Without regard to case two code points match when their lower case forms are equal
or are among the few that share an upper case form.

* `sameCode`: a single code point of a pattern.
* `inCategory`: the classes; `isWordAt` is the one that word boundaries use.
* `inSet`: a character set.
-/
namespace DeskShell.Pattern

/-- Lower case forms that share their upper case form with others, and those others. -/
def relatedForms : List (Nat × List Nat) := [
    (0x69, [0x131]), (0x73, [0x17f]), (0xb5, [0x3bc]), (0x131, [0x69]), (0x17f, [0x73]),
    (0x345, [0x3b9, 0x1fbe]), (0x390, [0x1fd3]), (0x3b0, [0x1fe3]), (0x3b2, [0x3d0]),
    (0x3b5, [0x3f5]), (0x3b8, [0x3d1]), (0x3b9, [0x345, 0x1fbe]), (0x3ba, [0x3f0]),
    (0x3bc, [0xb5]), (0x3c0, [0x3d6]), (0x3c1, [0x3f1]), (0x3c2, [0x3c3]), (0x3c3, [0x3c2]),
    (0x3c6, [0x3d5]), (0x3d0, [0x3b2]), (0x3d1, [0x3b8]), (0x3d5, [0x3c6]), (0x3d6, [0x3c0]),
    (0x3f0, [0x3ba]), (0x3f1, [0x3c1]), (0x3f5, [0x3b5]), (0x432, [0x1c80]), (0x434, [0x1c81]),
    (0x43e, [0x1c82]), (0x441, [0x1c83]), (0x442, [0x1c84, 0x1c85]), (0x44a, [0x1c86]),
    (0x463, [0x1c87]), (0x1c80, [0x432]), (0x1c81, [0x434]), (0x1c82, [0x43e]),
    (0x1c83, [0x441]), (0x1c84, [0x442, 0x1c85]), (0x1c85, [0x442, 0x1c84]), (0x1c86, [0x44a]),
    (0x1c87, [0x463]), (0x1c88, [0xa64b]), (0x1e61, [0x1e9b]), (0x1e9b, [0x1e61]),
    (0x1fbe, [0x345, 0x3b9]), (0x1fd3, [0x390]), (0x1fe3, [0x3b0]), (0xa64b, [0x1c88]),
    (0xfb05, [0xfb06]), (0xfb06, [0xfb05])]

def isAsciiUpper (n : Nat) : Bool := 65 ≤ n && n ≤ 90

def isAsciiLower (n : Nat) : Bool := 97 ≤ n && n ≤ 122

/-- The lower case form that decides a comparison without regard to case. -/
def fold (f : Flags) (n : Nat) : Nat :=
  if f.ascii then (if isAsciiUpper n then n + 32 else n) else Text.lowerPoint n

/-- The other lower case forms that match a lower case form. -/
def related (f : Flags) (n : Nat) : List Nat :=
  if f.ascii then [] else (relatedForms.lookup n).getD []

/-- Case makes a difference to the code point. -/
def isCased (f : Flags) (n : Nat) : Bool :=
  if f.ascii then isAsciiUpper n || isAsciiLower n
  else Text.lowerPoint n != n || Text.upperPoint n != n

/-- The code point `n` of a text matches the code point `code` of a pattern. -/
def sameCode (f : Flags) (code n : Nat) : Bool :=
  if f.ignoreCase && isCased f code then
    let low := fold f code
    fold f n == low || (related f low).contains (fold f n)
  else code == n

/-! ## Classes -/

def asciiSpace (c : Char) : Bool := c == ' ' || ('\t' ≤ c && c ≤ '\r')

def inCategory (f : Flags) (category : Category) (n : Nat) : Bool :=
  let c := Char.ofNat n
  match category, f.ascii with
  | .digit, true => c.isDigit
  | .digit, false => Text.isDecimalDigit c
  | .space, true => asciiSpace c
  | .space, false => Text.isBlank c
  | .word, true => n < 128 && Text.isWordChar c
  | .word, false => Text.isWordChar c

/-! ## Sets -/

def Member.holds (f : Flags) (n : Nat) : Member → Bool
  | code k => k == n
  | range first last => first ≤ n && n ≤ last
  | category c negated => inCategory f c n != negated

/-- A run of case pairs has a member between `first` and `last`. -/
def runMeets (first last : Nat) (r : Text.CaseRun) : Bool :=
  let from_ := max first r.first
  let gap := (from_ - r.first) % r.step
  let start := if gap = 0 then from_ else from_ + (r.step - gap)
  start ≤ last && start ≤ r.last

/-- Code points above this are compared by their simple forms alone. -/
def planeEnd : Nat := 0xffff

/-- Case makes a difference to a member. -/
def Member.isCased (f : Flags) : Member → Bool
  | code k => planeEnd < k || Pattern.isCased f k
  | range first last =>
    planeEnd < last ||
      (if f.ascii then (first ≤ 90 && 65 ≤ last) || (first ≤ 122 && 97 ≤ last)
      else Text.lowerRuns.any (runMeets first last) || Text.upperRuns.any (runMeets first last))
  | category _ _ => false

/-- Code points whose lower case form is `n`. -/
def unfold (f : Flags) (n : Nat) : List Nat :=
  if f.ascii then (if isAsciiLower n then [n, n - 32] else [n])
  else
    n :: Text.lowerRuns.filterMap fun r =>
      let k := ((n : Int) - r.shift).toNat
      if r.covers k then some k else none

/-- Some code point between `first` and `last` matches the lower case form `low`. -/
def rangeFolds (f : Flags) (first last low : Nat) : Bool :=
  (low :: related f low).any fun form =>
    (unfold f form).any fun k => first ≤ k && k ≤ min last planeEnd && fold f k == form

/-- The lower case form `low` matches a member without regard to case. -/
def Member.folds (f : Flags) (low : Nat) : Member → Bool
  | code k =>
    if planeEnd < k then k == low
    else fold f k == low || (related f (fold f k)).contains low
  | range first last =>
    rangeFolds f first last low ||
      (planeEnd < last &&
        ((first ≤ low && low ≤ last) ||
          (first ≤ Text.upperPoint low && Text.upperPoint low ≤ last)))
  | category c negated => inCategory f c low != negated

/-- The code point `n` of a text is in a set. -/
def inSet (f : Flags) (negated : Bool) (members : List Member) (n : Nat) : Bool :=
  let found :=
    if f.ignoreCase && members.any (·.isCased f) then members.any (·.folds f (fold f n))
    else members.any (·.holds f n)
  found != negated

end DeskShell.Pattern

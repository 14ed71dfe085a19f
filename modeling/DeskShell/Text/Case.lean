import DeskShell.Text.CaseMap

/-!
# Lower case

Names are compared by their lower case forms. A character is lowered by itself, with two exceptions:
the dotted capital I becomes two characters, and a capital sigma becomes the final sigma where it
ends a word.

* `lowerList`, `lower`: the lower case form of a text.
* `sameName`: equality of the lower case forms, an equivalence.
-/
namespace DeskShell.Text

/-- The lower case form of one character outside any context. -/
def lowerChar (c : Char) : List Char :=
  if c.toNat = 0x130 then ['i', Char.ofNat 0x307] else [Char.ofNat (lowerPoint c.toNat)]

/-- The nearest character that is not looked through has case. -/
def meetsCased (s : List Char) : Bool :=
  match s.dropWhile (fun c => isCaseIgnorablePoint c.toNat) with
  | [] => false
  | c :: _ => isCasedPoint c.toNat

/-- A sigma ends a word: a letter with case stands before it and none after it. -/
def lowerSigma (before after : List Char) : Char :=
  if meetsCased before && !meetsCased after then Char.ofNat 0x3c2 else Char.ofNat 0x3c3

/-- The lower case form of the rest of a text; `before` is what precedes it, nearest first. -/
def lowerFrom (before : List Char) : List Char → List Char
  | [] => []
  | c :: after =>
    let here := if c.toNat = 0x3a3 then [lowerSigma before after] else lowerChar c
    here ++ lowerFrom (c :: before) after

def lowerList (s : List Char) : List Char := lowerFrom [] s

def lower (s : String) : String := String.ofList (lowerList s.toList)

/-- Two names that differ in case at most. -/
def sameName (a b : String) : Bool := lower a == lower b

theorem sameName_iff {a b : String} : sameName a b = true ↔ lower a = lower b := by
  simp [sameName]

theorem sameName_refl (a : String) : sameName a a = true := sameName_iff.mpr rfl

end DeskShell.Text

import DeskShell.Text.Quoted

/-!
# Patterns

Regular expressions as trees. Characters are written as code points, since a pattern may name code
points that no text holds.

* `Regex`: the expressions; `Regex.width` bounds the length of what one matches.
* `Flags`: the switches that change how an expression matches.
* `Problem`: what can be wrong with a pattern; `Problem.describe` is its wording.
-/
namespace DeskShell.Pattern

/-- Switches. `ascii` and `unicode` choose between the two meanings of the character classes. -/
structure Flags where
  ignoreCase : Bool := false
  multiline : Bool := false
  dotAll : Bool := false
  verbose : Bool := false
  ascii : Bool := false
  unicode : Bool := false
  template : Bool := false
  deriving Repr, DecidableEq

namespace Flags

/-- The switches set in either. -/
def union (a b : Flags) : Flags where
  ignoreCase := a.ignoreCase || b.ignoreCase
  multiline := a.multiline || b.multiline
  dotAll := a.dotAll || b.dotAll
  verbose := a.verbose || b.verbose
  ascii := a.ascii || b.ascii
  unicode := a.unicode || b.unicode
  template := a.template || b.template

/-- The switches of `a` that are not set in `b`. -/
def diff (a b : Flags) : Flags where
  ignoreCase := a.ignoreCase && !b.ignoreCase
  multiline := a.multiline && !b.multiline
  dotAll := a.dotAll && !b.dotAll
  verbose := a.verbose && !b.verbose
  ascii := a.ascii && !b.ascii
  unicode := a.unicode && !b.unicode
  template := a.template && !b.template

/-- One of the switches is set in both. -/
def meets (a b : Flags) : Bool := a.diff b != a

/-- A choice between the two meanings of the classes is made. -/
def choosesClasses (a : Flags) : Bool := a.ascii || a.unicode

/-- The switches inside a group that turns some on and others off. -/
def within (a on off : Flags) : Flags :=
  let base := if on.choosesClasses then { a with ascii := false, unicode := false } else a
  (base.union on).diff off

end Flags

inductive Category
  | digit
  | space
  | word
  deriving Repr, DecidableEq

/-- A part of a character set. -/
inductive Member
  | code (n : Nat)
  | range (first last : Nat)
  | category (c : Category) (negated : Bool)
  deriving Repr, DecidableEq

inductive Anchor
  | lineStart
  | lineEnd
  | textStart
  | textEnd
  | boundary
  | noBoundary
  deriving Repr, DecidableEq

inductive Greed
  | greedy
  | lazy
  | possessive
  deriving Repr, DecidableEq

inductive Regex
  | empty
  | code (n : Nat)
  | notCode (n : Nat)
  | any
  | oneOf (negated : Bool) (members : List Member)
  | anchor (a : Anchor)
  | seq (first second : Regex)
  | either (first second : Regex)
  | group (index : Nat) (body : Regex)
  | switched (on off : Flags) (body : Regex)
  | repeated (greed : Greed) (least : Nat) (most : Option Nat) (body : Regex)
  | atomic (body : Regex)
  | ahead (negated : Bool) (body : Regex)
  /-- The text before the place, of a length between `least` and `most`. -/
  | behind (negated : Bool) (least most : Nat) (body : Regex)
  | again (index : Nat)
  | ifGroup (index : Nat) (present absent : Regex)
  deriving Repr, DecidableEq

/-- More than any number of repetitions. -/
def maxWidth : Nat := Nat.pow 2 64

/-- The least and the greatest length of a match, where `groups` tells those of the groups. -/
def Regex.width (groups : Nat → Nat × Nat) : Regex → Nat × Nat
  | empty | anchor _ | ahead .. | behind .. => (0, 0)
  | code _ | notCode _ | any | oneOf .. => (1, 1)
  | seq a b =>
    let (l₁, h₁) := a.width groups
    let (l₂, h₂) := b.width groups
    (min maxWidth (l₁ + l₂), min maxWidth (h₁ + h₂))
  | either a b =>
    let (l₁, h₁) := a.width groups
    let (l₂, h₂) := b.width groups
    (min l₁ l₂, max h₁ h₂)
  | group _ b | switched _ _ b | atomic b => b.width groups
  | repeated _ least most b =>
    let (l, h) := b.width groups
    let high := match most with
      | none => if h = 0 then 0 else maxWidth
      | some m => h * m
    (min maxWidth (l * least), min maxWidth high)
  | again index => groups index
  | ifGroup _ a b =>
    let (l₁, h₁) := a.width groups
    let (l₂, h₂) := b.width groups
    (min l₁ l₂, max h₁ h₂)

/-! ## Problems -/

/-- A pattern is malformed, mostly at a certain position, or cannot be built at all. -/
inductive Problem
  | malformed (message : String) (position : Option Nat)
  | refused (message : String)
  deriving Repr, DecidableEq

/-- Line and column of a position, both counted from one. -/
def lineColumn (pattern : List Char) (position : Nat) : Nat × Nat :=
  let before := pattern.take position
  (before.count '\n' + 1, (before.reverse.takeWhile (· != '\n')).length + 1)

/-- The wording of a malformed pattern, with line and column if the pattern has several lines. -/
def describeAt (pattern : String) (message : String) : Option Nat → String
  | none => message
  | some position =>
    let place := s!"{message} at position {position}"
    if pattern.toList.contains '\n' then
      let (line, column) := lineColumn pattern.toList position
      s!"{place} (line {line}, column {column})"
    else place

end DeskShell.Pattern

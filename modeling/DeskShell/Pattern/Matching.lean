import DeskShell.Pattern.Folding
import DeskShell.Pattern.Reader

/-!
# Matching

Whether a pattern matches somewhere in a line. Ways to match are tried in the order of preference
that the expression gives, by handing each place that an expression leads to on to what comes after
it.

* `runAt`: the matches of an expression at a place, as a function of what comes after.
* `openingSet`, `mayOpen`: the places at which a search looks for a match.
* `Compiled`: a pattern made ready; `Compiled.accepts` says whether a line has a match.
* `compile`: from the text of a pattern.
-/
namespace DeskShell.Pattern

/-- A place in a line, and where groups start (even numbers) and end (odd numbers), latest first. -/
structure Spot where
  position : Nat
  marks : List (Nat × Nat) := []
  deriving Repr, DecidableEq

namespace Spot

def mark (s : Spot) (key : Nat) : Spot := { s with marks := (key, s.position) :: s.marks }

/-- Where a finished group starts and ends. -/
def group? (s : Spot) (index : Nat) : Option (Nat × Nat) :=
  match s.marks.lookup (2 * index), s.marks.lookup (2 * index + 1) with
  | some first, some last => if first ≤ last then some (first, last) else none
  | _, _ => none

def forward (s : Spot) : Spot := { s with position := s.position + 1 }

end Spot

/-- What comes after an expression: it gets a place and says where the whole ends. -/
abbrev Next := Spot → Option Spot

/-- The matches of an expression as a function of what comes after. -/
abbrev Step := Next → Spot → Option Spot

def firstOf (a : Option Spot) (b : Unit → Option Spot) : Option Spot :=
  match a with
  | some s => some s
  | none => b ()

/-! ## Single characters and places -/

def unitStep (text : Array Char) (p : Nat → Bool) : Step := fun next s =>
  match text[s.position]? with
  | none => none
  | some c => if p c.toNat then next s.forward else none

def isWordAt (text : Array Char) (f : Flags) (position : Nat) : Bool :=
  match text[position]? with
  | none => false
  | some c => inCategory f .word c.toNat

def isBoundary (text : Array Char) (f : Flags) (position : Nat) : Bool :=
  let before := position != 0 && isWordAt text f (position - 1)
  before != isWordAt text f position

def isNewlineAt (text : Array Char) (position : Nat) : Bool := text[position]? == some '\n'

/-- The anchor holds at a place. An empty line has neither boundaries nor places without one. -/
def anchorHolds (text : Array Char) (f : Flags) (a : Anchor) (position : Nat) : Bool :=
  match a with
  | .textStart => position == 0
  | .textEnd => position == text.size
  | .lineStart => position == 0 || (f.multiline && isNewlineAt text (position - 1))
  | .lineEnd =>
    position == text.size ||
      (isNewlineAt text position && (f.multiline || position + 1 == text.size))
  | .boundary => text.size != 0 && isBoundary text f position
  | .noBoundary => text.size != 0 && !isBoundary text f position

/-! ## Repetition

An iteration beyond the least number that starts where the last one started is not tried. -/

def mayRepeat (most : Option Nat) (count : Nat) (last : Option Nat) (s : Spot) : Bool :=
  most.all (count < ·) && last != some s.position

def repeatGreedy (body : Step) (least : Nat) (most : Option Nat) (next : Next) :
    Nat → Nat → Option Nat → Spot → Option Spot
  | 0, _, _, s => next s
  | fuel + 1, count, last, s =>
    if count < least then
      body (repeatGreedy body least most next fuel (count + 1) last) s
    else if mayRepeat most count last s then
      firstOf (body (repeatGreedy body least most next fuel (count + 1) (some s.position)) s)
        fun _ => next s
    else next s

def repeatLazy (body : Step) (least : Nat) (most : Option Nat) (next : Next) :
    Nat → Nat → Option Nat → Spot → Option Spot
  | 0, _, _, s => next s
  | fuel + 1, count, last, s =>
    if count < least then body (repeatLazy body least most next fuel (count + 1) last) s
    else
      firstOf (next s) fun _ =>
        if mayRepeat most count last s then
          body (repeatLazy body least most next fuel (count + 1) (some s.position)) s
        else none

/-- Repetition that gives nothing back: each iteration takes its first match. -/
def repeatFirm (body : Step) (least : Nat) (most : Option Nat) : Nat → Nat → Spot → Option Spot
  | 0, _, s => some s
  | fuel + 1, count, s =>
    if count < least then
      match body some s with
      | none => none
      | some t => repeatFirm body least most fuel (count + 1) t
    else if most.all (count < ·) then
      match body some s with
      | none => some s
      | some t =>
        if t.position = s.position then some t else repeatFirm body least most fuel (count + 1) t
    else some s

/-- Every iteration beyond the least number takes a character, but for the last. -/
def repeatStep (text : Array Char) (greed : Greed) (least : Nat) (most : Option Nat)
    (body : Step) : Step := fun next s =>
  let fuel := least + (text.size - s.position) + 2
  match greed with
  | .greedy => repeatGreedy body least most next fuel 0 none s
  | .lazy => repeatLazy body least most next fuel 0 none s
  | .possessive =>
    match repeatFirm body least most fuel 0 s with
    | none => none
    | some t => next t

/-! ## Expressions -/

/-- The text of a group matches again from a place. -/
def sameSlice (text : Array Char) (f : Flags) (first last position : Nat) : Bool :=
  position + (last - first) ≤ text.size &&
    (List.range (last - first)).all fun i =>
      match text[first + i]?, text[position + i]? with
      | some a, some b =>
        if f.ignoreCase then fold f a.toNat == fold f b.toNat else a == b
      | _, _ => false

def againStep (text : Array Char) (f : Flags) (index : Nat) : Step := fun next s =>
  match s.group? index with
  | none => none
  | some (first, last) =>
    if sameSlice text f first last s.position then
      next { s with position := s.position + (last - first) }
    else none

/-- The first match of the body, by which the groups inside are set, and then on from `back`. -/
def onceStep (body : Step) (back : Spot → Spot → Spot) : Step := fun next s =>
  match body some s with
  | none => none
  | some t => next (back s t)

def refuseStep (body : Step) : Step := fun next s =>
  match body some s with
  | none => next s
  | some _ => none

/-- The step taken from `distance` characters before the place, `short` when there are not so
many. -/
def behindStep (distance : Nat) (body : Step) : Step := fun next s =>
  if distance ≤ s.position then body next { s with position := s.position - distance } else none

def stay (s t : Spot) : Spot := { t with position := s.position }

def runAt (text : Array Char) (f : Flags) : Regex → Step
  | .empty => fun next s => next s
  | .code n => unitStep text (sameCode f n)
  | .notCode n => unitStep text fun m => !sameCode f n m
  | .any => unitStep text fun m => f.dotAll || m != '\n'.toNat
  | .oneOf negated members => unitStep text (inSet f negated members)
  | .anchor a => fun next s => if anchorHolds text f a s.position then next s else none
  | .seq a b => fun next s => runAt text f a (runAt text f b next) s
  | .either a b => fun next s => firstOf (runAt text f a next s) fun _ => runAt text f b next s
  | .group index body => fun next s =>
    runAt text f body (fun t => next (t.mark (2 * index + 1))) (s.mark (2 * index))
  | .switched on off body => runAt text (f.within on off) body
  | .repeated greed least most body => repeatStep text greed least most (runAt text f body)
  | .atomic body => onceStep (runAt text f body) fun _ t => t
  | .ahead false body => onceStep (runAt text f body) stay
  | .ahead true body => refuseStep (runAt text f body)
  | .behind false distance _ body => onceStep (behindStep distance (runAt text f body)) stay
  | .behind true distance _ body => refuseStep (behindStep distance (runAt text f body))
  | .again index => againStep text f index
  | .ifGroup index present absent => fun next s =>
    if (s.group? index).isSome then runAt text f present next s else runAt text f absent next s

/-! ## Patterns -/

structure Compiled where
  regex : Regex
  flags : Flags
  deriving Repr, DecidableEq

/-- Case makes a difference to a member of a set that a search looks for. -/
def Member.isCasedInSearch (f : Flags) : Member → Bool
  | code k => Pattern.isCased f k
  | m => m.isCased f

/-- The set that every match opens with, unless case makes a difference to it. -/
def openingSet (f : Flags) : Regex → Option (Bool × List Member)
  | .oneOf negated members =>
    if f.ignoreCase && members.any (·.isCasedInSearch f) then none else some (negated, members)
  | .group _ body => openingSet f body
  | .switched on off body => openingSet (f.within on off) body
  | .seq a b => if a.elements.isEmpty then openingSet f b else openingSet f a
  | _ => none

/-- A search passes over the places without a character of the opening set. There the classes have
their meaning under the switches of the whole pattern, also inside a group with other ones. -/
def mayOpen (f : Flags) (opening : Option (Bool × List Member)) (c : Option Char) : Bool :=
  match opening, c with
  | none, _ => true
  | some _, none => false
  | some (negated, members), some c => members.any (·.holds f c.toNat) != negated

/-- The pattern matches from some place of the line on. -/
def Compiled.accepts (p : Compiled) (line : String) : Bool :=
  let text := line.toList.toArray
  let opening := openingSet p.flags p.regex
  (List.range (text.size + 1)).any fun start =>
    mayOpen p.flags opening text[start]? &&
      (runAt text p.flags p.regex some { position := start }).isSome

def compile (pattern : String) (ignoreCase : Bool) : Except Problem Compiled :=
  match readPattern pattern { ignoreCase } with
  | .error problem => .error problem
  | .ok (regex, flags) => .ok ⟨regex, flags⟩

end DeskShell.Pattern

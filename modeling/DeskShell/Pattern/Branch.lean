import DeskShell.Pattern.Basic

/-!
# Alternatives

How sequences with bars between them become one expression. What all of them start with is taken
out in front, and where only single characters and sets remain, they become one set. Without regard
to case a set compares otherwise than a character by itself, so a line can show the difference.

* `Regex.elements`, `sequence`: an expression as a sequence of elements, and back.
* `splitShared`: the elements with which all branches start, and what remains of the branches.
* `alternatives`: the expression for all branches.
-/
namespace DeskShell.Pattern

/-! ## Sequences -/

/-- The elements of a sequence, with the sequences inside it laid open. -/
def Regex.elements : Regex → List Regex
  | .empty => []
  | .seq a b => a.elements ++ b.elements
  | r => [r]

def sequence : List Regex → Regex
  | [] => .empty
  | [r] => r
  | r :: rest => .seq r (sequence rest)

/-! ## What branches share -/

/-- The element is the same wherever it stands in a pattern. -/
def Regex.isFixed : Regex → Bool
  | .code _ | .notCode _ | .any | .oneOf .. | .anchor _ | .again _ => true
  | _ => false

/-- The elements with which a branch and the others all start, and what remains of each. -/
def splitShared : List Regex → List (List Regex) → List Regex × List (List Regex)
  | [], others => ([], [] :: others)
  | r :: branch, others =>
    if r.isFixed && others.all (·.head? == some r) then
      let (shared, rest) := splitShared branch (others.map List.tail)
      (r :: shared, rest)
    else ([], (r :: branch) :: others)

/-- The members that stand for a branch in a set, if it is a single character or a set. -/
def branchMembers? : List Regex → Option (List Member)
  | [.code n] => some [.code n]
  | [.oneOf false members] => some members
  | _ => none

/-! ## Alternatives -/

def eitherOf : List Regex → Regex
  | [] => .empty
  | [r] => r
  | r :: rest => .either r (eitherOf rest)

/-- Several branches, of which none starts like all the others. -/
def choice (branches : List (List Regex)) : Regex :=
  match branches.mapM branchMembers? with
  | some members => .oneOf false members.flatten.eraseDups
  | none => eitherOf (branches.map sequence)

def alternatives : List Regex → Regex
  | [] => .empty
  | [r] => r
  | r :: others =>
    let (shared, branches) := splitShared r.elements (others.map Regex.elements)
    sequence (shared ++ [choice branches])

end DeskShell.Pattern

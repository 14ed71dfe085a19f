import DeskShell.Shell.Inquiry
import DeskShell.Pattern.Matching

/-!
# Filtering lines by a pattern

`grep` prints the lines of its operands that match a pattern, or those that do not.

* `Filter`: how lines are chosen and shown; `Filter.report` is the outcome for given texts, for any
  test of lines.
-/
namespace DeskShell.Builtin

variable {C : Type}

structure Filter where
  invert : Bool
  numbered : Bool
  deriving Repr, DecidableEq

namespace Filter

/-- The chosen lines of one text, the first of which has the given number. -/
def pick (o : Filter) (accepts : String → Bool) (label : String) :
    Nat → List String → List String
  | _, [] => []
  | number, line :: rest =>
    let others := o.pick accepts label (number + 1) rest
    if accepts line == o.invert then others
    else (label ++ (if o.numbered then s!"{number}:" else "") ++ line) :: others

/-- The chosen lines of texts with their paths. Paths are shown when there are several texts. -/
def pickAll (o : Filter) (accepts : String → Bool) (sources : List (String × String)) :
    List String :=
  sources.flatMap fun source =>
    let label := if 1 < sources.length then source.1 ++ ":" else ""
    o.pick accepts label 1 (Text.lines source.2)

/-- No line at all counts as a failure, without a message. -/
def report (o : Filter) (accepts : String → Bool) (sources : List (String × String)) : Result :=
  match o.pickAll accepts sources with
  | [] => { exitCode := 1 }
  | found => .out (Text.unlines found)

end Filter

/-- The texts to be filtered, with their paths: the operands, or else the input. -/
def sourcesOf (paths : List String) (stdin : String) (σ : Session C) :
    Inquiry (List (String × String)) :=
  match paths with
  | [] => .ok [("", stdin)]
  | paths => paths.mapM fun path => do return (path, ← σ.readFile "grep" path)

def compilePattern (pattern : String) (ignoreCase : Bool) : Inquiry Pattern.Compiled :=
  match Pattern.compile pattern ignoreCase with
  | .ok compiled => .ok compiled
  | .error (.malformed message position) =>
    let problem := Pattern.describeAt pattern message position
    Inquiry.fail s!"grep: invalid pattern '{pattern}': {problem}"
  | .error (.refused message) => .error (.fault (.patternRefused message))

def grep (args : List String) (stdin : String) (σ : Session C) : Inquiry Result := do
  let (numbered, parsed) := (Args.parse args).switch "n"
  match parsed.operands with
  | [] => Inquiry.fail "grep: missing pattern"
  | pattern :: paths =>
    let compiled ← compilePattern pattern (parsed.has ["i", "ignore-case"])
    let sources ← sourcesOf paths stdin σ
    let o : Filter := { invert := parsed.has ["v", "invert-match"], numbered }
    return o.report compiled.accepts sources

end DeskShell.Builtin

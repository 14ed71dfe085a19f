import DeskShell.Shell.Inquiry
import DeskShell.Text.Integer
import DeskShell.Text.Magnitude
import DeskShell.Text.Pad

/-!
# Filters

Commands that work on the text of one file or on their input: `head`, `tail`, `wc`, `sort`, `uniq`,
and `cat`, which takes any number of files.

* `firstOf`, `lastOf`: a part of a text by lines or characters.
* `counts`: what `wc` counts.
* `ordered`: lines in order.
* `runs`: equal neighbouring lines with their number.
-/
namespace DeskShell.Builtin

variable {C : Type}

def cat (args : List String) (stdin : String) (σ : Session C) : Inquiry Result := do
  let parsed := Args.parse args
  if parsed.operands.isEmpty then
    return .out stdin
  else
    let texts ← parsed.operands.mapM (σ.readFile "cat")
    return .out (String.join texts)

/-! ## Parts of a text -/

inductive Measure
  | lines
  | chars
  deriving Repr, DecidableEq

/-- How much of a text is asked for. -/
structure Extent where
  measure : Measure := .lines
  count : Int := 10
  deriving Repr, DecidableEq

/-- Reads the count given with one flag, if the flag has a text. -/
def readExtent (command : String) (parsed : Args) (flag : String) (measure : Measure)
    (extent : Extent) : Inquiry Extent :=
  match (parsed.get? flag).bind FlagValue.text? with
  | none => .ok extent
  | some value =>
    match Text.readInteger? value with
    | none => Inquiry.fail s!"{command}: invalid number: '{value}'"
    | some count => .ok ⟨measure, count⟩

/-- The count after `-n` or `-c`; the latter wins. -/
def extentOf (command : String) (parsed : Args) : Inquiry Extent := do
  let extent ← readExtent command parsed "n" .lines {}
  readExtent command parsed "c" .chars extent

def firstOf (e : Extent) (content : String) : String :=
  match e.measure with
  | .chars => String.ofList (content.toList.take e.count.toNat)
  | .lines => Text.unlines ((Text.lines content).take e.count.toNat)

/-- The end of a text. In characters, a count beyond the length of the text counts the excess from
the end: it leaves out as many characters fewer as it exceeds the length by. -/
def lastOf (e : Extent) (content : String) : String :=
  match e.measure with
  | .chars =>
    let size := content.length
    let count := e.count.toNat
    let start := if count ≤ size then size - count else 2 * size - count
    String.ofList (content.toList.drop start)
  | .lines =>
    let all := Text.lines content
    Text.unlines (all.drop (all.length - e.count.toNat))

def excerpt (command : String) (part : Extent → String → String) (args : List String)
    (stdin : String) (σ : Session C) : Inquiry Result := do
  let parsed := Args.parse args
  let extent ← extentOf command parsed
  let content ← σ.readOperand command parsed.operands.head? stdin
  return .out (part extent content)

def head (args : List String) (stdin : String) (σ : Session C) : Inquiry Result :=
  excerpt "head" firstOf args stdin σ

def tail (args : List String) (stdin : String) (σ : Session C) : Inquiry Result :=
  excerpt "tail" lastOf args stdin σ

/-! ## Counting -/

structure Counts where
  lines : Nat
  words : Nat
  chars : Nat
  deriving Repr, DecidableEq

/-- An empty text has no line. -/
def counts (content : String) : Counts :=
  ⟨if content = "" then 0 else (Text.lines content).length, (Text.words content).length,
    content.length⟩

def wc (args : List String) (stdin : String) (σ : Session C) : Inquiry Result := do
  let (byChars, parsed) := (Args.parse args).switch "c"
  let showChars := byChars || parsed.has ["m"]
  let showLines := parsed.has ["l"]
  let showWords := parsed.has ["w"]
  let content ← σ.readOperand "wc" parsed.operands.head? stdin
  let c := counts content
  if !(showLines || showWords || showChars) then
    return .out s!"  {c.lines}  {c.words}  {c.chars}"
  else
    let columns := (if showLines then [c.lines] else []) ++ (if showWords then [c.words] else []) ++
      (if showChars then [c.chars] else [])
    return .out ("  ".intercalate (columns.map toString))

/-! ## Order -/

/-- Lines by the number they start with; equals keep their order. -/
def orderedByNumber (lines : List String) : List String :=
  let keyed := lines.map fun line => (Text.magnitude line, line)
  (keyed.mergeSort fun a b => decide (a.1 ≤ b.1)).map (·.2)

/-- Lines in code point order. -/
def ordered (lines : List String) : List String := lines.mergeSort fun a b => decide (a ≤ b)

def sort (args : List String) (stdin : String) (σ : Session C) : Inquiry Result := do
  let (numeric, parsed) := (Args.parse args).switch "n"
  let content ← σ.readOperand "sort" parsed.operands.head? stdin
  let lines := Text.lines content
  let sorted := if numeric then orderedByNumber lines else ordered lines
  return .out (Text.unlines (if parsed.has ["r"] then sorted.reverse else sorted))

/-! ## Runs of equal lines -/

/-- The runs of a list of lines: each line that differs from the one before it, with the number of
its repetitions. -/
def runs : List String → List (String × Nat)
  | [] => []
  | line :: rest =>
    match runs rest with
    | [] => [(line, 1)]
    | (next, count) :: others =>
      if line = next then (next, count + 1) :: others else (line, 1) :: (next, count) :: others

def countedLine (run : String × Nat) : String :=
  s!"{Text.padLeft 4 (toString run.2)} {run.1}"

def uniq (args : List String) (stdin : String) (σ : Session C) : Inquiry Result := do
  let (counted, parsed) := (Args.parse args).switch "c"
  let content ← σ.readOperand "uniq" parsed.operands.head? stdin
  let found := runs (Text.lines content)
  return .out (Text.unlines (if counted then found.map countedLine else found.map (·.1)))

end DeskShell.Builtin

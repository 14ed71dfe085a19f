import DeskShell.Builtin.Program
import DeskShell.Shell.Engine
import DeskShell.Store.Desktop
import DeskShell.Terminal.Log

/-!
# At the terminal

The two modes of the program on a fresh desktop: one line, or line after line until one of them ends
the session. The clock is read when the desktop is made and again for each line.

* `Terminal.perform`: runs a line and keeps apart what it tells the host and the log.
* `Terminal.exec`: the output of a single line.
* `Terminal.turn`: one line of an interactive session; `Terminal.interact` is the whole session.
-/
namespace DeskShell.Terminal

open Builtin (Program)

/-- All that a run writes, and how it ends. -/
structure Output where
  stdout : String := ""
  stderr : String := ""
  exitCode : Int := 0
  deriving Repr, DecidableEq

/-- A session on a fresh desktop. -/
def session (user : String) (hook : Hook) (now : Int) : Except Fault (Session Program) := do
  let store ← Desktop.store now
  let σ ← Session.start store { user } now
  return { σ with hooks := fun _ => hook }.withPrograms id

/-- Runs a line at its time, with signals and notes of its own. -/
def perform (t : Typed) (σ : Session Program) : Result × Session Program :=
  match Engine.execute Program.run t.line
    { σ with clock := t.clock, signals := [], notes := [] } with
  | .ok r τ => (r, τ)
  | .error f τ => (.failure f.message, τ)

/-- A text that is not empty ends its line. -/
def ended (text : String) : String := if text = "" then "" else text ++ "\n"

/-- What a line writes, with what its signals write first and its log first. -/
def outputOf (level : LogLevel) (signals : String) (r : Result) (τ : Session Program) : Output :=
  { stdout := signals ++ ended r.stdout
    stderr := Log.write level τ.notes ++ ended r.stderr
    exitCode := r.exitCode }

/-- The output of a single line. Nothing at the terminal listens to signals. -/
def exec (setup : Setup) (start : Int) (t : Typed) : Except Fault Output := do
  let σ ← session setup.user .unset start
  let (r, τ) := perform t σ
  return outputOf setup.level "" r τ

/-! ## Interactive sessions -/

def clearScreen : String := "\x1b[2J\x1b[H"

def banner : String := "\n".intercalate [
  "A fatal exception 0E has occurred at 0028:C0011E36 in VXD VMM(01) +",
  "00010E36. The current application will be terminated.",
  "",
  "*  Press any key to terminate the current application.",
  "*  Press CTRL+ALT+DEL again to restart your computer. You will",
  "   lose any unsaved information in all applications."]

def hexValue (c : Char) : Nat :=
  if c.isDigit then c.toNat - '0'.toNat else c.toNat - 'a'.toNat + 10

/-- The three parts of a colour that is written as a number sign and six digits. -/
def colorParts (hex : String) : List Nat :=
  match hex.toList.map hexValue with
  | [_, r, r', g, g', b, b'] => [16 * r + r', 16 * g + g', 16 * b + b']
  | _ => []

def colorText (hex : String) : String :=
  "\x1b[38;2;" ++ Text.glue ';' ((colorParts hex).map toString) ++ "m"

/-- What a signal writes to the screen. -/
def signalText : Signal → String
  | .clear => clearScreen
  | .exit => ""
  | .blueScreen => banner ++ "\n"
  | .color hex => colorText hex

/-- The exit code of a session that a line's signals end. -/
def endingOf (signals : List Signal) : Option Int :=
  if signals.contains .blueScreen then some 1
  else if signals.contains .exit then some 0
  else none

def prompt (σ : Session Program) : String := σ.shown ++ ">"

def asksToQuit (line : String) : Bool :=
  let word := Text.trim line
  word == ":q" || word == "quit"

/-- What a line at the prompt comes to. -/
structure Turn where
  output : Output
  session : Session Program
  ending : Option Int

def turn (level : LogLevel) (t : Typed) (σ : Session Program) : Turn :=
  if asksToQuit t.line then ⟨{}, σ, some 0⟩
  else
    let (r, τ) := perform t σ
    let signals := String.join (τ.signals.reverse.map signalText)
    ⟨outputOf level signals r τ, τ, endingOf τ.signals⟩

/-- Puts what was written earlier in front. -/
def Output.after (earlier : Output) (o : Output) : Output :=
  { o with stdout := earlier.stdout ++ o.stdout, stderr := earlier.stderr ++ o.stderr }

/-- A prompt before each line, and one at the end of the input. -/
def interact (level : LogLevel) (σ : Session Program) : List Typed → Output
  | [] => { stdout := prompt σ }
  | t :: rest =>
    let u := turn level t σ
    let shown : Output := { u.output with stdout := prompt σ ++ u.output.stdout }
    match u.ending with
    | some exitCode => { shown with exitCode }
    | none => shown.after (interact level u.session rest)

/-- The lines of an input: what stands before each newline, and what stands after the last. -/
def inputLines (input : String) : List String :=
  let pieces := Text.lines input
  if pieces.getLast? = some "" then pieces.dropLast else pieces

/-! ## Whole runs -/

/-- What the clock shows, reading by reading. -/
abbrev Clock := Nat → Int

/-- A time stands for a clock that has stopped there. -/
instance : Coe Int Clock := ⟨fun now _ => now⟩

/-- The lines as they are typed. The first reading of the clock has been for the desktop. -/
def typed (clock : Clock) (lines : List String) : List Typed :=
  lines.zipIdx.map fun (line, i) => ⟨line, clock (i + 1)⟩

def shell (setup : Setup) (input : String) (clock : Clock) : Except Fault Output := do
  let σ ← session setup.user .accepts (clock 0)
  return interact setup.level σ (typed clock (inputLines input))

/-- A whole run of the program. -/
def run (call : Invocation) (input : String) (clock : Clock) : Except Fault Output :=
  match call with
  | .exec setup line => exec setup (clock 0) ⟨line, clock 1⟩
  | .shell setup => shell setup input clock

end DeskShell.Terminal

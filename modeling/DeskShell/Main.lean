import DeskShell.Terminal.Interact
import Std.Time.DateTime.Timestamp

/-!
# The program

Reads the argument list, the clock and the input, and writes what `Terminal` makes of them. An
interactive session reads a line at a time, so that its output appears as it is made, and the clock
before each turn.
-/
namespace DeskShell.CommandLine

def usage : String := "\n".intercalate [
  "usage: deskshell exec [--user USER] [--log-level LEVEL] command",
  "       deskshell shell [--user USER] [--log-level LEVEL]",
  "",
  "LEVEL is one of DEBUG, INFO, WARNING, ERROR and CRITICAL."]

def now : IO Int := do
  let t ← Std.Time.Timestamp.now
  return t.toSecondsSinceUnixEpoch.val

def put (o : Terminal.Output) : IO Unit := do
  let stdout ← IO.getStdout
  stdout.putStr o.stdout
  stdout.flush
  IO.eprint o.stderr

def exitCode (code : Int) : UInt32 := UInt32.ofNat (code % 256).toNat

/-- Reads lines and answers them until one ends the session or the input ends. -/
partial def serve (level : LogLevel) (σ : Session Builtin.Program) : IO Int := do
  put { stdout := Terminal.prompt σ }
  let line ← (← IO.getStdin).getLine
  if line.isEmpty then
    return 0
  else
    let t := Terminal.turn level ⟨(line.dropSuffix "\n").toString, ← now⟩ σ
    put t.output
    match t.ending with
    | some code => return code
    | none => serve level t.session

def fail (f : Fault) : IO UInt32 := do
  IO.eprintln f.message
  return 1

def run (args : List String) : IO UInt32 := do
  match Invocation.parse args with
  | .error .help =>
    IO.println usage
    return 0
  | .error .usage =>
    IO.eprintln usage
    return 2
  | .ok (.exec setup line) =>
    match Terminal.exec setup (← now) ⟨line, ← now⟩ with
    | .error f => fail f
    | .ok o =>
      put o
      return exitCode o.exitCode
  | .ok (.shell setup) =>
    match Terminal.session setup.user .accepts (← now) with
    | .error f => fail f
    | .ok σ => return exitCode (← serve setup.level σ)

end DeskShell.CommandLine

def main (args : List String) : IO UInt32 := DeskShell.CommandLine.run args

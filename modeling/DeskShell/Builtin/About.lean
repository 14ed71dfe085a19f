import DeskShell.Shell.Inquiry
import DeskShell.Calendar

/-!
# Commands about the shell itself

`help`, `ver`, `date`, `whoami`, `env` and `echo`. They print what the session knows and change
nothing.
-/
namespace DeskShell.Builtin

variable {C : Type}

def versionBanner : String := "\n".intercalate [
  "Microsoft(R) Windows 95",
  "   (C)Copyright Microsoft Corp 1981-1995.",
  "",
  "RetroOS Terminal Emulator v2.0",
  "Now with pipes and redirections!"]

def operatorsHelp : String := "\n".intercalate [
  "Operators:",
  "  cmd1 | cmd2       - Pipe output of cmd1 to cmd2",
  "  cmd > file        - Redirect output to file (overwrite)",
  "  cmd >> file       - Redirect output to file (append)",
  "  cmd1 && cmd2      - Run cmd2 only if cmd1 succeeds",
  "  cmd1 ; cmd2       - Run cmd2 after cmd1"]

/-- The line of the help text for one command. -/
def helpLine (σ : Session C) (name : String) : String :=
  match σ.descriptions.get? name with
  | none => "  " ++ name
  | some text => if text = "" then "  " ++ name else s!"  {Text.padRight 8 name} - {text}"

def help (σ : Session C) : Inquiry Result :=
  .ok (.out (Text.unlines
    ("Available commands:" :: σ.commandNames.map (helpLine σ) ++ ["", operatorsHelp])))

def ver (_ : Session C) : Inquiry Result := .ok (.out versionBanner)

def date (σ : Session C) : Inquiry Result := do
  let now ← Inquiry.lift (Stamp.ofSeconds σ.clock)
  return .out s!"Current date is: {now.date}\nCurrent time is: {now.clock12Seconds}"

def whoami (σ : Session C) : Inquiry Result :=
  .ok (.out ("RETROOS\\" ++ σ.getEnv "USER" ""))

def env (σ : Session C) : Inquiry Result :=
  .ok (.out (Text.unlines (σ.env.map fun e => e.1 ++ "=" ++ e.2)))

def echo (args : List String) (_ : Session C) : Inquiry Result :=
  .ok (.out (Text.glue ' ' args))

end DeskShell.Builtin

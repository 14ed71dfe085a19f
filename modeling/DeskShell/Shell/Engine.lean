import DeskShell.Shell.Inquiry

/-!
# Running lines

How a session carries out a line: command by command along a pipeline, pipeline by pipeline along
the line. What a command in the table does is a parameter of everything here.

* `Engine.runCommand`: looks a command up, runs it and settles its result.
* `Engine.runPipeline`: each command reads what the one before it wrote.
* `Engine.runLine`: the pipelines in order, up to the first `&&` after a failure.
* `Engine.execute`: a typed line. It never stops with a fault.
-/
namespace DeskShell

/-! ## Redirects -/

/-- Text appended to a file starts on a line of its own. -/
def RedirectMode.combine (mode : RedirectMode) (existing text : String) : String :=
  match mode with
  | .overwrite => text
  | .append =>
    if existing = "" ∨ existing.toList.getLast? = some '\n' then existing ++ text
    else existing ++ "\n" ++ text

/-- Where redirected output goes: into a file that is there, or into a new one. -/
inductive Sink
  | replace (id content : String)
  | create (parent name : String)
  deriving Repr, DecidableEq

namespace Sink

variable {C : Type}

/-- The entry that stands at the target of a redirect. -/
def standing (file : String) (σ : Session C) : Inquiry (Option Node) := do
  match ← Inquiry.lift (σ.resolveNode (some file)) with
  | some (_, node) => return node
  | none => return none

def ofRedirect (r : Redirect) (text : String) (σ : Session C) : Inquiry Sink := do
  match ← standing r.file σ with
  | some n =>
    if n.isSystem then Inquiry.fail s!"{r.file}: Permission denied"
    else if n.isDir then Inquiry.fail s!"{r.file}: Is a directory"
    else return .replace n.id (r.mode.combine n.text text)
  | none =>
    match ← Inquiry.lift (σ.resolveParent r.file) with
    | (none, _) => Inquiry.fail s!"{r.file}: No such file or directory"
    | (some parent, name) =>
      if name = "" then Inquiry.fail s!"{r.file}: No such file or directory"
      else return .create parent name

def record (name text : String) : Record :=
  { name := some name, kind := some (some "file"), content := some text
    appType := some "notepad" }

/-- Puts `text`, redirected to `file`, where it goes. -/
def write (sink : Sink) (file text : String) : Run C Result :=
  match sink with
  | .replace id content => do
    Run.update id content
    return .done
  | .create parent name => do
    match ← Run.attempt (Run.add (record name text) parent) with
    | .ok _ => return .done
    | .error f => if f.isExpected then return .failure s!"{file}: {f.message}" else throw f

end Sink

def Redirect.write {C : Type} (r : Redirect) (text : String) : Run C Result :=
  Inquiry.andThen (Sink.ofRedirect r text) fun sink => sink.write r.file text

/-! ## Results -/

namespace Result

/-- A result that is longer than the session allows is replaced by a failure. -/
def limited (limit : Option Int) (r : Result) : Result :=
  match limit with
  | none => r
  | some n =>
    if (r.stdout.length + r.stderr.length : Int) ≤ n then r
    else .failure s!"Output limit ({n} bytes) exceeded"

/-- The texts that are not empty, on lines of their own. -/
def join (texts : List String) : String := Text.unlines (texts.filter (· != ""))

/-- A pipeline leaves what its last command wrote and how that ended, and the errors of all. -/
def ofPipeline (rs : List Result) : Result :=
  let last := rs.getLast?.getD .done
  { stdout := last.stdout, stderr := join (rs.map (·.stderr)), exitCode := last.exitCode }

/-- A line leaves the output and the errors of all pipelines that ran and how the last ended. -/
def ofLine (rs : List Result) : Result :=
  { stdout := join (rs.map (·.stdout))
    stderr := join (rs.map (·.stderr))
    exitCode := (rs.getLast?.map (·.exitCode)).getD 0 }

def notRecognized (name : String) : Result :=
  { stderr := s!"'{name}' is not recognized as an internal or external command,\n" ++
      "operable program or batch file."
    exitCode := 127 }

end Result

/-! ## The engine -/

namespace Engine

variable {C : Type}

/-- Tells the host of the effect that a command asks for, if any. -/
def signal (effect : Effect) (s : Signal) : Run C Unit := do
  let σ ← Run.get
  Run.note (.sideEffect effect (σ.hooks s != .unset))
  Run.fire s

/-- What becomes of a command's result. An effect leaves nothing else behind; output that is too
long is refused, and output with a redirect goes into its file. -/
def settle (redirect : Option Redirect) (r : Result) : Run C Result := do
  match r.effect.signal? with
  | some s =>
    signal r.effect s
    return .done
  | none =>
    let σ ← Run.get
    let r := r.limited σ.limit
    match redirect with
    | none => return r
    | some target => if r.stdout = "" then return r else target.write r.stdout

/-- A command's report of the fault that it stopped with. -/
def report (key : String) (f : Fault) : Run C Result := do
  if f.isExpected then
    return .failure s!"{key}: {f.message}"
  else
    Run.note (.commandFailed key)
    return .failure s!"Error: {f.message}"

variable (run : C → List String → String → Run C Reply)

def runCommand (c : Command) (stdin : String) : Run C Result := do
  let σ ← Run.get
  let key := Text.lower c.name
  match σ.commands.get? key with
  | none => return .notRecognized c.name
  | some command =>
    if σ.allowed.any fun names => !names.contains key then
      return .failure s!"Command '{c.name}' is disabled in this shell"
    else
      Run.note (.dispatch key c.args.length)
      match ← Run.attempt (run command c.args stdin) with
      | .ok reply => settle c.redirect reply.toResult
      | .error f => report key f

/-- The results of commands, each of which reads the output of the one before it. -/
def runCommands (stdin : String) : List Command → Run C (List Result)
  | [] => return []
  | c :: rest => do
    let r ← runCommand run c stdin
    let rs ← runCommands r.stdout rest
    return r :: rs

def runPipeline (p : Pipeline) (stdin : String) : Run C Result := do
  let rs ← runCommands run stdin p
  return .ofPipeline rs

/-- The results of further pipelines after one that ended with `exitCode`. -/
def runLinks (stdin : String) (exitCode : Int) : List (String × Pipeline) → Run C (List Result)
  | [] => return []
  | (operator, p) :: rest => do
    if operator = "&&" ∧ exitCode ≠ 0 then
      Run.note (.shortCircuit exitCode)
      return []
    else
      let r ← runPipeline run p stdin
      let rs ← runLinks stdin r.exitCode rest
      return r :: rs

/-- The results of the pipelines of a line that run. -/
def runLinePipelines (stdin : String) : Line → Run C (List Result)
  | .empty => return []
  | .chain first rest => do
    let r ← runPipeline run first stdin
    let rs ← runLinks run stdin r.exitCode rest
    return r :: rs

def runLine (l : Line) (stdin : String) : Run C Result := do
  let rs ← runLinePipelines run stdin l
  let r := Result.ofLine rs
  Run.set fun σ => { σ with lastExit := r.exitCode }
  return r

/-- Carries out a typed line. A fault that escapes from it is reported as its result. -/
def execute (text : String) : Run C Result := do
  let line := Text.trim text
  if line = "" then
    return .done
  else
    match ← Run.attempt (runLine run (Line.ofText line) "") with
    | .ok r => return r
    | .error f =>
      Run.note (.lineFailed line)
      return .failure s!"Error: {f.message}"

end Engine
end DeskShell

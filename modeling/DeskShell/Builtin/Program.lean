import DeskShell.Builtin.About
import DeskShell.Builtin.Copy
import DeskShell.Builtin.Create
import DeskShell.Builtin.Filters
import DeskShell.Builtin.Find
import DeskShell.Builtin.Grep
import DeskShell.Builtin.Listing
import DeskShell.Builtin.Move
import DeskShell.Builtin.Navigate
import DeskShell.Builtin.Remove
import DeskShell.Builtin.Screen
import DeskShell.Builtin.Tree
import DeskShell.Shell.Registry

/-!
# The built-in commands

The commands that every shell has, as a type, with what a registry lists for each of them and what
each of them does.

* `Program`: the built-in commands; `Program.all` lists them.
* `Program.entry`: names and description.
* `Program.run`: runs one. `Program.inquiry?` gives the run of those that only ask.
* `Session.withPrograms`: a session with all of them entered.
-/
namespace DeskShell.Builtin

inductive Program
  | help | ver | date | whoami | env | echo | color | cls | exit
  | pwd | cd | ls | dir | tree
  | cat | mkdir | touch | cp | mv | rm
  | head | tail | wc | sort | uniq
  | grep | find
  deriving Repr, DecidableEq

namespace Program

def all : List Program := [
  help, ver, date, whoami, env, echo, color, cls, exit,
  pwd, cd, ls, dir, tree,
  cat, mkdir, touch, cp, mv, rm,
  head, tail, wc, sort, uniq,
  grep, find]

theorem mem_all (p : Program) : p ∈ all := by cases p <;> decide

def entry : Program → Entry
  | help => .make "help" [] "Show available commands"
  | ver => .make "ver" [] "Display version"
  | date => .make "date" [] "Display date and time"
  | whoami => .make "whoami" [] "Display current user"
  | env => .make "env" [] "Display environment variables"
  | echo => .make "echo" [] "Display text"
  | color => .make "color" [] "Change text color (0-9, a-f)"
  | cls => .make "cls" ["clear"] "Clear screen"
  | exit => .make "exit" [] "Close terminal"
  | pwd => .make "pwd" [] "Print working directory"
  | cd => .make "cd" [] "Change directory"
  | ls => .make "ls" [] "List directory contents"
  | dir => .make "dir" [] "List directory contents, DOS style"
  | tree => .make "tree" [] "Render tree view"
  | cat => .make "cat" ["type"] "Print file contents"
  | mkdir => .make "mkdir" ["md"] "Create directories"
  | touch => .make "touch" [] "Create empty file"
  | cp => .make "cp" [] "Copy files and directories"
  | mv => .make "mv" [] "Move or rename files and directories"
  | rm => .make "rm" ["del"] "Remove files or directories"
  | head => .make "head" [] "Output the first part of files"
  | tail => .make "tail" [] "Output the last part of files"
  | wc => .make "wc" [] "Count lines, words and characters"
  | sort => .make "sort" [] "Sort lines of text"
  | uniq => .make "uniq" [] "Collapse adjacent duplicate lines"
  | grep => .make "grep" [] "Filter lines matching a regular expression"
  | find => .make "find" [] "Search for files in a directory hierarchy"

variable {C : Type}

/-- The commands that only ask: what they find out. -/
def inquiry? (args : List String) (stdin : String) :
    Program → Option (Session C → Inquiry Result)
  | help => some Builtin.help
  | ver => some Builtin.ver
  | date => some Builtin.date
  | whoami => some Builtin.whoami
  | env => some Builtin.env
  | echo => some (Builtin.echo args)
  | cls => some Builtin.cls
  | exit => some Builtin.exit
  | pwd => some Builtin.pwd
  | ls => some (Builtin.ls args)
  | dir => some (Builtin.dir args)
  | tree => some (Builtin.tree args)
  | cat => some (Builtin.cat args stdin)
  | head => some (Builtin.head args stdin)
  | tail => some (Builtin.tail args stdin)
  | wc => some (Builtin.wc args stdin)
  | sort => some (Builtin.sort args stdin)
  | uniq => some (Builtin.uniq args stdin)
  | grep => some (Builtin.grep args stdin)
  | find => some (Builtin.find args)
  | color | cd | mkdir | touch | cp | mv | rm => none

/-- The commands that act; the others leave the session as it is. -/
def act (args : List String) : Program → Run C Result
  | color => Builtin.color args
  | cd => Builtin.cd args
  | mkdir => Builtin.mkdir args
  | touch => Builtin.touch args
  | cp => Builtin.cp args
  | mv => Builtin.mv args
  | rm => Builtin.rm args
  | _ => pure .done

def run (p : Program) (args : List String) (stdin : String) : Run C Reply := do
  let r ← match p.inquiry? args stdin with
    | some found => Inquiry.toRun found
    | none => p.act args
  return .result r

end Program
end DeskShell.Builtin

namespace DeskShell.Session

variable {C : Type}

/-- Enters all built-in commands; `command` is how one of them stands in the table. -/
def withPrograms (σ : Session C) (command : Builtin.Program → C) : Session C :=
  Builtin.Program.all.foldl (fun τ p => τ.registerAs p.entry (command p)) σ

end DeskShell.Session

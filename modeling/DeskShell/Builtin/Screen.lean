import DeskShell.Shell.Inquiry

/-!
# Commands for the screen

`color` tells the host a colour; `cls` and `exit` leave the request to the engine.

* `palette`: the sixteen colours by their digit.
-/
namespace DeskShell.Builtin

variable {C : Type}

def palette : Table String := [
  ("0", "#000000"), ("1", "#0000aa"), ("2", "#00aa00"), ("3", "#00aaaa"),
  ("4", "#aa0000"), ("5", "#aa00aa"), ("6", "#aa5500"), ("7", "#aaaaaa"),
  ("8", "#555555"), ("9", "#5555ff"), ("a", "#55ff55"), ("b", "#55ffff"),
  ("c", "#ff5555"), ("d", "#ff55ff"), ("e", "#ffff55"), ("f", "#ffffff")]

def color (args : List String) : Run C Result := do
  match palette.get? (Text.lower (args.head?.getD "")) with
  | none => return .failure "Invalid color code. Use 0-9 or a-f."
  | some hex =>
    Run.fire (.color hex)
    return .done

def cls (_ : Session C) : Inquiry Result := .ok (.ask .clear)

def exit (_ : Session C) : Inquiry Result := .ok (.ask .exit)

end DeskShell.Builtin

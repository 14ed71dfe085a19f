import DeskShell.Shell.Inquiry

/-!
# Removing

`rm` puts entries into the recycle bin. What looks like an attempt to wipe the disk brings up the
blue screen instead.

* `looksDestructive`: the test for such attempts, on the bare arguments.
* `Removal.plan`: what there is to do for one path.
-/
namespace DeskShell.Builtin

variable {C : Type}

/-- `part` occurs in the text. -/
def mentions (part : List Char) : List Char → Bool
  | [] => part.isEmpty
  | c :: rest => part.isPrefixOf (c :: rest) || mentions part rest

/-- A flag that asks for removal in depth: the long one, or letters with an r. -/
def asksDepth (arg : String) : Bool :=
  arg == "--recursive" ||
    (match arg.toList with
      | '-' :: '-' :: _ => false
      | '-' :: _ => (Text.lower arg).toList.contains 'r'
      | _ => false)

def looksDestructive (args : List String) : Bool :=
  let joined := (Text.lower (Text.glue ' ' args)).toList
  mentions "system32".toList joined ||
    (args.any asksDepth && (joined.contains '/' || joined.contains '\\'))

namespace Removal

/-- The entry to remove and the folder that it is in, or nothing when there is no such entry and
that is no failure. -/
def plan (force recursive : Bool) (path : String) (σ : Session C) :
    Inquiry (Option (String × String)) := do
  match ← Inquiry.lift (σ.resolveNode (some path)) with
  | none =>
    if force then return none
    else Inquiry.fail s!"rm: cannot remove '{path}': No such file or directory"
  | some (place, node) =>
    match node, σ.store.parent? place.id with
    | some n, some p =>
      if n.isSystem then Inquiry.fail s!"rm: cannot remove '{path}': Permission denied"
      else if n.isContainer && !recursive then
        Inquiry.fail s!"rm: cannot remove '{path}': Is a directory"
      else return some (place.id, p.id)
    | _, _ => Inquiry.fail s!"rm: cannot remove '{path}': Permission denied"

def remove (force recursive : Bool) (path : String) : Run C Result :=
  Inquiry.andThen (plan force recursive path) fun found => do
    match found with
    | none => return .done
    | some (id, parent) =>
      Run.delete id parent
      return .done

/-- Removes entries until one fails. -/
def removeAll (force recursive : Bool) : List String → Run C Result
  | [] => return .done
  | path :: rest => do
    let r ← remove force recursive path
    if r.exitCode = 0 then removeAll force recursive rest else return r

end Removal

def rm (args : List String) : Run C Result :=
  if looksDestructive args then return .ask .blueScreen
  else
    let parsed := Args.parse args
    let force := parsed.has ["f", "force"]
    match parsed.operands with
    | [] => return .failure "rm: missing operand"
    | paths => Removal.removeAll force (force || parsed.has ["r", "R", "recursive"]) paths

end DeskShell.Builtin

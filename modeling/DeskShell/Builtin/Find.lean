import DeskShell.Shell.Inquiry
import DeskShell.Glob

/-!
# Finding entries

`find` lists all that lies below an entry through containers, by path, and keeps what a name pattern
and a type let through.

* `Search.ofArgs`: what is asked for.
* `below`: the entries below a start, parents first, each with its path.
-/
namespace DeskShell.Builtin

variable {C : Type}

inductive EntryType
  | files
  | folders
  deriving Repr, DecidableEq

/-- Containers are folders, everything else is a file. -/
def EntryType.admits (t : EntryType) (n : Node) : Bool :=
  match t with
  | files => !n.isContainer
  | folders => n.isContainer

structure Search where
  start : Option String := none
  name : Option String := none
  only : Option EntryType := none
  deriving Repr, DecidableEq

namespace Search

inductive Predicate
  | name
  | type
  deriving Repr, DecidableEq

def Predicate.word : Predicate → String
  | name => "name"
  | type => "type"

/-- An argument that starts with a dash, as a predicate and the text after an equals sign. -/
def predicate? (arg : String) : Option (Predicate × Option String) :=
  let body := arg.toList.dropWhile (· == '-')
  let given := match body.dropWhile (· != '=') with
    | [] => none
    | _ :: value => some (String.ofList value)
  match String.ofList (body.takeWhile (· != '=')) with
  | "name" => some (.name, given)
  | "type" => some (.type, given)
  | _ => none

def setPredicate (q : Search) (p : Predicate) (value : String) : Inquiry Search :=
  match p with
  | .name => .ok { q with name := some value }
  | .type =>
    if value = "f" then .ok { q with only := some .files }
    else if value = "d" then .ok { q with only := some .folders }
    else Inquiry.fail s!"find: unknown argument to -type: {value}"

def readFrom (q : Search) : List String → Inquiry Search
  | [] => .ok q
  | arg :: rest =>
    if !Args.startsWithDash arg then
      readFrom (if q.start.isNone then { q with start := some arg } else q) rest
    else
      match predicate? arg with
      | none => Inquiry.fail ("find: unknown predicate " ++ "\x60" ++ arg ++ "'")
      | some (p, some value) =>
        match q.setPredicate p value with
        | .error stop => .error stop
        | .ok q => readFrom q rest
      | some (p, none) =>
        match rest with
        | [] => Inquiry.fail ("find: missing argument to " ++ "\x60" ++ "-" ++ p.word ++ "'")
        | value :: after =>
          match q.setPredicate p value with
          | .error stop => .error stop
          | .ok q => readFrom q after

def ofArgs (args : List String) : Inquiry Search := readFrom {} args

def admits (q : Search) (n : Node) : Bool :=
  (match q.only with
    | none => true
    | some t => t.admits n) &&
  (match q.name with
    | none => true
    | some pattern => pattern == "" || Glob.fits pattern n.name)

end Search

/-- The entries of one folder and what is inside them; `inside` visits one of them. -/
def visitAll (inside : String → String → List (String × Node)) (path : String) :
    List Node → List (String × Node)
  | [] => []
  | e :: rest =>
    let here := path ++ "/" ++ e.name
    (here, e) :: ((if e.isContainer then inside here e.id else []) ++ visitAll inside path rest)

def below (s : Store) : Nat → String → String → List (String × Node)
  | 0, _, _ => []
  | fuel + 1, path, id => visitAll (below s fuel) path (s.contents id)

/-- A start as it stands before the paths found: without separators at its end. -/
def startPath (start : String) : String :=
  String.ofList (Path.dropTrailing (fun c => c == '/' || c == '\\') start.toList)

def find (args : List String) (σ : Session C) : Inquiry Result := do
  let search ← Search.ofArgs args
  let given := search.start.getD ""
  let start := if given = "" then "." else given
  let (place, _) ← σ.locate (some start) s!"find: '{start}': No such file or directory"
  let all := below σ.store σ.store.nodes.length (startPath start) place.id
  return .out (Text.unlines ((all.filter fun e => search.admits e.2).map (·.1)))

end DeskShell.Builtin

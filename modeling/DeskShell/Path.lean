import DeskShell.Text.Case
import DeskShell.Text.Lines

/-!
# Path text

Paths as they are typed and displayed. Both slashes separate; the drive is always `C:`; a path that
starts with a separator, or with the drive and a separator, is absolute.

* `Path.normalize`: both slashes written as the separator.
* `Path.segments`: the names on a path, empty ones left out.
* `Path.splitParent`: the folder part of a path and its last name.
-/
namespace DeskShell.Path

def sep : Char := '\\'

def drive : String := "C:"

def normalizeChar (c : Char) : Char := if c = '/' then sep else c

def normalize (path : String) : String := String.ofList (path.toList.map normalizeChar)

/-- The letter of the drive in either case, then the colon. -/
def startsWithDrive : List Char → Bool
  | c :: ':' :: _ => c == 'C' || c == 'c'
  | _ => false

/-- Absolute, for a path with normal separators. -/
def isAbsoluteList : List Char → Bool
  | '\\' :: _ => true
  | c :: ':' :: '\\' :: _ => c == 'C' || c == 'c'
  | _ => false

def isAbsolute (path : String) : Bool := isAbsoluteList (normalize path).toList

/-- The path without the drive, for a path with normal separators. -/
def dropDrive (path : String) : String :=
  if startsWithDrive path.toList then String.ofList (path.toList.drop 2) else path

/-- The non-empty names on a path with normal separators. -/
def segments (path : String) : List String :=
  (Text.pieces sep path).filter (· != "")

/-! ## Splitting off the last name -/

def dropTrailing (p : Char → Bool) (s : List Char) : List Char :=
  (s.reverse.dropWhile p).reverse

/-- What precedes the last separator, if there is one, and what follows it. -/
def splitLast (s : List Char) : Option (List Char) × List Char :=
  let back := s.reverse
  let name := (back.takeWhile (· != sep)).reverse
  match back.dropWhile (· != sep) with
  | [] => (none, name)
  | _ :: head => (some head.reverse, name)

/-- The folder part of a path, `none` for a bare name, and the last name. The drive alone, or
nothing, before the last separator is the top of the tree. -/
def splitParent (path : String) : Option String × String :=
  let whole := (normalize path).toList
  let bare := dropTrailing (· == sep) whole
  let (head, name) := splitLast (if bare.isEmpty then whole else bare)
  match head with
  | none => (none, String.ofList name)
  | some head =>
    let top := head.isEmpty || head == ['C', ':'] || head == ['c', ':']
    (some (if top then String.singleton sep else String.ofList head), String.ofList name)

/-- A displayed path: its parts with separators between them. -/
def display (parts : List String) : String := Text.glue sep parts

end DeskShell.Path

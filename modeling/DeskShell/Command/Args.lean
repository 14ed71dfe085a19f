import DeskShell.Table

/-!
# Flags and operands

The arguments of a command in two parts. `--name` and each letter of `-abc` set a flag, and
`--name=text` gives it a text. A lone `-n` or `-c` takes the next argument as its text unless that
starts with a dash. All other arguments are operands, a lone dash among them.

* `Args.parse`: reads an argument list.
* `Args.has`, `Args.get?`: asks for flags.
* `Args.switch`: asks for a flag that takes no text in the command at hand, and puts a text that it
  took back among the operands.
-/
namespace DeskShell

inductive FlagValue
  | on
  | text (value : String)
  deriving Repr, DecidableEq

namespace FlagValue

/-- A flag counts as set unless its text is empty. -/
def isSet : FlagValue → Bool
  | on => true
  | text value => value != ""

def text? : FlagValue → Option String
  | on => none
  | text value => some value

end FlagValue

/-- `slots` holds, for each flag that took an argument as its text, how many operands stood before
that argument. -/
structure Args where
  flags : Table FlagValue := []
  operands : List String := []
  slots : Table Nat := []
  deriving Repr, DecidableEq

namespace Args

/-- The letters that take the next argument as their text. -/
def takesText (c : Char) : Bool := c == 'n' || c == 'c'

def startsWithDash (s : String) : Bool := s.toList.head? == some '-'

def setFlag (a : Args) (name : String) (value : FlagValue) : Args :=
  { a with flags := a.flags.put name value }

def setLetters (a : Args) (letters : List Char) : Args :=
  letters.foldl (fun acc c => acc.setFlag (String.singleton c) .on) a

/-- `--name` or `--name=text`, without the dashes. -/
def setLong (a : Args) (s : List Char) : Args :=
  let name := String.ofList (s.takeWhile (· != '='))
  match s.dropWhile (· != '=') with
  | [] => a.setFlag name .on
  | _ :: value => a.setFlag name (.text (String.ofList value))

/-- The flag `letter` with the text `value`, which stood here among the operands. -/
def setText (a : Args) (letter : Char) (value : String) : Args :=
  let name := String.singleton letter
  { a with
    flags := a.flags.put name (.text value)
    slots := a.slots.put name a.operands.length }

def pushOperand (a : Args) (s : String) : Args := { a with operands := a.operands ++ [s] }

/-- What a single argument is. -/
inductive Shape
  | long (body : List Char)
  | letters (first : Char) (others : List Char)
  | operand
  deriving Repr, DecidableEq

def shapeOf (arg : String) : Shape :=
  match arg.toList with
  | '-' :: '-' :: body => .long body
  | '-' :: c :: others => .letters c others
  | _ => .operand

def readFrom (a : Args) : List String → Args
  | [] => a
  | arg :: rest =>
    match shapeOf arg with
    | .long body => readFrom (a.setLong body) rest
    | .operand => readFrom (a.pushOperand arg) rest
    | .letters c others =>
      match rest with
      | [] => a.setLetters (c :: others)
      | next :: after =>
        if others.isEmpty && takesText c && !startsWithDash next then
          readFrom (a.setText c next) after
        else readFrom (a.setLetters (c :: others)) (next :: after)

def parse (args : List String) : Args := readFrom {} args

/-! ## Questions -/

def get? (a : Args) (name : String) : Option FlagValue := a.flags.get? name

/-- One of the flags is set. -/
def has (a : Args) (names : List String) : Bool :=
  names.any fun name => ((a.get? name).map FlagValue.isSet).getD false

/-- Whether the flag is set, taken as one without text. A text that it took from the arguments
goes back to where it stood. -/
def switch (a : Args) (name : String) : Bool × Args :=
  match a.get? name, a.slots.get? name with
  | some (.text value), some slot =>
    (value != "",
      { flags := a.flags.put name .on
        operands := a.operands.take slot ++ value :: a.operands.drop slot
        slots := a.slots.drop name })
  | some v, _ => (v.isSet, a)
  | none, _ => (false, a)

end Args
end DeskShell

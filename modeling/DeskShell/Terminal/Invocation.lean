import DeskShell.Text.Digit

/-!
# Invocations

How the program is called: a mode, its options and, for the mode that runs a single line, that line.

    exec [--user NAME] [--log-level LEVEL] LINE
    shell [--user NAME] [--log-level LEVEL]

Options stand before or after the line. Their names may be shortened as long as they can be told
apart, and `--` ends them. An argument that starts with a dash and names no option is still an
operand when it holds a space or looks like a negative number.

* `shapeOf`: what a single argument is.
* `Draft.read`: the arguments of a mode.
* `Invocation.parse`: the whole argument list.
-/
namespace DeskShell

inductive LogLevel
  | debug
  | info
  | warning
  | error
  | critical
  deriving Repr, DecidableEq

namespace LogLevel

def word : LogLevel → String
  | debug => "DEBUG"
  | info => "INFO"
  | warning => "WARNING"
  | error => "ERROR"
  | critical => "CRITICAL"

def ofWord? : String → Option LogLevel
  | "DEBUG" => some debug
  | "INFO" => some info
  | "WARNING" => some warning
  | "ERROR" => some error
  | "CRITICAL" => some critical
  | _ => none

theorem ofWord?_word (l : LogLevel) : ofWord? l.word = some l := by cases l <;> rfl

/-- Higher levels are more severe. -/
def rank : LogLevel → Nat
  | debug => 0
  | info => 1
  | warning => 2
  | error => 3
  | critical => 4

end LogLevel

/-- What both modes take. -/
structure Setup where
  user : String := "Daniel"
  level : LogLevel := .warning
  deriving Repr, DecidableEq

inductive Invocation
  | exec (setup : Setup) (line : String)
  | shell (setup : Setup)
  deriving Repr, DecidableEq

namespace Invocation

/-- Why there is nothing to run. -/
inductive Refusal
  | help
  | usage
  deriving Repr, DecidableEq

/-! ## Single arguments -/

inductive Setting
  | user
  | level
  deriving Repr, DecidableEq

inductive OptionName
  | help
  | setting (s : Setting)
  deriving Repr, DecidableEq

def OptionName.word : OptionName → String
  | help => "help"
  | setting .user => "user"
  | setting .level => "log-level"

/-- What an argument is, by itself. `letters` holds what follows the letter of the help option. -/
inductive Shape
  | operand
  | separator
  | named (o : OptionName) (value : Option String)
  | letters (body : List Char)
  | unknown
  | ambiguous
  deriving Repr, DecidableEq

/-- A dash before digits, perhaps with a point among them that has digits after it, and perhaps
with a newline at the end. -/
def looksNegative (s : List Char) : Bool :=
  match s with
  | '-' :: body =>
    let body := if body.getLast? = some '\n' then body.dropLast else body
    match body.dropWhile Text.isDecimalDigit with
    | [] => !body.isEmpty
    | '.' :: fraction => !fraction.isEmpty && fraction.all Text.isDecimalDigit
    | _ => false
  | _ => false

/-- What an argument is that starts with a dash and names no option. -/
def shapeOfOther (s : List Char) : Shape :=
  if looksNegative s || s.contains ' ' then .operand else .unknown

/-- What an argument is where the options `known` may stand. -/
def shapeOf (known : List OptionName) (arg : String) : Shape :=
  match arg.toList with
  | ['-', '-'] => .separator
  | '-' :: '-' :: body =>
    let name := body.takeWhile (· != '=')
    let value := match body.dropWhile (· != '=') with
      | [] => none
      | _ :: value => some (String.ofList value)
    match known.filter fun o => name.isPrefixOf o.word.toList with
    | [] => shapeOfOther arg.toList
    | [o] => .named o value
    | _ => .ambiguous
  | '-' :: 'h' :: body => .letters body
  | '-' :: _ :: _ => shapeOfOther arg.toList
  | _ => .operand

/-- What follows the letter of the help option: nothing, or the same letter over and over, perhaps
after an equals sign. -/
def helpLetters : List Char → Refusal
  | [] => .help
  | '=' :: c :: rest => if (c :: rest).all (· == 'h') then .help else .usage
  | body => if body.all (· == 'h') then .help else .usage

/-! ## The arguments of a mode -/

inductive Mode
  | exec
  | shell
  deriving Repr, DecidableEq

def Mode.ofWord? : String → Option Mode
  | "exec" => some exec
  | "shell" => some shell
  | _ => none

/-- What has been read of the arguments of a mode. `extra` tells that one of them fits nowhere. -/
structure Draft where
  mode : Mode
  setup : Setup := {}
  line : Option String := none
  extra : Bool := false
  deriving Repr, DecidableEq

namespace Draft

def options : List OptionName := [.help, .setting .user, .setting .level]

/-- The name that a value stands for. Separators are taken out of values, and what is left of one
that is nothing else is an empty list. -/
def userName (value : String) : String := if value = "--" then "[]" else value

def set (d : Draft) (s : Setting) (value : String) : Except Refusal Draft :=
  match s with
  | .user => .ok { d with setup := { d.setup with user := userName value } }
  | .level =>
    match LogLevel.ofWord? value with
    | none => .error .usage
    | some level => .ok { d with setup := { d.setup with level } }

def wantsLine (d : Draft) : Bool := d.mode == .exec && d.line.isNone

/-- An operand: the line, or too much. -/
def push (d : Draft) (arg : String) : Draft :=
  if d.wantsLine then { d with line := some arg } else { d with extra := true }

/-- What follows a separator: only the line may. -/
def pushAll (d : Draft) : List String → Draft
  | [line] => d.push line
  | _ => { d with extra := true }

/-- Reads the arguments of a mode. A separator right behind the line, at the end, does nothing. -/
def read (d : Draft) : List String → Except Refusal Draft
  | [] => .ok d
  | arg :: rest =>
    match shapeOf options arg with
    | .operand => if d.wantsLine && rest == ["--"] then .ok (d.push arg) else read (d.push arg) rest
    | .separator => .ok (d.pushAll rest)
    | .unknown => read { d with extra := true } rest
    | .ambiguous => .error .usage
    | .letters body => .error (helpLetters body)
    | .named .help none => .error .help
    | .named .help (some _) => .error .usage
    | .named (.setting s) (some value) =>
      match d.set s value with
      | .error r => .error r
      | .ok e => read e rest
    | .named (.setting s) none =>
      match rest with
      | [] => .error .usage
      | next :: after =>
        if shapeOf options next = .operand then
          match d.set s next with
          | .error r => .error r
          | .ok e => read e after
        else .error .usage

/-- The call that a draft comes to, when nothing is missing and nothing is left over. -/
def finish (d : Draft) : Except Refusal Invocation :=
  if d.extra then .error .usage
  else
    match d.mode, d.line with
    | .shell, _ => .ok (.shell d.setup)
    | .exec, some line => .ok (.exec d.setup line)
    | .exec, none => .error .usage

/-- An option that may be read in several ways is refused before all else. -/
def isAmbiguous (args : List String) : Bool :=
  (args.takeWhile (· != "--")).any fun arg => shapeOf options arg == .ambiguous

end Draft

/-! ## The argument list -/

/-- The arguments from the mode on. `extra` tells that one before them fits nowhere. -/
def parseFrom (extra : Bool) : List String → Except Refusal Invocation
  | [] => .error .usage
  | arg :: rest =>
    match shapeOf [.help] arg with
    | .unknown => parseFrom true rest
    | .letters body => .error (helpLetters body)
    | .named _ none => .error .help
    | .operand =>
      match Mode.ofWord? arg with
      | none => .error .usage
      | some mode =>
        if Draft.isAmbiguous rest then .error .usage
        else
          match Draft.read { mode, extra } rest with
          | .error r => .error r
          | .ok d => d.finish
    | _ => .error .usage

def parse (args : List String) : Except Refusal Invocation := parseFrom false args

end Invocation
end DeskShell

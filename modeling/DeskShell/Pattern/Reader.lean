import DeskShell.Pattern.Branch
import DeskShell.Table
import DeskShell.Text.Identifier
import DeskShell.Text.Integer
import DeskShell.Text.Name

/-!
# Reading patterns

From the text of a pattern to its expression, or to the first problem in it and its position. The
text is read in tokens: single characters, and a backslash with the character after it. One token is
always looked at ahead, so a backslash at the very end is reported as soon as it comes next.

* `tokensFrom`: the tokens of a pattern with their positions.
* `readAlternatives`, `readSequence`, `readGroup`: the expression grammar.
* `readPattern`: the whole pattern.
-/
namespace DeskShell.Pattern

/-- A character, or a backslash and the character after it; the lone backslash ends a pattern. -/
structure Token where
  position : Nat
  chars : List Char
  deriving Repr, DecidableEq

def Token.text (t : Token) : String := String.ofList t.chars

def tokensFrom (position : Nat) : List Char → List Token
  | [] => []
  | '\\' :: c :: rest => ⟨position, ['\\', c]⟩ :: tokensFrom (position + 2) rest
  | c :: rest => ⟨position, [c]⟩ :: tokensFrom (position + 1) rest

/-- What is known while reading: the tokens to come, the switches for the whole pattern, the number
of groups with group zero, the names of groups, the widths of finished groups, the number of groups
at the start of the outermost look behind, and the conditions on numbered groups. -/
structure Reader where
  rest : List Token
  length : Nat
  flags : Flags
  groups : Nat := 1
  names : Table Nat := []
  widths : List (Nat × (Nat × Nat)) := []
  lookBehind : Option Nat := none
  conditions : List (Nat × Nat) := []

abbrev Read := StateT Reader (Except Problem)

/-! ## Tokens -/

def refuse {α : Type} (message : String) (position : Nat) : Read α :=
  throw (.malformed message (some position))

/-- The position of the next token. -/
def tell : Read Nat := do
  let r ← get
  match r.rest with
  | [] => return r.length
  | t :: _ => return t.position

/-- Refuses `back` characters before the next token. -/
def refuseBack {α : Type} (message : String) (back : Nat) : Read α := do
  refuse message ((← tell) - back)

def checkNext : Read Unit := do
  match (← get).rest with
  | ⟨position, ['\\']⟩ :: _ => refuse "bad escape (end of pattern)" position
  | _ => return ()

def peek : Read (Option Token) := do return (← get).rest.head?

def takeToken : Read (Option Token) := do
  let r ← get
  match r.rest with
  | [] => return none
  | t :: rest =>
    set { r with rest }
    checkNext
    return some t

/-- The next token is this character. -/
def nextIs (c : Char) : Read Bool := do
  return (← peek).any fun t => t.chars == [c]

/-- Takes the next token if it is this character. -/
def accept (c : Char) : Read Bool := do
  if ← nextIs c then
    let _ ← takeToken
    return true
  else return false

/-- Takes single characters of a class, `count` of them at most. -/
def takeUpTo (p : Char → Bool) : Nat → Read (List Char)
  | 0 => return []
  | count + 1 => do
    match ← peek with
    | some ⟨_, [c]⟩ =>
      if p c then
        let _ ← takeToken
        return c :: (← takeUpTo p count)
      else return []
    | _ => return []

/-- Takes all up to the terminator, which is taken too. -/
def takeUntil (terminator : Char) (what : String) : Nat → List Char → Read (List Char)
  | 0, _ => refuseBack ("missing " ++ what) 0
  | fuel + 1, sofar => do
    match ← takeToken with
    | none =>
      if sofar.isEmpty then refuseBack ("missing " ++ what) 0
      else refuseBack s!"missing {terminator}, unterminated name" sofar.length
    | some t =>
      if t.chars = [terminator] then
        if sofar.isEmpty then refuseBack ("missing " ++ what) 1 else return sofar
      else takeUntil terminator what fuel (sofar ++ t.chars)

def takeName (terminator : Char) (what : String) : Read (List Char) := do
  takeUntil terminator what ((← get).rest.length + 1) []

/-! ## Escapes -/

def isOctal (c : Char) : Bool := '0' ≤ c && c ≤ '7'

def isHex (c : Char) : Bool := c.isDigit || ('a' ≤ c && c ≤ 'f') || ('A' ≤ c && c ≤ 'F')

def hexValue (c : Char) : Nat :=
  if c.isDigit then c.toNat - 48 else if c.toNat < 97 then c.toNat - 55 else c.toNat - 87

def readBase (base : Nat) (digits : List Char) : Nat :=
  digits.foldl (fun n c => base * n + hexValue c) 0

def isAsciiLetter (c : Char) : Bool := c.toNat < 128 && c.isAlpha

/-- An escape of a fixed number of hexadecimal digits. -/
def hexEscape (escape : List Char) (width : Nat) : Read Nat := do
  let digits ← takeUpTo isHex width
  let whole := escape ++ digits
  if digits.length ≠ width then
    refuseBack ("incomplete escape " ++ String.ofList whole) whole.length
  else if 0x10ffff < readBase 16 digits then
    refuseBack ("bad escape " ++ String.ofList whole) whole.length
  else return readBase 16 digits

/-- A character by its name. -/
def namedEscape : Read Nat := do
  if ← accept '{' then
    let name ← takeName '}' "character name"
    match Text.pointOfName? (String.ofList name) with
    | some n => return n
    | none =>
      let shown := Text.quoted (String.ofList name)
      refuseBack ("undefined character name " ++ shown) (name.length + 4)
  else refuseBack "missing \x7b" 0

/-- Three octal digits stand for a code point below 256. -/
def octalEscape (escape : List Char) : Read Nat := do
  let value := readBase 8 (escape.drop 1)
  if 0o377 < value then
    refuseBack s!"octal escape value {String.ofList escape} outside of range 0-0o377" escape.length
  else return value

def badEscape {α : Type} (escape : List Char) : Read α :=
  refuseBack ("bad escape " ++ String.ofList escape) escape.length

def controlEscape? : Char → Option Nat
  | 'a' => some 7
  | 'b' => some 8
  | 'f' => some 12
  | 'n' => some 10
  | 'r' => some 13
  | 't' => some 9
  | 'v' => some 11
  | '\\' => some 92
  | _ => none

def categoryEscape? : Char → Option Member
  | 'd' => some (.category .digit false)
  | 'D' => some (.category .digit true)
  | 's' => some (.category .space false)
  | 'S' => some (.category .space true)
  | 'w' => some (.category .word false)
  | 'W' => some (.category .word true)
  | _ => none

/-- An escape inside a character set. -/
def setEscape (c : Char) : Read Member := do
  match controlEscape? c, categoryEscape? c with
  | some n, _ => return .code n
  | none, some m => return m
  | none, none =>
    if c = 'x' then return .code (← hexEscape ['\\', 'x'] 2)
    else if c = 'u' then return .code (← hexEscape ['\\', 'u'] 4)
    else if c = 'U' then return .code (← hexEscape ['\\', 'U'] 8)
    else if c = 'N' then return .code (← namedEscape)
    else if isOctal c then
      let digits ← takeUpTo isOctal 2
      return .code (← octalEscape ('\\' :: c :: digits))
    else if c.isDigit || isAsciiLetter c then badEscape ['\\', c]
    else return .code c.toNat

/-! ## Groups by number and name -/

def Reader.isFinished (r : Reader) (index : Nat) : Bool :=
  index < r.groups && (r.widths.lookup index).isSome

/-- Inside a look behind only groups finished before it may be referred to. -/
def checkLookBehind (index : Nat) : Read Unit := do
  let r ← get
  match r.lookBehind with
  | none => return ()
  | some first =>
    if !r.isFinished index then refuseBack "cannot refer to an open group" 0
    else if first ≤ index then
      refuseBack "cannot refer to group defined in the same lookbehind subpattern" 0
    else return ()

/-- The reference to a group by digits, the escape being taken already. -/
def groupReference (escape : List Char) : Read Regex := do
  let index := readBase 10 (escape.drop 1)
  let r ← get
  if index < r.groups then
    if !r.isFinished index then
      refuseBack "cannot refer to an open group" escape.length
    else
      checkLookBehind index
      return .again index
  else refuseBack s!"invalid group reference {index}" (escape.length - 1)

/-- What one step of the grammar reads. A quantifier may not follow an anchor or another one. -/
inductive ItemKind
  | plain
  | anchor
  | quantified
  deriving Repr, DecidableEq

structure Item where
  regex : Regex
  kind : ItemKind := .plain

/-- An escape outside a character set. -/
def itemEscape (c : Char) : Read Item := do
  let anchored (a : Anchor) : Read Item := return ⟨.anchor a, .anchor⟩
  let point (n : Nat) : Read Item := return ⟨.code n, .plain⟩
  if c = 'A' then anchored .textStart
  else if c = 'Z' then anchored .textEnd
  else if c = 'b' then anchored .boundary
  else if c = 'B' then anchored .noBoundary
  else
    match categoryEscape? c, controlEscape? c with
    | some m, _ => return ⟨.oneOf false [m], .plain⟩
    | none, some n => point n
    | none, none =>
      if c = 'x' then point (← hexEscape ['\\', 'x'] 2)
      else if c = 'u' then point (← hexEscape ['\\', 'u'] 4)
      else if c = 'U' then point (← hexEscape ['\\', 'U'] 8)
      else if c = 'N' then point (← namedEscape)
      else if c = '0' then
        point (readBase 8 (← takeUpTo isOctal 2))
      else if c.isDigit then
        let second ← takeUpTo Char.isDigit 1
        let third ← if isOctal c && second.any isOctal then takeUpTo isOctal 1 else pure []
        if third.isEmpty then
          return ⟨← groupReference ('\\' :: c :: second), .plain⟩
        else point (← octalEscape ('\\' :: c :: second ++ third))
      else if isAsciiLetter c then badEscape ['\\', c]
      else point c.toNat

/-! ## Character sets -/

/-- One end of a range, or a member by itself: the token, and what it stands for. -/
def setMember (t : Token) : Read Member := do
  match t.chars with
  | ['\\', c] => setEscape c
  | [c] => return .code c.toNat
  | _ => return .code 0

def setMembers (start : Nat) : Nat → List Member → Read (List Member)
  | 0, _ => refuse "unterminated character set" start
  | fuel + 1, sofar => do
    match ← takeToken with
    | none => refuse "unterminated character set" start
    | some t =>
      if t.chars = [']'] ∧ sofar ≠ [] then return sofar
      else
        let low ← setMember t
        if ← accept '-' then
          match ← takeToken with
          | none => refuse "unterminated character set" start
          | some u =>
            if u.chars = [']'] then return sofar ++ [low, .code '-'.toNat]
            else
              let high ← setMember u
              let bad : Read (List Member) :=
                refuseBack ("bad character range " ++ t.text ++ "-" ++ u.text)
                  (t.chars.length + 1 + u.chars.length)
              match low, high with
              | .code a, .code b =>
                if b < a then bad else setMembers start fuel (sofar ++ [.range a b])
              | _, _ => bad
        else setMembers start fuel (sofar ++ [low])

/-- The set after its opening bracket. -/
def readSet : Read Regex := do
  let start := (← tell) - 1
  let negated ← accept '^'
  let members := (← setMembers start ((← get).rest.length + 1) []).eraseDups
  match members with
  | [.code n] => return if negated then .notCode n else .code n
  | _ => return .oneOf negated members

/-! ## Quantifiers -/

/-- One more than the greatest number of repetitions. -/
def repeatLimit : Nat := Nat.pow 2 32 - 1

/-- What is said of a number with too many digits. -/
def tooManyDigits (count : Nat) : String :=
  s!"Exceeds the limit ({Text.maxDigits} digits) for integer string conversion: " ++
    s!"value has {count} digits; use sys.set_int_max_str_digits() to increase the limit"

/-- A number of repetitions as written, none when it is left out. -/
def repeatCount (digits : List Char) : Read (Option Nat) := do
  if digits.isEmpty then return none
  else if Text.maxDigits < digits.length then throw (.refused (tooManyDigits digits.length))
  else
    let n := readBase 10 digits
    if repeatLimit ≤ n then throw (.refused "the repetition number is too large")
    else return some n

/-- The bounds between braces after the opening one. Anything else is no quantifier, and the tokens
are left as they were. -/
def readBraces : Read (Option (Nat × Option Nat)) := do
  let start ← get
  let here ← tell
  if ← nextIs '}' then return none
  else
    let size := start.rest.length
    let low ← takeUpTo Char.isDigit size
    let high ← if ← accept ',' then takeUpTo Char.isDigit size else pure low
    if ← accept '}' then
      let least ← repeatCount low
      let most ← repeatCount high
      match most with
      | some m =>
        if m < least.getD 0 then refuse "min repeat greater than max repeat" here
        else return some (least.getD 0, most)
      | none => return some (least.getD 0, none)
    else
      set start
      return none

def readGreed : Read Greed := do
  if ← accept '?' then return .lazy
  else if ← accept '+' then return .possessive
  else return .greedy

/-- Puts a quantifier on the last item; `sign` is the position of its first character. -/
def quantify (sign : Nat) (bounds : Nat × Option Nat) (items : List Item) : Read (List Item) := do
  match items with
  | [] => refuse "nothing to repeat" sign
  | last :: before =>
    match last.kind with
    | .anchor => refuse "nothing to repeat" sign
    | .quantified => refuse "multiple repeat" sign
    | .plain =>
      let greed ← readGreed
      return ⟨.repeated greed bounds.1 bounds.2 last.regex, .quantified⟩ :: before

/-! ## Switches -/

def flagOf? : Char → Option Flags
  | 'i' => some { ignoreCase := true }
  | 'm' => some { multiline := true }
  | 's' => some { dotAll := true }
  | 'x' => some { verbose := true }
  | 'a' => some { ascii := true }
  | 't' => some { template := true }
  | 'u' => some { unicode := true }
  | 'L' => some {}
  | _ => none

/-- What stands wrongly where a switch is due. -/
def notAFlag {α : Type} (t : Token) (missing : String) : Read α :=
  let letter := match t.chars with
    | [c] => Text.isAlphabetic c
    | _ => false
  refuseBack (if letter then "unknown flag" else missing) t.chars.length

/-- The switches to turn on, from the first on, and the character that ends them. -/
def flagsOn : Nat → Char → Flags → Read (Flags × Char)
  | 0, _, on => return (on, ')')
  | fuel + 1, c, on => do
    let flag := (flagOf? c).getD {}
    if c = 'L' then refuseBack "bad inline flags: cannot use 'L' flag with a str pattern" 0
    let on := on.union flag
    if flag.choosesClasses && on.ascii && on.unicode then
      refuseBack "bad inline flags: flags 'a', 'u' and 'L' are incompatible" 0
    match ← takeToken with
    | none => refuseBack "missing -, : or )" 0
    | some t =>
      match t.chars with
      | [d] =>
        if d = ')' ∨ d = '-' ∨ d = ':' then return (on, d)
        else if (flagOf? d).isSome then flagsOn fuel d on
        else notAFlag t "missing -, : or )"
      | _ => notAFlag t "missing -, : or )"

/-- The switches to turn off, from the first on, up to the colon. -/
def flagsOff : Nat → Char → Flags → Read Flags
  | 0, _, off => return off
  | fuel + 1, c, off => do
    if c = 'a' ∨ c = 'u' ∨ c = 'L' then
      refuseBack "bad inline flags: cannot turn off flags 'a', 'u' and 'L'" 0
    let off := off.union ((flagOf? c).getD {})
    match ← takeToken with
    | none => refuseBack "missing :" 0
    | some t =>
      match t.chars with
      | [d] =>
        if d = ':' then return off
        else if (flagOf? d).isSome then flagsOff fuel d off
        else notAFlag t "missing :"
      | _ => notAFlag t "missing :"

/-- The switches of a group: for the whole pattern, or for the group that follows. -/
def readFlags (first : Char) : Read (Option (Flags × Flags)) := do
  let fuel := (← get).rest.length + 1
  let (on, ended) ← if first = '-' then pure ({}, '-') else flagsOn fuel first {}
  if ended = ')' then
    modify fun r => { r with flags := r.flags.union on }
    return none
  if on.template then refuseBack "bad inline flags: cannot turn on global flag" 1
  let off ←
    if ended = '-' then
      match ← takeToken with
      | none => refuseBack "missing flag" 0
      | some t =>
        match t.chars with
        | [d] => if (flagOf? d).isSome then flagsOff fuel d {} else notAFlag t "missing flag"
        | _ => notAFlag t "missing flag"
    else pure {}
  if off.template then refuseBack "bad inline flags: cannot turn off global flag" 1
  if on.meets off then refuseBack "bad inline flags: flag turned on and off" 1
  return some (on, off)

/-! ## Groups -/

def checkName (name : List Char) : Read Unit := do
  if Text.isIdentifier name then return ()
  else
    let shown := Text.quoted (String.ofList name)
    refuseBack ("bad character in group name " ++ shown) (name.length + 1)

/-- Opens a group and gives its number. -/
def openGroup (name : Option (List Char)) : Read Nat := do
  let r ← get
  match name with
  | none => set { r with groups := r.groups + 1 }
  | some name =>
    let word := String.ofList name
    match r.names.get? word with
    | some old =>
      let shown := Text.quoted word
      refuseBack s!"redefinition of group name {shown} as group {r.groups}; was group {old}"
        (name.length + 1)
    | none => set { r with groups := r.groups + 1, names := r.names.put word r.groups }
  return r.groups

def Reader.groupWidth (r : Reader) (index : Nat) : Nat × Nat := (r.widths.lookup index).getD (0, 0)

def widthOf (regex : Regex) : Read (Nat × Nat) := do
  return regex.width (← get).groupWidth

def closeGroup (index : Nat) (body : Regex) : Read Unit := do
  let w ← widthOf body
  modify fun r => { r with widths := (index, w) :: r.widths }

/-- The number of the group that a name refers to. -/
def namedGroup (name : List Char) : Read Nat := do
  checkName name
  let word := String.ofList name
  match (← get).names.get? word with
  | some index => return index
  | none =>
    let shown := Text.quoted word
    refuseBack ("unknown group name " ++ shown) (name.length + 1)

def backReference : Read Item := do
  let name ← takeName ')' "group name"
  let index ← namedGroup name
  if !(← get).isFinished index then
    refuseBack "cannot refer to an open group" (name.length + 1)
  checkLookBehind index
  return ⟨.again index, .plain⟩

/-- More groups than this there cannot be. -/
def groupLimit : Nat := Nat.pow 2 30 - 1

/-- The group that a condition asks for, by name or number. A number may name a later group. -/
def readCondition : Read Nat := do
  let name ← takeName ')' "group name"
  let back := name.length + 1
  let index ←
    if Text.isIdentifier name then namedGroup name
    else
      match Text.readInteger? (String.ofList name) with
      | some (.ofNat 0) => refuseBack "bad group number" back
      | some (.ofNat n) =>
        if groupLimit ≤ n then refuseBack s!"invalid group reference {n}" back
        else
          let position := (← tell) - back
          modify fun r =>
            if r.conditions.any (·.1 == n) then r
            else { r with conditions := r.conditions ++ [(n, position)] }
          return n
      | _ =>
        let shown := Text.quoted (String.ofList name)
        refuseBack ("bad character in group name " ++ shown) back
  checkLookBehind index
  return index

/-- Skips a comment up to its closing parenthesis. -/
def skipComment (start : Nat) : Nat → Read Unit
  | 0 => return ()
  | fuel + 1 => do
    match ← peek with
    | none => refuse "missing ), unterminated comment" start
    | some _ =>
      match ← takeToken with
      | some ⟨_, [')']⟩ => return ()
      | _ => skipComment start fuel

/-- Skips the rest of a line. -/
def skipLine : Nat → Read Unit
  | 0 => return ()
  | fuel + 1 => do
    match ← takeToken with
    | none => return ()
    | some t => if t.chars = ['\n'] then return () else skipLine fuel

def closeParenthesis (start : Nat) : Read Unit := do
  if ← accept ')' then return () else refuse "missing ), unterminated subpattern" start

/-! ## Expressions -/

/-- Items, latest first, as one expression. -/
def joined (items : List Item) : Regex :=
  match items with
  | [] => .empty
  | last :: before => before.foldl (fun r item => .seq item.regex r) last.regex

def isVerboseBlank (c : Char) : Bool :=
  c == ' ' || ('\t' ≤ c && c ≤ '\r')

/-! ### Steps of a sequence -/

/-- What the next token of a sequence comes to: its end, the items with that token taken in, or a
group to be read, which starts at that position. -/
inductive Advance
  | stop
  | items (all : List Item)
  | group (start : Nat)

/-- The items after a character that is neither blank nor opens a group. -/
def charItems (c : Char) (position : Nat) (items : List Item) : Read (List Item) := do
  if c = '[' then return ⟨← readSet, .plain⟩ :: items
  else if c = '.' then return ⟨.any, .plain⟩ :: items
  else if c = '^' then return ⟨.anchor .lineStart, .anchor⟩ :: items
  else if c = '$' then return ⟨.anchor .lineEnd, .anchor⟩ :: items
  else if c = '?' then quantify position (0, some 1) items
  else if c = '*' then quantify position (0, none) items
  else if c = '+' then quantify position (1, none) items
  else if c = '{' then
    match ← readBraces with
    | none => return ⟨.code c.toNat, .plain⟩ :: items
    | some bounds => quantify position bounds items
  else return ⟨.code c.toNat, .plain⟩ :: items

/-- The step of a single character. Blanks and comments count for nothing in verbose patterns. -/
def charStep (verbose : Bool) (c : Char) (position : Nat) (items : List Item) : Read Advance := do
  if verbose && isVerboseBlank c then return .items items
  else if verbose && c == '#' then
    skipLine ((← get).rest.length + 1)
    return .items items
  else if c = '(' then return .group position
  else return .items (← charItems c position items)

/-- A token of two characters is an escape. -/
def nextStep (verbose : Bool) (items : List Item) : Read Advance := do
  match ← peek with
  | none => return .stop
  | some t =>
    match t.chars with
    | [_, c] =>
      let _ ← takeToken
      return .items ((← itemEscape c) :: items)
    | [c] =>
      if c = '|' ∨ c = ')' then return .stop
      else
        let _ ← takeToken
        charStep verbose c t.position items
    | _ => return .stop

/-! ### Openings of groups -/

/-- A group around an expression of its own. -/
inductive Group
  | capture (name : Option (List Char))
  | plain
  | atomic
  | switched (on off : Flags)
  | ahead (negated : Bool)
  | behind (negated : Bool)

/-- What an opening parenthesis and the characters after it begin. A comment and switches for the
whole pattern are over with that; a condition has two sequences to come. -/
inductive Opening
  | nothing
  | item (i : Item)
  | condition (index : Nat)
  | group (g : Group)

/-- After a question mark and a P. -/
def openNamed : Read Opening := do
  if ← accept '<' then
    let name ← takeName '>' "group name"
    checkName name
    return .group (.capture (some name))
  else if ← accept '=' then return .item (← backReference)
  else
    match ← takeToken with
    | none => refuseBack "unexpected end of pattern" 0
    | some t => refuseBack ("unknown extension ?P" ++ t.text) (t.chars.length + 2)

/-- After a question mark and a less-than sign. -/
def openBehind : Read Opening := do
  match ← takeToken with
  | none => refuseBack "unexpected end of pattern" 0
  | some t =>
    if t.chars = ['='] then return .group (.behind false)
    else if t.chars = ['!'] then return .group (.behind true)
    else refuseBack ("unknown extension ?<" ++ t.text) (t.chars.length + 2)

/-- After a question mark and a switch or a dash. -/
def openSwitched (c : Char) (first : Bool) (start : Nat) : Read Opening := do
  match ← readFlags c with
  | some (on, off) => return .group (.switched on off)
  | none =>
    if first then return .nothing
    else refuse "global flags not at the start of the expression" start

/-- After a question mark and the character `c`. -/
def openExtension (c : Char) (first : Bool) (start : Nat) : Read Opening := do
  if c = 'P' then openNamed
  else if c = ':' then return .group .plain
  else if c = '#' then
    skipComment start ((← get).rest.length + 1)
    return .nothing
  else if c = '=' then return .group (.ahead false)
  else if c = '!' then return .group (.ahead true)
  else if c = '<' then openBehind
  else if c = '(' then return .condition (← readCondition)
  else if c = '>' then return .group .atomic
  else if (flagOf? c).isSome || c == '-' then openSwitched c first start
  else refuseBack ("unknown extension ?" ++ String.singleton c) 2

/-- After an opening parenthesis. `first` says that nothing stands before it in the pattern. -/
def readOpening (first : Bool) (start : Nat) : Read Opening := do
  if !(← accept '?') then return .group (.capture none)
  else
    match ← takeToken with
    | none => refuseBack "unexpected end of pattern" 0
    | some t =>
      match t.chars with
      | [c] => openExtension c first start
      | _ => refuseBack ("unknown extension ?" ++ t.text) (t.chars.length + 1)

/-! ### Bodies of groups -/

namespace Group

def verbose (outside : Bool) : Group → Bool
  | switched on off => (outside || on.verbose) && !off.verbose
  | _ => outside

/-- Before the body: a capturing group gets its number. -/
def enter : Group → Read Nat
  | capture name => openGroup name
  | behind _ => do
    modify fun r => { r with lookBehind := r.lookBehind.or (some r.groups) }
    return 0
  | _ => return 0

/-- After the body: the item that the group makes of it. -/
def leave (start index : Nat) (body : Regex) (g : Group) : Read Item := do
  closeParenthesis start
  match g with
  | capture _ =>
    closeGroup index body
    return ⟨.group index body, .plain⟩
  | plain => return ⟨body, .plain⟩
  | atomic => return ⟨.atomic body, .plain⟩
  | switched on off => return ⟨.switched on off body, .plain⟩
  | ahead negated => return ⟨.ahead negated body, .plain⟩
  | behind negated =>
    let (least, most) ← widthOf body
    return ⟨.behind negated least most body, .plain⟩

end Group

/-- After the second sequence of a condition: there is no third. -/
def checkTwoBranches : Read Unit := do
  if ← nextIs '|' then refuseBack "conditional backref with more than two branches" 0
  else return ()

/-! ### The grammar -/

mutual

/-- Sequences with bars between them. `nested` says that this is inside a group. -/
def readAlternatives : Nat → Bool → Bool → List Regex → Read Regex
  | 0, _, _, sofar => return alternatives sofar
  | fuel + 1, verbose, nested, sofar => do
    let r ← readSequence fuel verbose (!nested && sofar.isEmpty) []
    if ← accept '|' then
      let flags := (← get).flags
      readAlternatives fuel (if nested then verbose else flags.verbose) nested (sofar ++ [r])
    else return alternatives (sofar ++ [r])

/-- Items up to a bar, a closing parenthesis or the end. `first` says that switches for the whole
pattern may stand here, which take effect at once; `items` are those read so far, latest first. -/
def readSequence : Nat → Bool → Bool → List Item → Read Regex
  | 0, _, _, items => return joined items
  | fuel + 1, verbose, first, items => do
    match ← nextStep verbose items with
    | .stop => return joined items
    | .items all => readSequence fuel verbose first all
    | .group start =>
      let item ← readGroup fuel verbose (first && items.isEmpty) start
      let flags := (← get).flags
      readSequence fuel (if first then flags.verbose else verbose) first (item.toList ++ items)

/-- The group after its opening parenthesis; nothing for comments and for switches that hold for the
whole pattern. -/
def readGroup : Nat → Bool → Bool → Nat → Read (Option Item)
  | 0, _, _, _ => return none
  | fuel + 1, verbose, first, start => do
    match ← readOpening first start with
    | .nothing => return none
    | .item i => return some i
    | .condition index =>
      let present ← readSequence fuel verbose false []
      let absent ← readBranch fuel verbose
      closeParenthesis start
      return some ⟨.ifGroup index present absent, .plain⟩
    | .group g =>
      let outer := (← get).lookBehind
      let index ← g.enter
      let body ← readAlternatives fuel (g.verbose verbose) true []
      modify fun r => { r with lookBehind := outer }
      return some (← g.leave start index body)

/-- The second sequence of a condition, which may be left out. -/
def readBranch : Nat → Bool → Read Regex
  | 0, _ => return .empty
  | fuel + 1, verbose => do
    if ← accept '|' then
      let r ← readSequence fuel verbose false []
      checkTwoBranches
      return r
    else return .empty

end

/-! ## The whole pattern -/

/-- The greatest distance that a look behind may go. -/
def behindLimit : Nat := Nat.pow 2 32 - 1

def Greed.label : Greed → String
  | greedy => "MAX_REPEAT"
  | lazy => "MIN_REPEAT"
  | possessive => "POSSESSIVE_REPEAT"

/-- What only the finished expression shows: a look behind has one length, and templates have no
repetitions. -/
def check (template : Bool) : Regex → Except Problem Unit
  | .empty | .code _ | .notCode _ | .any | .oneOf .. | .anchor _ | .again _ => .ok ()
  | .seq a b | .either a b | .ifGroup _ a b => do
    check template a
    check template b
  | .group _ b | .switched _ _ b | .atomic b | .ahead _ b => check template b
  | .repeated greed _ _ b =>
    if template then
      .error (.malformed ("internal: unsupported template operator " ++ greed.label) none)
    else check template b
  | .behind _ least most b =>
    if behindLimit < least then .error (.malformed "looks too much behind" none)
    else if least ≠ most then
      .error (.malformed "look-behind requires fixed-width pattern" none)
    else check template b

/-- A look behind goes further than places are counted. -/
def looksTooFar : Regex → Bool
  | .empty | .code _ | .notCode _ | .any | .oneOf .. | .anchor _ | .again _ => false
  | .seq a b | .either a b | .ifGroup _ a b => looksTooFar a || looksTooFar b
  | .group _ b | .switched _ _ b | .atomic b | .ahead _ b | .repeated _ _ _ b => looksTooFar b
  | .behind _ least _ b => decide (Nat.pow 2 31 ≤ least) || looksTooFar b

/-- Reads all tokens. -/
def readAll : Read Regex := do
  checkNext
  let start ← get
  let regex ← readAlternatives (6 * start.rest.length + 8) start.flags.verbose false []
  let r ← get
  if r.flags.ascii && r.flags.unicode then
    throw (.refused "ASCII and UNICODE flags are incompatible")
  if !r.rest.isEmpty then refuseBack "unbalanced parenthesis" 0
  match r.conditions.find? (fun c => r.groups ≤ c.1) with
  | some (index, position) => refuse s!"invalid group reference {index}" position
  | none => return regex

/-- The expression of a pattern and the switches under which it is to be matched. -/
def readPattern (pattern : String) (flags : Flags) : Except Problem (Regex × Flags) := do
  let chars := pattern.toList
  let (regex, r) ← readAll.run { rest := tokensFrom 0 chars, length := chars.length, flags }
  check r.flags.template regex
  if looksTooFar regex then throw (.refused "invalid SRE code")
  return (regex, r.flags)

end DeskShell.Pattern

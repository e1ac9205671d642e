import Listmaster.Text.Alphanumeric
import Listmaster.Text.Blank
import Listmaster.Text.Digits

/-!
The grammar of patterns, the regular expressions with which fields are compared.

A pattern is a choice between sequences of parts: characters, classes in
brackets, groups in parentheses, and edges, each of which can be repeated.

    (?-u)[a-z--[aeiou]]+\d*|(?x: \. # a dot )

A pattern works without tables of characters, so it may not ask for what needs
them: classes such as `\d` and the edges of words, unless they are restricted to
ASCII characters by `(?-u)`, and comparing letters without their case.  With
`(?-u)`, nothing may match octets that are no text: neither a dot nor the
complement of a class.

A brace ends the fields of a directive, so a repetition that is counted between
braces never closes, and neither does a character that is written between them.
-/

namespace Listmaster.Log.Pattern

/-- The number of levels at which the parts of a pattern can be nested. -/
def deepest : Nat := 250

/-- How the characters of a pattern are meant. -/
structure Mode where
  ignoresCase : Bool := false
  /-- Characters are not restricted to the ASCII ones. -/
  isUnicode : Bool := true
  skipsBlanks : Bool := false
  deriving DecidableEq

namespace Mode

/-- What follows blanks and comments; the text may begin inside a comment. -/
def afterBlanks (inComment : Bool) : List Char → List Char
  | [] => []
  | c :: rest =>
      if inComment then afterBlanks (c != '\n') rest
      else if Text.isBlank c then afterBlanks false rest
      else if c = '#' then afterBlanks true rest
      else c :: rest

def skip (mode : Mode) (s : List Char) : List Char :=
  if mode.skipsBlanks then afterBlanks false s else s

/-- The next character that is not passed over.  In a comment, it is the first one that is not
blank. -/
def peek? (mode : Mode) (s : List Char) : Option Char :=
  if mode.skipsBlanks then
    match s.dropWhile Text.isBlank with
    | '#' :: rest => (rest.dropWhile Text.isBlank).head?.or s.head?
    | c :: _ => some c
    | [] => s.head?
  else s.head?

/-- The mode that flags lead to.  After a minus sign they are switched off. -/
def change (mode : Mode) (isOn : Bool) : List Char → Mode
  | [] => mode
  | '-' :: rest => mode.change false rest
  | 'i' :: rest => { mode with ignoresCase := isOn }.change isOn rest
  | 'u' :: rest => { mode with isUnicode := isOn }.change isOn rest
  | 'x' :: rest => { mode with skipsBlanks := isOn }.change isOn rest
  | _ :: rest => mode.change isOn rest

end Mode

/-- Whether the flags may stand together: each of them once, and one after a minus sign. -/
def areFlags (flags : List Char) : Bool :=
  flags.all ("imsUuRx-".toList.contains ·) && decide flags.Nodup && flags.getLast? != some '-'

/-- The smallest parts of a pattern. -/
inductive Atom where
  /-- A character.  It can be written as an octet, by two hexadecimal digits. -/
  | literal (c : Char) (isOctet : Bool)
  /-- A class such as `\d`, or its complement. -/
  | named (isComplement : Bool)
  /-- The beginning or the end of a word, or of neither. -/
  | wordEdge
  | textEdge
  deriving DecidableEq

namespace Atom

def isAllowed (mode : Mode) : Atom → Bool
  | literal c isOctet =>
      if mode.isUnicode then !mode.ignoresCase else !isOctet || c.toNat < 0x80
  | named isComplement => !mode.isUnicode && !isComplement
  | wordEdge => !mode.isUnicode
  | textEdge => true

def isAllowedInClass (mode : Mode) : Atom → Bool
  | literal c _ => if mode.isUnicode then !mode.ignoresCase else c.toNat < 0x80
  | named isComplement => !mode.isUnicode && !isComplement
  | _ => false

end Atom

/-- The number that exactly `count` hexadecimal digits write, and what follows it. -/
def hexadecimal? (mode : Mode) : (count value : Nat) → List Char → Option (Nat × List Char)
  | 0, value, s => some (value, s)
  | count + 1, value, s =>
      match mode.skip s with
      | [] => none
      | c :: rest => do hexadecimal? mode count (16 * value + (← Text.digit? c)) rest

/-- The character with a code that is written by `count` digits, and what follows it. -/
def coded? (mode : Mode) (count : Nat) (s : List Char) : Option (Atom × List Char) := do
  let (code, rest) ← hexadecimal? mode count 0 s
  if code.isValidChar then return (.literal (Char.ofNat code) (count == 2), rest) else none

def control? (c : Char) : Option Char :=
  match c with
  | 'a' => some (Char.ofNat 7)
  | 't' => some '\t'
  | 'n' => some '\n'
  | 'v' => some (Char.ofNat 11)
  | 'f' => some (Char.ofNat 12)
  | 'r' => some '\r'
  | _ => none

def escape? (mode : Mode) : List Char → Option (Atom × List Char)
  | [] => none
  | c :: rest =>
      if c = 'x' then coded? mode 2 rest
      else if c = 'u' then coded? mode 4 rest
      else if c = 'U' then coded? mode 8 rest
      else if "dsw".toList.contains c then some (.named false, rest)
      else if "DSW".toList.contains c then some (.named true, rest)
      else if "bB<>".toList.contains c then some (.wordEdge, rest)
      else if "Az".toList.contains c then some (.textEdge, rest)
      else if c.toNat < 0x80 && !c.isAlphanum then some (.literal c false, rest)
      else (control? c).map fun meant => (.literal meant false, rest)

def asciiClasses : List String :=
  ["alnum", "alpha", "ascii", "blank", "cntrl", "digit", "graph", "lower", "print", "punct",
    "space", "upper", "word", "xdigit"]

/-- A class of ASCII characters, after its opening bracket: whether it is a complement, and
what follows it. -/
def asciiClass? : List Char → Option (Bool × List Char)
  | ':' :: s => do
      let (isComplement, s) := match s with
        | '^' :: rest => (true, rest)
        | s => (false, s)
      let name := String.ofList (s.takeWhile (· != ':'))
      match s.dropWhile (· != ':') with
      | ':' :: ']' :: rest => if name ∈ asciiClasses then some (isComplement, rest) else none
      | _ => none
  | _ => none

/-- The first end of a range in a class, or a single member. -/
def member? (mode : Mode) : List Char → Option (Atom × List Char)
  | [] => none
  | '\\' :: rest => escape? mode rest
  | c :: rest => some (.literal c false, rest)

/-- A member of a class or a range of them, and what follows it. -/
def range? (mode : Mode) (s : List Char) : Option (List Char) := do
  let (first, s) ← member? mode s
  let single : Option (List Char) := if first.isAllowedInClass mode then some s else none
  match mode.skip s with
  | '-' :: rest =>
      if mode.peek? rest = some ']' ∨ mode.peek? rest = some '-' then single
      else
        let (last, rest) ← member? mode (mode.skip rest)
        match first, last with
        | .literal a _, .literal b _ =>
            if a ≤ b ∧ first.isAllowedInClass mode = true ∧ last.isAllowedInClass mode = true then
              some rest
            else none
        | _, _ => none
  | _ => single

/-- What was read of something that can be nested: the number of its parts, and the levels
at which they are nested. -/
structure Extent where
  parts : Nat := 0
  levels : Nat := 0
  deriving DecidableEq

namespace Extent

def push (extent : Extent) (levels : Nat) : Extent :=
  ⟨extent.parts + 1, max extent.levels levels⟩

/-- The levels of all the parts together; they are one level if there are several. -/
def height (extent : Extent) : Nat :=
  if extent.parts ≤ 1 then extent.levels else extent.levels + 1

end Extent

/-- The levels of a class of which the left side of an operation was read before. -/
def operated (left : Option Nat) (right : Nat) : Nat :=
  left.elim right fun left => max left right + 1

/-- What follows the hyphens at the beginning of a class, and their number. -/
def hyphens (mode : Mode) : (fuel : Nat) → List Char → Nat × List Char
  | 0, s => (0, s)
  | fuel + 1, s =>
      match mode.skip s with
      | '-' :: rest =>
          let (count, rest) := hyphens mode fuel rest
          (count + 1, rest)
      | s => (0, s)

mutual

/-- A class after its opening bracket: its levels, and what follows it. -/
def class? (mode : Mode) : (fuel : Nat) → List Char → Option (Nat × List Char)
  | 0, _ => none
  | fuel + 1, s => do
      let (isComplement, s) := match mode.skip s with
        | '^' :: rest => (true, mode.skip rest)
        | s => (false, s)
      if isComplement && !mode.isUnicode then none
      let (extent, s) : Extent × List Char :=
        match hyphens mode s.length s with
        | (0, ']' :: rest) => (⟨1, 0⟩, rest)
        | (count, s) => (⟨count, 0⟩, s)
      if extent.parts ≠ 0 ∧ mode.isUnicode = true ∧ mode.ignoresCase = true then none
      members? mode fuel none extent s

/-- The members of a class up to its closing bracket, added to what was read of it. -/
def members? (mode : Mode) : (fuel : Nat) → (left : Option Nat) → Extent → List Char →
    Option (Nat × List Char)
  | 0, _, _, _ => none
  | fuel + 1, left, extent, s =>
      match mode.skip s with
      | [] => none
      | ']' :: rest => some (operated left extent.height, rest)
      | '&' :: '&' :: rest | '-' :: '-' :: rest | '~' :: '~' :: rest =>
          members? mode fuel (some (operated left extent.height)) {} rest
      | '[' :: rest =>
          match asciiClass? rest with
          | some (isComplement, rest) =>
              if (if mode.isUnicode then mode.ignoresCase else isComplement) then none
              else members? mode fuel left (extent.push 0) rest
          | none => do
              let (levels, rest) ← class? mode fuel rest
              members? mode fuel left (extent.push (levels + 1)) rest
      | s => do members? mode fuel left (extent.push 0) (← range? mode s)

end

/-- The name of a group, up to the bracket that closes it, and what follows it. -/
def groupName? (s : List Char) : Option (String × List Char) :=
  let name := s.takeWhile (· != '>')
  let isLater (c : Char) : Bool := c = '_' || c = '.' || c = '[' || c = ']' || Text.isAlphanumeric c
  match name, s.dropWhile (· != '>') with
  | first :: later, _ :: rest =>
      if (first = '_' || Text.isAlphabetic first) && later.all isLater then
        some (String.ofList name, rest)
      else none
  | _, _ => none

/-- What an opening parenthesis begins. -/
inductive Opening where
  | mode (mode : Mode)
  | group (name : Option String) (mode : Mode)

def opening? (mode : Mode) (s : List Char) : Option (Opening × List Char) :=
  let named (s : List Char) : Option (Opening × List Char) :=
    (groupName? s).map fun (name, rest) => (.group (some name) mode, rest)
  match mode.skip s with
  | '?' :: 'P' :: '<' :: rest | '?' :: '<' :: rest => named rest
  | '?' :: s =>
      let isFlag (c : Char) : Bool := c != ':' && c != ')'
      let flags := s.takeWhile isFlag
      if areFlags flags then
        match s.dropWhile isFlag with
        | ':' :: rest => some (.group none (mode.change true flags), rest)
        | _ :: rest => if flags.isEmpty then none else some (.mode (mode.change true flags), rest)
        | [] => none
      else none
  | s => some (.group none mode, s)

/-- What was read of a choice: the sequences before the last one, and the parts of that one,
of which the last part may still be repeated. -/
structure Choice where
  sequences : Extent := {}
  parts : Extent := {}
  /-- The levels of the last part, and whether it can be repeated. -/
  last : Option (Nat × Bool) := none

namespace Choice

def extent (choice : Choice) : Extent :=
  choice.last.elim choice.parts fun (levels, _) => choice.parts.push levels

def push (choice : Choice) (levels : Nat) (isRepeatable : Bool) : Choice :=
  { choice with parts := choice.extent, last := some (levels, isRepeatable) }

def repeat? (choice : Choice) : Option Choice :=
  match choice.last with
  | some (levels, true) => some { choice with last := some (levels + 1, true) }
  | _ => none

/-- The choice with its last sequence ended, and another one begun. -/
def next (choice : Choice) : Choice :=
  { sequences := choice.sequences.push choice.extent.height }

def height (choice : Choice) : Nat := choice.next.sequences.height

end Choice

/-- Read a choice up to its end, or to the parenthesis that closes its group.  `names` are the
names of the groups so far.  What comes out are the levels of the choice, the names of all
groups, and what follows. -/
def choice? : (fuel : Nat) → (inGroup : Bool) → Mode → (names : List String) → Choice →
    List Char → Option (Nat × List String × List Char)
  | 0, _, _, _, _, _ => none
  | fuel + 1, inGroup, mode, names, choice, s =>
      match mode.skip s with
      | [] => if inGroup then none else some (choice.height, names, [])
      | ')' :: rest => if inGroup then some (choice.height, names, rest) else none
      | '|' :: rest => choice? fuel inGroup mode names choice.next rest
      | '?' :: rest | '*' :: rest | '+' :: rest => do
          let rest := match rest with
            | '?' :: rest => rest
            | rest => rest
          choice? fuel inGroup mode names (← choice.repeat?) rest
      | '{' :: _ => none
      | '(' :: rest => do
          match ← opening? mode rest with
          | (.mode mode, rest) => choice? fuel inGroup mode names (choice.push 0 false) rest
          | (.group name inner, rest) =>
              if name.any names.contains then none
              let (levels, names, rest) ← choice? fuel true inner (name.toList ++ names) {} rest
              choice? fuel inGroup mode names (choice.push (levels + 1) true) rest
      | '[' :: rest => do
          let (levels, rest) ← class? mode fuel rest
          choice? fuel inGroup mode names (choice.push (levels + 1) true) rest
      | '.' :: rest =>
          if mode.isUnicode then choice? fuel inGroup mode names (choice.push 0 true) rest else none
      | '^' :: rest | '$' :: rest => choice? fuel inGroup mode names (choice.push 0 true) rest
      | '\\' :: rest => do
          let (atom, rest) ← escape? mode rest
          if atom.isAllowed mode then choice? fuel inGroup mode names (choice.push 0 true) rest
          else none
      | c :: rest =>
          if (Atom.literal c false).isAllowed mode then
            choice? fuel inGroup mode names (choice.push 0 true) rest
          else none

def isWellFormed (s : List Char) : Bool :=
  (choice? (s.length + 1) false {} [] {} s).any fun (levels, _, _) => levels ≤ deepest

end Listmaster.Log.Pattern

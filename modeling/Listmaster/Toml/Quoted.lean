import Listmaster.Text.Digits

/-!
Texts in TOML: between quotation marks, where a backslash begins an escape, or
between apostrophes, where it does not; on one line, or on several lines between
three marks.

Each reader takes what follows the mark that opens a text, and tells the
characters of the text and what follows the mark that closes it.  Some of the
characters were read together with an earlier one: they are skipped.
-/

namespace Listmaster.Toml

def isBlank (c : Char) : Bool := c = ' ' || c = '\t'

/-- Whether the character may stand in a text or in a comment. -/
def isPrintable (c : Char) : Bool := c = '\t' || (0x20 ≤ c.toNat && c.toNat ≠ 0x7F)

def scalar? (code : Nat) : Option Char :=
  if code.isValidChar then some (Char.ofNat code) else none

/-- The character of a code that is written with so many hexadecimal digits. -/
def coded? (count : Nat) (s : List Char) : Option Char :=
  let digits := s.take count
  if digits.length = count then (Text.natOfDigits? 16 digits).bind scalar? else none

/-- The character that an escape stands for, and the number of characters that write the
escape after its backslash. -/
def escape? : List Char → Option (Char × Nat)
  | 'b' :: _ => some ('\x08', 1)
  | 't' :: _ => some ('\t', 1)
  | 'n' :: _ => some ('\n', 1)
  | 'f' :: _ => some ('\x0c', 1)
  | 'r' :: _ => some ('\r', 1)
  | '"' :: _ => some ('"', 1)
  | '\\' :: _ => some ('\\', 1)
  | 'u' :: rest => (coded? 4 rest).map (·, 5)
  | 'U' :: rest => (coded? 8 rest).map (·, 9)
  | _ => none

def skipBlankLines : List Char → List Char
  | '\n' :: rest => skipBlankLines rest
  | '\r' :: '\n' :: rest => skipBlankLines rest
  | c :: rest => if isBlank c then skipBlankLines rest else c :: rest
  | [] => []

/-- What follows the end of a line, if the text begins with it. -/
def newLine? : List Char → Option (List Char)
  | '\n' :: rest => some rest
  | '\r' :: '\n' :: rest => some rest
  | _ => none

/-- The number of blanks and ends of lines after a backslash at the end of a line. -/
def continuation? (s : List Char) : Option Nat :=
  (newLine? (s.dropWhile isBlank)).map fun rest => s.length - (skipBlankLines rest).length

def basic? : (skip : Nat) → List Char → Option (List Char × List Char)
  | skip + 1, _ :: rest => basic? skip rest
  | _, [] => none
  | 0, '"' :: rest => some ([], rest)
  | 0, '\\' :: rest => do
      let (c, length) ← escape? rest
      let (text, after) ← basic? length rest
      return (c :: text, after)
  | 0, c :: rest =>
      if isPrintable c then (basic? 0 rest).map fun (text, after) => (c :: text, after) else none

def literal? : List Char → Option (List Char × List Char)
  | [] => none
  | '\'' :: rest => some ([], rest)
  | c :: rest =>
      if isPrintable c then (literal? rest).map fun (text, after) => (c :: text, after) else none

/-- The marks of the text and the number of marks in a row, if so many marks close the text:
up to two of them belong to it. -/
def closing? (mark : Char) (s : List Char) : Option (List Char × Nat) :=
  let marks := min (s.takeWhile (· = mark)).length 5
  if marks < 3 then none else some (List.replicate (marks - 3) mark, marks)

def multilineBasic? : (skip : Nat) → List Char → Option (List Char × List Char)
  | skip + 1, _ :: rest => multilineBasic? skip rest
  | _, [] => none
  | 0, '\\' :: rest =>
      match continuation? rest with
      | some length => multilineBasic? length rest
      | none => do
          let (c, length) ← escape? rest
          let (text, after) ← multilineBasic? length rest
          return (c :: text, after)
  | 0, c :: rest =>
      match closing? '"' (c :: rest) with
      | some (marks, length) => some (marks, rest.drop (length - 1))
      | none =>
          if c = '\r' then
            if rest.head? = some '\n' then multilineBasic? 0 rest else none
          else if c = '\n' ∨ isPrintable c = true then
            (multilineBasic? 0 rest).map fun (text, after) => (c :: text, after)
          else none

def multilineLiteral? : List Char → Option (List Char × List Char)
  | [] => none
  | c :: rest =>
      match closing? '\'' (c :: rest) with
      | some (marks, length) => some (marks, rest.drop (length - 1))
      | none =>
          if c = '\r' then
            if rest.head? = some '\n' then multilineLiteral? rest else none
          else if c = '\n' ∨ isPrintable c = true then
            (multilineLiteral? rest).map fun (text, after) => (c :: text, after)
          else none

/-- The text that comes first, if the characters begin with a mark.  The end of a line right
after three marks does not belong to the text. -/
def quoted? (s : List Char) : Option (List Char × List Char) :=
  match s with
  | '"' :: '"' :: '"' :: rest => multilineBasic? 0 ((newLine? rest).getD rest)
  | '"' :: rest => basic? 0 rest
  | '\'' :: '\'' :: '\'' :: rest => multilineLiteral? ((newLine? rest).getD rest)
  | '\'' :: rest => literal? rest
  | _ => none

end Listmaster.Toml

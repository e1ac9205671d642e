import Listmaster.Text.Pieces
import Listmaster.Text.Quoted
import Listmaster.Text.Utf8

/-!
Files with certificates: sections of Base64 between lines that begin and end
them, and other lines around the sections.  A section that begins inside of
another one takes its place, and keeps its text.

    -----BEGIN CERTIFICATE-----
    MIIBszCCAVmgAwIBAgIU
    -----END CERTIFICATE-----

A file without sections is well formed too.
-/

namespace Listmaster.Pem

/-- Whether the character ends a line, or is a blank before its end. -/
def isLineEnd (c : Char) : Bool := c = '\n' || c = '\r' || c = ' '

def sextet? (c : Char) : Option Nat :=
  if 'A' ≤ c ∧ c ≤ 'Z' then some (c.toNat - 65)
  else if 'a' ≤ c ∧ c ≤ 'z' then some (c.toNat - 71)
  else if c.isDigit then some (c.toNat + 4)
  else if c = '+' then some 62
  else if c = '/' then some 63
  else none

/-- Why a text is not Base64. -/
inductive Base64Flaw where
  | loneCharacter
  /-- A character that is none of Base64, or an equals sign that does not fill up the text. -/
  | badCharacter (c : Char) (place : Nat)
  /-- A last character with bits that belong to no octet. -/
  | lostBits (c : Char) (place : Nat)
  deriving DecidableEq

def Base64Flaw.message : Base64Flaw → String
  | loneCharacter => "Encoded text cannot have a 6-bit remainder."
  | badCharacter c place => s!"Invalid byte {c.toNat}, offset {place}."
  | lostBits c place => s!"Invalid last symbol {c.toNat}, offset {place}."

/-- The flaw of a last character after which there is no whole octet. -/
def lostBits? (symbols : List Char) : Option Base64Flaw := do
  let last ← symbols.getLast?
  let unused := if symbols.length % 4 = 2 then 16 else if symbols.length % 4 = 3 then 4 else 1
  if (sextet? last).any (· % unused ≠ 0) then return .lostBits last (symbols.length - 1) else none

/-- The flaw of a text in Base64: groups of four characters, of which the last one may be
short.  Equals signs may fill it up, as many as are missing or less. -/
def base64Flaw? (text : List Char) : Option Base64Flaw :=
  let symbols := text.takeWhile (· != '=')
  let isBad (c : Char) : Bool := (sextet? c).isNone
  if text.length % 4 = 1 then
    match text.getLast? with
    | some last =>
        if last ≠ '=' ∧ isBad last = true then some (.badCharacter last (text.length - 1))
        else some .loneCharacter
    | none => some .loneCharacter
  else
    match symbols.find? isBad with
    | some c => some (.badCharacter c (symbols.takeWhile (!isBad ·)).length)
    | none =>
        let signs := text.drop symbols.length
        let isFilling :=
          2 ≤ symbols.length % 4 && signs.all (· == '=') && symbols.length % 4 + signs.length ≤ 4
        if signs.isEmpty || isFilling then lostBits? symbols
        else some (.badCharacter '=' symbols.length)

/-- Why a file is not well formed. -/
inductive Flaw where
  /-- The line that begins a section does not end with five dashes. -/
  | badOpening (line : List Char)
  /-- The file ends before the line that ends a section. -/
  | noClosing (closing : List Char)
  | badText (flaw : Base64Flaw)
  deriving DecidableEq

/-- The octets, each kept as a character, as a text between quotation marks. -/
def shown (octets : List Char) : String :=
  Text.quoted (Text.decodeUtf8 (octets.map Char.toNat))

def Flaw.message : Flaw → String
  | badOpening line =>
      let shown := shown line
      s!"illegal section start: {shown}"
  | noClosing closing =>
      let shown := shown closing
      s!"section end {shown} missing"
  | badText flaw => flaw.message

def opening : List Char := "-----BEGIN ".toList

/-- The name of the section that a line begins; it stands before five dashes. -/
def sectionName? (line : List Char) : Option (List Char) :=
  let last := (line.reverse.takeWhile fun c => c = '-' || isLineEnd c).reverse
  let marks := last.dropWhile (· ≠ '-')
  if marks.count '-' = 5 then
    some ((line.take (line.length - marks.length)).drop opening.length)
  else none

/-- The lines of a text, each with the character that ends it. -/
def lines : List Char → List (List Char)
  | [] => []
  | c :: rest =>
      if c = '\n' ∨ c = '\r' then [c] :: lines rest
      else
        match lines rest with
        | [] => [[c]]
        | line :: later => (c :: line) :: later

/-- The first flaw of the lines.  Inside of a section, `closing` is the line that ends it and
`body` is its text so far. -/
def firstFlaw? (closing : Option (List Char)) (body : List Char) :
    List (List Char) → Option Flaw
  | [] => closing.map .noClosing
  | line :: rest =>
      if opening.isPrefixOf line then
        match sectionName? line with
        | none => some (.badOpening line)
        | some name =>
            firstFlaw? (some ("-----END ".toList ++ name ++ "-----".toList)) body rest
      else
        match closing with
        | none => firstFlaw? none body rest
        | some last =>
            if last.isPrefixOf line then
              match base64Flaw? body with
              | some flaw => some (.badText flaw)
              | none => firstFlaw? none [] rest
            else firstFlaw? closing (body ++ Text.trimEnd isLineEnd line) rest

def flaw? (content : ByteArray) : Option Flaw :=
  firstFlaw? none [] (lines (content.toList.map fun octet => Char.ofNat octet.toNat))

end Listmaster.Pem

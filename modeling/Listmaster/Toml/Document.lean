import Listmaster.Toml.Number
import Listmaster.Toml.Table

/-!
TOML documents, read as JSON values: a table is an object.

    version_requirement = ">=2.1.0"
    [server]
    domains = ["example.org"]

A document is a sequence of statements: headers, which open a table, and keys
with their values, which go to the table that was opened last.
-/

namespace Listmaster.Toml

/-- A key with dots: the names before the last one, and the last one. -/
structure Key where
  path : List String
  name : String

/-- A statement of a document. -/
inductive Statement where
  | openTable (key : Key)
  | openNext (key : Key)
  | assign (key : Key) (value : Json)

/-- The number of levels at which lists and tables on one line can be nested, and the number of
names that a key can have. -/
def deepest : Nat := 79

namespace Reader

def skipBlanks (s : List Char) : List Char := s.dropWhile isBlank

/-- What follows the end of the line, on which there may be a comment. -/
def endLine? (s : List Char) : Option (List Char) :=
  let s := match skipBlanks s with
    | '#' :: comment => comment.dropWhile isPrintable
    | s => s
  match s with
  | [] => some []
  | s => newLine? s

/-- The text without blanks, comments and ends of lines at its beginning. -/
def skipTrivia (inComment : Bool) : List Char → Option (List Char)
  | [] => if inComment then none else some []
  | '\n' :: rest => skipTrivia false rest
  | '\r' :: '\n' :: rest => skipTrivia false rest
  | c :: rest =>
      if inComment then if isPrintable c then skipTrivia true rest else none
      else if isBlank c then skipTrivia false rest
      else if c = '#' then skipTrivia true rest
      else some (c :: rest)

def isBareChar (c : Char) : Bool := c.isAlphanum || c = '-' || c = '_'

def name? (s : List Char) : Option (String × List Char) :=
  match s with
  | '"' :: rest => (basic? 0 rest).map fun (text, rest) => (String.ofList text, rest)
  | '\'' :: rest => (literal? rest).map fun (text, rest) => (String.ofList text, rest)
  | s =>
      let bare := s.takeWhile isBareChar
      if bare.isEmpty then none else some (String.ofList bare, s.dropWhile isBareChar)

/-- A key with at most so many names, and blanks around each of them. -/
def key? : (limit : Nat) → List Char → Option (Key × List Char)
  | 0, _ => none
  | limit + 1, s => do
      let (first, rest) ← name? (skipBlanks s)
      match skipBlanks rest with
      | '.' :: rest =>
          let (key, rest) ← key? limit rest
          return (⟨first :: key.path, key.name⟩, rest)
      | rest => return (⟨[], first⟩, rest)

mutual

/-- A value that can have so many levels, with at most `fuel` calls. -/
def value? : (fuel levels : Nat) → List Char → Option (Json × List Char)
  | 0, _, _ => none
  | fuel + 1, levels, s =>
      match s with
      | '[' :: rest => do
          if levels = 0 then none
          let (items, rest) ← items? fuel (levels - 1) rest
          return (.array items, rest)
      | '{' :: rest => do
          if levels = 0 then none
          match skipBlanks rest with
          | '}' :: rest => return (.object [], rest)
          | rest =>
              let (entries, rest) ← entries? fuel (levels - 1) [] rest
              return (.object (Node.fields entries), rest)
      | 't' :: 'r' :: 'u' :: 'e' :: rest => some (.bool true, rest)
      | 'f' :: 'a' :: 'l' :: 's' :: 'e' :: rest => some (.bool false, rest)
      | s =>
          match quoted? s with
          | some (text, rest) => some (.text (String.ofList text), rest)
          | none => number? s

/-- The items of a list, after its opening bracket or a comma. -/
def items? : (fuel levels : Nat) → List Char → Option (List Json × List Char)
  | 0, _, _ => none
  | fuel + 1, levels, s => do
      match ← skipTrivia false s with
      | ']' :: rest => return ([], rest)
      | s =>
          let (first, s) ← value? fuel levels s
          match ← skipTrivia false s with
          | ',' :: rest =>
              let (later, rest) ← items? fuel levels rest
              return (first :: later, rest)
          | ']' :: rest => return ([first], rest)
          | _ => none

/-- The entries of a table on one line, added to those before them. -/
def entries? : (fuel levels : Nat) → Entries → List Char → Option (Entries × List Char)
  | 0, _, _, _ => none
  | fuel + 1, levels, entries, s => do
      let (key, value, s) ← assignment? fuel levels s
      let entries ← Entries.assign? key.path key.name value (.header, entries)
      match skipBlanks s with
      | ',' :: rest => entries? fuel levels entries rest
      | '}' :: rest => return (entries, rest)
      | _ => none

def assignment? : (fuel levels : Nat) → List Char → Option (Key × Json × List Char)
  | 0, _, _ => none
  | fuel + 1, levels, s => do
      let (key, s) ← key? deepest s
      match s with
      | '=' :: rest =>
          let (value, rest) ← value? fuel levels (skipBlanks rest)
          return (key, value, rest)
      | _ => none

end

def statement? (s : List Char) : Option (Statement × List Char) := do
  match s with
  | '[' :: '[' :: s =>
      match ← key? deepest s with
      | (key, ']' :: ']' :: rest) => return (.openNext key, rest)
      | _ => none
  | '[' :: s =>
      match ← key? deepest s with
      | (key, ']' :: rest) => return (.openTable key, rest)
      | _ => none
  | s =>
      let (key, value, rest) ← assignment? (2 * s.length + 2) deepest s
      return (.assign key value, rest)

/-- The statements of a document, on at most `fuel` lines. -/
def statements? : (fuel : Nat) → List Char → Option (List Statement)
  | 0, _ => none
  | fuel + 1, s => do
      match skipBlanks s with
      | [] => return []
      | s =>
          match endLine? s with
          | some rest => statements? fuel rest
          | none =>
              let (statement, s) ← statement? s
              return statement :: (← statements? fuel (← endLine? s))

end Reader

/-- A document that is being read: its tables, and the one that was opened last. -/
structure Document where
  entries : Entries
  opened : List String

namespace Document

def extend? (document : Document) : Statement → Option Document
  | .openTable key => do
      return ⟨← document.entries.openTable? key.path key.name, key.path ++ [key.name]⟩
  | .openNext key => do
      return ⟨← document.entries.openNext? key.path key.name, key.path ++ [key.name]⟩
  | .assign key value => do
      let entries ← document.entries.assignIn? document.opened key.path key.name value
      return ⟨entries, document.opened⟩

end Document

/-- The value of a document; none if it is malformed. -/
def read? (text : String) : Option Json := do
  let s := match text.toList with
    | '\uFEFF' :: rest => rest
    | s => s
  let statements ← Reader.statements? (s.length + 1) s
  let document ← statements.foldlM Document.extend? ⟨[], []⟩
  return .object (Node.fields document.entries)

end Listmaster.Toml

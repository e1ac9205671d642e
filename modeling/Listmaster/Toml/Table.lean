import Listmaster.Json.Basic

/-!
Tables in TOML, as they grow while a document is read.

A table is opened by a header, implied by the header of a table inside it, or
made by a key with dots.  Each of them can be extended in its own way only:
a header opens a table once, and a key with dots does not reach into a table
that has a header.
-/

namespace Listmaster.Toml

/-- How a table came to be. -/
inductive Origin where
  | header
  /-- The header of a table inside it named it. -/
  | implied
  | dotted
  deriving DecidableEq

/-- What is found under a name. -/
inductive Node where
  /-- A value, to which nothing can be added. -/
  | value (value : Json)
  | table (origin : Origin) (entries : List (String × Node))
  /-- A list of tables, each with a header, of which the last one grows. -/
  | tables (earlier : List (List (String × Node))) (last : List (String × Node))

/-- The names of a table, in their order, and what is found under them. -/
abbrev Entries := List (String × Node)

namespace Entries

/-- Replace what is found under a name by what `change` makes of it, or add the name. -/
def alter? (name : String) (change : Option Node → Option Node) : Entries → Option Entries
  | [] => do return [(name, ← change none)]
  | (other, node) :: rest =>
      if other = name then do return (name, ← change (some node)) :: rest
      else do return (other, node) :: (← alter? name change rest)

/-- Change the table at the end of a path.  Tables that are missing on the way are made with
this origin. -/
def change? (origin : Origin) (path : List String)
    (change : Origin × Entries → Option Entries) (self : Origin × Entries) : Option Entries :=
  match path with
  | [] => change self
  | name :: path =>
      self.2.alter? name fun
        | none => do return .table origin (← change? origin path change (origin, []))
        | some (.value _) => none
        | some (.table own entries) => do
            if origin = .dotted ∧ own = .header then none
            return .table own (← change? origin path change (own, entries))
        | some (.tables earlier last) => do
            return .tables earlier (← change? origin path change (.header, last))

def assign? (path : List String) (name : String) (value : Json) (self : Origin × Entries) :
    Option Entries :=
  change? .dotted path (fun (origin, entries) =>
    if (origin = .dotted) ↔ path ≠ [] then
      entries.alter? name fun
        | none => some (.value value)
        | some _ => none
    else none) self

def openTable? (path : List String) (name : String) (entries : Entries) : Option Entries :=
  change? .implied path (fun (_, entries) =>
    entries.alter? name fun
      | none => some (.table .header [])
      | some (.table .implied entries) => some (.table .header entries)
      | some _ => none) (.header, entries)

def openNext? (path : List String) (name : String) (entries : Entries) : Option Entries :=
  change? .implied path (fun (_, entries) =>
    entries.alter? name fun
      | none => some (.tables [] [])
      | some (.tables earlier last) => some (.tables (earlier ++ [last]) [])
      | some _ => none) (.header, entries)

/-- Give a value to a key with dots in the table that was opened last. -/
def assignIn? (table path : List String) (name : String) (value : Json) (entries : Entries) :
    Option Entries :=
  change? .implied table (fun (_, entries) => assign? path name value (.header, entries))
    (.header, entries)

end Entries

mutual

def Node.toJson : Node → Json
  | .value json => json
  | .table _ entries => .object (Node.fields entries)
  | .tables earlier last => .array (Node.objects earlier ++ [.object (Node.fields last)])

def Node.fields : List (String × Node) → List (String × Json)
  | [] => []
  | (name, node) :: rest => (name, node.toJson) :: Node.fields rest

def Node.objects : List (List (String × Node)) → List Json
  | [] => []
  | entries :: rest => .object (Node.fields entries) :: Node.objects rest

end

end Listmaster.Toml

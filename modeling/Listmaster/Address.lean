import Listmaster.Host.Ip
import Listmaster.Host.Label
import Listmaster.Sorted.Map

/-!
Mail addresses.

`Address.flaw?` is the grammar: it tells the first thing that is wrong with a
text.  An `Address` is what a text without a flaw denotes: the text with its
domain, which stands after the last `@`, in lowercase.  Addresses are the same
if their texts are, and are ordered by them.
-/

namespace Listmaster

namespace Address

/-- What is wrong with a text that is no address. -/
inductive Flaw where
  | tooLong
  | noAtSign
  | noLocalPart
  | localPartTooLong
  | unclosedQuotation
  | illegalCharacter
  | invalidIp
  | hostTooLong
  | tooManyLabels
  | label (flaw : Host.LabelFlaw)
  deriving DecidableEq

def Flaw.message (flaw : Flaw) (text : String) : String :=
  match flaw with
  | tooLong => s!"'{text}' is too long for an email address"
  | noAtSign => s!"'{text}' does not have an @ sign"
  | noLocalPart => s!"'{text}' does not have a user local part"
  | localPartTooLong => s!"the user local part in '{text}' is too long"
  | unclosedQuotation => s!"'{text}' has an unclosed quotation mark"
  | illegalCharacter => s!"'{text}' contains an illegal character"
  | invalidIp => s!"'{text}' contains an invalid IP address"
  | hostTooLong => s!"'{text}' is too long"
  | tooManyLabels => s!"'{text}' contains too many labels"
  | label .empty => s!"'{text}' contains an empty label"
  | label .tooLong => s!"'{text}' has a label that is too long"
  | label .numericTopLevel => s!"'{text}' has a numeric TLD"
  | label .start => s!"'{text}' has a label that does not start with an alphanumeric character"
  | label .ending => s!"'{text}' has a label that does not end with an alphanumeric character"
  | label .illegalCharacter => s!"'{text}' contains an illegal character"

/-- The characters that need no quotation marks around a local part. -/
def isPlain (c : Char) : Bool :=
  c.isAlphanum || 0x7F < c.toNat || "-!#$%&'*+/=?^_`\x7b|\x7d~".toList.contains c

def isQuotable (c : Char) : Bool :=
  isPlain c || "\". (),\\:;<>@[]".toList.contains c

/-- The first flaw of what follows the first quotation mark of a local part. -/
def quotedFlaw? : List Char → Option Flaw
  | [] => some .unclosedQuotation
  | [last] => if last = '"' then none else some .unclosedQuotation
  | c :: rest => if isQuotable c then quotedFlaw? rest else some .illegalCharacter

/-- The first flaw of what follows the first character of a local part without quotation
marks. -/
def unquotedFlaw? : List Char → Option Flaw
  | [] => none
  | [last] => if isPlain last then none else some .illegalCharacter
  | c :: rest => if isPlain c || c = '.' then unquotedFlaw? rest else some .illegalCharacter

def localPartFlaw? (s : List Char) : Option Flaw :=
  match s with
  | [] => some .noLocalPart
  | first :: rest =>
      if 65 < s.length then some .localPartTooLong
      else if first = '"' then
        if rest.length ≤ 1 then some .unclosedQuotation else quotedFlaw? rest
      else if first = ' ' ∨ first = '.' ∨ Text.occursIn ['.', '.'] s = true then
        some .illegalCharacter
      else unquotedFlaw? rest

def bracketed? : List Char → Option (List Char)
  | '[' :: rest => if rest.getLast? = some ']' then some rest.dropLast else none
  | _ => none

def dropRootDot (s : List Char) : List Char :=
  if s.getLast? = some '.' then s.dropLast else s

def hostFlaw? (s : List Char) : Option Flaw :=
  match bracketed? s with
  | some inside => if Host.isIp inside then none else some .invalidIp
  | none =>
      let name := dropRootDot s
      let labels := Text.pieces '.' name
      if 1 < labels.length ∧ 253 < name.length then some .hostTooLong
      else if 127 < labels.length then some .tooManyLabels
      else (Host.labelsFlaw? labels).map .label

def flaw? (s : List Char) : Option Flaw :=
  if 254 < s.length then some .tooLong
  else
    match Text.splitLast? '@' s with
    | none => some .noAtSign
    | some (localPart, host) => (localPartFlaw? localPart).or (hostFlaw? host)

def canonical (s : List Char) : List Char :=
  match Text.splitLast? '@' s with
  | none => s
  | some (localPart, domain) => localPart ++ '@' :: domain.map Char.toLower

end Address

structure Address where
  full : String
  /-- It is what some text without a flaw denotes. -/
  isCanonical : ∃ s, Address.flaw? s = none ∧ Address.canonical s = full.toList

namespace Address

/-- A text that is no address. -/
structure Invalid where
  text : String
  flaw : Flaw
  deriving DecidableEq

def Invalid.message (invalid : Invalid) : String :=
  s!"'{invalid.text}' is not a valid address: {invalid.flaw.message invalid.text}"

def parse (text : String) : Except Invalid Address :=
  match sound : flaw? text.toList with
  | some flaw => .error ⟨text, flaw⟩
  | none =>
      .ok ⟨String.ofList (canonical text.toList), text.toList, sound, String.toList_ofList.symm⟩

def parse? (text : String) : Option Address := (parse text).toOption

theorem eq_of_full {a b : Address} (same : a.full = b.full) : a = b := by
  cases a; cases b; cases same; rfl

instance : DecidableEq Address := fun a b =>
  decidable_of_iff (a.full = b.full) ⟨eq_of_full, fun same => same ▸ rfl⟩

instance : Ord Address := ⟨fun a b => compare a.full b.full⟩

theorem compare_def (a b : Address) : compare a b = compare a.full b.full := rfl

instance : Std.TransOrd Address where
  eq_swap {a b} := (Std.OrientedCmp.eq_swap : compare a.full b.full = _)
  isLE_trans {a b c} less more := by
    rw [compare_def] at *
    exact Std.TransCmp.isLE_trans less more

instance : Std.LawfulEqOrd Address where
  compare_self {a} := (Std.ReflCmp.compare_self : compare a.full a.full = .eq)
  eq_of_compare {a b} same := by
    rw [compare_def] at same
    exact eq_of_full (Std.LawfulEqCmp.eq_of_compare same)

def domain (a : Address) : String :=
  match Text.splitLast? '@' a.full.toList with
  | none => ""
  | some (_, domain) => String.ofList domain

end Address

abbrev AddressSet := SortedSet Address

end Listmaster

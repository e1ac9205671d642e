import Listmaster.Mail

/-!
The loop guard: the lists that a mail has been through.

It is kept in an attribute of the mail and travels with it, so that a list that
is met again is not expanded again.
-/

namespace Listmaster

/-- The lists that a mail has been through. -/
structure LoopGuard where
  recorded : AddressSet
  deriving DecidableEq

namespace LoopGuard

def attributeName : String := "vsmtp.mailing-list.recorded-recipients"

def empty : LoopGuard := ⟨∅⟩

instance : Inhabited LoopGuard := ⟨empty⟩

def wasVisited (guard : LoopGuard) (list : Address) : Bool := guard.recorded.contains list

def record (guard : LoopGuard) (list : Address) : LoopGuard := ⟨guard.recorded.insert list⟩

def merge (guard other : LoopGuard) : LoopGuard := ⟨guard.recorded ∪ other.recorded⟩

/-- The lists that a value of the attribute records, if it is a list of addresses. -/
def ofValue? (value : JsonValue) : Option LoopGuard := do
  let addresses ← value.json.list? fun item => item.text?.bind Address.parse?
  return ⟨.ofList addresses⟩

def toValue (guard : LoopGuard) : JsonValue :=
  .texts (guard.recorded.toList.map Address.full)

/-- The guard of a mail; none if the attribute is there but records no addresses. -/
def load? (mail : Mail) : Option LoopGuard :=
  match mail.attributes.get? attributeName with
  | none => some empty
  | some value => ofValue? value

/-- The guard of a mail; a malformed record counts as none. -/
def load (mail : Mail) : LoopGuard := (load? mail).getD empty

/-- Record the lists of the guard in a mail.  Without lists the mail stays as it is. -/
def store (guard : LoopGuard) (mail : Mail) : Mail :=
  if guard.recorded.isEmpty then mail else mail.setAttribute attributeName guard.toValue

end LoopGuard

end Listmaster

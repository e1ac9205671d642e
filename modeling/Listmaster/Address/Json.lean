import Listmaster.Address
import Listmaster.Json.Basic

/-!
Addresses in JSON: an address is its text, a set of addresses their list.
-/

namespace Listmaster

namespace Address

def toJson (address : Address) : Json := .text address.full

def ofJson? (value : Json) : Option Address := value.text?.bind parse?

end Address

namespace AddressSet

def toJson (addresses : AddressSet) : Json := .array (addresses.toList.map Address.toJson)

/-- The set of the addresses in a list, which may repeat them. -/
def ofJson? (value : Json) : Option AddressSet :=
  (value.list? Address.ofJson?).map SortedSet.ofList

end AddressSet

end Listmaster

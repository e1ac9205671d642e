import Listmaster.Address
import Listmaster.Text.Case

/-!
Domains, which are compared without regard to case and to dots at the end.
-/

namespace Listmaster.Domain

def withoutRoot (domain : String) : String :=
  String.ofList (Text.trimEnd (· = '.') domain.toList)

/-- The form of a domain by which it is compared: in lowercase, without dots at the end. -/
def normalize (domain : String) : String :=
  String.ofList ((Text.trimEnd (· = '.') domain.toList).map Char.toLower)

end Listmaster.Domain

namespace Listmaster.Address

/-- Whether the domain of the address is `domain`, which may end with dots. -/
def isInDomain (a : Address) (domain : String) : Bool :=
  Text.sameIgnoringCase a.domain (Domain.withoutRoot domain)

end Listmaster.Address

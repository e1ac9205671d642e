import Listmaster.Category
import Listmaster.Domain

/-!
Who may post to a list.

The members and the owners of the list are asked for only where the policy needs
them, and what they are is left to a `Membership`, in any monad.
-/

namespace Listmaster

/-- What is known about a mail to a list. -/
structure Posting where
  list : Address
  sender : Option Address
  isSenderLocal : Bool
  servingDomain : String

/-- The members and the owners of a list. -/
structure Membership (m : Type → Type) where
  members : m AddressSet
  owners : m AddressSet

/-- What becomes of a mail to a list. -/
inductive Resolution where
  | resolved (members : AddressSet)
  /-- It may not be posted to these lists. -/
  | rejected (lists : AddressSet)

/-- How the lists are treated whose category is not recognized. -/
structure Authorization where
  fallback : Option Category
  deriving DecidableEq

namespace Authorization

/-- The category that is applied to a list; without one every sender is rejected. -/
def effective (authorization : Authorization) : Category → Option Category
  | .unrecognized => authorization.fallback.filter (· != .unrecognized)
  | category => some category

variable {m : Type → Type} [Monad m]

/-- Whether the mail may be posted to a list of this category. -/
def isAllowed (authorization : Authorization) (category : Category) (posting : Posting)
    (membership : Membership m) : m Bool :=
  match authorization.effective category, posting.sender with
  | none, _ => pure false
  | some category, none => pure (category == .everyone)
  | some category, some sender =>
      match category with
      | .everyone => pure true
      | .internal | .anyLocal => pure posting.isSenderLocal
      | .domainRestricted => pure (sender.isInDomain posting.servingDomain)
      | .memberRestricted => do return (← membership.members).contains sender
      | .ownerRestricted => do
          let owners ← membership.owners
          return !owners.isEmpty && owners.contains sender
      | .unrecognized => pure false

/-- The members of the list if the mail may be posted to it. -/
def authorize (authorization : Authorization) (category : Category) (posting : Posting)
    (membership : Membership m) : m Resolution := do
  if ← authorization.isAllowed category posting membership then
    return .resolved (← membership.members)
  else
    return .rejected (.singleton posting.list)

end Authorization

end Listmaster

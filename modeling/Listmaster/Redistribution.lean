import Listmaster.Mail

/-!
Redistribution: which recipients a mail gets.

Each recipient has an outcome.  A list that is expanded is replaced by its
members, at its place, without those that are recipients already; the rejected
recipients go to a copy of the mail.
-/

namespace Listmaster

/-- What happens to a recipient. -/
inductive Outcome where
  | keep
  /-- It is a list that was expanded before, and goes. -/
  | drop
  | expand (members : AddressSet)
  /-- It is a list to which the sender may not post. -/
  | reject
  deriving DecidableEq

/-- The recipients that were placed so far. -/
structure Redistribution where
  present : AddressSet
  continuing : List Recipient
  rejected : List Recipient
  /-- The first list through which each address gets the mail. -/
  lists : SortedMap Address Address

namespace Redistribution

/-- Nothing is placed yet; the recipients that stay are present. -/
def start (recipients : List (Recipient × Outcome)) : Redistribution where
  present := .ofList ((recipients.filter (·.2 = .keep)).map (·.1.address))
  continuing := []
  rejected := []
  lists := ∅

def addMember (list : Address) (state : Redistribution) (member : Address) : Redistribution :=
  let lists :=
    if (state.lists.get? member).isSome then state.lists
    else state.lists.insert member list
  if state.present.contains member then { state with lists }
  else
    { state with
      lists
      present := state.present.insert member
      continuing := state.continuing ++ [.ofAddress member] }

def apply (state : Redistribution) : Recipient × Outcome → Redistribution
  | (recipient, .keep) => { state with continuing := state.continuing ++ [recipient] }
  | (_, .drop) => state
  | (recipient, .reject) =>
      if state.rejected.any (·.address = recipient.address) then state
      else { state with rejected := state.rejected ++ [recipient] }
  | (recipient, .expand members) => members.toList.foldl (addMember recipient.address) state

/-- A recipient with the list through which it gets the mail, if there is one. -/
def annotate (state : Redistribution) (recipient : Recipient) : Recipient :=
  match state.lists.get? recipient.address with
  | some list => recipient.annotateOnce list
  | none => recipient

end Redistribution

/-- The two mails that a mail is split into. -/
structure Split where
  continuing : Mail
  /-- The copy for the rejected recipients, if there are any. -/
  rejected : Option Mail
  deriving DecidableEq

/-- Redistribute the recipients of a mail.  The copy for the rejected ones is handled by
`rejectedState`. -/
def Mail.redistribute (mail : Mail) (outcomes : List Outcome) (rejectedState : MailState) : Split :=
  let recipients := mail.recipients.zip outcomes
  let state := recipients.foldl Redistribution.apply (.start recipients)
  let continuing := state.continuing.map state.annotate
  { continuing :=
      { mail with
        recipients := continuing
        state := if continuing.isEmpty then .ghost else mail.state }
    rejected :=
      if state.rejected.isEmpty then none
      else some (mail.duplicate state.rejected rejectedState) }

end Listmaster

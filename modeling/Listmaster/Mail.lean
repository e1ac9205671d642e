import Listmaster.Address
import Listmaster.Json.Basic
import Listmaster.Text.Case

/-!
Mails on their way through a pipeline of processors.

A mail names the processor that handles it next, carries its recipients with
the headers that each of them gets, and has attributes, in which processors
leave notes for later ones.
-/

namespace Listmaster

/-- The processor that handles a mail next, by its name.  Three names are reserved: as where a state
is read, each of them stands for the reserved processor and for no other. -/
structure MailState where
  name : String
  deriving DecidableEq

namespace MailState

def root : MailState := ⟨"root"⟩

def ghost : MailState := ⟨"ghost"⟩

def failed : MailState := ⟨"error"⟩

end MailState

/-- A recipient, with the headers that only this one gets. -/
structure Recipient where
  address : Address
  /-- The names and values of the headers, in their order. -/
  headers : List (String × String)
  deriving DecidableEq

namespace Recipient

def ofAddress (address : Address) : Recipient := ⟨address, []⟩

/-- The value of the first header of a name, in any case. -/
def header? (recipient : Recipient) (name : String) : Option String :=
  (recipient.headers.find? fun header => Text.sameIgnoringCase header.1 name).map Prod.snd

/-- Set the value of the first header of a name, or add a header at the end. -/
def setIn (name value : String) : List (String × String) → List (String × String)
  | [] => [(name, value)]
  | header :: rest =>
      if Text.sameIgnoringCase header.1 name then (header.1, value) :: rest
      else header :: setIn name value rest

def setHeader (recipient : Recipient) (name value : String) : Recipient :=
  { recipient with headers := setIn name value recipient.headers }

/-- Name the list through which the recipient gets the mail. -/
def annotate (recipient : Recipient) (list : Address) : Recipient :=
  (recipient.setHeader "List-Id" s!"<{list.full}>").setHeader "List-Post"
    s!"<mailto:{list.full}>"

/-- Name the list through which the recipient gets the mail, unless one is named already. -/
def annotateOnce (recipient : Recipient) (list : Address) : Recipient :=
  if (recipient.header? "List-Id").isNone then recipient.annotate list else recipient

end Recipient

/-- The message of a mail, as it was received. -/
structure Message where
  headers : List String
  body : Option String
  deriving DecidableEq

def Message.empty : Message := ⟨[], none⟩

/-- A mail on its way. -/
structure Mail where
  id : String
  state : MailState
  sender : Option Address
  recipients : List Recipient
  message : Message
  attributes : SortedMap String JsonValue
  deriving DecidableEq

namespace Mail

def make (id : String) (sender : Option Address) (recipients : List Address) : Mail where
  id := id
  state := .root
  sender := sender
  recipients := recipients.map .ofAddress
  message := .empty
  attributes := ∅

def addresses (mail : Mail) : List Address := mail.recipients.map Recipient.address

/-- A copy of the mail for other recipients, to be handled by another processor. -/
def duplicate (mail : Mail) (recipients : List Recipient) (state : MailState) : Mail :=
  { mail with id := s!"{mail.id}-{state.name}", state, recipients }

def setAttribute (mail : Mail) (name : String) (value : JsonValue) : Mail :=
  { mail with attributes := mail.attributes.insert name value }

end Mail

end Listmaster

/-!
What a run tells the one who reads its log.
-/

namespace Listmaster

/-- How much attention a notice asks for. -/
inductive Notice.Level where
  | info
  | warning
  deriving DecidableEq

/-- Something that is told in the log. -/
inductive Notice where
  | malformedRecord
  | listAlreadyExpanded
  | unrecognizedCategory
  | listExpanded
  | senderNotAllowed
  | nestedTooDeeply
  | tooManyAddresses
  | severalGroups
  | missingEntry
  | entryWithoutAddress
  | entryWithInvalidAddress
  | tooManyReferences
  | noLocalDomain
  deriving DecidableEq

namespace Notice

/-- The level of a notice: what the sender or the loop guard decides is information, what
should be mended is a warning. -/
def level : Notice → Level
  | listAlreadyExpanded | listExpanded | senderNotAllowed => .info
  | _ => .warning

def message : Notice → String
  | malformedRecord => "Recorded recipients are malformed, ignoring them."
  | listAlreadyExpanded => "List already expanded for this mail, loop cut."
  | unrecognizedCategory => "Category of the list is not recognized."
  | listExpanded => "Mailing list expanded."
  | senderNotAllowed => "Sender is not allowed to post to the list."
  | nestedTooDeeply => "Groups are nested too deeply, the deepest ones are dropped."
  | tooManyAddresses => "Too many addresses, the expansion is truncated."
  | severalGroups => "Several groups match, using the first one."
  | missingEntry => "Referenced entry does not exist, skipping."
  | entryWithoutAddress => "Referenced entry has no address, skipping."
  | entryWithInvalidAddress => "Referenced entry has an invalid address, skipping."
  | tooManyReferences => "Too many references in the group, the remaining ones are not read."
  | noLocalDomain => "No local domain configured, no sender will be considered local."

end Notice

end Listmaster

import Listmaster.Proofs.Failure
import Listmaster.Proofs.LoopPrevention
import Listmaster.Proofs.Recording

/-!
What of a nested group makes a difference.

A survey sees of a group its members only, and the rest of a group is looked at where its list is
a recipient.  So another directory that gives all groups the same members, and those of the
recipients the same category and owners, makes no difference to a run:
`Service.process_of_reshapes`.
-/

namespace Listmaster

namespace Service

/-- The directory knows the groups of the service with the same members, those of these
recipients with the same category and owners too. -/
structure Reshapes (service : Service) (directory : Directory) (recipients : List Address) :
    Prop where
  members : ∀ x, SameMembers (service.lookup x) ((service.withDirectory directory).lookup x)
  rights : ∀ recipient ∈ recipients, ∀ group reshaped,
    service.lookup recipient = .ok (some group) →
    (service.withDirectory directory).lookup recipient = .ok (some reshaped) →
    reshaped.category = group.category ∧ reshaped.owners = group.owners

variable {service : Service} {directory : Directory} {recipients : List Address}
  {sender : Option Address} {guard : LoopGuard} {recipient : Address}

namespace Reshapes

variable (reshapes : service.Reshapes directory recipients)
include reshapes

theorem groupAt (x : Address) :
    SameMembers (service.resolver.groupAt x)
      ((service.withDirectory directory).resolver.groupAt x) := by
  cases candidate : service.resolver.classifier.isCandidate x with
  | true =>
      have answer := reshapes.members x
      rwa [← groupAt_eq_lookup candidate,
        ← @groupAt_eq_lookup (service.withDirectory directory) x candidate] at answer
  | false =>
      have none : (service.withDirectory directory).resolver.groupAt x = .ok none :=
        Resolver.groupAt_of_not_candidate candidate
      rw [Resolver.groupAt_of_not_candidate candidate, none]
      rfl

theorem verdict (here : recipient ∈ recipients) :
    (service.withDirectory directory).verdict sender guard recipient =
      service.verdict sender guard recipient := by
  apply verdict_withDirectory
  · intro references
    exact (Survey.explore_congr fun _ _ x _ => reshapes.groupAt x).symm
  · intro _
    exact reshapes.groupAt recipient
  · intro group reshaped answer answerToo _
    have candidate := Resolver.isCandidate_of_groupAt answer
    rw [groupAt_eq_lookup candidate] at answer
    rw [@groupAt_eq_lookup (service.withDirectory directory) recipient candidate] at answerToo
    exact reshapes.rights recipient here group reshaped answer answerToo

end Reshapes

/-- With a directory that knows the same members of all groups, and the same category and owners
of the groups that a mail is addressed to, the same becomes of the mail. -/
theorem process_of_reshapes (service : Service) (directory : Directory) (mail : Mail)
    (reshapes : service.Reshapes directory mail.addresses) :
    ((service.withDirectory directory).process mail).mail = (service.process mail).mail ∧
      ((service.withDirectory directory).process mail).outcome =
        (service.process mail).outcome :=
  process_withDirectory_of_verdict fun _ here => reshapes.verdict here

end Service

namespace Sample

/-- The group at another place.  If it was open, it is now for its owners, of whom there are
none. -/
def relocate (group : Group) : Group :=
  if group.category = some "open" then ⟨"cn=elsewhere", some "owner", group.members, ∅⟩
  else { group with location := "cn=elsewhere" }

/-- The directory of the guild with all groups at another place. -/
def relocated : Directory := fun question =>
  let answer := guild.resolver.directory question
  { answer with outcome := answer.outcome.map (Option.map relocate) }

theorem members_relocate (group : Group) : (relocate group).members = group.members := by
  unfold relocate
  split <;> rfl

theorem lookup_team :
    guild.lookup team = .ok (some (closedGroup "owner" [crew] [desk])) := by decide +kernel

theorem lookup_board :
    guild.lookup board = .ok (some (closedGroup "member" [press] [])) := by decide +kernel

theorem lookup_relocated (x : Address) :
    (guild.withDirectory relocated).lookup x = (guild.lookup x).map (Option.map relocate) := rfl

theorem reshapes_relocated : guild.Reshapes relocated appeal.addresses where
  members x := by
    rw [lookup_relocated]
    unfold SameMembers
    cases guild.lookup x with
    | error error => rfl
    | ok known => cases known <;> simp [Except.map, members_relocate]
  rights recipient here group reshaped answer answerToo := by
    have here : recipient ∈ [team, board] := here
    rw [lookup_relocated, answer] at answerToo
    cases answerToo
    rcases List.mem_pair.mp here with same | same
    · rw [same, lookup_team] at answer
      cases answer
      exact ⟨rfl, rfl⟩
    · rw [same, lookup_board] at answer
      cases answer
      exact ⟨rfl, rfl⟩

end Sample

theorem Service.process_of_reshapes_sample :
    ((Sample.guild.withDirectory Sample.relocated).process Sample.appeal).outcome =
      .ok (some (Sample.appeal.duplicate [.ofAddress Sample.board] .failed)) :=
  (Service.process_of_reshapes _ _ _ Sample.reshapes_relocated).2.trans Sample.outcome_appeal

end Listmaster

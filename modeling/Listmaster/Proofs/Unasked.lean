import Listmaster.Proofs.Conduct
import Listmaster.Proofs.Directory

/-!
A recorded list is not asked about.

An address that the guard records is not looked up in a run: its events do not tell such a
lookup, unless the directory answers another question with it.
-/

namespace Listmaster

/-- Nothing but the directory told of a lookup of the address. -/
def Session.Unasked (session : Session) (r : Resolver) (address : Address) : Prop :=
  Event.lookup (r.question address) ∈ session.events →
    r.directory.Tells (.lookup (r.question address))

variable {r : Resolver} {x address : Address}

theorem Session.Unasked.tell {session : Session} (unasked : session.Unasked r x)
    (notice : Notice) : (session.tell notice).Unasked r x := by
  intro told
  rcases Array.mem_push.mp told with before | same
  · exact unasked before
  · cases same

namespace Resolver

theorem question_injective {a b : Address} (same : r.question a = r.question b) : a = b :=
  Address.eq_of_full (Lookup.mk.inj same).2.2

theorem ask_unasked (other : address ≠ x) :
    Keeps (fun session => session.Unasked r x) (r.ask address) := by
  intro session unasked
  have events : Event.lookup (r.question x) ∈
      session.events.push (.lookup (r.question address)) ++
        (r.directory (r.question address)).events →
      r.directory.Tells (.lookup (r.question x)) := by
    intro told
    rw [← Array.mem_toList_iff, Array.toList_appendList, List.mem_append] at told
    rcases told with told | answered
    · rw [Array.mem_toList_iff] at told
      rcases Array.mem_push.mp told with before | same
      · exact unasked before
      · exact absurd (question_injective (Event.lookup.inj same)).symm other
    · exact ⟨r.question address, answered⟩
  unfold Ensures ask
  dsimp only
  cases (r.directory (r.question address)).outcome with
  | error error => exact events
  | ok known => exact events

theorem conduct_unasked {guard : LoopGuard} (recorded : x ∈ guard.recorded) :
    Conduct r guard (fun session => session.Unasked r x)
      (fun session => session.Unasked r x) := by
  apply Conduct.of_ask
  · intro session notice unasked
    exact unasked.tell notice
  · intro address session _ fresh _ unasked
    have other : address ≠ x := fun same => fresh (same ▸ recorded)
    exact ask_unasked other session unasked

end Resolver

namespace Service

/-- A run does not ask about an address that the mail records. -/
theorem process_unasked (service : Service) (mail : Mail)
    (recorded : x ∈ (LoopGuard.load mail).recorded)
    (told : Event.lookup (service.resolver.question x) ∈ (service.process mail).events) :
    service.resolver.directory.Tells (.lookup (service.resolver.question x)) := by
  have conduct := Resolver.conduct_unasked (r := service.resolver) recorded
  have empty : Session.empty.Unasked service.resolver x := nofun
  have opened : (opening mail).Unasked service.resolver x := by
    unfold opening
    split
    · exact empty.tell _
    · exact empty
  have decided := conduct.decideAll mail.sender mail.addresses (opening mail) opened
  rw [process_eq] at told
  cases result : service.decideAll mail.sender (.load mail) mail.addresses (opening mail) with
  | error error after =>
      rw [result] at told
      exact decided.of_error result told
  | ok decisions after =>
      rw [result] at told
      exact decided.of_ok result told

end Service

end Listmaster

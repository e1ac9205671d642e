import Listmaster.Directory.Static
import Listmaster.Ldap.Client
import Listmaster.Proofs.Step

/-!
What directories tell.

An answer of a directory comes with events.  Directories in memory have none, and those on
a server tell of searches and of what was odd, but of no lookups: `Client.not_tells_lookup`.
-/

namespace Listmaster

/-- An answer of the directory comes with the event. -/
def Directory.Tells (directory : Directory) (event : Event) : Prop :=
  ∃ question, event ∈ (directory question).events

theorem StaticDirectory.not_tells (directory : StaticDirectory) (event : Event) :
    ¬ directory.toDirectory.Tells event := by
  rintro ⟨question, told⟩
  cases told

theorem Directory.tells_of_withFaults {directory : Directory} {faults : Faults} {event : Event}
    (tells : (directory.withFaults faults).Tells event) : directory.Tells event := by
  obtain ⟨question, told⟩ := tells
  unfold withFaults at told
  split at told
  · cases told
  · exact ⟨question, told⟩

namespace Ldap

/-- No event is a lookup. -/
def Quiet (events : Array Event) : Prop := ∀ question, ¬ Event.lookup question ∈ events

namespace Client

variable {client : Client}

theorem push_quiet {event : Event} (other : ∀ question, Event.lookup question ≠ event) :
    Keeps Quiet (modify (·.push event) : ClientM Unit) := by
  intro events quiet question told
  rcases Array.mem_push.mp told with before | same
  · exact quiet question before
  · exact other question same

theorem tell_quiet (notice : Notice) : Keeps Quiet (ClientM.tell notice) :=
  push_quiet fun _ => nofun

theorem throw_quiet {α : Type} (error : DirectoryError) :
    Keeps Quiet (throw error : ClientM α) := fun _ quiet => quiet

theorem find_quiet (base : String) (scope : Scope) (filter : String)
    (attributes : List String) : Keeps Quiet (client.find base scope filter attributes) := by
  unfold find
  split
  · exact throw_quiet _
  · exact throw_quiet _
  · refine Keeps.bind (push_quiet ?_) ?_
    · rintro question ⟨⟩
    · intro _
      split
      · exact throw_quiet _
      · split
        · exact Keeps.pure _
        · split
          · exact Keeps.pure _
          · exact throw_quiet _

theorem readReference_quiet (groupAttribute dn : String) :
    Keeps Quiet (client.readReference groupAttribute dn) := by
  unfold readReference
  apply (find_quiet dn .base Filter.anyEntry _).bind
  intro found
  split
  · exact (tell_quiet _).bind fun _ => Keeps.pure _
  · exact Keeps.pure _
  · split
    · exact (tell_quiet _).bind fun _ => Keeps.pure _
    · dsimp only
      split
      · exact (tell_quiet _).bind fun _ => Keeps.pure _
      · exact Keeps.pure _

theorem readCapped_quiet (limit : Option Nat) {cut : ClientM Unit}
    {read : String → ClientM (Option Address)} (cutQuiet : Keeps Quiet cut)
    (readQuiet : ∀ dn, Keeps Quiet (read dn)) (names : List String) (found : AddressSet) :
    Keeps Quiet (readCapped limit cut read names found) := by
  induction names generalizing found with
  | nil => exact Keeps.pure _
  | cons dn rest inductionHypothesis =>
      unfold readCapped
      split
      · exact cutQuiet.bind fun _ => Keeps.pure _
      · apply (readQuiet dn).bind
        intro known
        split
        · exact inductionHypothesis _
        · exact inductionHypothesis found

theorem readReferences_quiet (groupAttribute : String) (entry : Entry) (attributeName : String) :
    Keeps Quiet (client.readReferences groupAttribute entry attributeName) :=
  readCapped_quiet client.maxReferences (tell_quiet _) (readReference_quiet groupAttribute) _ ∅

theorem lookup_quiet (client : Client) (question : Lookup) :
    Keeps Quiet (client.lookup question) := by
  unfold lookup
  apply (find_quiet question.base .subtree _ _).bind
  intro found
  split
  · exact Keeps.pure _
  · exact Keeps.pure _
  · have read (entry : Entry) : Keeps Quiet (client.readGroup question.attributeName entry) := by
      unfold readGroup
      apply (readReferences_quiet question.attributeName entry _).bind
      intro members
      exact (readReferences_quiet question.attributeName entry _).bind fun _ => Keeps.pure _
    dsimp only
    split
    · apply (tell_quiet _).bind
      intro _
      exact (read _).bind fun _ => Keeps.pure _
    · exact (read _).bind fun _ => Keeps.pure _

/-- A directory on a server does not tell of lookups. -/
theorem not_tells_lookup (client : Client) (question : Lookup) :
    ¬ client.toDirectory.Tells (.lookup question) := by
  rintro ⟨asked, told⟩
  have start : Quiet #[] := fun _ none => Array.not_mem_empty _ none
  have quiet := lookup_quiet client asked #[] start
  unfold toDirectory at told
  cases result : client.lookup asked #[] with
  | ok group events =>
      rw [result] at told
      exact quiet.of_ok result question (Array.mem_toList_iff.mp told)
  | error error events =>
      rw [result] at told
      exact quiet.of_error result question (Array.mem_toList_iff.mp told)

end Client

end Ldap

end Listmaster

import Listmaster.Proofs.Depth
import Listmaster.Proofs.Failure
import Listmaster.Proofs.LoopPrevention
import Listmaster.Proofs.Survey.Entering

/-!
What a run records.

`Service.Marks` tells which groups a recipient adds to the record of the mail: the recipient
itself, if the sender may post to it, and the groups that are entered for its members.  What is
looked up to decide about the sender adds nothing: neither the groups behind the owners, nor those
behind the members of a list that rejects the mail.
-/

namespace Listmaster

namespace Service

/-- A mail to the list has the group recorded. -/
def Marks (service : Service) (sender : Option Address) (guard : LoopGuard)
    (list x : Address) : Prop :=
  service.resolver.classifier.isCandidate list = true ∧ ¬ list ∈ guard.recorded ∧
    ∃ group, service.lookup list = .ok (some group) ∧
      service.MayPost sender guard list group ∧
      (x = list ∨
        Survey.Enters service.resolver.groupAt service.limits.members (service.limits.depth - 1)
          group.members.toList (.start (guard.record list)) x)

variable {service : Service} {sender : Option Address} {guard : LoopGuard} {list x : Address}

theorem expands_or_refused {decision : Decision} {group : Group}
    (decided : service.verdict sender guard list = .ok decision)
    (fresh : ¬ list ∈ guard.recorded)
    (answer : service.resolver.groupAt list = .ok (some group)) :
    (∃ survey, service.Expands sender guard list survey ∧
        service.resolver.gather service.limits group.members (guard.record list) = .ok survey) ∨
      service.accepts sender (guard.record list) list group = .ok false := by
  cases judges_of_verdict decided with
  | other other => simp [Resolver.isCandidate_of_groupAt answer] at other
  | recorded _ recorded => exact absurd recorded fresh
  | noGroup _ _ none => simp [answer] at none
  | @accepted known survey _ found accepted gathered =>
      rw [answer] at found
      cases found
      exact .inl ⟨survey, ⟨group, fresh, answer, accepted, gathered⟩, gathered⟩
  | refused _ found refused =>
      rw [answer] at found
      cases found
      exact .inr refused

/-- What an expanded list records, apart from what is recorded before. -/
theorem marks_iff_expands {decision : Decision}
    (decided : service.verdict sender guard list = .ok decision) :
    x ∈ guard.recorded ∨ service.Marks sender guard list x ↔
      x ∈ guard.recorded ∨
        ∃ survey, service.Expands sender guard list survey ∧ x ∈ survey.guard.recorded := by
  constructor
  · intro reason
    refine reason.imp_right ?_
    intro marks
    obtain ⟨candidate, fresh, group, answer, mayPost, entered⟩ := marks
    rw [← groupAt_eq_lookup candidate] at answer
    have accepted := accepts_eq_true_iff.mpr mayPost
    obtain ⟨survey, expands, gathered⟩ :=
      (expands_or_refused decided fresh answer).resolve_right (by simp [accepted])
    refine ⟨survey, expands, ?_⟩
    rcases entered with same | enters
    · exact same ▸ expands.list_recorded
    · exact enters.recorded (Survey.explore_eq_ok_iff.mp gathered)
  · intro reason
    rcases reason with before | ⟨survey, ⟨group, fresh, answer, accepted, gathered⟩, recorded⟩
    · exact .inl before
    · have candidate := Resolver.isCandidate_of_groupAt answer
      have mayPost := (accepts_iff_mayPost accepted).mp rfl
      rw [groupAt_eq_lookup candidate] at answer
      rw [(Survey.explore_eq_ok_iff.mp gathered).mem_recorded_iff_enters] at recorded
      rcases recorded with old | enters
      · rcases LoopGuard.mem_record.mp old with same | before
        · exact .inr ⟨candidate, fresh, group, answer, mayPost, .inl same⟩
        · exact .inl before
      · exact .inr ⟨candidate, fresh, group, answer, mayPost, .inr enters⟩

/-- A nested group that is recorded is the innermost one of a chain that the limits allow. -/
theorem Marks.deep (marks : service.Marks sender guard list x) (nested : x ≠ list) :
    ∃ group, service.lookup list = .ok (some group) ∧
      ∃ count, count < service.limits.depth ∧
        Deep service.resolver.groupAt (guard.record list) group.members count x := by
  obtain ⟨_, _, group, answer, _, entered⟩ := marks
  obtain ⟨count, allowed, deep⟩ := (entered.resolve_left nested).deep (.start _ _ _)
  refine ⟨group, answer, count, ?_, deep⟩
  obtain ⟨chain, _, _, _, length⟩ := deep
  simp only [List.length_cons, List.length_nil] at length allowed
  omega

/-- A run that succeeds adds to the record of the mail what its recipients record, and all groups
among that are within the depth limit.  Where all recipients stay, or when the run fails, the mail
remains as it is. -/
theorem process_records (service : Service) (mail : Mail) :
    (∀ copy, (service.process mail).outcome = .ok copy → ∀ x,
      (x ∈ (LoopGuard.load (service.process mail).mail).recorded ↔
        x ∈ (LoopGuard.load mail).recorded ∨
          ∃ list ∈ mail.addresses, service.Marks mail.sender (.load mail) list x)) ∧
      (∀ list x, service.Marks mail.sender (.load mail) list x → x ≠ list →
        ∃ group, service.lookup list = .ok (some group) ∧
          ∃ count, count < service.limits.depth ∧
            Deep service.resolver.groupAt ((LoopGuard.load mail).record list) group.members
              count x) ∧
      ((∀ recipient ∈ mail.addresses, service.Stays (.load mail) recipient) →
        (service.process mail).mail = mail) ∧
      ∀ error, (service.process mail).outcome = .error error →
        (service.process mail).mail = mail := by
  refine ⟨?_, fun list x => Marks.deep, fun stay => (process_of_stays stay).1,
    fun error => mail_process_of_error⟩
  intro copy succeeded x
  rw [mem_load_process succeeded]
  have each (list : Address) (here : list ∈ mail.addresses) :=
    have ⟨_, decided⟩ := verdict_of_process succeeded here
    marks_iff_expands (x := x) decided
  by_cases before : x ∈ (LoopGuard.load mail).recorded
  · simp only [before, true_or]
  · simp only [before, false_or] at each ⊢
    exact exists_congr fun list => and_congr_right fun here => (each list here).symm

end Service

namespace Sample

/-- A list with these members for those whom its category names. -/
def closedGroup (category : String) (members owners : List Address) : Group :=
  ⟨"", some category, .ofList members, .ofList owners⟩

/-- The desk leads the team, whose crew has the forum, which is too deep.  The press is on the
board. -/
def guild : Service :=
  service.withDirectory
    ((((((StaticDirectory.empty.withGroup team (closedGroup "owner" [crew] [desk])).withGroup
      desk (openGroup [writer])).withGroup crew (openGroup [forum, reader])).withGroup
      forum (openGroup [reader])).withGroup board (closedGroup "member" [press] [])).withGroup
      press (openGroup [reader])).toDirectory

/-- The writer may post to the team, but not to the board. -/
def appeal : Mail := .make "3" (some writer) [team, board]

theorem outcome_appeal :
    (guild.process appeal).outcome = .ok (some (appeal.duplicate [.ofAddress board] .failed)) := by
  decide +kernel

theorem load_appeal :
    (LoopGuard.load (guild.process appeal).mail).recorded = .ofList [team, crew] := by
  decide +kernel

end Sample

open Sample in
theorem Service.process_records_sample :
    (guild.process appeal).outcome = .ok (some (appeal.duplicate [.ofAddress board] .failed)) ∧
      ∀ x, (∃ list ∈ appeal.addresses, guild.Marks (some writer) .empty list x) ↔
        x = team ∨ x = crew := by
  refine ⟨outcome_appeal, fun x => ?_⟩
  have after := (Service.process_records guild appeal).1 _ outcome_appeal x
  have before : ¬ x ∈ (LoopGuard.load appeal).recorded := SortedSet.not_mem_empty x
  rw [load_appeal, or_iff_right before, SortedSet.mem_ofList, List.mem_pair] at after
  exact after.symm

end Listmaster

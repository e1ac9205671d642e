import Listmaster.Proofs.Delivery
import Listmaster.Proofs.Description
import Listmaster.Proofs.Exactness
import Listmaster.Proofs.Recording

/-!
Who may post, with different records.

The members or owners by which a list decides are expanded like those that get the mail, so that
groups recorded before are cut here too: a member may be refused because a nested group was
expanded earlier (`Service.process_refuses_member`).  The record makes no difference where it
agrees on what these references reach (`Service.process_accepts_alike`), and where the limits leave
room a larger record gives nobody the right to post (`Service.Roomy.mayPost_mono`).
-/

namespace Listmaster

namespace Survey

variable {groupAt : Lookups} {limit levels : Nat} {references : List Address}
  {near : Address → Prop} {s t : Survey} {address list : Address}

/-- Two surveys found the same, and record the same among these addresses. -/
structure Alike (near : Address → Prop) (s t : Survey) : Prop where
  recorded : ∀ x, near x → (x ∈ s.guard.recorded ↔ x ∈ t.guard.recorded)
  found : s.found = t.found
  isTruncated : s.isTruncated = t.isTruncated

namespace Alike

variable (alike : Alike near s t)
include alike

theorem skips (here : near address) : s.skips address = t.skips address := by
  rw [Bool.eq_iff_iff, skips_iff, skips_iff, alike.isTruncated, alike.recorded address here]

theorem passOver : Alike near s.passOver t.passOver :=
  ⟨alike.recorded, alike.found, alike.isTruncated⟩

theorem enter (address : Address) : Alike near (s.enter address) (t.enter address) where
  recorded x here := by
    change x ∈ (s.guard.record address).recorded ↔ x ∈ (t.guard.record address).recorded
    rw [LoopGuard.mem_record, LoopGuard.mem_record, alike.recorded x here]
  found := alike.found
  isTruncated := alike.isTruncated

theorem add (limit : Nat) (address : Address) :
    Alike near (s.add limit address) (t.add limit address) := by
  have recorded (x : Address) (here : near x) :
      x ∈ (s.add limit address).guard.recorded ↔ x ∈ (t.add limit address).guard.recorded := by
    rw [guard_add, guard_add, alike.recorded x here]
  refine ⟨recorded, ?_, ?_⟩
  all_goals
    unfold Survey.add
    rw [alike.found]
    split
    · simp [alike.isTruncated]
    · split <;> simp [alike.found, alike.isTruncated]

end Alike

/-- Both surveys fail with the same error, or both end, alike. -/
inductive EndAlike (near : Address → Prop) :
    Except DirectoryError Survey → Except DirectoryError Survey → Prop
  | failed (error : DirectoryError) : EndAlike near (.error error) (.error error)
  | ended {s t : Survey} : Alike near s t → EndAlike near (.ok s) (.ok t)

namespace EndAlike

variable {first second : Except DirectoryError Survey}

theorem found (ends : EndAlike near first second) :
    first.map Survey.found = second.map Survey.found := by
  cases ends with
  | failed error => rfl
  | ended alike => exact congrArg Except.ok alike.found

theorem of_error {error : DirectoryError} (ends : EndAlike near (.error error) second) :
    second = .error error := by
  cases ends
  rfl

theorem of_ok (ends : EndAlike near (.ok s) second) :
    ∃ t, second = .ok t ∧ Alike near s t := by
  cases ends with
  | ended alike => exact ⟨_, rfl, alike⟩

end EndAlike

/-- Surveys go on alike that have recorded the list, if their records agree on all that they come
to. -/
theorem explore_alike
    (closed : ∀ outer group member, near outer → outer ≠ list →
      groupAt outer = .ok (some group) → member ∈ group.members → near member)
    (start : ∀ reference ∈ references, near reference)
    (recorded : list ∈ s.guard.recorded) (alike : Alike near s t) :
    EndAlike near (explore groupAt limit levels references s)
      (explore groupAt limit levels references t) := by
  fun_induction explore groupAt limit levels references s generalizing t with
  | case1 =>
      rw [explore]
      exact .ended alike
  | case2 levels address rest s skipped along =>
      rw [alike.skips (start address List.mem_cons_self)] at skipped
      rw [explore, if_pos skipped]
      exact along (fun _ later => start _ (List.mem_cons_of_mem _ later)) recorded alike
  | case3 levels address rest s visited error failed =>
      rw [alike.skips (start address List.mem_cons_self)] at visited
      rw [explore, if_neg visited, failed]
      exact .failed error
  | case4 levels address rest s visited leaf along =>
      rw [alike.skips (start address List.mem_cons_self)] at visited
      rw [explore, if_neg visited, leaf]
      apply along (fun _ later => start _ (List.mem_cons_of_mem _ later)) _ (alike.add _ _)
      rwa [guard_add]
  | case5 address rest s visited group found along =>
      rw [alike.skips (start address List.mem_cons_self)] at visited
      rw [explore, if_neg visited, found]
      exact along (fun _ later => start _ (List.mem_cons_of_mem _ later)) recorded alike.passOver
  | case6 address rest s visited group found levels error failed inside =>
      have here := start address List.mem_cons_self
      have other : address ≠ list := fun same => not_mem_of_not_skips visited (same ▸ recorded)
      have ends := inside (fun member => closed address group member here other found)
        (subset_enter s address list recorded) (alike.enter address)
      rw [alike.skips here] at visited
      rw [failed] at ends
      rw [explore, if_neg visited, found]
      simp only [ends.of_error]
      exact .failed error
  | case7 address rest s visited group found levels entered explored inside along =>
      have here := start address List.mem_cons_self
      have other : address ≠ list := fun same => not_mem_of_not_skips visited (same ▸ recorded)
      have entering := subset_enter s address list recorded
      have ends := inside (fun member => closed address group member here other found) entering
        (alike.enter address)
      rw [alike.skips here] at visited
      rw [explored] at ends
      obtain ⟨_, exploredToo, still⟩ := ends.of_ok
      rw [explore, if_neg visited, found]
      simp only [exploredToo]
      exact along (fun _ later => start _ (List.mem_cons_of_mem _ later))
        ((explore_eq_ok_iff.mp explored).growth.guard list entering) still

end Survey

namespace Service

/-- The records agree on what the references reach past the list. -/
def Agree (service : Service) (list : Address) (references : AddressSet)
    (first second : LoopGuard) : Prop :=
  ∀ x, ReachedFrom service.resolver.groupAt (LoopGuard.empty.record list) references x →
    (x ∈ first.recorded ↔ x ∈ second.recorded)

/-- The list, or what the references reach past it. -/
def Around (service : Service) (list : Address) (references : AddressSet) (x : Address) : Prop :=
  x = list ∨ ReachedFrom service.resolver.groupAt (LoopGuard.empty.record list) references x

variable {service : Service} {sender : Option Address} {guard larger first second : LoopGuard}
  {list author x : Address} {group : Group} {references : AddressSet} {mail : Mail}

theorem not_mem_record_empty (other : x ≠ list) :
    ¬ x ∈ (LoopGuard.empty.record list).recorded := by
  simp [LoopGuard.mem_record, LoopGuard.not_mem_empty, other]

theorem around_of_mem (here : x ∈ references) : service.Around list references x := by
  by_cases itself : x = list
  · exact .inl itself
  · exact .inr ⟨x, here, .self (not_mem_record_empty itself)⟩

theorem Around.member {member : Address} (around : service.Around list references x)
    (other : x ≠ list) (answer : service.resolver.groupAt x = .ok (some group))
    (among : member ∈ group.members) : service.Around list references member := by
  obtain ⟨root, start, reaches⟩ := around.resolve_left other
  by_cases itself : member = list
  · exact .inl itself
  · exact .inr ⟨root, start, reaches.trans
      (.member (not_mem_record_empty other) answer among (.self (not_mem_record_empty itself)))⟩

theorem Agree.alike (agree : service.Agree list references first second) :
    Survey.Alike (service.Around list references) (.start (first.record list))
      (.start (second.record list)) where
  recorded x around := by
    change x ∈ (first.record list).recorded ↔ x ∈ (second.record list).recorded
    rw [LoopGuard.mem_record, LoopGuard.mem_record]
    rcases around with itself | reached
    · simp [itself]
    · rw [agree x reached]
  found := rfl
  isTruncated := rfl

theorem Agree.gather (agree : service.Agree list references first second) :
    (service.resolver.gather service.limits references (first.record list)).map Survey.found =
      (service.resolver.gather service.limits references (second.record list)).map
        Survey.found := by
  have recorded : list ∈ (first.record list).recorded := LoopGuard.mem_record.mpr (.inl rfl)
  apply Survey.EndAlike.found
  exact Survey.explore_alike
    (fun outer group member around other answer => around.member other answer)
    (fun reference => around_of_mem) recorded agree.alike

/-- The record matters to a decision only by what is expanded for it. -/
theorem accepts_congr
    (same : ∀ references, service.decisive? sender group = some references →
      (service.resolver.gather service.limits references first).map Survey.found =
        (service.resolver.gather service.limits references second).map Survey.found) :
    service.accepts sender first list group = service.accepts sender second list group := by
  unfold decisive? at same
  unfold accepts
  cases policy : service.policy group with
  | none => rfl
  | some category =>
      rw [policy] at same
      cases sender with
      | none => cases category <;> rfl
      | some author =>
          cases category with
          | memberRestricted => simp only [same group.members rfl]
          | ownerRestricted => simp only [same group.owners rfl]
          | _ => rfl

theorem accepts_of_decisive
    (decisive : service.decisive? (some author) group = some references) :
    service.accepts (some author) guard list group =
      (service.resolver.gather service.limits references guard).map fun survey =>
        survey.found.contains author := by
  have composed (result : Except DirectoryError Survey) :
      (result.map Survey.found).map (fun found => found.contains author) =
        result.map fun survey => survey.found.contains author := by
    cases result <;> rfl
  unfold decisive? at decisive
  unfold accepts
  cases policy : service.policy group with
  | none => simp [policy] at decisive
  | some category =>
      cases category with
      | memberRestricted | ownerRestricted =>
          simp only [policy, Option.some.injEq] at decisive
          rw [← decisive]
          exact composed _
      | _ => simp [policy] at decisive

theorem rejected_iff_of_only (only : mail.addresses = [list])
    (fresh : ¬ list ∈ (LoopGuard.load mail).recorded)
    (answer : service.resolver.groupAt list = .ok (some group)) :
    (∃ copy, (service.process mail).outcome = .ok (some copy)) ↔
      service.accepts mail.sender ((LoopGuard.load mail).record list) list group =
        .ok false := by
  constructor
  · intro rejected
    obtain ⟨copy, succeeded⟩ := rejected
    obtain ⟨decision, decided⟩ := verdict_of_process succeeded (only ▸ List.mem_singleton.mpr rfl)
    refine (expands_or_refused decided fresh answer).resolve_left ?_
    rintro ⟨survey, expands, _⟩
    have delivered := (process_of_expands only expands).1
    rw [succeeded] at delivered
    cases delivered
  · intro refused
    obtain ⟨_, _, copy, rejected, _⟩ :=
      process_of_reject only (Judges.refused fresh answer refused).verdict
    exact ⟨copy, rejected⟩

/-- Of two mails from one sender to one list, one is accepted if and only if the other is, provided
that what they record agrees on all that the references reach by which the list decides. -/
theorem process_accepts_alike (service : Service) (mail other : Mail) (list : Address)
    (group : Group) (only : mail.addresses = [list]) (otherOnly : other.addresses = [list])
    (sender : other.sender = mail.sender)
    (fresh : ¬ list ∈ (LoopGuard.load mail).recorded)
    (otherFresh : ¬ list ∈ (LoopGuard.load other).recorded)
    (answer : service.resolver.groupAt list = .ok (some group))
    (agree : ∀ references, service.decisive? mail.sender group = some references →
      service.Agree list references (.load mail) (.load other)) :
    (service.MayPost mail.sender (.load mail) list group ↔
        service.MayPost other.sender (.load other) list group) ∧
      ((∃ copy, (service.process mail).outcome = .ok (some copy)) ↔
        ∃ copy, (service.process other).outcome = .ok (some copy)) := by
  have same : service.accepts mail.sender ((LoopGuard.load mail).record list) list group =
      service.accepts mail.sender ((LoopGuard.load other).record list) list group :=
    accepts_congr fun references decisive => (agree references decisive).gather
  constructor
  · rw [← accepts_eq_true_iff, ← accepts_eq_true_iff, same, sender]
  · rw [rejected_iff_of_only only fresh answer, rejected_iff_of_only otherOnly otherFresh answer,
      same, sender]

namespace Roomy

variable {near : Address → Prop} {groups others : AddressSet}
  (roomy : service.Roomy near groups others) (here : near list)
  (answer : service.resolver.groupAt list = .ok (some group))
include roomy here answer

/-- Where the limits leave room, an author may post who is no group and is reached past the
record. -/
theorem mayPost_iff_reached (decisive : service.decisive? (some author) group = some references)
    (start : ∀ root ∈ references, near root) :
    service.MayPost (some author) guard list group ↔
      service.resolver.groupAt author = .ok none ∧
        ReachedFrom service.resolver.groupAt (guard.record list) references author := by
  obtain ⟨survey, gathered⟩ := Survey.explore_total roomy.answers service.limits.members
    (service.limits.depth - 1) references.toList (.start (guard.record list))
  have explored := Survey.explore_eq_ok_iff.mp gathered
  have depth := roomy.depth
  obtain ⟨whole, shallow⟩ := explored.complete roomy.region roomy.members (by omega) here answer
    (LoopGuard.mem_record.mpr (.inl rfl)) start
  rw [← explored.mem_found_iff whole shallow, ← accepts_eq_true_iff, accepts_of_decisive decisive]
  change (Except.map _ (Survey.explore _ _ _ _ _)) = _ ↔ _
  rw [gathered]
  simp [Except.map]

/-- Where the limits leave room, whoever may post with a larger record may post with a smaller
one. -/
theorem mayPost_mono
    (start : ∀ references, service.decisive? sender group = some references →
      ∀ root ∈ references, near root)
    (included : guard.recorded ⊆ larger.recorded)
    (mayPost : service.MayPost sender larger list group) :
    service.MayPost sender guard list group := by
  cases decisive : service.decisive? sender group with
  | none =>
      have same : service.accepts sender (guard.record list) list group =
          service.accepts sender (larger.record list) list group :=
        accepts_congr fun references some => by simp [decisive] at some
      rwa [← accepts_eq_true_iff, same, accepts_eq_true_iff]
  | some references =>
      cases sender with
      | none => simp [decisive?] at decisive
      | some author =>
          have near := start references decisive
          rw [roomy.mayPost_iff_reached here answer decisive near] at mayPost ⊢
          obtain ⟨leaf, root, among, reaches⟩ := mayPost
          refine ⟨leaf, root, among, reaches.mono ?_⟩
          intro x recorded
          rcases LoopGuard.mem_record.mp recorded with itself | before
          · exact LoopGuard.mem_record.mpr (.inl itself)
          · exact LoopGuard.mem_record.mpr (.inr (included x before))

end Roomy

end Service

namespace Sample

/-- The writer's mail to the team, which the desk leads. -/
def petition : Mail := .make "4" (some writer) [team]

/-- The same mail after the crew got it, which is in the team. -/
def relayedPetition : Mail := (LoopGuard.empty.record crew).store petition

theorem agree_petition :
    guild.Agree team (.ofList [desk]) (.load petition) (.load relayedPetition) := by
  have deskGroup : guild.resolver.groupAt desk = .ok (some (openGroup [writer])) := by
    decide +kernel
  have writerLeaf : guild.resolver.groupAt writer = .ok none := by decide +kernel
  rintro x ⟨root, start, reaches⟩
  have root : root = desk := List.mem_singleton.mp (SortedSet.mem_ofList.mp start)
  have reached : x = desk ∨ x = writer := by
    rw [root] at reaches
    cases reaches with
    | self => exact .inl rfl
    | member _ found among further =>
        rw [deskGroup] at found
        cases found
        have member := List.mem_singleton.mp (SortedSet.mem_ofList.mp among)
        rw [member] at further
        exact .inr (further.eq_of_leaf writerLeaf).symm
  rcases reached with same | same <;> rw [same] <;> decide +kernel

/-- The crew and the reader are on the board, which is for its members. -/
def club : Service :=
  service.withDirectory ((StaticDirectory.empty.withGroup board
    (closedGroup "member" [crew, reader] [])).withGroup crew (openGroup [writer])).toDirectory

/-- The writer's mail to the board. -/
def note : Mail := .make "5" (some writer) [board]

/-- The same mail after the crew got it. -/
def relayedNote : Mail :=
  { (club.process (.make "5" (some writer) [crew])).mail with recipients := [.ofAddress board] }

end Sample

open Sample in
theorem Service.process_accepts_alike_sample :
    (guild.process petition).outcome = .ok none ∧
      ¬ ∃ copy, (guild.process relayedPetition).outcome = .ok (some copy) := by
  have answer : guild.resolver.groupAt team = .ok (some (closedGroup "owner" [crew] [desk])) := by
    decide +kernel
  have alike := Service.process_accepts_alike guild petition relayedPetition team _ rfl rfl rfl
    (by decide) (by decide) answer fun references decisive => by
      cases decisive
      exact agree_petition
  have accepted : (guild.process petition).outcome = .ok none := by decide +kernel
  refine ⟨accepted, ?_⟩
  rw [← alike.2, accepted]
  simp

open Sample in
/-- The writer is on the board through the crew, and may post to it at first, but not when the mail
has gone to the crew. -/
theorem Service.process_refuses_member :
    note.addresses = [board] ∧ relayedNote.addresses = [board] ∧
      relayedNote.sender = note.sender ∧
      ¬ board ∈ (LoopGuard.load note).recorded ∧ ¬ board ∈ (LoopGuard.load relayedNote).recorded ∧
      (club.process note).outcome = .ok none ∧
      (club.process relayedNote).outcome =
        .ok (some (relayedNote.duplicate [.ofAddress board] .failed)) := by
  refine ⟨rfl, rfl, ?_, ?_, ?_, ?_, ?_⟩ <;> decide +kernel

end Listmaster

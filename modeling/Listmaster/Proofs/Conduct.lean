import Listmaster.Proofs.Process

/-!
What the lookups of a run preserve.

Sessions change by notices and by lookups only.  A property that survives both, where the
guard does not record the address, survives walks, expansions and decisions too:
`Conduct.decideAll`.  A failed lookup ends a run, so that less may hold after it.
-/

namespace Listmaster

/-- Notices and lookups of addresses that are not recorded keep `P`, and failed lookups lead
to `Q`. -/
structure Conduct (r : Resolver) (guard : LoopGuard) (P Q : Session → Prop) : Prop where
  tell : ∀ session notice, P session → P (session.tell notice)
  resolve : ∀ address, ¬ address ∈ guard.recorded → Leads P Q (r.resolve address)

namespace Conduct

variable {P Q : Session → Prop} {guard larger : LoopGuard}

theorem of_ask {r : Resolver} (tell : ∀ session notice, P session → P (session.tell notice))
    (ask : ∀ address session, r.classifier.isCandidate address = true →
      ¬ address ∈ guard.recorded → session.memo.get? address = none → P session →
      Ensures (r.ask address) session (fun _ => P) (fun _ => Q)) :
    Conduct r guard P Q where
  tell := tell
  resolve address fresh session holds := by
    cases candidate : r.classifier.isCandidate address with
    | false => exact Ensures.intro_ok (Resolver.resolve_of_not_candidate candidate session) holds
    | true =>
        cases remembered : session.memo.get? address with
        | some known =>
            exact Ensures.intro_ok (Resolver.resolve_of_remembered candidate remembered) holds
        | none =>
            exact Ensures.of_eq (Resolver.resolve_of_unknown candidate remembered)
              (ask address session candidate fresh remembered holds)

section Expansion

variable {r : Resolver} (conduct : Conduct r guard P Q)
include conduct

/-- A walk looks up nothing that its guard records, and its guard grows. -/
theorem walk (limit levels : Nat) (references : AddressSet) :
    Leads (fun walk => guard.recorded ⊆ walk.guard.recorded ∧ P walk.session)
      (fun walk => Q walk.session) (r.walk limit levels references) := by
  -- What follows a group that is entered has fewer levels left.
  induction levels using Nat.strongRecOn generalizing references with
  | _ levels deeper =>
      rw [Resolver.walk_eq_forM]
      apply Leads.forM
      rintro address - walk ⟨included, holds⟩
      cases skipped : walk.isTruncated || walk.guard.wasVisited address with
      | true =>
          apply Ensures.intro_ok (Resolver.visitAt_of_skips limit levels skipped)
          exact ⟨included, holds⟩
      | false =>
          have fresh : ¬ address ∈ guard.recorded := by
            intro recorded
            simp [LoopGuard.wasVisited_iff.mpr (included address recorded)] at skipped
          have visit := Resolver.visitAt_of_not_skips (r := r) limit levels skipped
          have resolved := conduct.resolve address fresh walk.session holds
          cases answer : r.resolve address walk.session with
          | error error session =>
              rw [answer] at visit
              exact Ensures.intro_error visit (resolved.of_error answer)
          | ok known session =>
              rw [answer] at visit
              have still := resolved.of_ok answer
              cases known with
              | none =>
                  apply Ensures.intro_ok visit
                  rw [Walk.guard_add, Walk.session_add]
                  exact ⟨included, still⟩
              | some group =>
                  cases levels with
                  | zero => exact Ensures.intro_ok visit ⟨included, still⟩
                  | succ levels =>
                      apply Ensures.of_eq visit
                      apply deeper levels (Nat.lt_succ_self levels)
                      exact ⟨fun x recorded => LoopGuard.mem_record.mpr (.inr (included x recorded)),
                        still⟩

theorem finish {walk : Walk} (holds : P walk.session) : P walk.finish.session := by
  unfold Walk.finish
  dsimp only
  split <;> split
  · exact conduct.tell _ _ holds
  · exact conduct.tell _ _ (conduct.tell _ _ holds)
  · exact holds
  · exact conduct.tell _ _ holds

theorem expand (limits : Limits) (references : AddressSet)
    (included : guard.recorded ⊆ larger.recorded) {session : Session} (holds : P session) :
    (∀ found, (r.expand limits references larger session).outcome = .ok found →
      P (r.expand limits references larger session).session) ∧
    ∀ error, (r.expand limits references larger session).outcome = .error error →
      Q (r.expand limits references larger session).session := by
  have walked := conduct.walk limits.members (limits.depth - 1) references
    (.start session larger) ⟨included, holds⟩
  unfold Resolver.expand
  cases result : r.walk limits.members (limits.depth - 1) references (.start session larger) with
  | error error walk => exact ⟨nofun, fun _ _ => walked.of_error result⟩
  | ok value walk => exact ⟨fun _ _ => conduct.finish (walked.of_ok result).2, nofun⟩

end Expansion

variable {service : Service} {sender : Option Address}
  (conduct : Conduct service.resolver guard P Q)
include conduct

theorem members (group : Group) (included : guard.recorded ⊆ larger.recorded) :
    Leads (fun roster : Roster => P roster.session) (fun roster => Q roster.session)
      (service.members group larger) := by
  intro roster holds
  obtain ⟨succeeds, fails⟩ := conduct.expand service.limits group.members included holds
  unfold Ensures Service.members
  cases roster.members with
  | some pair => exact holds
  | none =>
      dsimp only
      cases outcome : (service.resolver.expand service.limits group.members larger
        roster.session).outcome with
      | ok members => exact succeeds members outcome
      | error error => exact fails error outcome

theorem owners (group : Group) (included : guard.recorded ⊆ larger.recorded) :
    Leads (fun roster : Roster => P roster.session) (fun roster => Q roster.session)
      (service.owners group larger) := by
  intro roster holds
  obtain ⟨succeeds, fails⟩ := conduct.expand service.limits group.owners included holds
  unfold Ensures Service.owners
  cases roster.owners with
  | some owners => exact holds
  | none =>
      dsimp only
      cases outcome : (service.resolver.expand service.limits group.owners larger
        roster.session).outcome with
      | ok owners => exact succeeds owners outcome
      | error error => exact fails error outcome

theorem authorize (category : Category) (posting : Posting) (group : Group)
    (included : guard.recorded ⊆ larger.recorded) :
    Leads (fun roster : Roster => P roster.session) (fun roster => Q roster.session)
      (service.authorization.authorize category posting (service.membership group larger)) := by
  unfold Authorization.authorize
  apply Leads.bind
  · unfold Authorization.isAllowed
    split
    · exact Leads.pure _
    · exact Leads.pure _
    · split
      · exact Leads.pure _
      · exact Leads.pure _
      · exact Leads.pure _
      · exact Leads.pure _
      · exact (conduct.members group included).bind fun members => Leads.pure _
      · exact (conduct.owners group included).bind fun owners => Leads.pure _
      · exact Leads.pure _
  · intro allowed
    split
    · exact (conduct.members group included).bind fun members => Leads.pure _
    · exact Leads.pure _

theorem tells (notice : Notice) : Leads P Q (SessionM.tell notice) :=
  fun session holds => conduct.tell session notice holds

theorem classify (group : Group) : Leads P Q (Service.classify group) := by
  unfold Service.classify
  dsimp only
  split
  · exact (conduct.tells _).bind fun _ => Leads.pure _
  · exact Leads.pure _

theorem decideList (list : Address) (group : Group)
    (included : guard.recorded ⊆ larger.recorded) :
    Leads P Q (service.decideList sender larger list group) := by
  unfold Service.decideList
  apply (conduct.classify group).bind
  intro category session holds
  have authorized := conduct.authorize category (service.posting sender list) group included
    ⟨session, none, none⟩ holds
  unfold Ensures
  dsimp only
  cases result : service.authorization.authorize category (service.posting sender list)
      (service.membership group larger) ⟨session, none, none⟩ with
  | error error roster => exact authorized.of_error result
  | ok resolution roster =>
      cases resolution with
      | resolved members => exact conduct.tell _ _ (authorized.of_ok result)
      | rejected lists => exact conduct.tell _ _ (authorized.of_ok result)

theorem decide (sender : Option Address) (recipient : Address) :
    Leads P Q (service.decide sender guard recipient) := by
  unfold Service.decide
  split
  · exact Leads.pure _
  · split
    · exact (conduct.tells _).bind fun _ => Leads.pure _
    · rename_i fresh
      apply (conduct.resolve recipient fun recorded =>
        fresh (LoopGuard.wasVisited_iff.mpr recorded)).bind
      intro known
      cases known with
      | none => exact Leads.pure _
      | some group =>
          exact conduct.decideList recipient group fun x recorded =>
            LoopGuard.mem_record.mpr (.inr recorded)

theorem decideAll (sender : Option Address) (recipients : List Address) :
    Leads P Q (service.decideAll sender guard recipients) := by
  apply Leads.mapM
  rintro recipient - session holds
  have decided := conduct.decide sender recipient session holds
  unfold Ensures Service.attributed
  cases result : service.decide sender guard recipient session with
  | ok decision after => exact decided.of_ok result
  | error error after => exact decided.of_error result

end Conduct

end Listmaster

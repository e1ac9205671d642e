import Listmaster.Proofs.Step
import Listmaster.Session

/-!
Looking up groups with and without a memory.

`Resolver.groupAt` asks the directory alone.  A session is faithful to it if all
it remembers was answered by the directory; then an address resolves to what
`groupAt` says, and the session stays faithful.
-/

namespace Listmaster

/-- The group at an address, if it is one, asked for without a memory. -/
def Resolver.groupAt (r : Resolver) (address : Address) :
    Except DirectoryError (Option Group) :=
  if r.classifier.isCandidate address then (r.directory (r.question address)).outcome
  else .ok none

/-- The session remembers nothing but answers of the directory. -/
def Session.Faithful (session : Session) (r : Resolver) : Prop :=
  ∀ address known, session.memo.get? address = some known → r.groupAt address = .ok known

namespace Session

theorem Faithful.empty (r : Resolver) : Session.empty.Faithful r := by
  intro address known remembered
  simp [Session.empty] at remembered

theorem Faithful.tell {session : Session} {r : Resolver} (faithful : session.Faithful r)
    (notice : Notice) : (session.tell notice).Faithful r := faithful

end Session

namespace Resolver

variable {r : Resolver} {address : Address} {session : Session}

theorem groupAt_of_not_candidate (other : r.classifier.isCandidate address = false) :
    r.groupAt address = .ok none := by
  simp [groupAt, other]

theorem groupAt_total (answers : ∀ question, ∃ known, (r.directory question).outcome = .ok known)
    (address : Address) : ∃ known, r.groupAt address = .ok known := by
  unfold groupAt
  split
  · exact answers (r.question address)
  · exact ⟨none, rfl⟩

theorem isCandidate_of_groupAt {group : Group} (found : r.groupAt address = .ok (some group)) :
    r.classifier.isCandidate address = true := by
  cases candidate : r.classifier.isCandidate address with
  | true => rfl
  | false => simp [groupAt, candidate] at found

theorem resolve_of_not_candidate (other : r.classifier.isCandidate address = false)
    (session : Session) : r.resolve address session = .ok none session := by
  simp [resolve, other]

theorem resolve_of_remembered (candidate : r.classifier.isCandidate address = true)
    {known : Option Group} (remembered : session.memo.get? address = some known) :
    r.resolve address session = .ok known session := by
  simp [resolve, candidate, remembered]

theorem resolve_of_unknown (candidate : r.classifier.isCandidate address = true)
    (unknown : session.memo.get? address = none) :
    r.resolve address session = r.ask address session := by
  simp [resolve, candidate, unknown]

theorem ask_spec (candidate : r.classifier.isCandidate address = true)
    (faithful : session.Faithful r) :
    Ensures (r.ask address) session
      (fun known after => r.groupAt address = .ok known ∧ after.Faithful r)
      (fun error after => r.groupAt address = .error error ∧ after.Faithful r) := by
  have asked : r.groupAt address = (r.directory (r.question address)).outcome := by
    simp [groupAt, candidate]
  cases answer : (r.directory (r.question address)).outcome with
  | error error =>
      apply Ensures.intro_error (by simp only [ask, answer]; rfl)
      exact ⟨asked.trans answer, faithful⟩
  | ok known =>
      apply Ensures.intro_ok (by simp only [ask, answer]; rfl)
      refine ⟨asked.trans answer, ?_⟩
      intro other remembered found
      rw [SortedMap.get?_insert] at found
      split at found
      · rename_i same
        have same : other = address := Std.LawfulEqCmp.compare_eq_iff_eq.mp (beq_iff_eq.mp same)
        cases found
        rw [same, asked, answer]
      · exact faithful other remembered found

/-- From a faithful session an address resolves to what the directory says. -/
theorem resolve_spec (address : Address) (faithful : session.Faithful r) :
    Ensures (r.resolve address) session
      (fun known after => r.groupAt address = .ok known ∧ after.Faithful r)
      (fun error after => r.groupAt address = .error error ∧ after.Faithful r) := by
  cases candidate : r.classifier.isCandidate address with
  | false =>
      exact Ensures.intro_ok (resolve_of_not_candidate candidate session)
        ⟨groupAt_of_not_candidate candidate, faithful⟩
  | true =>
      cases remembered : session.memo.get? address with
      | some known =>
          exact Ensures.intro_ok (resolve_of_remembered candidate remembered)
            ⟨faithful address known remembered, faithful⟩
      | none =>
          exact Ensures.of_eq (resolve_of_unknown candidate remembered)
            (ask_spec candidate faithful)

end Resolver

end Listmaster

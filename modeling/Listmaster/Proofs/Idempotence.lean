import Listmaster.Proofs.Process

/-!
A mail that was processed is left alone afterwards.

No recipient that a successful run leaves is a list that another run would treat:
the candidates among them are no groups, and what a run records are groups.
-/

namespace Listmaster.Service

variable {service : Service} {mail : Mail} {copy : Option Mail}

theorem fresh_after_process (succeeded : (service.process mail).outcome = .ok copy) {x : Address}
    (fresh : ¬ x ∈ (LoopGuard.load mail).recorded)
    (leaf : service.resolver.groupAt x = .ok none) :
    ¬ x ∈ (LoopGuard.load (service.process mail).mail).recorded := by
  intro recorded
  rcases (mem_load_process succeeded x).mp recorded with before | ⟨list, _, survey, expands, here⟩
  · exact fresh before
  · rcases expands.group_of_recorded here with before | ⟨group, answer⟩
    · exact fresh before
    · rw [leaf] at answer
      cases answer

theorem stays_of_process (succeeded : (service.process mail).outcome = .ok copy) {x : Address}
    (here : x ∈ (service.process mail).mail.addresses) :
    service.Stays (.load (service.process mail).mail) x := by
  intro candidate
  rcases (mem_addresses_process succeeded x).mp here with
    ⟨_, stays⟩ | ⟨list, _, survey, expands, found⟩
  · obtain ⟨fresh, leaf⟩ := stays candidate
    exact ⟨fresh_after_process succeeded fresh leaf, leaf⟩
  · obtain ⟨fresh, leaf⟩ := expands.leaf_of_found found
    exact ⟨fresh_after_process succeeded fresh leaf, leaf⟩

/-- A run after one that succeeded succeeds, rejects nobody and leaves the mail as it is. -/
theorem process_process (service : Service) (mail : Mail) (copy : Option Mail)
    (succeeded : (service.process mail).outcome = .ok copy) :
    (service.process (service.process mail).mail).outcome = .ok none ∧
      (service.process (service.process mail).mail).mail = (service.process mail).mail := by
  obtain ⟨same, done⟩ := process_of_stays fun x here => stays_of_process succeeded here
  exact ⟨done, same⟩

theorem process_process_sample :
    (Sample.service.process Sample.mail).outcome = .ok none ∧
      (Sample.service.process (Sample.service.process Sample.mail).mail).outcome = .ok none ∧
      (Sample.service.process (Sample.service.process Sample.mail).mail).mail =
        (Sample.service.process Sample.mail).mail :=
  ⟨Sample.outcome_process,
    process_process Sample.service Sample.mail none Sample.outcome_process⟩

end Listmaster.Service

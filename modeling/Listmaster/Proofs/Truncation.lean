import Listmaster.Proofs.Process
import Listmaster.Proofs.Survey.Chain
import Listmaster.Proofs.Survey.Warnings

/-!
Expansions that are truncated.

A survey with a smaller limit goes the same way as one with a larger limit, up to the first
address for which it has no room (`Explores.cap`).  So an expansion with a limit on its
addresses finds as many as the limit allows of those that it finds without a limit, and more if
the limit is larger: `Resolver.expand_capped`.
-/

namespace Listmaster

namespace Survey

variable {groupAt : Lookups} {limit more levels : Nat} {references : List Address}
  {s t u : Survey} {guard : LoopGuard} {address : Address}

theorem Explores.size_le (explored : Explores groupAt limit levels references s t)
    (small : s.found.size ≤ limit) : t.found.size ≤ limit := by
  induction explored with
  | done => exact small
  | skip _ _ along => exact along small
  | leaf _ _ _ along => exact along (size_add_le small)
  | deep _ _ _ along => exact along small
  | nest _ _ _ _ down along => exact along (down small)

theorem Explores.stop (truncated : s.isTruncated = true) (limit levels : Nat)
    (references : List Address) : Explores groupAt limit levels references s s := by
  induction references with
  | nil => exact .done
  | cons address rest inductionHypothesis =>
      exact .skip (skips_iff.mpr (.inl truncated)) inductionHypothesis

/-- A limit that is not reached makes no difference to a larger one. -/
theorem Explores.raise (explored : Explores groupAt limit levels references s t)
    (larger : limit ≤ more) (whole : t.isTruncated = false) :
    Explores groupAt more levels references s t := by
  induction explored with
  | done => exact .done
  | skip skipped _ along => exact .skip skipped (along whole)
  | @leaf levels address rest s t visited leaf explored along =>
      refine .leaf visited leaf ?_
      have same : s.add more address = s.add limit address := by
        by_cases here : address ∈ s.found
        · rw [add_of_mem here, add_of_mem here]
        · by_cases room : s.found.size < limit
          · rw [add_of_room room, add_of_room (Nat.lt_of_lt_of_le room larger)]
          · have kept := explored.whole_of_whole whole
            rw [add_of_full (Nat.not_lt.mp room) here] at kept
            cases kept
      rw [same]
      exact along whole
  | deep visited found _ along => exact .deep visited found (along whole)
  | nest visited found _ second down along =>
      exact .nest visited found (down (second.whole_of_whole whole)) (along whole)

/-- The first survey has stopped where the limit was reached, the second one has gone on from
there. -/
structure CutShort (limit : Nat) (s t : Survey) : Prop where
  truncated : s.isTruncated = true
  full : s.found.size = limit
  found : s.found ⊆ t.found
  guard : s.guard.recorded ⊆ t.guard.recorded
  larger : limit < t.found.size

theorem CutShort.later (cut : CutShort limit s t) (growth : Extends groupAt t u) :
    CutShort limit s u where
  truncated := cut.truncated
  full := cut.full
  found := SortedSet.Subset.trans cut.found growth.found
  guard := SortedSet.Subset.trans cut.guard growth.guard
  larger := Nat.lt_of_lt_of_le cut.larger (SortedSet.size_le_of_subset growth.found)

/-- A survey with a smaller limit ends like the one with the larger limit, or is cut short. -/
theorem Explores.cap (explored : Explores groupAt more levels references s t)
    (smaller : limit ≤ more) (small : s.found.size ≤ limit) :
    ∃ u, Explores groupAt limit levels references s u ∧ (u = t ∨ CutShort limit u t) := by
  induction explored with
  | done => exact ⟨_, .done, .inl rfl⟩
  | skip skipped _ along =>
      obtain ⟨u, explored, ends⟩ := along small
      exact ⟨u, .skip skipped explored, ends⟩
  | @leaf levels address rest s t visited leaf explored along =>
      by_cases here : address ∈ s.found
      · rw [add_of_mem here] at along
        obtain ⟨u, capped, ends⟩ := along small
        exact ⟨u, .leaf visited leaf (by rwa [add_of_mem here]), ends⟩
      · rcases Nat.lt_or_eq_of_le small with room | full
        · have same : s.add more address = s.add limit address := by
            rw [add_of_room room, add_of_room (Nat.lt_of_lt_of_le room smaller)]
          rw [same] at along
          obtain ⟨u, capped, ends⟩ := along (size_add_le small)
          exact ⟨u, .leaf visited leaf capped, ends⟩
        · -- The smaller limit has no room for the address.
          have stopped : s.add limit address = { s with isTruncated := true } :=
            add_of_full (Nat.le_of_eq full.symm) here
          refine ⟨{ s with isTruncated := true }, .leaf visited leaf ?_, ?_⟩
          · rw [stopped]
            exact .stop rfl limit levels rest
          · rcases Nat.lt_or_eq_of_le smaller with room | same
            · refine .inr (CutShort.later ?_ explored.growth)
              rw [← full] at room
              rw [add_of_room room]
              have grown : s.found ⊆ s.found.insert address :=
                fun x before => SortedSet.mem_insert.mpr (.inr before)
              exact ⟨rfl, full, grown, SortedSet.Subset.refl _, full ▸
                SortedSet.size_lt_of_subset grown (SortedSet.mem_insert.mpr (.inl rfl)) here⟩
            · rw [← same, stopped] at explored
              exact .inl (explored.of_truncated rfl).symm
  | deep visited found _ along =>
      obtain ⟨u, capped, ends⟩ := along small
      exact ⟨u, .deep visited found capped, ends⟩
  | @nest levels address group rest s inside t visited found first second down along =>
      obtain ⟨stopped, capped, ends⟩ := down small
      rcases ends with rfl | cut
      · obtain ⟨u, cappedToo, ends⟩ := along (capped.size_le small)
        exact ⟨u, .nest visited found capped cappedToo, ends⟩
      · exact ⟨stopped, .nest visited found capped (.stop cut.truncated _ _ _),
          .inr (cut.later second.growth)⟩

end Survey

namespace Resolver

variable {r : Resolver} {depth members : Nat} {references whole : AddressSet}
  {guard records : LoopGuard} {session : Session}

/-- Without a limit on its addresses, with any one that is large enough, an expansion ends so. -/
def ExpandsUncapped (r : Resolver) (depth : Nat) (references : AddressSet) (guard : LoopGuard)
    (session : Session) (whole : AddressSet) (records : LoopGuard) : Prop :=
  ∃ enough, ∀ members, enough ≤ members →
    (r.expand ⟨depth, members⟩ references guard session).outcome = .ok whole ∧
      (r.expand ⟨depth, members⟩ references guard session).guard = records

theorem gather_of_expand {limits : Limits} (faithful : session.Faithful r)
    (succeeded : (r.expand limits references guard session).outcome = .ok whole) :
    ∃ s, r.gather limits references guard = .ok s ∧ s.found = whole := by
  rw [expand_outcome limits references guard faithful] at succeeded
  cases gathered : r.gather limits references guard with
  | error error =>
      rw [gathered] at succeeded
      cases succeeded
  | ok s =>
      rw [gathered] at succeeded
      exact ⟨s, rfl, Except.ok.inj succeeded⟩

/-- An expansion that tells of no truncation ends as it does without a limit. -/
theorem expandsUncapped_of_whole {notices : List Notice} (faithful : session.Faithful r)
    (succeeded : (r.expand ⟨depth, members⟩ references guard session).outcome = .ok whole)
    (warns : r.Warns ⟨depth, members⟩ references guard session notices)
    (untruncated : ¬ .tooManyAddresses ∈ notices) :
    r.ExpandsUncapped depth references guard session whole
      (r.expand ⟨depth, members⟩ references guard session).guard := by
  obtain ⟨s, gathered, rfl⟩ := gather_of_expand faithful succeeded
  obtain ⟨_, recorded⟩ := expand_of_gather faithful gathered
  have entire := (warns.told faithful gathered).whole untruncated
  refine ⟨members, fun more larger => ?_⟩
  have raised : r.gather ⟨depth, more⟩ references guard = .ok s :=
    ((Survey.explore_eq_ok_iff.mp gathered).raise larger entire).explore
  obtain ⟨outcome, same⟩ := expand_of_gather faithful raised
  exact ⟨outcome, same.trans recorded.symm⟩

theorem ExpandsUncapped.survey (faithful : session.Faithful r)
    (uncapped : r.ExpandsUncapped depth references guard session whole records) (least : Nat) :
    ∃ more s, least ≤ more ∧ r.gather ⟨depth, more⟩ references guard = .ok s ∧
      s.isTruncated = false ∧ s.found = whole ∧ s.guard = records := by
  obtain ⟨enough, ends⟩ := uncapped
  -- With room for more than all addresses there is no truncation.
  obtain ⟨more, large, larger, room⟩ :
      ∃ more, enough ≤ more ∧ least ≤ more ∧ whole.size < more :=
    ⟨enough + least + whole.size + 1, by omega, by omega, by omega⟩
  obtain ⟨outcome, recorded⟩ := ends more large
  obtain ⟨s, gathered, rfl⟩ := gather_of_expand faithful outcome
  have explored := Survey.explore_eq_ok_iff.mp gathered
  refine ⟨more, s, larger, gathered, ?_, rfl, ?_⟩
  · rw [← Bool.not_eq_true]
    intro truncated
    obtain ⟨full, _⟩ := explored.full_of_truncated (.start r.groupAt guard references) rfl truncated
    exact Nat.not_lt.mpr full room
  · rw [← recorded, (expand_of_gather faithful gathered).2]

theorem exists_capped {more : Nat} {s : Survey}
    (gathered : r.gather ⟨depth, more⟩ references guard = .ok s) (smaller : members ≤ more) :
    ∃ u, r.gather ⟨depth, members⟩ references guard = .ok u ∧ u.found.size ≤ members ∧
      (u = s ∨ u.CutShort members s) := by
  have none : (Survey.start guard).found.size ≤ members := Nat.zero_le members
  obtain ⟨u, explored, ends⟩ := (Survey.explore_eq_ok_iff.mp gathered).cap smaller none
  exact ⟨u, explored.explore, explored.size_le none, ends⟩

/-- An expansion with a limit on its addresses finds as many as the limit allows of those that it
finds without a limit, all of them if there is room, and warns if there is none.  With a larger
limit it finds these and maybe more.  It records no group that it does not record without a
limit. -/
theorem expand_capped (r : Resolver) (depth : Nat) (references : AddressSet) (guard : LoopGuard)
    (session : Session) (whole : AddressSet) (records : LoopGuard)
    (faithful : session.Faithful r)
    (uncapped : r.ExpandsUncapped depth references guard session whole records) (members : Nat) :
    ∃ found notices,
      (r.expand ⟨depth, members⟩ references guard session).outcome = .ok found ∧
      r.Warns ⟨depth, members⟩ references guard session notices ∧
      found.size = min members whole.size ∧
      found ⊆ whole ∧
      (whole.size ≤ members → found = whole) ∧
      (.tooManyAddresses ∈ notices ↔ members < whole.size) ∧
      (∀ more, members ≤ more → ∃ further,
        (r.expand ⟨depth, more⟩ references guard session).outcome = .ok further ∧
          found ⊆ further) ∧
      (r.expand ⟨depth, members⟩ references guard session).guard.recorded ⊆ records.recorded := by
  obtain ⟨_, s, least, all, untruncated, rfl, rfl⟩ := uncapped.survey faithful members
  obtain ⟨u, gathered, small, ends⟩ := exists_capped all least
  obtain ⟨outcome, recorded⟩ := expand_of_gather faithful gathered
  obtain ⟨notices, warns, told⟩ := exists_warns faithful gathered
  rw [recorded]
  have further (more : Nat) (larger : members ≤ more) : ∃ further,
      (r.expand ⟨depth, more⟩ references guard session).outcome = .ok further ∧
        u.found ⊆ further := by
    obtain ⟨_, _, larger', all', _⟩ := uncapped.survey faithful more
    obtain ⟨t, gathered', _, _⟩ := exists_capped all' larger'
    refine ⟨t.found, (expand_of_gather faithful gathered').1, ?_⟩
    obtain ⟨_, same, _, ends⟩ := exists_capped gathered' larger
    cases gathered.symm.trans same
    rcases ends with rfl | cut
    · exact SortedSet.Subset.refl _
    · exact cut.found
  refine ⟨u.found, notices, outcome, warns, ?_⟩
  rw [told.members]
  rcases ends with rfl | cut
  · exact ⟨(Nat.min_eq_right small).symm, SortedSet.Subset.refl _, fun _ => rfl,
      iff_of_false (by rw [untruncated]; nofun) (Nat.not_lt.mpr small), further,
      SortedSet.Subset.refl _⟩
  · exact ⟨by rw [cut.full, Nat.min_eq_left (Nat.le_of_lt cut.larger)], cut.found,
      fun room => absurd cut.larger (Nat.not_lt.mpr room),
      iff_of_true cut.truncated cut.larger, further, cut.guard⟩

open Sample in
theorem expand_capped_sample :
    ∃ found notices,
      (service.resolver.expand ⟨3, 1⟩ (.ofList [crew, reader]) .empty .empty).outcome =
        .ok found ∧
      service.resolver.Warns ⟨3, 1⟩ (.ofList [crew, reader]) .empty .empty notices ∧
      found.size = 1 ∧ found ⊆ .ofList [reader, writer] ∧ .tooManyAddresses ∈ notices := by
  have uncapped := expandsUncapped_of_whole (.empty service.resolver)
    (show (service.resolver.expand ⟨3, 2⟩ (.ofList [crew, reader]) .empty .empty).outcome =
      .ok (.ofList [reader, writer]) by decide +kernel)
    (show service.resolver.Warns ⟨3, 2⟩ (.ofList [crew, reader]) .empty .empty [] from
      ⟨_, rfl, rfl⟩) List.not_mem_nil
  obtain ⟨found, notices, outcome, warns, size, inside, _, warned, _⟩ :=
    expand_capped service.resolver 3 (.ofList [crew, reader]) .empty .empty _ _ (.empty _) uncapped 1
  exact ⟨found, notices, outcome, warns, size, inside, warned.mpr (by decide)⟩

end Resolver

end Listmaster

import Listmaster.Expansion
import Listmaster.Proofs.Session

/-!
Surveys: walks without a session.

A survey visits the addresses that a walk visits, but asks a function for the
groups and remembers nothing, so that it is a function of the references and the
guard alone.  It also notes the groups that it enters.  `Explores` is the course of
a survey that succeeds, with one rule for each way to treat an address; what a
survey preserves is shown by induction on it.
-/

namespace Listmaster

/-- What is known about the group at each address. -/
abbrev Lookups := Address → Except DirectoryError (Option Group)

/-- Where a survey stands. -/
structure Survey where
  guard : LoopGuard
  found : AddressSet
  tooDeep : Nat
  isTruncated : Bool
  /-- The groups whose members were visited, the last one first. -/
  entered : List Address

namespace Survey

/-- A survey that begins. -/
def start (guard : LoopGuard) : Survey := ⟨guard, ∅, 0, false, []⟩

/-- Whether the address is not visited. -/
def skips (s : Survey) (address : Address) : Bool :=
  s.isTruncated || s.guard.wasVisited address

/-- Add an address that is no group, unless there are too many. -/
def add (limit : Nat) (address : Address) (s : Survey) : Survey :=
  if s.found.size < limit then { s with found := s.found.insert address }
  else if s.found.contains address then s
  else { s with isTruncated := true }

/-- Pass over a group that is too deep. -/
def passOver (s : Survey) : Survey := { s with tooDeep := s.tooDeep + 1 }

/-- Enter a group. -/
def enter (address : Address) (s : Survey) : Survey :=
  { s with guard := s.guard.record address, entered := address :: s.entered }

/-- Visit addresses, and the members of the groups among them down to `levels` levels. -/
def explore (groupAt : Lookups) (limit : Nat) :
    (levels : Nat) → List Address → Survey → Except DirectoryError Survey
  | _, [], s => .ok s
  | levels, address :: rest, s =>
      if s.skips address then explore groupAt limit levels rest s
      else
        match groupAt address with
        | .error error => .error error
        | .ok none => explore groupAt limit levels rest (s.add limit address)
        | .ok (some group) =>
            match levels with
            | 0 => explore groupAt limit 0 rest s.passOver
            | levels + 1 =>
                match explore groupAt limit levels group.members.toList (s.enter address) with
                | .error error => .error error
                | .ok inside => explore groupAt limit (levels + 1) rest inside
termination_by levels references => (levels, references.length)

/-- The course of a survey that succeeds. -/
inductive Explores (groupAt : Lookups) (limit : Nat) :
    Nat → List Address → Survey → Survey → Prop
  | done {levels s} : Explores groupAt limit levels [] s s
  | skip {levels address rest s t} :
      s.skips address = true →
      Explores groupAt limit levels rest s t →
      Explores groupAt limit levels (address :: rest) s t
  | leaf {levels address rest s t} :
      s.skips address = false → groupAt address = .ok none →
      Explores groupAt limit levels rest (s.add limit address) t →
      Explores groupAt limit levels (address :: rest) s t
  | deep {address group rest s t} :
      s.skips address = false → groupAt address = .ok (some group) →
      Explores groupAt limit 0 rest s.passOver t →
      Explores groupAt limit 0 (address :: rest) s t
  | nest {levels address group rest s inside t} :
      s.skips address = false → groupAt address = .ok (some group) →
      Explores groupAt limit levels group.members.toList (s.enter address) inside →
      Explores groupAt limit (levels + 1) rest inside t →
      Explores groupAt limit (levels + 1) (address :: rest) s t

variable {groupAt : Lookups} {limit levels : Nat} {references : List Address} {s t : Survey}

theorem explores_of_explore (result : explore groupAt limit levels references s = .ok t) :
    Explores groupAt limit levels references s t := by
  fun_induction explore groupAt limit levels references s generalizing t with
  | case1 => cases result; exact .done
  | case2 levels address rest s skipped inductionHypothesis =>
      exact .skip skipped (inductionHypothesis result)
  | case3 => contradiction
  | case4 levels address rest s visited leaf inductionHypothesis =>
      exact .leaf (by simpa using visited) leaf (inductionHypothesis result)
  | case5 address rest s visited group found inductionHypothesis =>
      exact .deep (by simpa using visited) found (inductionHypothesis result)
  | case6 => contradiction
  | case7 address rest s visited group found levels inside explored first second =>
      exact .nest (by simpa using visited) found (first explored) (second result)

theorem Explores.explore (explored : Explores groupAt limit levels references s t) :
    explore groupAt limit levels references s = .ok t := by
  induction explored with
  | done => rw [Survey.explore]
  | skip skipped _ inductionHypothesis => rw [Survey.explore, if_pos skipped, inductionHypothesis]
  | leaf visited leaf _ inductionHypothesis =>
      simp only [Survey.explore, visited, leaf, inductionHypothesis, Bool.false_eq_true, if_false]
  | deep visited found _ inductionHypothesis =>
      simp only [Survey.explore, visited, found, inductionHypothesis, Bool.false_eq_true, if_false]
  | nest visited found _ _ first second =>
      simp only [Survey.explore, visited, found, first, second, Bool.false_eq_true, if_false]

theorem explore_eq_ok_iff :
    explore groupAt limit levels references s = .ok t ↔
      Explores groupAt limit levels references s t :=
  ⟨explores_of_explore, Explores.explore⟩

end Survey

end Listmaster

import Listmaster.Proofs.Process

/-!
What a decision asks a membership for.

Each call to a membership may fail, and may change its state.  `Membership.noting` is the membership
that also notes its calls with their answers, and a `Hearing` is a decision with the calls that were
made for it.  A posting is settled without a call, or it turns on whether the sender is among the
members or among the owners (`Authorization.ruling`).  If it is accepted the members are asked for,
and nothing else is: `Authorization.authorize_consults`.
-/

namespace Listmaster

variable {ε σ : Type}

/-- A call to a membership, with its answer. -/
structure Consultation (ε : Type) where
  role : Role
  answer : Except ε AddressSet

/-- Why the call failed, if it did. -/
def Consultation.error? (call : Consultation ε) : Option ε :=
  match call.answer with
  | .ok _ => none
  | .error error => some error

namespace Membership

def ask {m : Type → Type} (membership : Membership m) : Role → m AddressSet
  | .members => membership.members
  | .owners => membership.owners

/-- The step, which also notes its answer. -/
def noted (role : Role) (step : EStateM ε σ AddressSet) :
    EStateM ε (σ × List (Consultation ε)) AddressSet := fun (state, calls) =>
  match step state with
  | .ok addresses after => .ok addresses (after, calls ++ [⟨role, .ok addresses⟩])
  | .error error after => .error error (after, calls ++ [⟨role, .error error⟩])

/-- The membership, which also notes what it is asked for. -/
def noting (membership : Membership (EStateM ε σ)) :
    Membership (EStateM ε (σ × List (Consultation ε))) :=
  ⟨noted .members membership.members, noted .owners membership.owners⟩

/-- What the membership answers in a state. -/
def answer (membership : Membership (EStateM ε σ)) (state : σ) (role : Role) :
    Except ε AddressSet :=
  match membership.ask role state with
  | .ok addresses _ => .ok addresses
  | .error error _ => .error error

/-- Members that were told once are told again. -/
def IsSteady (membership : Membership (EStateM ε σ)) : Prop :=
  ∀ state addresses after, membership.members state = .ok addresses after →
    membership.answer after .members = .ok addresses

/-- The membership that gives these answers in every state. -/
def fixed (answers : Role → Except ε AddressSet) : Membership (EStateM ε σ) :=
  ⟨fun state => match answers .members with
    | .ok addresses => .ok addresses state
    | .error error => .error error state,
   fun state => match answers .owners with
    | .ok addresses => .ok addresses state
    | .error error => .error error state⟩

variable {membership : Membership (EStateM ε σ)} {state after : σ} {role : Role}

theorem ask_noting (calls : List (Consultation ε)) :
    membership.noting.ask role (state, calls) =
      noted role (membership.ask role) (state, calls) := by
  cases role <;> rfl

theorem answer_of_ok {addresses : AddressSet}
    (answered : membership.ask role state = .ok addresses after) :
    membership.answer state role = .ok addresses := by
  rw [answer, answered]

theorem answer_of_error {error : ε} (failed : membership.ask role state = .error error after) :
    membership.answer state role = .error error := by
  rw [answer, failed]

theorem answer_fixed (answers : Role → Except ε AddressSet) (state : σ) :
    (fixed answers).answer state = answers := by
  funext role
  cases role with
  | members =>
      unfold answer fixed ask
      cases answers .members <;> rfl
  | owners =>
      unfold answer fixed ask
      cases answers .owners <;> rfl

theorem isSteady_fixed (answers : Role → Except ε AddressSet) :
    (fixed answers : Membership (EStateM ε σ)).IsSteady := by
  intro state addresses after told
  have first : (fixed answers).answer state .members = .ok addresses := answer_of_ok told
  rwa [answer_fixed] at first ⊢

end Membership

theorem Service.isSteady_membership (service : Service) (group : Group) (guard : LoopGuard) :
    (service.membership group guard).IsSteady := by
  intro roster members after told
  change service.members group guard roster = .ok members after at told
  suffices again : service.members group guard after = .ok members after from
    Membership.answer_of_ok again
  unfold Service.members at told ⊢
  cases known : roster.members with
  | some pair =>
      rw [known] at told
      cases told
      rw [known]
  | none =>
      rw [known] at told
      dsimp only at told
      cases outcome : (service.resolver.expand service.limits group.members guard
          roster.session).outcome with
      | error error => rw [outcome] at told; cases told
      | ok found => rw [outcome] at told; cases told; rfl

/-- A decision, with the calls that were made for it. -/
structure Hearing (ε σ : Type) where
  outcome : Except ε Resolution
  state : σ
  calls : List (Consultation ε)

namespace Hearing

def ofResult : EStateM.Result ε (σ × List (Consultation ε)) Resolution → Hearing ε σ
  | .ok resolution (state, calls) => ⟨.ok resolution, state, calls⟩
  | .error error (state, calls) => ⟨.error error, state, calls⟩

/-- The decision alone. -/
def toResult (hearing : Hearing ε σ) : EStateM.Result ε σ Resolution :=
  match hearing.outcome with
  | .ok resolution => .ok resolution hearing.state
  | .error error => .error error hearing.state

/-- Whether this was asked for. -/
def Calls (hearing : Hearing ε σ) (role : Role) : Prop := ∃ call ∈ hearing.calls, call.role = role

/-- Why the first of the calls that failed did so. -/
def firstError? (hearing : Hearing ε σ) : Option ε := hearing.calls.findSome? Consultation.error?

end Hearing

/-- What a posting turns on. -/
inductive Ruling where
  | settled (accepted : Bool)
  /-- Whether the sender is among these. -/
  | asks (role : Role) (sender : Address)

/-- Whether the posting is accepted, by what is answered about the members and the owners. -/
def Ruling.Accepts (answers : Role → Except ε AddressSet) : Ruling → Prop
  | settled accepted => accepted = true
  | asks role sender => ∃ addresses, answers role = .ok addresses ∧ sender ∈ addresses

/-- The policy that turns on these. -/
def Role.restriction : Role → Category
  | .members => .memberRestricted
  | .owners => .ownerRestricted

namespace Authorization

/-- The policy of the lists of a category: the category itself, or what is told for the lists whose
category is not recognized. -/
inductive Applies (authorization : Authorization) : Category → Category → Prop where
  | own {category : Category} (recognized : category ≠ .unrecognized) :
      Applies authorization category category
  | instead {policy : Category} (told : authorization.fallback = some policy)
      (recognized : policy ≠ .unrecognized) : Applies authorization .unrecognized policy

/-- The policy accepts the posting, by what is answered about the members and the owners. -/
inductive Admits (authorization : Authorization) (category : Category) (posting : Posting)
    (answers : Role → Except ε AddressSet) : Prop where
  | everyone (policy : authorization.effective category = some .everyone)
  | internal {sender : Address} (policy : authorization.effective category = some .internal)
      (known : posting.sender = some sender) (isLocal : posting.isSenderLocal = true)
  | anyLocal {sender : Address} (policy : authorization.effective category = some .anyLocal)
      (known : posting.sender = some sender) (isLocal : posting.isSenderLocal = true)
  | domainRestricted {sender : Address}
      (policy : authorization.effective category = some .domainRestricted)
      (known : posting.sender = some sender)
      (inside : sender.isInDomain posting.servingDomain = true)
  | memberRestricted {sender : Address} {members : AddressSet}
      (policy : authorization.effective category = some .memberRestricted)
      (known : posting.sender = some sender) (answered : answers .members = .ok members)
      (among : sender ∈ members)
  | ownerRestricted {sender : Address} {owners : AddressSet}
      (policy : authorization.effective category = some .ownerRestricted)
      (known : posting.sender = some sender) (answered : answers .owners = .ok owners)
      (among : sender ∈ owners)

/-- The decision about a posting, where the membership notes what it is asked for. -/
def hear (authorization : Authorization) (category : Category) (posting : Posting)
    (membership : Membership (EStateM ε σ)) (state : σ) : Hearing ε σ :=
  .ofResult (authorization.authorize category posting membership.noting (state, []))

/-- What a posting to a list of this category turns on. -/
def ruling (authorization : Authorization) (category : Category) (posting : Posting) : Ruling :=
  match authorization.effective category, posting.sender with
  | none, _ => .settled false
  | some policy, none => .settled (policy == .everyone)
  | some policy, some sender =>
      match policy with
      | .everyone => .settled true
      | .internal | .anyLocal => .settled posting.isSenderLocal
      | .domainRestricted => .settled (sender.isInDomain posting.servingDomain)
      | .memberRestricted => .asks .members sender
      | .ownerRestricted => .asks .owners sender
      | .unrecognized => .settled false

variable {authorization : Authorization} {category : Category} {posting : Posting}
  {answers : Role → Except ε AddressSet} {sender : Address}

theorem effective_eq_some_iff {policy : Category} :
    authorization.effective category = some policy ↔ authorization.Applies category policy := by
  constructor
  · intro effective
    cases category with
    | unrecognized =>
        obtain ⟨told, recognized⟩ := Option.filter_eq_some_iff.mp effective
        exact .instead told (bne_iff_ne.mp recognized)
    | _ =>
        cases effective
        exact .own nofun
  · intro applies
    cases applies with
    | own recognized =>
        cases category with
        | unrecognized => exact absurd rfl recognized
        | _ => rfl
    | instead told recognized =>
        exact Option.filter_eq_some_iff.mpr ⟨told, bne_iff_ne.mpr recognized⟩

/-- What the ruling accepts is what the policy accepts. -/
theorem admits_iff :
    authorization.Admits category posting answers ↔
      (authorization.ruling category posting).Accepts answers := by
  constructor
  · intro admits
    cases admits with
    | everyone policy =>
        unfold ruling
        rw [policy]
        cases posting.sender <;> rfl
    | internal policy known isLocal => simp [ruling, policy, known, Ruling.Accepts, isLocal]
    | anyLocal policy known isLocal => simp [ruling, policy, known, Ruling.Accepts, isLocal]
    | domainRestricted policy known inside => simp [ruling, policy, known, Ruling.Accepts, inside]
    | memberRestricted policy known answered among =>
        simp only [ruling, policy, known]
        exact ⟨_, answered, among⟩
    | ownerRestricted policy known answered among =>
        simp only [ruling, policy, known]
        exact ⟨_, answered, among⟩
  · intro accepts
    cases policy : authorization.effective category with
    | none => simp [ruling, policy, Ruling.Accepts] at accepts
    | some applied =>
        cases known : posting.sender with
        | none =>
            simp only [ruling, policy, known, Ruling.Accepts, beq_iff_eq] at accepts
            exact .everyone (accepts ▸ policy)
        | some sender =>
            simp only [ruling, policy, known] at accepts
            cases applied with
            | everyone => exact .everyone policy
            | internal => exact .internal policy known accepts
            | anyLocal => exact .anyLocal policy known accepts
            | domainRestricted => exact .domainRestricted policy known accepts
            | memberRestricted =>
                obtain ⟨members, answered, among⟩ := accepts
                exact .memberRestricted policy known answered among
            | ownerRestricted =>
                obtain ⟨owners, answered, among⟩ := accepts
                exact .ownerRestricted policy known answered among
            | unrecognized => cases accepts

theorem ruling_eq_asks_iff {role : Role} :
    authorization.ruling category posting = .asks role sender ↔
      authorization.effective category = some role.restriction ∧ posting.sender = some sender := by
  constructor
  · unfold ruling
    intro asks
    cases policy : authorization.effective category with
    | none => rw [policy] at asks; cases asks
    | some applied =>
        cases known : posting.sender with
        | none => rw [policy, known] at asks; cases asks
        | some author =>
            rw [policy, known] at asks
            cases applied <;> cases asks <;> exact ⟨rfl, rfl⟩
  · rintro ⟨policy, known⟩
    cases role <;> simp only [ruling, policy, known, Role.restriction]

/-- Only the membership decides further, and only through what is asked of it. -/
theorem isAllowed_eq {m : Type → Type} [Monad m] (membership : Membership m) :
    authorization.isAllowed category posting membership =
      match authorization.ruling category posting with
      | .settled accepted => pure accepted
      | .asks role sender => do return (← membership.ask role).contains sender := by
  unfold isAllowed ruling
  cases authorization.effective category with
  | none => rfl
  | some policy =>
      cases posting.sender with
      | none => rfl
      | some sender =>
          cases policy with
          | everyone | internal | anyLocal | domainRestricted | memberRestricted | unrecognized =>
              rfl
          | ownerRestricted => simp only [SortedSet.not_isEmpty_and_contains, Membership.ask]

/-- How a hearing goes: which calls it makes, with which answers, and what comes of it. -/
inductive Course (membership : Membership (EStateM ε σ)) (list : Address) (state : σ) :
    Ruling → List (Consultation ε) → Except ε Resolution → Prop where
  | refused : Course membership list state (.settled false) []
      (.ok (.rejected (.singleton list)))
  | granted : Course membership list state (.settled true)
      [⟨.members, membership.answer state .members⟩]
      ((membership.answer state .members).map .resolved)
  | unanswered {role : Role} {sender : Address} {error : ε} :
      membership.answer state role = .error error →
      Course membership list state (.asks role sender) [⟨role, .error error⟩] (.error error)
  | stranger {role : Role} {sender : Address} {addresses : AddressSet} :
      membership.answer state role = .ok addresses → ¬ sender ∈ addresses →
      Course membership list state (.asks role sender) [⟨role, .ok addresses⟩]
        (.ok (.rejected (.singleton list)))
  | familiar {role : Role} {sender : Address} {addresses : AddressSet} {after : σ} :
      membership.ask role state = .ok addresses after → sender ∈ addresses →
      Course membership list state (.asks role sender)
        [⟨role, .ok addresses⟩, ⟨.members, membership.answer after .members⟩]
        ((membership.answer after .members).map .resolved)

/-- What comes of an accepted posting. -/
def grant (membership : Membership (EStateM ε σ)) : EStateM ε σ Resolution := do
  return .resolved (← membership.ask .members)

section Runs

variable {membership : Membership (EStateM ε σ)} {state : σ}

theorem authorize_of_settled {accepted : Bool}
    (settled : authorization.ruling category posting = .settled accepted) :
    authorization.authorize category posting membership =
      if accepted then grant membership else pure (.rejected (.singleton posting.list)) := by
  unfold authorize
  rw [isAllowed_eq, settled, pure_bind]
  rfl

theorem authorize_of_asks {role : Role}
    (asks : authorization.ruling category posting = .asks role sender) :
    authorization.authorize category posting membership =
      membership.ask role >>= fun addresses =>
        if addresses.contains sender then grant membership
        else pure (.rejected (.singleton posting.list)) := by
  unfold authorize
  rw [isAllowed_eq, asks]
  simp only [bind_assoc, pure_bind]
  rfl

theorem authorize_of_error {role : Role} {error : ε} {after : σ}
    (asks : authorization.ruling category posting = .asks role sender)
    (failed : membership.ask role state = .error error after) :
    authorization.authorize category posting membership state = .error error after := by
  rw [authorize_of_asks asks]
  change EStateM.bind _ _ _ = _
  rw [EStateM.bind, failed]

theorem authorize_of_ok {role : Role} {addresses : AddressSet} {after : σ}
    (asks : authorization.ruling category posting = .asks role sender)
    (answered : membership.ask role state = .ok addresses after) :
    authorization.authorize category posting membership state =
      if sender ∈ addresses then grant membership after
      else .ok (.rejected (.singleton posting.list)) after := by
  rw [authorize_of_asks asks]
  change EStateM.bind _ _ _ = _
  rw [EStateM.bind, answered]
  simp only [SortedSet.contains_iff]
  split <;> rfl

theorem grant_eq (membership : Membership (EStateM ε σ)) (state : σ) :
    grant membership state =
      match membership.ask .members state with
      | .ok members after => .ok (.resolved members) after
      | .error error after => .error error after := by
  unfold grant
  change EStateM.bind _ _ _ = _
  rw [EStateM.bind]
  cases membership.ask .members state <;> rfl

theorem ofResult_grant (membership : Membership (EStateM ε σ)) (state : σ)
    (calls : List (Consultation ε)) :
    (Hearing.ofResult (grant membership.noting (state, calls))).calls =
        calls ++ [⟨.members, membership.answer state .members⟩] ∧
      (Hearing.ofResult (grant membership.noting (state, calls))).outcome =
        (membership.answer state .members).map .resolved ∧
      (Hearing.ofResult (grant membership.noting (state, calls))).toResult =
        grant membership state := by
  rw [grant_eq, grant_eq, Membership.ask_noting, Membership.noted, Membership.answer]
  cases membership.ask .members state <;> exact ⟨rfl, rfl, rfl⟩

theorem course (authorization : Authorization) (category : Category) (posting : Posting)
    (membership : Membership (EStateM ε σ)) (state : σ) :
    Course membership posting.list state (authorization.ruling category posting)
      (authorization.hear category posting membership state).calls
      (authorization.hear category posting membership state).outcome ∧
    (authorization.hear category posting membership state).toResult =
      authorization.authorize category posting membership state := by
  unfold hear
  cases asks : authorization.ruling category posting with
  | settled accepted =>
      rw [authorize_of_settled asks, authorize_of_settled asks]
      cases accepted with
      | false => exact ⟨.refused, rfl⟩
      | true =>
          obtain ⟨calls, outcome, plain⟩ := ofResult_grant membership state []
          simp only [if_true, calls, outcome, plain]
          exact ⟨.granted, trivial⟩
  | asks role sender =>
      cases answered : membership.ask role state with
      | error error after =>
          have noted : membership.noting.ask role (state, []) =
              .error error (after, [⟨role, .error error⟩]) := by
            rw [Membership.ask_noting, Membership.noted, answered]
            rfl
          rw [authorize_of_error asks noted, authorize_of_error asks answered]
          exact ⟨.unanswered (Membership.answer_of_error answered), rfl⟩
      | ok addresses after =>
          have noted : membership.noting.ask role (state, []) =
              .ok addresses (after, [⟨role, .ok addresses⟩]) := by
            rw [Membership.ask_noting, Membership.noted, answered]
            rfl
          rw [authorize_of_ok asks noted, authorize_of_ok asks answered]
          split
          · rename_i among
            obtain ⟨calls, outcome, plain⟩ :=
              ofResult_grant membership after [⟨role, .ok addresses⟩]
            rw [calls, outcome, plain]
            exact ⟨.familiar answered among, rfl⟩
          · rename_i apart
            exact ⟨.stranger (Membership.answer_of_ok answered) apart, rfl⟩

end Runs

namespace Course

variable {membership : Membership (EStateM ε σ)} {list : Address} {state : σ} {ruling : Ruling}
  {calls : List (Consultation ε)} {outcome : Except ε Resolution}

theorem owners_iff (course : Course membership list state ruling calls outcome) :
    (∃ call ∈ calls, call.role = .owners) ↔ ∃ sender, ruling = .asks .owners sender := by
  cases course with
  | refused | granted | unanswered | stranger | familiar => simp

theorem members_iff (course : Course membership list state ruling calls outcome) :
    (∃ call ∈ calls, call.role = .members) ↔
      ruling.Accepts (membership.answer state) ∨ ∃ sender, ruling = .asks .members sender := by
  cases course with
  | refused | granted => simp [Ruling.Accepts]
  | unanswered failed => simp [Ruling.Accepts, failed]
  | stranger answered apart => simp [Ruling.Accepts, answered, apart]
  | familiar answered among =>
      have accepts := Membership.answer_of_ok answered
      simp [Ruling.Accepts, accepts, among]

/-- The first call that fails is the last one, and its error is the outcome. -/
theorem error_iff (course : Course membership list state ruling calls outcome) (error : ε) :
    outcome = .error error ↔ calls.findSome? Consultation.error? = some error := by
  cases course with
  | refused => simp
  | granted => cases membership.answer state .members <;> simp [Except.map, Consultation.error?]
  | unanswered | stranger => simp [Consultation.error?]
  | @familiar _ _ _ after =>
      cases membership.answer after .members <;>
        simp [Except.map, List.findSome?_cons, Consultation.error?]

theorem resolved_iff (course : Course membership list state ruling calls outcome)
    (members : AddressSet) :
    outcome = .ok (.resolved members) ↔
      ruling.Accepts (membership.answer state) ∧
        calls.getLast? = some ⟨.members, .ok members⟩ := by
  cases course with
  | refused => simp
  | granted =>
      cases membership.answer state .members <;> simp [Except.map, Ruling.Accepts]
  | unanswered => simp
  | stranger answered apart => simp [Ruling.Accepts, answered, apart]
  | @familiar _ _ _ after answered among =>
      have accepts := Membership.answer_of_ok answered
      cases membership.answer after .members <;> simp [Except.map, Ruling.Accepts, accepts, among]

theorem rejected_iff (course : Course membership list state ruling calls outcome)
    (lists : AddressSet) :
    outcome = .ok (.rejected lists) ↔
      ¬ ruling.Accepts (membership.answer state) ∧
        calls.findSome? Consultation.error? = none ∧ lists = .singleton list := by
  cases course with
  | refused => simp [Ruling.Accepts, eq_comm]
  | granted => cases membership.answer state .members <;> simp [Except.map, Ruling.Accepts]
  | unanswered => simp [Consultation.error?]
  | stranger answered apart => simp [Ruling.Accepts, answered, apart, Consultation.error?, eq_comm]
  | @familiar _ _ _ after answered among =>
      have accepts := Membership.answer_of_ok answered
      cases membership.answer after .members <;> simp [Except.map, Ruling.Accepts, accepts, among]

theorem exists_last (course : Course membership list state ruling calls outcome)
    (accepts : ruling.Accepts (membership.answer state)) :
    ∃ after, calls.getLast? = some ⟨.members, membership.answer after .members⟩ := by
  cases course with
  | refused => cases accepts
  | granted => exact ⟨state, rfl⟩
  | unanswered failed => simp [Ruling.Accepts, failed] at accepts
  | stranger answered apart => simp [Ruling.Accepts, answered, apart] at accepts
  | @familiar _ _ _ after => exact ⟨after, rfl⟩

/-- A posting that turns on the sender and is accepted was decided by the first answer. -/
theorem exists_decided {role : Role} {sender : Address} {members : AddressSet}
    (course : Course membership list state (.asks role sender) calls outcome)
    (resolved : outcome = .ok (.resolved members)) :
    ∃ decided after, membership.ask role state = .ok decided after ∧ sender ∈ decided ∧
      membership.answer after .members = .ok members ∧
      calls = [⟨role, .ok decided⟩, ⟨.members, .ok members⟩] := by
  cases course with
  | unanswered => cases resolved
  | stranger => cases resolved
  | @familiar _ _ decided after answered among =>
      have last : membership.answer after .members = .ok members := by
        cases given : membership.answer after .members with
        | error error => rw [given] at resolved; cases resolved
        | ok addresses => rw [given] at resolved; cases resolved; rfl
      exact ⟨decided, after, answered, among, last, by rw [last]⟩

end Course

/-- The policy is the category of the list, or the one for lists whose category is not recognized,
as for the groups of a service.  Whatever a membership answers, a decision asks for the owners only
if the policy is restricted to them and there is a sender, and for the members only if the posting
is accepted or if the policy is restricted to them and there is a sender.  It fails only if one of
its calls fails, with the error of the first that does.  An accepted posting goes to the members,
and any other is rejected from the list alone.  Under a policy that is restricted to the members
the sender is among those that it was decided by, and the posting goes to them if they are told
again, as fixed answers and the rosters of a service are. -/
theorem authorize_consults (authorization : Authorization) (category : Category)
    (posting : Posting) :
    (∀ policy, authorization.effective category = some policy ↔
      authorization.Applies category policy) ∧
      (∀ (membership : Membership (EStateM ε σ)) (state : σ),
        let hearing := authorization.hear category posting membership state
        let policy := authorization.effective category
        let accepted := authorization.Admits category posting (membership.answer state)
        hearing.toResult = authorization.authorize category posting membership state ∧
          (hearing.Calls .owners ↔ policy = some .ownerRestricted ∧ posting.sender.isSome) ∧
          (hearing.Calls .members ↔
            accepted ∨ policy = some .memberRestricted ∧ posting.sender.isSome) ∧
          (∀ error, hearing.outcome = .error error ↔ hearing.firstError? = some error) ∧
          (∀ members, hearing.outcome = .ok (.resolved members) ↔
            accepted ∧ hearing.calls.getLast? = some ⟨.members, .ok members⟩) ∧
          (∀ lists, hearing.outcome = .ok (.rejected lists) ↔
            ¬ accepted ∧ hearing.firstError? = none ∧ lists = .singleton posting.list) ∧
          ∀ sender members, policy = some .memberRestricted → posting.sender = some sender →
            hearing.outcome = .ok (.resolved members) →
              ∃ decided, sender ∈ decided ∧
                hearing.calls = [⟨.members, .ok decided⟩, ⟨.members, .ok members⟩] ∧
                (membership.IsSteady → decided = members)) ∧
      (∀ answers : Role → Except ε AddressSet,
        (.fixed answers : Membership (EStateM ε σ)).IsSteady ∧
          ∀ (state : σ) (members : AddressSet),
            (authorization.hear category posting (.fixed answers) state).outcome =
                .ok (.resolved members) ↔
              authorization.Admits category posting answers ∧ answers .members = .ok members) ∧
      ∀ (service : Service) (group : Group),
        service.authorization.effective (Category.classify group.category) =
            (service.policy group).filter (· != .unrecognized) ∧
          ∀ guard : LoopGuard, (service.membership group guard).IsSteady := by
  refine ⟨fun policy => effective_eq_some_iff, fun membership state => ?_,
    fun answers => ⟨Membership.isSteady_fixed answers, ?_⟩,
    fun service group => ⟨service.effective_classify group, service.isSteady_membership group⟩⟩
  · obtain ⟨course, plain⟩ := authorization.course category posting membership state
    dsimp only
    rw [admits_iff]
    refine ⟨plain, ?_, ?_, course.error_iff, course.resolved_iff, course.rejected_iff, ?_⟩
    · rw [Hearing.Calls, course.owners_iff]
      simp only [ruling_eq_asks_iff, Role.restriction, exists_and_left, Option.isSome_iff_exists]
    · rw [Hearing.Calls, course.members_iff]
      simp only [ruling_eq_asks_iff, Role.restriction, exists_and_left, Option.isSome_iff_exists]
    · intro sender members policy known resolved
      have asks : authorization.ruling category posting = .asks .members sender :=
        ruling_eq_asks_iff.mpr ⟨policy, known⟩
      rw [asks] at course
      obtain ⟨decided, after, answered, among, last, calls⟩ := course.exists_decided resolved
      refine ⟨decided, among, calls, fun steady => ?_⟩
      have again := (steady state decided after answered).symm.trans last
      exact Except.ok.inj again
  · intro state members
    have course := (authorization.course category posting (.fixed answers) state).1
    rw [course.resolved_iff, admits_iff, Membership.answer_fixed]
    refine and_congr_right fun accepts => ?_
    rw [← Membership.answer_fixed answers state] at accepts
    obtain ⟨after, last⟩ := course.exists_last accepts
    rw [last, Membership.answer_fixed, Option.some.injEq, Consultation.mk.injEq]
    exact and_iff_right rfl

end Authorization

namespace Sample

/-- A group whose marker is not recognized. -/
def circle : Group := { openGroup [reader, writer] with category := some "friends" }

/-- A service for which lists that are not recognized are restricted to their members. -/
def cautious : Service := { service with authorization := ⟨some .memberRestricted⟩ }

/-- A posting of a member to a list of two members. -/
def decided : Hearing DirectoryError Roster :=
  cautious.authorization.hear (Category.classify circle.category)
    (cautious.posting (some reader) team) (cautious.membership circle .empty) ⟨.empty, none, none⟩

theorem classify_circle : Category.classify circle.category = .unrecognized := by decide +kernel

theorem outcome_decided : decided.outcome = .ok (.resolved (.ofList [reader, writer])) := by
  rfl

end Sample

open Sample in
theorem Authorization.authorize_consults_sample :
    cautious.authorization.effective (Category.classify circle.category) =
        some .memberRestricted ∧
      decided.outcome = .ok (.resolved (.ofList [reader, writer])) ∧
      decided.calls = [⟨.members, .ok (.ofList [reader, writer])⟩,
        ⟨.members, .ok (.ofList [reader, writer])⟩] := by
  obtain ⟨applies, general, _, service⟩ := Authorization.authorize_consults (ε := DirectoryError)
    (σ := Roster) cautious.authorization (Category.classify circle.category)
    (cautious.posting (some reader) team)
  have policy := (applies .memberRestricted).mpr (classify_circle ▸ .instead rfl nofun)
  have heard := general (cautious.membership circle .empty) ⟨.empty, none, none⟩
  obtain ⟨first, _, calls, same⟩ := heard.2.2.2.2.2.2 reader _ policy rfl outcome_decided
  cases same ((service cautious circle).2 .empty)
  exact ⟨policy, outcome_decided, calls⟩

end Listmaster

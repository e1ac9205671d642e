import Listmaster.Config
import Listmaster.Proofs.Recognition
import Listmaster.Proofs.Rejection

/-!
Configurations that were checked.

The check looks at a configuration before its domains are written in their normal form.  This form
keeps whatever is checked (`Config.flaw?_normalize`), and the classifier that is made of it is the
same (`Config.classifier_normalize`): `Config.check_settles`.
-/

namespace Listmaster

namespace Domain

/-- No letter of the domain is in uppercase, and it does not end with a dot. -/
def IsNormal (domain : String) : Prop :=
  (∀ c ∈ domain.toList, c.isUpper = false) ∧ domain.toList.getLast? ≠ some '.'

theorem isNormal_normalize (domain : String) : IsNormal (normalize domain) := by
  refine ⟨?_, getLast?_normalize domain⟩
  intro c inside
  rw [toList_normalize] at inside
  obtain ⟨d, _, rfl⟩ := List.mem_map.mp inside
  exact Char.isUpper_toLower_eq_false d

end Domain

namespace Config

/-- What it means that `checked` is what a configuration became by its check. -/
structure Settles (config checked : Config) : Prop where
  rest : checked = { config with domains := checked.domains }
  written : ∀ domain ∈ checked.domains, Domain.IsNormal domain
  again : checked.check = .ok checked
  candidate : ∀ directory a,
    (checked.service directory).resolver.classifier.isCandidate a =
      (config.service directory).resolver.classifier.isCandidate a
  isLocal : ∀ directory a,
    (checked.service directory).resolver.classifier.isLocal a =
      (config.service directory).resolver.classifier.isLocal a
  served : ∀ directory a,
    (checked.service directory).resolver.classifier.servingDomain a =
      (config.service directory).resolver.classifier.servingDomain a
  /-- The state of a copy for rejected recipients. -/
  state : ∀ directory mail copy,
    ((checked.service directory).process mail).outcome = .ok (some copy) →
      copy.state ≠ .root ∧ copy.state.name ≠ ""

variable {config checked : Config} {domain : String}

theorem mem_domains_normalize :
    domain ∈ config.normalize.domains ↔
      ∃ written ∈ config.domains, Domain.normalize written = domain := by
  rw [normalize, SortedSet.mem_ofList, List.mem_map]
  rfl

theorem normalize_normalize (config : Config) : config.normalize.normalize = config.normalize := by
  have same : config.normalize.normalize.domains = config.normalize.domains := by
    ext domain
    simp only [mem_domains_normalize]
    constructor
    · rintro ⟨_, ⟨written, here, rfl⟩, rfl⟩
      exact ⟨written, here, (Domain.normalize_normalize written).symm⟩
    · rintro ⟨written, here, rfl⟩
      exact ⟨Domain.normalize written, ⟨written, here, rfl⟩, Domain.normalize_normalize written⟩
  calc config.normalize.normalize
      = { config with domains := config.normalize.normalize.domains } := rfl
    _ = { config with domains := config.normalize.domains } := by rw [same]
    _ = config.normalize := rfl

theorem isEmpty_domains_normalize (config : Config) :
    config.normalize.domains.isEmpty = config.domains.isEmpty := by
  rw [Bool.eq_iff_iff, SortedSet.isEmpty_iff, SortedSet.isEmpty_iff]
  constructor
  · intro empty written here
    exact empty (Domain.normalize written) (mem_domains_normalize.mpr ⟨written, here, rfl⟩)
  · intro empty domain here
    obtain ⟨written, there, _⟩ := mem_domains_normalize.mp here
    exact empty written there

theorem flaw?_normalize (config : Config) : config.normalize.flaw? = config.flaw? := by
  unfold flaw?
  rw [isEmpty_domains_normalize]
  rfl

theorem check_eq_ok_iff :
    config.check = .ok checked ↔ config.flaw? = none ∧ checked = config.normalize := by
  unfold check
  cases config.flaw? <;> simp [eq_comm]

/-- The domains that are compared are those in their normal form, so that it does not matter
whether they were written in it. -/
theorem classifier_normalize (config : Config) : config.normalize.classifier = config.classifier := by
  apply Classifier.make_congr (Domain.alike_iff.mpr rfl)
  constructor
  · intro domain here
    obtain ⟨written, there, rfl⟩ := mem_domains_normalize.mp here
    exact ⟨written, there, Domain.alike_iff.mpr (Domain.normalize_normalize written)⟩
  · intro written here
    exact ⟨Domain.normalize written, mem_domains_normalize.mpr ⟨written, here, rfl⟩,
      Domain.alike_iff.mpr (Domain.normalize_normalize written)⟩

theorem rejectedState_of_sound (sound : config.flaw? = none) :
    config.lists.rejectedState ≠ .root ∧ config.lists.rejectedState.name ≠ "" := by
  unfold flaw? at sound
  dsimp only at sound
  split_ifs at sound with noLimit badLabel isRoot isUnnamed
  exact ⟨isRoot, isUnnamed⟩

/-- The check writes the domains in their normal form, which nothing depends on: the configuration
is the same but for them, passes the check again unchanged, and recognizes the same addresses.  With
it, a copy for rejected recipients is never handled from the root, nor by a processor without a
name. -/
theorem check_settles (config checked : Config) (accepted : config.check = .ok checked) :
    config.Settles checked := by
  obtain ⟨sound, rfl⟩ := check_eq_ok_iff.mp accepted
  have soundToo : config.normalize.flaw? = none := by rw [flaw?_normalize, sound]
  refine ⟨rfl, ?_, ?_, ?_, ?_, ?_, ?_⟩
  · intro domain here
    obtain ⟨written, _, rfl⟩ := mem_domains_normalize.mp here
    exact Domain.isNormal_normalize written
  · exact check_eq_ok_iff.mpr ⟨soundToo, (normalize_normalize config).symm⟩
  · intro directory a
    exact congrArg (Classifier.isCandidate · a) (classifier_normalize config)
  · intro directory a
    exact congrArg (Classifier.isLocal · a) (classifier_normalize config)
  · intro directory a
    exact congrArg (Classifier.servingDomain · a) (classifier_normalize config)
  · intro directory mail copy succeeded
    obtain ⟨_, rfl⟩ := (Service.copy_eq_some_iff succeeded).mp rfl
    exact rejectedState_of_sound soundToo

end Config

/-! A configuration that writes one domain twice, and another one as nothing but a dot. -/

namespace Sample

/-- Every address of these domains may be a list. -/
def hallConfig (domains : List String) : Config where
  requirement := ⟨[]⟩
  domains := .ofList domains
  lists := { base := "", predicate := .anyLocal }
  groups := .file "lists.json"
  logs := {}

def hallDirectory : Directory := (StaticDirectory.empty.withGroup board ownerless).toDirectory

def complaint : Mail := .make "5" (some writer) [board]

theorem check_hall :
    (hallConfig ["LISTS.Example.org.", "lists.example.org", "."]).check =
      .ok (hallConfig ["lists.example.org", ""]) := by decide

theorem outcome_complaint :
    (((hallConfig ["lists.example.org", ""]).service hallDirectory).process complaint).outcome =
      .ok (some (complaint.duplicate [.ofAddress board] ⟨"rejectedSender"⟩)) := by decide +kernel

end Sample

open Sample in
theorem Config.check_settles_sample :
    (hallConfig ["lists.example.org", ""]).check = .ok (hallConfig ["lists.example.org", ""]) ∧
      ((hallConfig ["LISTS.Example.org.", "lists.example.org", "."]).service
        hallDirectory).resolver.classifier.isCandidate board = true ∧
      (complaint.duplicate [.ofAddress board] ⟨"rejectedSender"⟩).state ≠ .root := by
  have settles := Config.check_settles _ _ check_hall
  refine ⟨settles.again, ?_, (settles.state hallDirectory complaint _ outcome_complaint).1⟩
  rw [← settles.candidate hallDirectory board]
  decide

end Listmaster

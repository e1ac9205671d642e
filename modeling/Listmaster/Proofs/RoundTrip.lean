import Listmaster.Command
import Listmaster.Proofs.Json.Records
import Listmaster.Proofs.Json.Text
import Listmaster.Proofs.Rejection

/-!
Mails that are written and processed again.

What is written of a mail or of a static directory is read back as it.  A mail that a run has
printed is read again from the printed text, and a run on it is a run on the mail itself:
`Json.round_trips`.
-/

namespace Listmaster

open Json (Denotes Printable)

variable {level : Nat}

theorem Recipient.printable (recipient : Recipient) : Printable 3 recipient.toJson := by
  have headers : Printable 4 (headersToJson recipient.headers) := by
    refine .array (by decide) (List.forall_mem_map.mpr fun header _ => .array (by decide) ?_)
    simp [Printable.text]
  refine .object (by decide) (List.forall_mem_cons.mpr ⟨.text _, ?_⟩)
  split
  · exact List.forall_mem_nil _
  · exact List.forall_mem_singleton.mpr headers

theorem Message.printable (message : Message) : Printable 2 message.toJson := by
  refine .object (by decide) ?_
  simp only [List.forall_mem_cons]
  refine ⟨.array (by decide) ?_, .ofOption Printable.text _, nofun⟩
  exact List.forall_mem_map.mpr fun header _ => .text header

namespace Mail

theorem fits_of_attributesOfJson? {written : Json} {attributes : SortedMap String JsonValue}
    (made : attributesOfJson? written = some attributes) (fits : written.Fits level) :
    ∀ entry ∈ attributes.toList, entry.2.json.Fits (level + 1) := by
  cases written with
  | object fields =>
      obtain ⟨entries, all, made⟩ := Option.bind_eq_some_iff.mp made
      cases made
      intro entry here
      obtain ⟨field, among, read⟩ :=
        (Json.mem_mapM_iff all).mp (SortedMap.mem_of_mem_ofList here)
      obtain ⟨value, readValue, same⟩ := Option.bind_eq_some_iff.mp read
      cases same
      exact JsonValue.fits_of_ofJson? readValue (Json.fitsFields_iff.mp fits.2 field among)
  | null | bool | integer | float | text | array | unreadable => cases made

/-- The attributes of the mail can be printed at their place in it. -/
def IsPrintable (mail : Mail) : Prop :=
  ∀ entry ∈ mail.attributes.toList, Printable 3 entry.2.json

variable {mail : Mail}

theorem fits_of_ofJson? {written : Json} (made : ofJson? written = some mail)
    (fits : written.Fits level) : ∀ entry ∈ mail.attributes.toList, entry.2.json.Fits (level + 2) := by
  simp only [ofJson?, Option.bind_eq_bind, Option.bind_eq_some_iff, Option.pure_def,
    Option.some.injEq] at made
  obtain ⟨record, readRecord, _, _, _, _, _, _, _, _, _, _, attributes, readAttributes, rfl⟩ := made
  unfold Json.Record.withDefault at readAttributes
  split at readAttributes
  · cases readAttributes
    exact List.forall_mem_nil _
  · rename_i given found
    exact fits_of_attributesOfJson? readAttributes (Json.Record.fits_of_get? readRecord fits found)

theorem isPrintable_of_read? {text : String} (read : (Json.read? text).bind ofJson? = some mail)
    (exact : ∀ entry ∈ mail.attributes.toList, entry.2.json.isExact = true) :
    mail.IsPrintable := by
  obtain ⟨written, readText, made⟩ := Option.bind_eq_some_iff.mp read
  intro entry here
  exact ⟨exact entry here, fits_of_ofJson? made (Json.fits_of_read? readText) entry here⟩

theorem IsPrintable.toJson (printable : mail.IsPrintable) : Printable 1 mail.toJson := by
  have recipients : Printable 2 (.array (mail.recipients.map Recipient.toJson)) :=
    .array (by decide) (List.forall_mem_map.mpr fun recipient _ => recipient.printable)
  unfold Mail.toJson
  refine .object (by decide) ?_
  simp only [List.cons_append, List.nil_append, List.forall_mem_cons]
  refine ⟨.text _, .text _, .ofOption (fun _ => .text _) _, recipients, mail.message.printable, ?_⟩
  split
  · exact List.forall_mem_nil _
  · exact List.forall_mem_singleton.mpr (.object (by decide) (List.forall_mem_map.mpr printable))

theorem IsPrintable.read?_printed {text : String} (printable : mail.IsPrintable)
    (prints : mail.toJson.PrintsAs text) : (Json.read? text).bind ofJson? = some mail := by
  rw [prints.read? printable.toJson, Option.bind_some]
  exact mail.denotes.reads _ (.inl rfl)

end Mail

theorem AddressSet.printable (addresses : AddressSet) : Printable 4 addresses.toJson :=
  .array (by decide) (List.forall_mem_map.mpr fun address _ => .text address.full)

theorem Group.printable (group : Group) : Printable 3 group.toJson := by
  refine .object (by decide) ?_
  simp only [List.forall_mem_cons]
  exact ⟨.text _, .ofOption Printable.text _, group.members.printable, group.owners.printable,
    nofun⟩

theorem StaticDirectory.printable (directory : StaticDirectory) : Printable 1 directory.toJson := by
  refine .object (by decide) (List.forall_mem_singleton.mpr (.object (by decide) ?_))
  exact List.forall_mem_map.mpr fun entry _ => entry.2.printable

theorem StaticDirectory.read?_printed {directory : StaticDirectory} {text : String}
    (prints : directory.toJson.PrintsAs text) :
    (Json.read? text).bind ofJson? = some directory := by
  rw [prints.read? directory.printable, Option.bind_some]
  exact directory.denotes.reads _ (.inl rfl)

theorem LoopGuard.isPrintable_store {mail : Mail} (guard : LoopGuard)
    (printable : mail.IsPrintable) : (guard.store mail).IsPrintable := by
  unfold store
  split
  · exact printable
  · intro entry here
    rcases SortedMap.mem_insertInto here with rfl | among
    · refine .array (by decide) (List.forall_mem_map.mpr fun address _ => ?_)
      exact .text address
    · exact printable entry among

namespace Service

variable {service : Service} {mail printed : Mail} {copy : Option Mail}

/-- The mails that a run prints can be printed, since the mail that was read could be. -/
theorem isPrintable_of_printed (printable : mail.IsPrintable)
    (succeeded : (service.process mail).outcome = .ok copy)
    (isPrinted : printed = (service.process mail).mail ∨ copy = some printed) :
    printed.IsPrintable := by
  rcases isPrinted with rfl | other
  · by_cases stay : ∀ x ∈ mail.addresses, service.Stays (.load mail) x
    · rw [(process_of_stays stay).1]
      exact printable
    · unfold Mail.IsPrintable
      rw [attributes_process succeeded stay]
      exact LoopGuard.isPrintable_store _ printable
  · obtain ⟨_, rfl⟩ := (copy_eq_some_iff succeeded).mp other
    exact printable

end Service

section Reading

variable {m : Type → Type} [Monad m] [LawfulMonad m] {environment : Environment m} {path : String}

@[simp]
theorem fromUTF8?_toByteArray (text : String) : String.fromUTF8? text.toByteArray = some text := by
  rw [String.fromUTF8?, dif_pos text.isValidUTF8]
  rfl

theorem Environment.readText_of_content {text : String} {fetch : m Unit}
    (content : environment.contentOf path = do fetch; return .ok text.toUTF8) :
    environment.readText path = do fetch; return .ok text := by
  rw [readText, content]
  simp

theorem Mail.ofFile_of_content {text : String} {mail : Mail} {fetch : m Unit}
    (read : (Json.read? text).bind ofJson? = some mail)
    (content : environment.contentOf path = do fetch; return .ok text.toUTF8) :
    ofFile environment path = do fetch; return mail := by
  rw [ofFile]
  simp [Environment.readText_of_content content, read]

end Reading

namespace Command

/-- A run on a file with this text is a run on the mail. -/
def RunsOn (text : String) (mail : Mail) : Prop :=
  ∀ (m : Type → Type) [Monad m] [LawfulMonad m] (environment : Environment m) (path : String)
    (fetch : m Unit) (config : Config),
    (environment.contentOf path = do fetch; return .ok text.toUTF8) →
    (run path).attempt config environment = do
      let service := config.service (← config.directory environment)
      fetch
      ExceptT.mk (pure (settle config (runMail service mail)))

theorem runsOn_of_read? {text : String} {mail : Mail}
    (read : (Json.read? text).bind Mail.ofJson? = some mail) : RunsOn text mail := by
  intro m _ _ environment path fetch config content
  rw [attempt, Mail.ofFile_of_content read content]
  simp

end Command

theorem Command.printed_isInfix {mail printed : Mail} {rejected : Option Mail}
    (isPrinted : printed = mail ∨ rejected = some printed) :
    Json.Printer.pretty 1 printed.toJson <:+: (shown (runReport mail rejected)).toList := by
  have inReport : Json.Printer.pretty 1 printed.toJson <:+:
      Json.Printer.pretty 0 (runReport mail rejected) := by
    rcases isPrinted with rfl | rfl
    · exact Json.Printer.pretty_isInfix_object List.mem_cons_self 0
    · exact Json.Printer.pretty_isInfix_object
        (List.mem_cons_of_mem _ (List.mem_singleton_self ("rejected", printed.toJson))) 0
  rw [shown, Json.pretty, String.toList_append, String.toList_ofList]
  exact inReport.trans (List.prefix_append _ _).isInfix

/-- Mails and static directories are read back from what is written of them, and static
directories from the printed text too.  A mail that was read from a text, without floating point
numbers in its attributes, is processed: what is printed of the run holds each mail that the run
made, and a run on a file that shows this mail is a run on the mail itself. -/
theorem Json.round_trips :
    (∀ mail : Mail, Denotes Mail.ofJson? mail.toJson mail) ∧
      (∀ directory : StaticDirectory,
        Denotes StaticDirectory.ofJson? directory.toJson directory ∧
          ∀ text, directory.toJson.PrintsAs text →
            (read? text).bind StaticDirectory.ofJson? = some directory) ∧
      ∀ (service : Service) (text : String) (mail printed : Mail) (rejected : Option Mail),
        (read? text).bind Mail.ofJson? = some mail →
        (∀ entry ∈ mail.attributes.toList, entry.2.json.isExact = true) →
        (service.process mail).outcome = .ok rejected →
        printed = (service.process mail).mail ∨ rejected = some printed →
        (∃ output, (Command.runMail service mail).outcome = .ok output ∧
            Printer.pretty 1 printed.toJson <:+: output.toList) ∧
          ∀ shown, printed.toJson.PrintsAs shown → Command.RunsOn shown printed := by
  refine ⟨Mail.denotes, fun directory => ⟨directory.denotes, fun text prints => ?_⟩, ?_⟩
  · exact StaticDirectory.read?_printed prints
  · intro service text mail printed rejected read exact succeeded isPrinted
    have printable : printed.IsPrintable :=
      Service.isPrintable_of_printed (Mail.isPrintable_of_read? read exact) succeeded isPrinted
    refine ⟨⟨_, by rw [Command.runMail, succeeded], Command.printed_isInfix isPrinted⟩, ?_⟩
    exact fun shown prints => Command.runsOn_of_read? (printable.read?_printed prints)

namespace Sample

/-- A mail whose state has the name of a reserved one, but for the case of a letter. -/
def letter : Mail :=
  { Mail.make "1" none [team] with state := ⟨"Root"⟩ }.setAttribute "seen" ⟨.array [.null], rfl⟩

def letterText : String :=
  "\x7b\"message_id\": \"1\", \"state\": \"Root\", \"rcpt\": [[\"team@lists.example.org\", []]],
    \"attributes\": \x7b\"seen\": 7, \"seen\": [null]\x7d\x7d"

theorem read?_letterText : (Json.read? letterText).bind Mail.ofJson? = some letter := by
  decide +kernel

theorem outcome_letter : (service.process letter).outcome = .ok none := by decide +kernel

end Sample

theorem Json.round_trips_sample :
    (Json.read? Sample.letterText).bind Mail.ofJson? = some Sample.letter ∧
      (Sample.service.process Sample.letter).outcome = .ok none ∧
      Command.RunsOn (Json.pretty (Sample.service.process Sample.letter).mail.toJson ++ "\n")
        (Sample.service.process Sample.letter).mail := by
  have trips := Json.round_trips.2.2 Sample.service Sample.letterText Sample.letter _ none
    Sample.read?_letterText (by decide) Sample.outcome_letter (.inl rfl)
  refine ⟨Sample.read?_letterText, Sample.outcome_letter, ?_⟩
  exact trips.2 _ ⟨0, ['\n'], .inr rfl, String.ofList_append.symm⟩

end Listmaster

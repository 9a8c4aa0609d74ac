import Converge.Proofs.Objects
import Converge.Proofs.Survival
import Converge.Proofs.Twins

/-!
# Verdicts of a server

What a server may say to a call: an object, or one of four reasons why it is refused, with
a message. The command line prints a refusal with the server's word for the reason in front;
the interface answers it with a status. Both are read back as failures of the same sort, if
the message holds none of the words that the command line is searched for.
-/

namespace Converge

namespace Text

/-- Does a piece at the end of the text begin the pattern? -/
def begins (pattern : List Char) : List Char → Bool
  | [] => false
  | c :: rest => (c :: rest).isPrefixOf pattern || begins pattern rest

/-- A pattern that no end of the first text begins does not lie across the border. -/
theorem occursIn_append {pattern first : List Char} (apart : begins pattern first = false)
    (second : List Char) :
    occursIn pattern (first ++ second) = (occursIn pattern first || occursIn pattern second) := by
  induction first with
  | nil =>
    cases pattern with
    | nil => exact occursIn_iff.mpr List.nil_infix
    | cons p pattern => rfl
  | cons c rest ih =>
    rw [begins, Bool.or_eq_false_iff] at apart
    have front : pattern.isPrefixOf (c :: (rest ++ second)) = pattern.isPrefixOf (c :: rest) := by
      rw [Bool.eq_iff_iff, List.isPrefixOf_iff_prefix, List.isPrefixOf_iff_prefix]
      refine ⟨fun starts => ?_, fun starts => starts.trans (List.prefix_append _ _)⟩
      -- else the pattern would begin with all that is left of the first text
      have whole : c :: rest <+: c :: (rest ++ second) := List.prefix_append (c :: rest) second
      rcases List.prefix_or_prefix_of_prefix starts whole with short | long
      · exact short
      · rw [← List.isPrefixOf_iff_prefix, apart.1] at long
        cases long
    rw [List.cons_append, occursIn, occursIn, front, ih apart.2, Bool.or_assoc]

theorem contains_append {first pattern : String}
    (apart : begins pattern.toList first.toList = false) (second : String) :
    contains (first ++ second) pattern = (contains first pattern || contains second pattern) := by
  rw [contains, String.toList_append, occursIn_append apart]
  rfl

end Text

inductive Reason where
  | notFound
  | alreadyExists
  | forbidden
  | internal
deriving DecidableEq, Repr

namespace Reason

def word : Reason → String
  | .notFound => "NotFound"
  | .alreadyExists => "AlreadyExists"
  | .forbidden => "Forbidden"
  | .internal => "InternalError"

def code : Reason → Nat
  | .notFound => 404
  | .alreadyExists => 409
  | .forbidden => 403
  | .internal => 500

/-- The words that a status may have for the reason. Where the code tells it, any word will
do that tells nothing else. -/
def Named : Reason → String → Prop
  | .notFound, word => word = "NotFound"
  | .alreadyExists, word => word = "AlreadyExists"
  | .forbidden, word | .internal, word => word ≠ "NotFound"

def exitCode : Reason → Nat
  | .forbidden => 3
  | _ => 4

theorem named_word (reason : Reason) : reason.Named reason.word := by
  cases reason <;> simp [Named, word]

theorem Named.isNotFound {reason : Reason} {word : String} (named : reason.Named word) :
    word = "NotFound" ↔ reason = .notFound := by
  cases reason with
  | notFound => exact iff_of_true named rfl
  | alreadyExists =>
    obtain rfl : word = "AlreadyExists" := named
    exact iff_of_false (by decide) (by decide)
  | forbidden | internal => exact iff_of_false named (by decide)

end Reason

structure Reason.Fails (reason : Reason) (failure : Failure) : Prop where
  exitCode : failure.exitCode = reason.exitCode
  race : failure.isAlreadyExists = true ↔ reason = .alreadyExists

theorem Reason.Fails.alike {reason : Reason} {f g : Failure} (hf : reason.Fails f)
    (hg : reason.Fails g) : f.Alike g :=
  ⟨hf.exitCode.trans hg.exitCode.symm, Bool.eq_iff_iff.mpr (hf.race.trans hg.race.symm)⟩

namespace CommandLine

def refusalHead (reason : Reason) : String := "Error from server (" ++ reason.word ++ "): "

def marks : List String := unauthorizedMarks ++ [notFoundMark, alreadyExistsMark]

def Plain (message : String) : Prop := ∀ mark ∈ marks, Text.contains message mark = false

instance (message : String) : Decidable (Plain message) :=
  inferInstanceAs (Decidable (∀ mark ∈ marks, Text.contains message mark = false))

/-- Texts that hold the same words of missing authorization tell of it alike. -/
theorem unauthorized_congr {text text' : String}
    (same : ∀ mark ∈ unauthorizedMarks, Text.contains text mark = Text.contains text' mark) :
    unauthorizedMarks.any (Text.contains text) = unauthorizedMarks.any (Text.contains text') := by
  rw [Bool.eq_iff_iff, List.any_eq_true, List.any_eq_true]
  refine exists_congr fun mark => and_congr_right fun listed => ?_
  rw [same mark listed]

section Refusal

variable {setup : Setup} {c : Call} {finished : Finished} {reason : Reason} {message : String}

/-- The marks in what is said of a refusal are those of the words in front. -/
theorem contains_refusal (plain : Plain message) {mark : String} (listed : mark ∈ marks) :
    Text.contains (refusalHead reason ++ message) mark =
      Text.contains (refusalHead reason) mark := by
  have apart : ∀ mark ∈ marks,
      Text.begins mark.toList (refusalHead reason).toList = false := by
    cases reason <;> decide +kernel
  rw [Text.contains_append (apart mark listed), plain mark listed, Bool.or_false]

theorem refusalHead_authorized :
    unauthorizedMarks.any (Text.contains (refusalHead reason)) = (reason == .forbidden) := by
  cases reason <;> decide +kernel

theorem refusalHead_notFound :
    Text.contains (refusalHead reason) notFoundMark = (reason == .notFound) := by
  cases reason <;> decide +kernel

theorem refusalHead_alreadyExists :
    Text.contains (refusalHead reason) alreadyExistsMark = (reason == .alreadyExists) := by
  cases reason <;> decide +kernel

/-- A command that fails with a refusal is a failure for its reason. -/
theorem failureOf_refusal (plain : Plain message)
    (words : finished.stderr = refusalHead reason ++ message) :
    reason.Fails (failureOf setup c finished) ∧
      ((failureOf setup c finished).isNotFound = true ↔ reason = .notFound) := by
  have authorized : unauthorizedMarks.any (Text.contains finished.stderr) =
      (reason == .forbidden) := by
    rw [← refusalHead_authorized, words]
    exact unauthorized_congr fun mark listed =>
      contains_refusal plain (List.mem_append_left _ listed)
  have notFound : Text.contains finished.stderr notFoundMark = (reason == .notFound) := by
    rw [← refusalHead_notFound, words, contains_refusal plain (by decide)]
  have alreadyExists : Text.contains finished.stderr alreadyExistsMark =
      (reason == .alreadyExists) := by
    rw [← refusalHead_alreadyExists, words, contains_refusal plain (by decide)]
  rw [failureOf, classify, authorized, notFound, alreadyExists]
  cases reason <;>
    exact ⟨⟨rfl, by simp [Failure.isAlreadyExists]⟩, by simp [Failure.isNotFound]⟩

end Refusal

end CommandLine

namespace Content

/-- Slots of one name each find, in a map without repeated keys, what is under their names. -/
theorem foundInMap_ok (slots : List Slot) (single : ∀ slot ∈ slots, slot.names = [slot.name])
    {fields : List (String × Json)} (distinct : (fields.map Prod.fst).Nodup)
    (checks : ∀ slot ∈ slots, ∀ v, (slot.name, v) ∈ fields → slot.check (ofJson v) = .ok ())
    (seen : Found.Fields) (fresh : ∀ e ∈ fields, Entries.get? e.1 seen = none) :
    ∃ found, foundInMap slots seen (ofFields fields) = .ok found ∧ ∀ slot ∈ slots,
      Entries.get? slot.name found =
        (Entries.get? slot.name seen).or ((Entries.get? slot.name fields).map ofJson) := by
  induction fields generalizing seen with
  | nil => exact ⟨seen, rfl, fun _ _ => (Option.or_none).symm⟩
  | cons e rest ih =>
    obtain ⟨name, v⟩ := e
    rw [List.map_cons, List.nodup_cons] at distinct
    have later : ∀ slot ∈ slots, ∀ v, (slot.name, v) ∈ rest → slot.check (ofJson v) = .ok () :=
      fun slot listed v inside => checks slot listed v (List.mem_cons_of_mem _ inside)
    have freshLater : ∀ e ∈ rest, Entries.get? e.1 seen = none :=
      fun e inside => fresh e (List.mem_cons_of_mem _ inside)
    rw [ofFields, foundInMap]
    cases named : slots.find? fun slot => slot.names.contains name with
    | none =>
      obtain ⟨found, reads, finds⟩ := ih distinct.2 later seen freshLater
      refine ⟨found, ?_, ?_⟩
      · simp only [identify, named, bind, Except.bind]
        exact reads
      intro slot listed
      have other : ¬ name = slot.name := by
        have unnamed := List.find?_eq_none.mp named slot listed
        simpa [single slot listed, eq_comm] using unnamed
      rw [finds slot listed, Entries.get?, if_neg other]
    | some slot =>
      -- the key was not seen before, since keys are distinct
      have listed := List.mem_of_find?_eq_some named
      have same : name = slot.name := by
        have contains := List.find?_some named
        simpa [single slot listed, eq_comm] using contains
      subst same
      have unseen : Entries.get? slot.name seen = none := fresh _ List.mem_cons_self
      have checked := checks slot listed v List.mem_cons_self
      have freshNow : ∀ e ∈ rest, Entries.get? e.1 (seen ++ [(slot.name, ofJson v)]) = none := by
        intro e inside
        have other : ¬ slot.name = e.1 := fun same =>
          distinct.1 (List.mem_map.mpr ⟨e, inside, same.symm⟩)
        simp [Entries.get?_append, freshLater e inside, Entries.get?, other]
      obtain ⟨found, reads, finds⟩ := ih distinct.2 later _ freshNow
      refine ⟨found, ?_, ?_⟩
      · simp only [identify, named, bind, Except.bind, unseen, checked]
        exact reads
      intro slot' listed'
      rw [finds slot' listed', Entries.get?_append, Option.or_assoc]
      by_cases same : slot.name = slot'.name
      · simp [Entries.get?, same]
      · simp [Entries.get?, same]

section Field

variable {α : Type} {f : Field α} {c : Content} {a : α}

theorem Field.slot_check (reads : f.read c = .ok a) : f.slot.check c = .ok () := by
  exact congrArg (Except.map fun _ => ()) reads

theorem Field.value_ok {found : Found.Fields} (there : Entries.get? f.name found = some c)
    (reads : f.read c = .ok a) : f.value found = .ok a := by
  rw [value, there]
  exact reads

end Field

end Content

namespace Http

/-- The body is the status of a failure. -/
structure TellsFailure (code : Nat) (reason message body : String)
    (fields : List (String × Json)) : Prop where
  read : Json.read body = .ok (.obj fields)
  distinct : (fields.map Prod.fst).Nodup
  status : Entries.get? "status" fields = some (.str "Failure")
  message : Entries.get? "message" fields = some (.str message)
  reason : Entries.get? "reason" fields = some (.str reason)
  code : Entries.get? "code" fields = some (.int code)

section Status

variable {code : Nat} {reason message body : String} {fields : List (String × Json)}

theorem code_ok {n : Nat} (short : n < twoTo 16) : Status.code (.int n) = .ok n := by
  have fits : fitsUnsigned 16 n = true := by
    rw [fitsUnsigned, Bool.and_eq_true, decide_eq_true_eq, decide_eq_true_eq]
    exact ⟨Int.natCast_nonneg n, Int.ofNat_lt.mpr short⟩
  rw [Status.code, Status.natural, if_pos fits, Int.toNat_natCast]

open Status in
theorem TellsFailure.readError (tells : TellsFailure code reason message body fields)
    (short : code < twoTo 16) :
    Status.readError (Content.ofJson (.obj fields)) = .ok ⟨"Failure", message, reason, code⟩ := by
  have readsCode : codeField.read (.int code) = .ok code := by
    rw [show codeField.read = Status.code from rfl, code_ok short]
  let slots := [statusField.slot, messageField.slot, reasonField.slot, codeField.slot]
  have checks : ∀ slot ∈ slots, ∀ v, (slot.name, v) ∈ fields →
      slot.check (Content.ofJson v) = .ok () := by
    intro slot listed v inside
    rw [← Entries.get?_eq_some_iff tells.distinct] at inside
    rcases (by simpa [slots] using listed) with rfl | rfl | rfl | rfl
    · cases inside.symm.trans tells.status
      rfl
    · cases inside.symm.trans tells.message
      rfl
    · cases inside.symm.trans tells.reason
      rfl
    · cases inside.symm.trans tells.code
      exact Content.Field.slot_check readsCode
  obtain ⟨found, reads, finds⟩ := Content.foundInMap_ok slots (by simp [slots]; decide)
    tells.distinct checks [] (fun _ _ => rfl)
  have there {α : Type} (f : Content.Field α) (listed : f.slot ∈ slots) {v : Json}
      (given : Entries.get? f.name fields = some v) :
      Entries.get? f.name found = some (Content.ofJson v) := by
    have same : Entries.get? f.name found = (Entries.get? f.name fields).map Content.ofJson :=
      finds f.slot listed
    rw [same, given, Option.map_some]
  have status := there statusField (by simp [slots]) tells.status
  have message := there messageField (by simp [slots]) tells.message
  have reason := there reasonField (by simp [slots]) tells.reason
  have code := there codeField (by simp [slots]) tells.code
  have read : Content.fields .direct "struct ErrorResponse" slots
      (Content.ofJson (.obj fields)) = .ok found := reads
  rw [Status.readError, read]
  simp only [bind, Except.bind, Content.Field.value_ok status rfl,
    Content.Field.value_ok message rfl, Content.Field.value_ok reason rfl,
    Content.Field.value_ok code readsCode]
  rfl

/-- What is read of the status of a failure is what it tells. -/
theorem TellsFailure.refusal (tells : TellsFailure code reason message body fields)
    (short : code < twoTo 16) (status : Nat) :
    Http.refusal ⟨status, body⟩ = ⟨"Failure", message, reason, code⟩ := by
  simp only [Http.refusal, tells.read, tells.readError short]

end Status

/-- A refusal is a failure for its reason, whatever was asked for. -/
theorem classify_fails {reason : Reason} {word : String} (named : reason.Named word) (c : Call)
    (message : String) :
    reason.Fails (classify c ⟨"Failure", message, word, reason.code⟩) := by
  rw [classify]
  cases reason with
  | alreadyExists =>
    obtain rfl : word = "AlreadyExists" := named
    exact ⟨rfl, by simp [Reason.code, Failure.isAlreadyExists]⟩
  | _ => exact ⟨rfl, by simp [Reason.code, Failure.isAlreadyExists]⟩

end Http

inductive Verdict where
  | success (o : Json)
  | failure (reason : Reason) (message : String)

namespace Verdict

/-- How a command ends by which the server said so. -/
inductive Printed : Verdict → Finished → Prop
  | success {o : Json} {finished : Finished} (done : finished.exitCode = 0)
      (output : Json.read finished.stdout = .ok o) : Printed (.success o) finished
  | failure {reason : Reason} {message : String} {finished : Finished}
      (failed : finished.exitCode ≠ 0) (plain : CommandLine.Plain message)
      (words : finished.stderr = CommandLine.refusalHead reason ++ message) :
      Printed (.failure reason message) finished

/-- How a request is answered by which the server said so. -/
inductive Answered : Verdict → Http.Response → Prop
  | success {o : Json} {r : Http.Response} (accepted : Http.isRefusal r.status = false)
      (body : Json.read r.body = .ok o) : Answered (.success o) r
  | failure {reason : Reason} {message word : String} {r : Http.Response}
      {fields : List (String × Json)} (named : reason.Named word)
      (status : r.status = reason.code)
      (tells : Http.TellsFailure reason.code word message r.body fields) :
      Answered (.failure reason message) r

/-- An object that is given is one of those that the call is about. -/
def Fits : Verdict → Call → Prop
  | .success o, .get kind _ _ => Object.WellFormed kind.apiVersion kind.name o
  | .success o, .create d => Object.WellFormed d.kind.apiVersion d.kind.name o
  | .success o, .replace d => Object.WellFormed d.kind.apiVersion d.kind.name o
  | .success o, .delete kind _ _ => Object.WellFormed kind.apiVersion kind.name o
  | .success o, .namespaceExists _ => Object.WellFormedNamespace o
  | .success o, .createNamespace _ => Object.WellFormedNamespace o
  | .failure .., _ => True

instance : (v : Verdict) → (c : Call) → Decidable (v.Fits c)
  | .success o, .get kind _ _ =>
    inferInstanceAs (Decidable (Object.WellFormed kind.apiVersion kind.name o))
  | .success o, .create d =>
    inferInstanceAs (Decidable (Object.WellFormed d.kind.apiVersion d.kind.name o))
  | .success o, .replace d =>
    inferInstanceAs (Decidable (Object.WellFormed d.kind.apiVersion d.kind.name o))
  | .success o, .delete kind _ _ =>
    inferInstanceAs (Decidable (Object.WellFormed kind.apiVersion kind.name o))
  | .success o, .namespaceExists _ => inferInstanceAs (Decidable (Object.WellFormedNamespace o))
  | .success o, .createNamespace _ => inferInstanceAs (Decidable (Object.WellFormedNamespace o))
  | .failure .., _ => inferInstanceAs (Decidable True)

end Verdict

/-- The second object is the first one as the interface shows it, with the same status. -/
structure Object.Shows (v w : Json) : Prop where
  converted : Object.convert v = .ok w
  status : w.field? "status" = v.field? "status"

/-- Of a live object, a replacement reads what both objects have. -/
theorem Object.Shows.nextVersion {v w : Json} (shows : Object.Shows v w) :
    nextVersion v = nextVersion w := by
  have same : w.at? ["status", "latestVersion"] = v.at? ["status", "latestVersion"] :=
    congrArg (fun status => status.bind (Json.at? ["latestVersion"])) shows.status
  rw [Converge.nextVersion, Converge.nextVersion, same]

section Replies

variable {setup : CommandLine.Setup} {c : Call} {finished : Finished} {r : Http.Response}

/-- Refusals for one reason are answers alike. -/
theorem refused_alike (style : setup.style = .namespace) (reason : Reason)
    (failed : finished.exitCode ≠ 0)
    (printed : reason.Fails (CommandLine.failureOf setup c finished))
    (missing : (CommandLine.failureOf setup c finished).isNotFound = true ↔ reason = .notFound)
    {e : ErrorResponse} (refused : Http.ending r = .refused e)
    (answered : reason.Fails (Http.classify c e)) (none : e.reason = "NotFound" ↔ reason = .notFound) :
    Alike (c.Matching Object.Shows) (CommandLine.reply setup c (.ok finished))
      (Http.reply c (.ok r)) := by
  have alike := printed.alike answered
  have output : CommandLine.output setup c (.ok finished) =
      .error (CommandLine.failureOf setup c finished) := CommandLine.output_failed c failed
  cases c with
  | create d | replace d | delete kind ns name | createNamespace ns =>
    simp only [CommandLine.reply, output, Http.reply, refused]
    exact .error alike
  | get kind ns name =>
    simp only [CommandLine.reply, output, Http.reply, refused, missing, none]
    by_cases absent : reason = .notFound
    · rw [if_pos absent, if_pos absent]
      exact .ok .none
    · rw [if_neg absent, if_neg absent]
      exact .error alike
  | namespaceExists ns =>
    have visible : CommandLine.isHiddenProject setup
        (CommandLine.failureOf setup (.namespaceExists ns) finished) = false := by
      rw [← Bool.not_eq_true, CommandLine.isHiddenProject_iff, style]
      rintro ⟨project, _⟩
      cases project
    simp only [CommandLine.reply, output, Http.reply, refused, visible, Bool.or_false, missing,
      none]
    by_cases absent : reason = .notFound
    · rw [if_pos absent, if_pos absent]
      exact .ok rfl
    · rw [if_neg absent, if_neg absent]
      exact .error alike

/-- An object that both print is an answer alike. -/
theorem accepted_alike {o : Json} (done : finished.exitCode = 0)
    (output : Json.read finished.stdout = .ok o) (accepted : Http.isRefusal r.status = false)
    (body : Json.read r.body = .ok o) (fits : (Verdict.success o).Fits c) :
    Alike (c.Matching Object.Shows) (CommandLine.reply setup c (.ok finished))
      (Http.reply c (.ok r)) := by
  have printed : CommandLine.output setup c (.ok finished) = .ok finished.stdout := by
    rw [CommandLine.output, if_pos done]
  have ending : Http.ending r = .accepted r.body := by
    rw [Http.ending, accepted]
    rfl
  have read {version kind : String} (formed : Object.WellFormed version kind o) :
      ∃ w, CommandLine.object finished.stdout = .ok o ∧
        Http.decode Object.convert r.body = .ok w ∧ Object.Shows o w := by
    obtain ⟨w, converted, status⟩ := formed.shown
    refine ⟨w, ?_, ?_, converted, status⟩
    · simp only [CommandLine.object, Json.parse, output, Except.map, formed.settled,
        Except.mapError]
    · simp only [Http.decode, body, converted, Except.mapError]
  have readNamespace (formed : Object.WellFormedNamespace o) :
      ∃ w, Http.decode Object.readNamespace r.body = .ok w := by
    obtain ⟨w, reads⟩ := formed.read
    exact ⟨w, by simp only [Http.decode, body, reads, Except.mapError]⟩
  cases c with
  | get kind ns name =>
    obtain ⟨w, first, second, shows⟩ := read fits
    simp only [CommandLine.reply, printed, first, Http.reply, ending, second, Except.map]
    exact .ok (.some shows)
  | create d | replace d =>
    obtain ⟨w, first, second, shows⟩ := read fits
    simp only [CommandLine.reply, printed, first, Http.reply, ending]
    exact second.symm ▸ .ok shows
  | delete kind ns name =>
    obtain ⟨w, converted, _⟩ := fits.shown
    -- the body of a deletion could be a status, but no kind of resource is called so
    have deleted : Http.decode Http.readDeleted r.body = .ok () := by
      have other : kind.name ≠ "Status" := by cases kind <;> decide
      simp [Http.decode, body, Http.readDeleted, fits.settled, fits.kind, other, converted,
        Except.map, Except.mapError]
    simp only [CommandLine.reply, printed, Http.reply, ending]
    exact deleted.symm ▸ .ok trivial
  | namespaceExists ns =>
    obtain ⟨w, second⟩ := readNamespace fits
    simp only [CommandLine.reply, printed, Http.reply, ending, second, Except.map]
    exact .ok rfl
  | createNamespace ns =>
    obtain ⟨w, second⟩ := readNamespace fits
    simp only [CommandLine.reply, printed, Http.reply, ending, second, Except.map]
    exact .ok trivial

/-- Both ways to say a verdict are answers alike. -/
theorem Verdict.reply_alike (style : setup.style = .namespace) {v : Verdict}
    (printed : v.Printed finished) (answered : v.Answered r) (fits : v.Fits c) :
    Alike (c.Matching Object.Shows) (CommandLine.reply setup c (.ok finished))
      (Http.reply c (.ok r)) := by
  cases printed with
  | success done output =>
    cases answered with
    | success accepted body => exact accepted_alike done output accepted body fits
  | @failure reason message _ failed plain words =>
    cases answered with
    | @failure _ _ word _ _ named status tells =>
      have short : reason.code < twoTo 16 := by cases reason <;> decide
      have refusal : Http.isRefusal r.status = true := by
        rw [status]
        cases reason <;> rfl
      have refused : Http.ending r = .refused ⟨"Failure", message, word, reason.code⟩ := by
        rw [Http.ending, if_pos refusal, tells.refusal short r.status]
      obtain ⟨fails, missing⟩ := CommandLine.failureOf_refusal plain words
      exact refused_alike style reason failed fails missing refused
        (Http.classify_fails named c message) named.isNotFound

end Replies

end Converge

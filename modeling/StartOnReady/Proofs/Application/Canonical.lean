import StartOnReady.Application.Json
import StartOnReady.Proofs.Json.Records

/-!
# Canonical statuses

A status is canonical if it is the one that its own word stands for (`parse_text_eq_iff`).  Readers
give canonical statuses only, and texts carry a status by its word, so a snapshot comes back from
its text with its status made canonical (`ApplicationSnapshot.run_decoder_render`).
-/

namespace StartOnReady

open Json (Decoder Document Value)
open Json.Decoder (Reads once_none)

/-! ### Statuses -/

namespace ApplicationStatus

/-- The words that stand for a status of their own. -/
def words : List String :=
  ["DELETING", "STARTING", "STOPPING", "READY", "RUNNING", "UPDATING", "AUTOSCALING",
    "FORCE_STOPPING", "ROLLING_BACK", "MAINTENANCE", "ROLLED_BACK"]

/-- Whether a status keeps no word that stands for another one. -/
def IsCanonical (status : ApplicationStatus) : Prop := ∀ word ∈ words, status ≠ .unknown word

instance (status : ApplicationStatus) : Decidable status.IsCanonical :=
  inferInstanceAs (Decidable (∀ word ∈ words, status ≠ .unknown word))

theorem parse_eq_unknown_iff (word : String) : parse word = .unknown word ↔ word ∉ words := by
  have listed : ∀ known ∈ words, parse known ≠ .unknown known := by decide
  constructor
  · exact fun parsed known => listed word known parsed
  · intro unlisted
    simp only [words, List.mem_cons, List.not_mem_nil, or_false, not_or] at unlisted
    simp [parse, unlisted]

theorem parse_text_eq_iff (status : ApplicationStatus) :
    parse status.text = status ↔ status.IsCanonical := by
  cases status with
  | unknown word =>
    rw [text, parse_eq_unknown_iff]
    constructor
    · rintro unlisted known listed ⟨⟩
      exact unlisted listed
    · exact fun canonical listed => canonical word listed rfl
  | _ =>
    refine iff_of_true rfl fun word _ => ?_
    rintro ⟨⟩

theorem isCanonical_parse (word : String) : (parse word).IsCanonical :=
  (parse_text_eq_iff _).1 (congrArg parse (text_parse word))

theorem isStartable_parse_iff (word : String) :
    (parse word).isStartable = true ↔ word = "READY" := by
  rw [isStartable_eq_true_iff, parse_eq_ready_iff]

/-- A canonical status with the word for ready is ready. -/
theorem IsCanonical.eq_ready {status : ApplicationStatus} (canonical : status.IsCanonical)
    (shown : status.text = "READY") : status = .ready := by
  rw [← (parse_text_eq_iff status).2 canonical, shown]
  rfl

/-- Whatever a status is read from, it is canonical. -/
theorem isCanonical_of_decoder {d : Document} {status : ApplicationStatus}
    (read : decoder d = .ok status) : status.IsCanonical := by
  unfold decoder at read
  cases found : Decoder.text d with
  | error e =>
    rw [found] at read
    cases read
  | ok word =>
    rw [found] at read
    cases read
    exact isCanonical_parse word

theorem reads_toJson (status : ApplicationStatus) :
    Reads decoder status.toJson (parse status.text) := by
  rw [Reads, toJson, decoder, Decoder.reads_text]
  rfl

end ApplicationStatus

/-! ### References -/

theorem ApplicationRef.run_decoder_render (app : ApplicationRef) :
    Decoder.run decoder app.toJson.render = .ok app := by
  have region := once_none "region" (Decoder.reads_text app.region)
  have name := once_none "name" (Decoder.reads_text app.name)
  have read : Reads decoder app.toJson app := by
    rw [Reads, toJson, decoder, Decoder.record_document, Decoder.foldMembers_memberDocuments]
    simp [List.foldlM, Slots.step, region, name, Decoder.required, bind, Except.bind, pure,
      Except.pure]
  exact read.run (by simp [toJson, Value.isExact, Value.membersAreExact])

/-! ### Snapshots -/

namespace ApplicationSnapshot

variable {snapshot : ApplicationSnapshot}

theorem reads_toJson (signed : ∀ id ∈ snapshot.versionId, Decimal.isSigned64 id = true) :
    Reads decoder snapshot.toJson { snapshot with status := .parse snapshot.status.text } := by
  obtain ⟨name, status, versionId⟩ := snapshot
  have readName := once_none "name" (Decoder.reads_text name)
  have readStatus := once_none "status" status.reads_toJson
  rw [Reads, toJson, decoder, Decoder.record_document, Decoder.foldMembers_memberDocuments]
  cases versionId with
  | none =>
    simp [List.foldlM, Slots.step, readName, readStatus, Decoder.required, bind, Except.bind, pure,
      Except.pure]
  | some id =>
    have filled : Value.ofInt id ≠ .null := by
      rintro ⟨⟩
    have readVersion :=
      once_none "version_id" ((Decoder.reads_int64 (signed id rfl)).optional filled)
    simp [List.foldlM, Slots.step, readName, readStatus, readVersion, Decoder.required, bind,
      Except.bind, pure, Except.pure]

theorem isExact_toJson : snapshot.toJson.isExact = true := by
  cases version : snapshot.versionId <;>
    simp [toJson, ApplicationStatus.toJson, Value.ofInt, version, Value.isExact,
      Value.membersAreExact]

/-- A snapshot comes back from its text with its status made canonical. -/
theorem run_decoder_render (signed : ∀ id ∈ snapshot.versionId, Decimal.isSigned64 id = true) :
    Decoder.run decoder snapshot.toJson.render =
      .ok { snapshot with status := .parse snapshot.status.text } :=
  (reads_toJson signed).run isExact_toJson

/-- A snapshot comes back as it was exactly if its status is canonical. -/
theorem run_decoder_render_eq_self_iff
    (signed : ∀ id ∈ snapshot.versionId, Decimal.isSigned64 id = true) :
    Decoder.run decoder snapshot.toJson.render = .ok snapshot ↔ snapshot.status.IsCanonical := by
  obtain ⟨name, status, versionId⟩ := snapshot
  rw [run_decoder_render signed, Except.ok.injEq, ← ApplicationStatus.parse_text_eq_iff]
  simp

end ApplicationSnapshot

theorem Decimal.isSigned64_toInt (i : Int64) : isSigned64 i.toInt = true := by
  have low := i.le_toInt
  have high := i.toInt_lt
  simp only [isSigned64, Bool.and_eq_true, decide_eq_true_eq]
  omega

end StartOnReady

import StartOnReady.Config.Fingerprint
import StartOnReady.Proofs.Digest.Recurrence
import StartOnReady.Proofs.Json.Records
import StartOnReady.Text.Slice

/-!
# What a fingerprint is taken from

The text of a configuration is read back as that configuration (`Config.run_decoder_text`), so
different configurations have different texts (`Config.text_injective`).  `Config.text_fingerprint`
adds what the fingerprint is of that text.
-/

namespace StartOnReady

open Json (Decoder Value)
open Json.Decoder (Reads once_none)

/-! ### Reading back -/

theorem LogFormat.ofText_word (format : LogFormat) : LogFormat.ofText format.word = .ok format := by
  cases format <;> rfl

theorem LogFormat.reads_toJson (format : LogFormat) :
    Reads LogFormat.decoder format.toJson format := by
  have word : Decoder.text (Value.stringDocument format.word) = .ok format.word :=
    Decoder.reads_text format.word
  unfold Value.stringDocument at word
  rw [Reads, toJson, Value.document, Value.stringDocument, LogFormat.decoder, word]
  exact format.ofText_word

theorem LoggingConfig.reads_toJson (c : LoggingConfig) :
    Reads LoggingConfig.decoder c.toJson c := by
  have filter := once_none "filter" (Decoder.reads_text c.filter)
  have format := once_none "format" c.format.reads_toJson
  have ansi := once_none "ansi" (Decoder.reads_boolean c.ansi)
  rw [Reads, toJson, decoder, Decoder.record_document, Decoder.foldMembers_memberDocuments]
  simp [List.foldlM, Slots.step, filter, format, ansi, Slots.filled, Except.map, bind, Except.bind,
    pure, Except.pure]

theorem ControlPlaneConfig.reads_toJson (c : ControlPlaneConfig) :
    Reads ControlPlaneConfig.decoder c.toJson c := by
  -- An absent endpoint is written as `null`, which no text of an endpoint is.
  have read : Reads (Decoder.optional Decoder.text) ((c.endpointUrl.map Value.string).getD .null)
      c.endpointUrl := by
    cases c.endpointUrl with
    | none => exact Decoder.reads_optional_null _
    | some url => exact (Decoder.reads_text url).optional nofun
  have endpointUrl := once_none "endpoint_url" read
  rw [Reads, toJson, decoder, Decoder.record_document, Decoder.foldMembers_memberDocuments]
  simp [List.foldlM, Slots.step, endpointUrl, Slots.filled, Except.map, bind, Except.bind, pure,
    Except.pure]

namespace Config

theorem reads_toJson (c : Config) : Reads decoder c.toJson c := by
  have logging := once_none "logging" c.logging.reads_toJson
  have controlPlane := once_none "control_plane" c.controlPlane.reads_toJson
  rw [Reads, toJson, decoder, Decoder.record_document, Decoder.foldMembers_memberDocuments]
  simp [List.foldlM, Slots.step, logging, controlPlane, Slots.filled, Except.map, bind, Except.bind,
    pure, Except.pure]

theorem isExact_toJson (c : Config) : c.toJson.isExact = true := by
  cases endpoint : c.controlPlane.endpointUrl <;>
    simp [toJson, LoggingConfig.toJson, ControlPlaneConfig.toJson, LogFormat.toJson, endpoint,
      Value.isExact, Value.membersAreExact]

/-- The text of a configuration is read as that configuration. -/
theorem run_decoder_text (c : Config) : Decoder.run decoder c.text = .ok c :=
  c.reads_toJson.run c.isExact_toJson

/-- No two configurations have the same text. -/
theorem text_injective : Function.Injective text := by
  intro c c' same
  have read := c.run_decoder_text
  rw [same, c'.run_decoder_text] at read
  exact (Except.ok.inj read).symm

/-! ### The fingerprint -/

/-- The bytes of the text that is digested. -/
def textBytes (c : Config) : List UInt8 := c.text.toUTF8.data.toList

/-- The digest of the text. -/
def digest (c : Config) : List UInt8 := Digest.bytesOf (Digest.Sha256.ofMessage c.textBytes)

theorem toList_fingerprint (c : Config) :
    c.fingerprint.toList = (c.digest.flatMap Digest.hexOfByte).take 16 := by
  rw [fingerprint, String.toList_ofList, Digest.hexDigits_eq]
  rfl

theorem length_hex_digest (c : Config) : (c.digest.flatMap Digest.hexOfByte).length = 64 := by
  rw [Digest.length_flatMap_hexOfByte, digest, Digest.length_bytesOf]

end Config

theorem Digest.utf8Size_of_mem_hexDigits {c : Char} (h : c ∈ "0123456789abcdef".toList) :
    c.utf8Size = 1 := by
  have narrow : "0123456789abcdef".toList.all (·.utf8Size == 1) := by decide
  exact beq_iff_eq.1 (List.all_eq_true.1 narrow c h)

/-- The text of a configuration tells everything about it, and its fingerprint is the front of the
digest of that text: the cut at sixteen bytes is always possible and gives sixteen lower-case
hexadecimal digits. -/
theorem Config.text_fingerprint (c : Config) :
    Decoder.run decoder c.text = .ok c ∧ (∀ c' : Config, c.text = c'.text ↔ c = c') ∧
      ∃ digest : List UInt8,
        (∀ other, Digest.IsDigest c.text.toUTF8.data.toList other ↔ other = digest) ∧
          Text.takeBytes? 16 (digest.flatMap Digest.hexOfByte) = some c.fingerprint.toList ∧
          c.fingerprint.length = 16 ∧
          ∀ char ∈ c.fingerprint.toList, char ∈ "0123456789abcdef".toList := by
  have digits (char : Char) (here : char ∈ c.digest.flatMap Digest.hexOfByte) :
      char ∈ "0123456789abcdef".toList := Digest.mem_of_mem_flatMap_hexOfByte here
  refine ⟨c.run_decoder_text, fun c' => text_injective.eq_iff, c.digest,
    fun other => Digest.isDigest_iff, ?_, ?_, fun char here => ?_⟩
  · rw [toList_fingerprint]
    exact Text.takeBytes?_of_narrow
      (fun char here => Digest.utf8Size_of_mem_hexDigits (digits char here))
      (by rw [length_hex_digest]; decide)
  · rw [← String.length_toList, toList_fingerprint, List.length_take, length_hex_digest]
    rfl
  · rw [toList_fingerprint] at here
    exact digits char (List.mem_of_mem_take here)

/-- A filter that looks like the end of its string is no end of it. -/
example :
    let c : Config := ⟨{ filter := "\",\"format\":\"json" }, {}⟩
    c.text = "\x7b\"logging\":\x7b\"filter\":\"\\\",\\\"format\\\":\\\"json\",\"format\":\"text\"," ++
      "\"ansi\":false\x7d,\"control_plane\":\x7b\"endpoint_url\":null\x7d\x7d" := by
  decide +kernel

end StartOnReady

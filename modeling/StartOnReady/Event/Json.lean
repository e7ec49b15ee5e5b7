import StartOnReady.Event.Change
import StartOnReady.Json.Decode

/-!
# Reading events from documents

The decoders of events and details work on documents, so that a repeated field of an event is a
fault.  The detail of an event is first read as a value, so that inside it a repeated member is not.
-/

namespace StartOnReady

open Json (Decoder Value)

/-- The levels of containers left for a value inside a record. -/
def memberLevels : Nat := Json.maxLevels - 1

/-- A member that may be `null`. -/
def memberDecoder : Decoder (Option Value) := Decoder.optional (Decoder.value memberLevels)

namespace EventDetail

/-- The fields met so far. -/
structure Slots where
  eventName : Option (Option Value) := none
  responseElements : Option (Option Value) := none

/-- Reads one member. -/
def Slots.step (s : Slots) (member : String) : Decoder Slots := fun d =>
  match member with
  | "eventName" => do
    .ok { s with eventName := ← Decoder.once "eventName" s.eventName (memberDecoder d) }
  | "responseElements" => do
    let read := memberDecoder d
    .ok { s with responseElements := ← Decoder.once "responseElements" s.responseElements read }
  | _ => do
    Decoder.skip d
    .ok s

/-- Reads a detail. -/
def decoder : Decoder EventDetail :=
  Decoder.record "EventDetail" 2
    (fun members closed => do
      let s ← Decoder.foldMembers Slots.step members closed {}
      .ok ⟨s.eventName.getD none, s.responseElements.getD none⟩)
    (fun items closed => do
      let eventName ← Decoder.itemAt items closed 0 memberDecoder
      let responseElements ← Decoder.itemAt items closed 1 memberDecoder
      .ok ⟨eventName.getD none, responseElements.getD none⟩)

end EventDetail

namespace ChangeEvent

/-- The fields met so far. -/
structure Slots where
  id : Option (Option Value) := none
  region : Option (Option Value) := none
  detail : Option (Option EventDetail) := none

/-- Reads the detail of an event. -/
def detailDecoder : Decoder (Option EventDetail) := fun d => (memberDecoder d).map detailOf

/-- Reads one member. -/
def Slots.step (s : Slots) (member : String) : Decoder Slots := fun d =>
  match member with
  | "id" => do .ok { s with id := ← Decoder.once "id" s.id (memberDecoder d) }
  | "region" => do .ok { s with region := ← Decoder.once "region" s.region (memberDecoder d) }
  | "detail" => do .ok { s with detail := ← Decoder.once "detail" s.detail (detailDecoder d) }
  | _ => do
    Decoder.skip d
    .ok s

/-- Reads an event. -/
def decoder : Decoder ChangeEvent :=
  Decoder.record "ChangeEvent" 3
    (fun members closed => do
      let s ← Decoder.foldMembers Slots.step members closed {}
      .ok ⟨s.id.getD none, s.region.getD none, s.detail.getD none⟩)
    (fun items closed => do
      let id ← Decoder.itemAt items closed 0 memberDecoder
      let region ← Decoder.itemAt items closed 1 memberDecoder
      let detail ← Decoder.itemAt items closed 2 detailDecoder
      .ok ⟨id.getD none, region.getD none, detail.getD none⟩)

end ChangeEvent

end StartOnReady

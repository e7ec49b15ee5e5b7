import StartOnReady.Application.Reference
import StartOnReady.Application.Snapshot
import StartOnReady.Json.Decode

/-!
# Applications in JSON

References, statuses and snapshots as values, and their decoders.
-/

namespace StartOnReady

open Json (Document DecodeError Decoder Value)

/-! ### References -/

/-- A reference as a value. -/
def ApplicationRef.toJson (app : ApplicationRef) : Value :=
  .object [("region", .string app.region), ("name", .string app.name)]

namespace ApplicationRef

/-- The fields met so far. -/
structure Slots where
  region : Option String := none
  name : Option String := none

/-- Reads one member. -/
def Slots.step (s : Slots) (member : String) : Decoder Slots := fun d =>
  match member with
  | "region" => do .ok { s with region := ← Decoder.once "region" s.region (Decoder.text d) }
  | "name" => do .ok { s with name := ← Decoder.once "name" s.name (Decoder.text d) }
  | _ => do
    Decoder.skip d
    .ok s

/-- Reads a reference. -/
def decoder : Decoder ApplicationRef :=
  Decoder.record "ApplicationRef" 2
    (fun members closed => do
      let s ← Decoder.foldMembers Slots.step members closed {}
      let region ← Decoder.required "region" s.region
      let name ← Decoder.required "name" s.name
      .ok ⟨region, name⟩)
    (fun items closed => do
      let short (n : Nat) : DecodeError := .unsuitable (.wrongLength n "ApplicationRef" 2)
      let some region ← Decoder.itemAt items closed 0 Decoder.text | .error (short 0)
      let some name ← Decoder.itemAt items closed 1 Decoder.text | .error (short 1)
      .ok ⟨region, name⟩)

end ApplicationRef

/-! ### Statuses -/

/-- A status as a value. -/
def ApplicationStatus.toJson (status : ApplicationStatus) : Value := .string status.text

/-- Reads a status. -/
def ApplicationStatus.decoder : Decoder ApplicationStatus := fun d =>
  (Decoder.text d).map ApplicationStatus.parse

/-! ### Snapshots -/

/-- A snapshot as a value; an absent version is left out. -/
def ApplicationSnapshot.toJson (snapshot : ApplicationSnapshot) : Value :=
  .object ([("name", .string snapshot.name), ("status", snapshot.status.toJson)] ++
    (snapshot.versionId.map fun id => ("version_id", Value.ofInt id)).toList)

namespace ApplicationSnapshot

/-- The fields met so far. -/
structure Slots where
  name : Option String := none
  status : Option ApplicationStatus := none
  versionId : Option (Option Int) := none

/-- Reads one member. -/
def Slots.step (s : Slots) (member : String) : Decoder Slots := fun d =>
  match member with
  | "name" => do .ok { s with name := ← Decoder.once "name" s.name (Decoder.text d) }
  | "status" => do
    .ok { s with status := ← Decoder.once "status" s.status (ApplicationStatus.decoder d) }
  | "version_id" => do
    let read := Decoder.optional Decoder.int64 d
    .ok { s with versionId := ← Decoder.once "version_id" s.versionId read }
  | _ => do
    Decoder.skip d
    .ok s

/-- Reads a snapshot. -/
def decoder : Decoder ApplicationSnapshot :=
  Decoder.record "ApplicationSnapshot" 3
    (fun members closed => do
      let s ← Decoder.foldMembers Slots.step members closed {}
      let name ← Decoder.required "name" s.name
      let status ← Decoder.required "status" s.status
      .ok ⟨name, status, s.versionId.getD none⟩)
    (fun items closed => do
      let short (n : Nat) : DecodeError := .unsuitable (.wrongLength n "ApplicationSnapshot" 3)
      let some name ← Decoder.itemAt items closed 0 Decoder.text | .error (short 0)
      let some status ← Decoder.itemAt items closed 1 ApplicationStatus.decoder | .error (short 1)
      let versionId ← Decoder.itemAt items closed 2 (Decoder.optional Decoder.int64)
      .ok ⟨name, status, versionId.getD none⟩)

end ApplicationSnapshot

end StartOnReady

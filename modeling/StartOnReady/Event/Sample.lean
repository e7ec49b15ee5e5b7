import StartOnReady.Event.Change

/-!
# Sample events

Payloads as the event bus delivers them, for trials.
-/

namespace StartOnReady.Sample

open Json (Value)

private def texts (members : List (String × String)) : List (String × Value) :=
  members.map fun (name, text) => (name, .string text)

/-- The payload of an event with the given name about the given application. -/
def payload (eventName region name : String) : Value :=
  .ofMembers (texts
      [("version", "0"),
        ("id", "c7b5c2a4-0d1e-4c5f-9f0e-1a2b3c4d5e6f"),
        ("detail-type", "AWS API Call via CloudTrail"),
        ("source", "aws.kinesisanalytics"),
        ("account", "123456789012"),
        ("time", "2024-03-01T12:00:00Z"),
        ("region", region)] ++
    [("resources", .array []),
      ("detail", .ofMembers (texts
          [("eventVersion", "1.08"),
            ("eventSource", "kinesisanalytics.amazonaws.com"),
            ("eventName", eventName),
            ("awsRegion", region)] ++
        [("responseElements", .ofMembers [
          ("applicationDetail", .ofMembers (texts
              [("applicationName", name),
                ("applicationARN",
                  "arn:aws:kinesisanalytics:" ++ region ++ ":123456789012:application/" ++ name),
                ("applicationStatus", "READY")] ++
            [("applicationVersionId", .ofInt 1)]))])]))])

/-- A payload of the event bus that reports no call. -/
def payloadWithoutDetail (region : String) : Value :=
  .ofMembers (texts
    [("version", "0"),
      ("id", "0d6f7a1e-3b2c-4e5d-8f9a-0b1c2d3e4f5a"),
      ("detail-type", "Scheduled Event"),
      ("source", "aws.kinesisanalytics"),
      ("region", region)])

/-- The event of a payload; the sample payloads are all objects. -/
def eventOf (payload : Value) : ChangeEvent :=
  match ChangeEvent.ofValue payload with
  | .ok event => event
  | .error _ => {}

def event (eventName region name : String) : ChangeEvent := eventOf (payload eventName region name)

def createEvent (region name : String) : ChangeEvent := event "CreateApplication" region name

def updateEvent (region name : String) : ChangeEvent := event "UpdateApplication" region name

def eventWithoutDetail (region : String) : ChangeEvent := eventOf (payloadWithoutDetail region)

end StartOnReady.Sample

import StartOnReady.Service.Schema

/-!
# Reading responses

A response with a status from 200 to 299 is a success if its body is an object of the shape of its
call.  The code of any other response stands in a header or in the body; the body of an error that
the call knows has a shape as well, and without it the error is of no kind.
-/

namespace StartOnReady.Service

namespace Response

/-- Whether the status is one of success. -/
def isSuccess (response : Response) : Bool := 200 ≤ response.status && response.status < 300

/-- The tokens of the body. -/
def tokens (response : Response) : List Token := Token.scan response.body

/-- The object of a shape that the body is; an empty body stands for one without members. -/
def object? (response : Response) (shape : Shape) : Option Item := do
  let item ← if response.body = "" then some (.object []) else Item.ofTokens? response.tokens
  if item.isObject && item.suits shape then some item else none

/-! ### Descriptions -/

/-- What a description says of an application. -/
structure Description where
  status : Option String := none
  version : Option Int := none
  deriving DecidableEq, Repr

/-- The word for a status that was not given. -/
def Description.statusWord (d : Description) : String := d.status.getD "no value was set"

/-- The number of a version that was not given is zero. -/
def Description.versionNumber (d : Description) : Int := d.version.getD 0

/-- The description that the body of a success holds; it may be left out. -/
def Description.ofItem (item : Item) : Description :=
  let detail := (item.member? "ApplicationDetail").getD .null
  ⟨(detail.member? "ApplicationStatus").bind Item.text?,
    (detail.member? "ApplicationVersionId").bind Item.integer?⟩

/-! ### Error codes -/

/-- The first header of a name, in any letter case. -/
def header? (name : String) (response : Response) : Option String :=
  (response.headers.find? fun (key, _) => key.map Char.toLower == name).map Prod.snd

/-- The names of the members that tell of an error, each written with exactly these characters. -/
def tellingNames : List String := ["code", "__type", "message", "Message", "errorMessage"]

/-- Whether a member can be read: a string that tells of an error has to mean a text, and any other
value is passed over. -/
def isReadable : List Char × Item → Bool
  | (name, .string written) =>
    !tellingNames.contains (String.ofList name) || (Token.meaning? written).isSome
  | (_, item) => item.isPassable

/-- The members of a body.  A body that starts as anything but an object has none, whatever follows
its first token. -/
def members? (response : Response) : Option (List (List Char × Item)) :=
  match response.tokens with
  | [] => some []
  | .openObject :: _ =>
    match Item.ofTokens? response.tokens with
    | some (.object members) => if members.all isReadable then some members else none
    | _ => none
  | .null :: _ | .boolean _ :: _ | .number _ :: _ | .string _ :: _ | .openArray :: _ => some []
  | _ => none

/-- The last string that a member holds, if it is named by exactly these characters. -/
def lastText? (name : String) (members : List (List Char × Item)) : Option String :=
  (members.filterMap fun (written, item) =>
    if written = name.toList then item.text? else none).getLast?

/-- A code without the address behind a colon and the name space before a number sign. -/
def bareCode (code : String) : String :=
  let cs := code.toList.takeWhile (· != ':')
  String.ofList (if cs.contains '#' then (cs.dropWhile (· != '#')).drop 1 else cs)

/-- The code that a response gives.  A body that cannot be read takes the code of a header with
it. -/
def givenCode? (response : Response) : Option String := do
  let members ← response.members?
  let code ← response.header? "x-amzn-errortype" <|> lastText? "code" members <|>
    lastText? "__type" members
  some (bareCode code)

/-- The code of an error of a call. -/
def errorCode? (operation : Operation) (response : Response) : Option String := do
  let code ← response.givenCode?
  if operation.knownCodes.contains code && (response.object? .refusal).isNone then none
  else some code

end Response

end StartOnReady.Service

import StartOnReady.Text.Search

/-!
# Endpoints

Where the requests of a region go: to the host of the service in that region, or to an endpoint that
replaces it.  Either one is an address that has to be read first.  Every request is sent to the path
of its endpoint with one slash at the end.
-/

namespace StartOnReady.Service

/-! ### Regions -/

/-- Whether a text may be a part of a host name. -/
def isHostLabel (label : List Char) : Bool :=
  label.length ≤ 63 && label.head?.any (· != '-') &&
    label.all fun c => c.isAlphanum || c == '-'

/-- Whether requests can be addressed to a region. -/
def isRegion (region : String) : Bool := (Text.parts '.' region.toList).all isHostLabel

/-- Whether a text is a word, a hyphen and a number. -/
def isPlace (cs : List Char) : Bool :=
  match Text.parts '-' cs with
  | [word, number] =>
    !word.isEmpty && word.all (fun c => c.isAlphanum || c == '_') &&
      !number.isEmpty && number.all Char.isDigit
  | _ => false

/-- A part of the world whose regions share a domain. -/
structure Partition where
  /-- What the names of its regions start with; a place follows. -/
  start : String
  /-- The name that stands for all its regions. -/
  everywhere : Option String
  domain : String

namespace Partition

/-- The partitions with a domain of their own. -/
def all : List Partition := [
  ⟨"cn-", some "aws-cn-global", "amazonaws.com.cn"⟩,
  ⟨"us-iso-", some "aws-iso-global", "c2s.ic.gov"⟩,
  ⟨"us-isob-", some "aws-iso-b-global", "sc2s.sgov.gov"⟩,
  ⟨"eu-isoe-", some "aws-iso-e-global", "cloud.adc-e.uk"⟩,
  ⟨"us-isof-", some "aws-iso-f-global", "csp.hci.ic.gov"⟩,
  ⟨"eusc-de-", none, "amazonaws.eu"⟩]

/-- Whether a partition holds a region. -/
def holds (p : Partition) (region : String) : Bool :=
  p.everywhere == some region ||
    (Text.startsWith p.start region && isPlace (region.toList.drop p.start.toList.length))

/-- The domain of a region. -/
def domainOf (region : String) : String :=
  ((all.find? (·.holds region)).map Partition.domain).getD "amazonaws.com"

end Partition

/-! ### Addresses -/

/-- An address without its query. -/
structure Endpoint where
  scheme : String
  authority : String
  path : String
  deriving DecidableEq, Repr

namespace Endpoint

/-- The host of the service in a region. -/
def hostOf (region : String) : String :=
  "kinesisanalytics." ++ region ++ "." ++ Partition.domainOf region

/-- The address of the service in a region. -/
def addressOf (region : String) : String := "https://" ++ hostOf region

/-! ### Schemes -/

/-- The characters of a scheme. -/
def isSchemeChar (c : Char) : Bool :=
  c.isAlphanum || c == '+' || c == '-' || c == '.' || c == '~'

/-- The longest scheme. -/
def maxScheme : Nat := 64

/-- The scheme as it is written. -/
def schemeText (scheme : List Char) : String :=
  let lower := String.ofList (scheme.map Char.toLower)
  if lower == "http" || lower == "https" then lower else String.ofList scheme

/-! ### Authorities -/

/-- The characters of an authority. -/
def isAuthorityChar (c : Char) : Bool :=
  c.isAlphanum || "!$&'()*+,-.:;=@[]_~%".toList.contains c

/-- What was met in an authority so far.  Behind a user and behind a bracketed host the colons and
the percent signs are counted anew. -/
structure Seen where
  colons : Nat := 0
  percent : Bool := false
  opened : Bool := false
  closed : Bool := false
  deriving DecidableEq, Repr

/-- The most colons in one part of an authority. -/
def maxColons : Nat := 8

/-- Takes one more character of an authority. -/
def Seen.take? (s : Seen) (c : Char) : Option Seen :=
  match c with
  | ':' => if s.colons < maxColons then some { s with colons := s.colons + 1 } else none
  | '[' => if s.percent || s.opened then none else some { s with opened := true }
  | ']' =>
    if !s.opened || s.closed then none else some ⟨0, false, true, true⟩
  | '@' => some { s with colons := 0, percent := false }
  | '%' => some { s with percent := true }
  | c => if isAuthorityChar c then some s else none

/-- Whether a text may stand between the two slashes and the path: brackets come in a pair, and
behind the user stands a host with one number at most. -/
def isAuthority (authority : List Char) : Bool :=
  match authority.foldlM Seen.take? {} with
  | some s =>
    s.opened == s.closed && s.colons ≤ 1 && !s.percent && !authority.isEmpty &&
      authority.getLast? != some '@'
  | none => false

/-! ### Paths -/

/-- The characters that neither a path nor a query may have. -/
def isStray (c : Char) : Bool :=
  c.toNat ≤ 0x20 || c == '<' || c == '>' || c == '\x7f'

/-- The characters of a path. -/
def isPathChar (c : Char) : Bool := !isStray c && c != '\x60'

/-- The characters of a query. -/
def isQueryChar (c : Char) : Bool := !isStray c && c != '"'

/-- The path and the query of a text. -/
def cutQuery (cs : List Char) : List Char × List Char :=
  (cs.takeWhile (· != '?'), (cs.dropWhile (· != '?')).drop 1)

/-! ### Reading addresses -/

/-- The most bytes of an address. -/
def maxAddress : Nat := 65534

/-- Whether a character ends an authority. -/
def endsAuthority (c : Char) : Bool := c == '/' || c == '?' || c == '#'

/-- The endpoint that an address with a scheme names. -/
def parse? (address : String) : Option Endpoint :=
  let cs := address.toList
  let scheme := cs.takeWhile isSchemeChar
  match cs.dropWhile isSchemeChar with
  | ':' :: '/' :: '/' :: rest =>
    let authority := rest.takeWhile (!endsAuthority ·)
    let (path, query) := cutQuery ((rest.dropWhile (!endsAuthority ·)).takeWhile (· != '#'))
    if address.utf8ByteSize ≤ maxAddress && scheme.length ≤ maxScheme && isAuthority authority &&
        path.all isPathChar && query.all isQueryChar then
      some ⟨schemeText scheme, String.ofList authority, String.ofList path⟩
    else none
  | _ => none

/-- A path with one slash at its end. -/
def slashed (path : List Char) : List Char :=
  match path.reverse with
  | '/' :: _ => path
  | _ => path ++ ['/']

/-- The address of the requests to an endpoint. -/
def uri (e : Endpoint) : String :=
  e.scheme ++ "://" ++ e.authority ++ String.ofList (slashed e.path.toList)

end Endpoint

end StartOnReady.Service

import Mathlib.Data.List.TakeWhile
import StartOnReady.Service.Endpoint

/-!
# Regions and their hosts

`isRegion_iff` says which texts are regions, without the splitting that the check does: labels with
dots between them.  `IsHostOf` spells out the host of a region with its domain, which the name of
the region decides.  A region has only letters, digits, hyphens and dots (`IsHostText`), so it
cannot leave its place in an address; `parse?_addressOf` reads the address of any region back as its
host alone.
-/

namespace StartOnReady.Service

/-! ### Labels -/

/-- A label: up to 63 letters, digits and hyphens, with no hyphen in front. -/
structure IsLabel (label : List Char) : Prop where
  filled : label ≠ []
  short : label.length ≤ 63
  chars : ∀ c ∈ label, c.isAlphanum = true ∨ c = '-'
  start : label.head? ≠ some '-'

theorem isHostLabel_iff (label : List Char) : isHostLabel label = true ↔ IsLabel label := by
  have head : label.head?.any (· != '-') = true ↔ label ≠ [] ∧ label.head? ≠ some '-' := by
    cases label <;> simp
  simp only [isHostLabel, Bool.and_eq_true, decide_eq_true_eq, head, List.all_eq_true,
    Bool.or_eq_true, beq_iff_eq]
  constructor
  · rintro ⟨⟨short, filled, start⟩, chars⟩
    exact ⟨filled, short, chars, start⟩
  · rintro ⟨filled, short, chars, start⟩
    exact ⟨⟨short, filled, start⟩, chars⟩

theorem IsLabel.dot_notMem {label : List Char} (h : IsLabel label) : '.' ∉ label := by
  intro dot
  rcases h.chars '.' dot with letter | hyphen
  · exact absurd letter (by decide)
  · exact absurd hyphen (by decide)

/-- Labels with a dot between each and the next. -/
def IsDotted (text : String) : Prop :=
  ∃ labels, labels ≠ [] ∧ (∀ label ∈ labels, IsLabel label) ∧
    text.toList = ['.'].intercalate labels

/-- Regions are exactly the dotted labels. -/
theorem isRegion_iff (region : String) : isRegion region = true ↔ IsDotted region := by
  simp only [isRegion, Text.parts_eq_splitOn, List.all_eq_true, isHostLabel_iff]
  constructor
  · intro labels
    exact ⟨_, List.splitOnP_ne_nil _ _, labels, (List.intercalate_splitOn _).symm⟩
  · rintro ⟨labels, filled, valid, text⟩
    have undotted : ∀ label ∈ labels, '.' ∉ label := fun label member =>
      (valid label member).dot_notMem
    rwa [text, List.splitOn_intercalate _ undotted filled]

/-! ### Domains -/

/-- Whether a text is a start with a word, a hyphen and a number behind it. -/
def IsPlaceBehind (start region : String) : Prop :=
  ∃ word number : List Char, region.toList = start.toList ++ (word ++ '-' :: number) ∧
    (word ≠ [] ∧ ∀ c ∈ word, c.isAlphanum = true ∨ c = '_') ∧
    number ≠ [] ∧ ∀ c ∈ number, c.isDigit = true

/-- Whether the name of a region starts in some way, or is the one for all such regions. -/
def IsNamedBy (start : String) (everywhere : Option String) (region : String) : Prop :=
  everywhere = some region ∨ IsPlaceBehind start region

/-- The starts of the regions that have a domain of their own, the names for all such regions, and
the domains. -/
def ownDomains : List (String × Option String × String) := [
  ("cn-", some "aws-cn-global", "amazonaws.com.cn"),
  ("us-iso-", some "aws-iso-global", "c2s.ic.gov"),
  ("us-isob-", some "aws-iso-b-global", "sc2s.sgov.gov"),
  ("eu-isoe-", some "aws-iso-e-global", "cloud.adc-e.uk"),
  ("us-isof-", some "aws-iso-f-global", "csp.hci.ic.gov"),
  ("eusc-de-", none, "amazonaws.eu")]

/-- The domain of a region. -/
inductive HasDomain (region : String) : String → Prop
  | own {start : String} {everywhere : Option String} {domain : String}
      (row : (start, everywhere, domain) ∈ ownDomains)
      (named : IsNamedBy start everywhere region) : HasDomain region domain
  | common (other : ∀ row ∈ ownDomains, ¬ IsNamedBy row.1 row.2.1 region) :
      HasDomain region "amazonaws.com"

/-- Whether a text is the host of the service in a region. -/
def IsHostOf (region host : String) : Prop :=
  ∃ domain, HasDomain region domain ∧ host = "kinesisanalytics." ++ region ++ "." ++ domain

theorem isPlace_iff (cs : List Char) :
    isPlace cs = true ↔ ∃ word number, cs = word ++ '-' :: number ∧
      (word ≠ [] ∧ ∀ c ∈ word, c.isAlphanum = true ∨ c = '_') ∧
      number ≠ [] ∧ ∀ c ∈ number, c.isDigit = true := by
  have checks (word number : List Char) :
      (!word.isEmpty && word.all (fun c => c.isAlphanum || c == '_') &&
        !number.isEmpty && number.all Char.isDigit) = true ↔
      (word ≠ [] ∧ ∀ c ∈ word, c.isAlphanum = true ∨ c = '_') ∧
        number ≠ [] ∧ ∀ c ∈ number, c.isDigit = true := by
    simp [and_assoc]
  have joined (word number : List Char) :
      ['-'].intercalate [word, number] = word ++ '-' :: number := by
    simp [List.intercalate]
  unfold isPlace
  rw [Text.parts_eq_splitOn]
  constructor
  · intro place
    split at place
    next word number split =>
      refine ⟨word, number, ?_, (checks word number).1 place⟩
      rw [← joined, ← split, List.intercalate_splitOn]
    next => cases place
  · rintro ⟨word, number, rfl, parts⟩
    have unmarked : ∀ part ∈ [word, number], '-' ∉ part := by
      intro part member mark
      rw [List.mem_cons, List.mem_singleton] at member
      rcases member with rfl | rfl
      · exact absurd (parts.1.2 '-' mark) (by decide)
      · exact absurd (parts.2.2 '-' mark) (by decide)
    have split : (word ++ '-' :: number).splitOn '-' = [word, number] := by
      rw [← joined]
      exact List.splitOn_intercalate '-' unmarked (List.cons_ne_nil _ _)
    simp only [split]
    exact (checks word number).2 parts

theorem Partition.holds_iff (p : Partition) (region : String) :
    p.holds region = true ↔ IsNamedBy p.start p.everywhere region := by
  simp only [holds, Bool.or_eq_true, beq_iff_eq, Bool.and_eq_true, Text.startsWith,
    List.isPrefixOf_iff_prefix, isPlace_iff]
  refine or_congr Iff.rfl ⟨?_, ?_⟩
  · rintro ⟨⟨behind, whole⟩, word, number, rest, parts⟩
    rw [← whole, List.drop_left] at rest
    exact ⟨word, number, by rw [← whole, rest], parts⟩
  · rintro ⟨word, number, whole, parts⟩
    refine ⟨⟨_, whole.symm⟩, word, number, ?_, parts⟩
    rw [whole, List.drop_left]

theorem hasDomain_domainOf (region : String) : HasDomain region (Partition.domainOf region) := by
  have rows : ownDomains = Partition.all.map fun p => (p.start, p.everywhere, p.domain) := rfl
  unfold Partition.domainOf
  cases found : Partition.all.find? (·.holds region) with
  | none =>
    refine .common fun row member named => ?_
    rw [rows] at member
    obtain ⟨p, known, rfl⟩ := List.mem_map.1 member
    exact List.find?_eq_none.1 found p known ((p.holds_iff region).2 named)
  | some p =>
    have holds : p.holds region = true :=
      List.find?_some (p := fun p : Partition => p.holds region) found
    refine .own ?_ ((p.holds_iff region).1 holds)
    rw [rows]
    exact List.mem_map.2 ⟨p, List.mem_of_find?_eq_some found, rfl⟩

theorem isHostOf_hostOf (region : String) : IsHostOf region (Endpoint.hostOf region) :=
  ⟨_, hasDomain_domainOf region, rfl⟩

/-- No region is named in two ways. -/
theorem row_unique {row row' : String × Option String × String} (known : row ∈ ownDomains)
    (known' : row' ∈ ownDomains) {region : String} (named : IsNamedBy row.1 row.2.1 region)
    (named' : IsNamedBy row'.1 row'.2.1 region) : row = row' := by
  have apart : ∀ row ∈ ownDomains, ∀ row' ∈ ownDomains,
      (row.1.toList <+: row'.1.toList → row = row') ∧
      (∀ name ∈ row.2.1, row'.2.1 = some name → row = row') ∧
      ∀ name ∈ row.2.1, ¬ row'.1.toList <+: name.toList := by
    decide +kernel
  obtain ⟨starts, names, mixed⟩ := apart row known row' known'
  obtain ⟨starts', -, mixed'⟩ := apart row' known' row known
  rcases named with everywhere | ⟨word, number, whole, -⟩
  · rcases named' with everywhere' | ⟨word', number', whole', -⟩
    · exact names region everywhere everywhere'
    · exact absurd ⟨_, whole'.symm⟩ (mixed region everywhere)
  · rcases named' with everywhere' | ⟨word', number', whole', -⟩
    · exact absurd ⟨_, whole.symm⟩ (mixed' region everywhere')
    · rcases List.prefix_or_prefix_of_prefix ⟨_, whole.symm⟩ ⟨_, whole'.symm⟩ with front | front
      · exact starts front
      · exact (starts' front).symm

/-- A region has one domain. -/
theorem HasDomain.unique {region domain domain' : String} (h : HasDomain region domain)
    (h' : HasDomain region domain') : domain = domain' := by
  cases h with
  | own row named =>
    cases h' with
    | own row' named' => exact congrArg (·.2.2) (row_unique row row' named named')
    | common other => exact absurd named (other _ row)
  | common other =>
    cases h' with
    | own row named => exact absurd named (other _ row)
    | common => rfl

/-! ### Texts of hosts -/

/-- Whether a character stands in the name of a host. -/
def isHostChar (c : Char) : Bool := c.isAlphanum || c == '-' || c == '.'

/-- A text of letters, digits, hyphens and dots.  In an address it holds no port, path, query,
fragment or user. -/
def IsHostText (text : String) : Prop := ∀ c ∈ text.toList, isHostChar c = true

instance (text : String) : Decidable (IsHostText text) :=
  decidable_of_iff (text.toList.all isHostChar = true) List.all_eq_true

theorem IsHostText.append {s t : String} (left : IsHostText s) (right : IsHostText t) :
    IsHostText (s ++ t) := by
  intro c member
  rw [String.toList_append, List.mem_append] at member
  exact member.elim (left c) (right c)

theorem IsLabel.isHostChar_of_mem {label : List Char} (h : IsLabel label) {c : Char}
    (member : c ∈ label) : isHostChar c = true := by
  rcases h.chars c member with letter | rfl
  · simp [isHostChar, letter]
  · rfl

theorem isHostChar_of_mem_intercalate {labels : List (List Char)}
    (valid : ∀ label ∈ labels, IsLabel label) {c : Char}
    (member : c ∈ ['.'].intercalate labels) : isHostChar c = true := by
  induction labels with
  | nil => cases member
  | cons label labels ih =>
    have first := valid label List.mem_cons_self
    by_cases last : labels = []
    · rw [last, List.intercalate_singleton] at member
      exact first.isHostChar_of_mem member
    · rw [List.intercalate_cons_of_ne_nil last, List.mem_append, List.mem_append,
        List.mem_singleton] at member
      rcases member with (inside | rfl) | behind
      · exact first.isHostChar_of_mem inside
      · rfl
      · exact ih (fun label later => valid label (List.mem_cons_of_mem _ later)) behind

theorem IsDotted.isHostText {text : String} (h : IsDotted text) : IsHostText text := by
  obtain ⟨labels, -, valid, chars⟩ := h
  intro c member
  exact isHostChar_of_mem_intercalate valid (chars ▸ member)

theorem Partition.isHostText_domainOf (region : String) : IsHostText (domainOf region) := by
  have domains : ∀ p ∈ all, IsHostText p.domain := by decide
  unfold domainOf
  cases found : all.find? (·.holds region) with
  | none => exact (by decide : IsHostText "amazonaws.com")
  | some p => exact domains p (List.mem_of_find?_eq_some found)

theorem Endpoint.isHostText_hostOf {region : String} (valid : isRegion region = true) :
    IsHostText (hostOf region) := by
  have start : IsHostText "kinesisanalytics." := by decide
  have dot : IsHostText "." := by decide
  have middle : IsHostText region := ((isRegion_iff region).1 valid).isHostText
  exact ((start.append middle).append dot).append (Partition.isHostText_domainOf region)

/-! ### Addresses of regions -/

namespace Endpoint

theorem take?_of_isHostChar {c : Char} (host : isHostChar c = true) (s : Seen) :
    s.take? c = some s := by
  have kept : isAuthorityChar c = true := by
    simp only [isHostChar, Bool.or_eq_true, beq_iff_eq] at host
    rcases host with (letter | rfl) | rfl
    · simp [isAuthorityChar, letter]
    · rfl
    · rfl
  unfold Seen.take?
  split
  case h_6 => rw [if_pos kept]
  all_goals exact absurd host (by decide)

/-- A host leaves nothing to be seen behind it. -/
theorem foldlM_take?_of_isHostText (cs : List Char) (host : ∀ c ∈ cs, isHostChar c = true)
    (s : Seen) : cs.foldlM Seen.take? s = some s := by
  induction cs with
  | nil => rfl
  | cons c cs ih =>
    rw [List.foldlM_cons, take?_of_isHostChar (host c List.mem_cons_self)]
    exact ih fun d later => host d (List.mem_cons_of_mem _ later)

theorem isAuthority_of_isHostText {text : String} (host : IsHostText text)
    (filled : text.toList ≠ []) : isAuthority text.toList = true := by
  have last : text.toList.getLast? ≠ some '@' := by
    intro user
    exact absurd (host '@' (List.mem_of_getLast? user)) (by decide)
  simp [isAuthority, foldlM_take?_of_isHostText _ host, filled, last]

theorem endsAuthority_of_isHostChar {c : Char} (host : isHostChar c = true) :
    (!endsAuthority c) = true := by
  rw [Bool.not_eq_true', ← Bool.not_eq_true]
  intro ends
  simp only [endsAuthority, Bool.or_eq_true, beq_iff_eq] at ends
  rcases ends with (rfl | rfl) | rfl <;> exact absurd host (by decide)

/-- The address of a region is read back as its host, with nothing around it. -/
theorem parse?_addressOf {region : String} (valid : isRegion region = true) :
    parse? (addressOf region) =
      if (addressOf region).utf8ByteSize ≤ maxAddress then some ⟨"https", hostOf region, ""⟩
      else none := by
  have host := isHostText_hostOf valid
  have filled : (hostOf region).toList ≠ [] := by
    unfold hostOf
    generalize Partition.domainOf region = domain
    simp
  have inside : ∀ c ∈ (hostOf region).toList, (!endsAuthority c) = true := fun c member =>
    endsAuthority_of_isHostChar (host c member)
  have authority := isAuthority_of_isHostText host filled
  have taken : (hostOf region).toList.takeWhile (!endsAuthority ·) = (hostOf region).toList :=
    List.takeWhile_eq_self_iff.2 inside
  have dropped : (hostOf region).toList.dropWhile (!endsAuthority ·) = [] :=
    List.dropWhile_eq_nil_iff.2 inside
  have chars : (addressOf region).toList =
      ['h', 't', 't', 'p', 's', ':', '/', '/'] ++ (hostOf region).toList :=
    String.toList_append
  have scheme : (addressOf region).toList.takeWhile isSchemeChar = ['h', 't', 't', 'p', 's'] := by
    rw [chars]
    rfl
  have behind : (addressOf region).toList.dropWhile isSchemeChar =
      ':' :: '/' :: '/' :: (hostOf region).toList := by
    rw [chars]
    rfl
  have written : schemeText ['h', 't', 't', 'p', 's'] = "https" := by decide
  simp [parse?, scheme, behind, taken, dropped, authority, written, cutQuery, maxScheme]

/-- Requests of a region go to the root of its host. -/
theorem uri_of_region {region : String} (valid : isRegion region = true) {e : Endpoint}
    (read : parse? (addressOf region) = some e) : e.uri = "https://" ++ hostOf region ++ "/" := by
  rw [parse?_addressOf valid] at read
  by_cases short : (addressOf region).utf8ByteSize ≤ maxAddress
  · rw [if_pos short] at read
    cases read
    have scheme : "https" ++ "://" = "https://" := by decide
    have root : String.ofList (slashed "".toList) = "/" := by decide
    rw [uri, scheme, root]
  · rw [if_neg short] at read
    cases read

end Endpoint

end StartOnReady.Service

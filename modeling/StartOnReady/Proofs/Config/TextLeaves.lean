import StartOnReady.Proofs.Config.Leaves
import StartOnReady.Proofs.Settings.Denotation

/-!
# Leaves that hold texts

Any text suits the filter and the address.  Where one variable sets one of them and nothing else is
set, a trimmed text becomes the value of the leaf as it stands, unless it is written as something
else (`Config.load_text_leaf`): a quotation stands for what is quoted, and a value of another type
is refused.
-/

namespace StartOnReady

open Settings (EscapesBehindAscii Extractor IsNonText IsTyped Quotes Tree settingTexts)

/-- The leaves that any text suits. -/
inductive TextLeaf where
  | filter
  | endpointUrl
  deriving DecidableEq, Repr

namespace TextLeaf

def toLeaf : TextLeaf → Leaf
  | filter => .filter
  | endpointUrl => .endpointUrl

/-- The defaults, but for a text in one leaf. -/
def alone : TextLeaf → String → Config
  | filter, s => { logging := { filter := s } }
  | endpointUrl, s => { controlPlane := { endpointUrl := some s } }

variable {leaf : TextLeaf} {s : String} {t : Tree} {environment : List (String × String)}

/-- What becomes of a text in the variable of a leaf. -/
structure Takes (leaf : TextLeaf) (s : String) (loaded : Except ConfigError Config) : Prop where
  /-- It is taken as it stands just if it is not written as something else, and not cut. -/
  itself : loaded = .ok (leaf.alone s) ↔ ¬IsTyped s.toList ∧ loaded ≠ .error .cutSetting
  /-- A quotation is taken for the characters that are meant. -/
  quoted : ∀ chars, Quotes s.toList chars → EscapesBehindAscii s.toList →
    loaded = .ok (leaf.alone (String.ofList chars))
  /-- A value of another type is refused. -/
  refused : IsNonText s.toList → loaded ≠ .error .cutSetting → ∃ t ∈ Tree.ofText? s,
    loaded = .error (.setting ⟨.wrongType t.words "a string", leaf.toLeaf.path, .environment⟩)
  /-- A text is cut only behind a mark that opens something, and with a character beyond ASCII in
  front of an escape. -/
  cut : loaded = .error .cutSetting →
    ¬EscapesBehindAscii s.toList ∧ ∃ c ∈ s.toList.head?, Settings.isOpening c = true

/-! ### One setting over the defaults -/

/-- The configuration of a single piece. -/
def ofPiece (leaf : TextLeaf) (t : Tree) : Except ConfigError Config :=
  match Extractor.text leaf.toLeaf.path t with
  | .ok s => .ok (leaf.alone s)
  | .error fault => .error (.setting fault)

theorem ofLayers_nested (leaf : TextLeaf) (set : ∀ source, t ≠ .leaf source .absent) :
    Config.ofLayers .environment []
      ((Tree.table .environment []).merge (Tree.nested .environment leaf.toLeaf.path t)) =
        leaf.ofPiece t := by
  rcases t with ⟨source, datum⟩ | ⟨source, items⟩ | ⟨source, members⟩
  · cases datum with
    | absent => exact absurd rfl (set source)
    | _ => cases leaf <;> rfl
  · cases leaf <;> rfl
  · cases leaf <;> rfl

/-! ### The only setting of an environment -/

/-- The variables whose names start with the lead, in any letter case. -/
def leading (environment : List (String × String)) : List (String × String) :=
  environment.filter fun (name, _) => (Settings.afterLead? (Text.trim name).toList).isSome

theorem settingTexts_leading (environment : List (String × String)) :
    settingTexts (leading environment) = settingTexts environment := by
  unfold settingTexts leading
  rw [List.filterMap_filter]
  refine List.filterMap_congr fun ⟨name, value⟩ _ => ?_
  cases behind : Settings.afterLead? (Text.trim name).toList with
  | some rest => simp [behind]
  | none => simp [Settings.keyPath?, behind]

theorem settingTexts_of_leading (only : leading environment = [(leaf.toLeaf.variableName, s)]) :
    settingTexts environment = [(leaf.toLeaf.path, s)] := by
  rw [← settingTexts_leading, only]
  cases leaf <;> rfl

theorem loadFromEnvironment_eq (only : leading environment = [(leaf.toLeaf.variableName, s)]) :
    Config.loadFromEnvironment environment =
      match Tree.ofText? s with
      | some t => Config.ofLayers .environment []
          ((Tree.table .environment []).merge (Tree.nested .environment leaf.toLeaf.path t))
      | none => .error .cutSetting := by
  rw [Config.loadFromEnvironment, Config.below, Settings.ofEnvironment?,
    settingTexts_of_leading only, List.mapM_cons, List.mapM_nil]
  simp only [Settings.settingTree?]
  cases Tree.ofText? s <;> rfl

/-! ### What becomes of the text -/

theorem alone_inj {s' : String} (same : leaf.alone s = leaf.alone s') : s = s' := by
  cases leaf <;> cases same <;> rfl

theorem takes_of_ofText?_eq_none (trimmed : Text.IsTrimmed s.toList) (h : Tree.ofText? s = none) :
    leaf.Takes s (.error .cutSetting) := by
  have opens := Settings.opens_of_ofText?_eq_none trimmed h
  exact ⟨iff_of_false nofun fun uncut => uncut.2 rfl, fun _ _ ascii => absurd ascii opens.1,
    fun _ uncut => absurd rfl uncut, fun _ => opens⟩

theorem takes_of_not_isTyped (untyped : ¬IsTyped s.toList) :
    leaf.Takes s (.ok (leaf.alone s)) where
  itself := iff_of_true rfl ⟨untyped, nofun⟩
  quoted _ quotes _ := absurd (.quotation quotes) untyped
  refused nonText _ := absurd (.nonText nonText) untyped
  cut := nofun

/-- The refusal names what the text stands for. -/
theorem takes_of_isNonText (nonText : IsNonText s.toList) (h : Tree.ofText? s = some t) :
    leaf.Takes s
      (.error (.setting ⟨.wrongType t.words "a string", leaf.toLeaf.path, .environment⟩)) where
  itself := iff_of_false nofun fun untyped => untyped.1 (.nonText nonText)
  quoted _ quotes _ := absurd nonText quotes.not_isNonText
  refused _ _ := ⟨t, h, rfl⟩
  cut := nofun

theorem takes_of_quotes {chars : List Char} (quotes : Quotes s.toList chars) {s' : String}
    (shorter : s'.toList.length < s.toList.length)
    (meant : ∀ chars, Quotes s.toList chars → EscapesBehindAscii s.toList →
      s' = String.ofList chars) :
    leaf.Takes s (.ok (leaf.alone s')) where
  itself := by
    refine iff_of_false (fun same => ?_) fun untyped => untyped.1 (.quotation quotes)
    rw [alone_inj (Except.ok.inj same)] at shorter
    exact Nat.lt_irrefl _ shorter
  quoted chars quotes ascii := by rw [meant chars quotes ascii]
  refused nonText _ := absurd nonText quotes.not_isNonText
  cut := nofun

theorem takes_ofPiece (denotes : Settings.Denotes s.toList t) (h : Tree.ofText? s = some t) :
    leaf.Takes s (leaf.ofPiece t) := by
  unfold ofPiece
  by_cases typed : IsTyped s.toList
  · cases typed with
    | nonText nonText =>
      rw [denotes.text_of_isNonText nonText]
      exact takes_of_isNonText nonText h
    | quotation quotes =>
      obtain ⟨s', read, shorter, meant⟩ := denotes.exists_text_of_quotes quotes
      rw [read]
      exact takes_of_quotes quotes shorter meant
  · rw [denotes.text_of_not_isTyped typed, String.ofList_toList]
    exact takes_of_not_isTyped typed

end TextLeaf

open TextLeaf (leading)

/-- Where the variable of a text leaf is the only one with the lead, and its text is trimmed, the
text itself is loaded into the leaf unless it is written as something else; all other leaves have
their defaults. -/
theorem Config.load_text_leaf (leaf : TextLeaf) {environment : List (String × String)} {s : String}
    (trimmed : Text.IsTrimmed s.toList)
    (only : leading environment = [(leaf.toLeaf.variableName, s)]) :
    leaf.Takes s (loadFromEnvironment environment) := by
  rw [TextLeaf.loadFromEnvironment_eq only]
  cases piece : Tree.ofText? s with
  | none => exact TextLeaf.takes_of_ofText?_eq_none trimmed piece
  | some t =>
    have denotes := Settings.denotes_of_ofText? trimmed piece
    show leaf.Takes s (ofLayers .environment [] _)
    rw [TextLeaf.ofLayers_nested leaf denotes.ne_absent]
    exact TextLeaf.takes_ofPiece denotes piece

namespace Directive

/-- A filter that begins like a sequence. -/
def given : String := "[request]=debug"

def environment : List (String × String) :=
  [("PATH", "/usr/bin"), ("START_FLINK_LOGGING__FILTER", given)]

theorem not_isTyped_given : ¬IsTyped given.toList := by
  have noTruth : ¬Settings.IsTruthText given.toList := by
    rintro ⟨b, same⟩
    cases b <;> exact absurd (List.cons.inj same).1 (by decide)
  have noNumber : ¬Decimal.IsNumber given.toList := fun number =>
    absurd (number.isNumberChar '[' (by decide)) (by decide)
  intro typed
  obtain ⟨c, last, mark⟩ := typed.exists_getLast? noTruth noNumber
  cases last
  exact absurd mark (by decide)

theorem escapesBehindAscii_given : EscapesBehindAscii given.toList := .of_notMem (by decide)

end Directive

open Directive in
theorem Config.load_text_leaf_of_directive :
    Text.IsTrimmed given.toList ∧
      leading environment = [(TextLeaf.filter.toLeaf.variableName, given)] ∧
        loadFromEnvironment environment = .ok { logging := { filter := given } } := by
  have trimmed : Text.IsTrimmed given.toList := by decide
  have only : leading environment = [(TextLeaf.filter.toLeaf.variableName, given)] := by
    decide +kernel
  have takes := load_text_leaf .filter trimmed only
  have uncut : loadFromEnvironment environment ≠ .error .cutSetting := fun cut =>
    (takes.cut cut).1 escapesBehindAscii_given
  exact ⟨trimmed, only, takes.itself.2 ⟨not_isTyped_given, uncut⟩⟩

/-- A number is a text, too, but no value of a text leaf. -/
theorem Config.not_load_every_text :
    ¬∀ (leaf : TextLeaf) (environment : List (String × String)) (s : String),
      Text.IsTrimmed s.toList → leading environment = [(leaf.toLeaf.variableName, s)] →
        loadFromEnvironment environment = .ok (leaf.alone s) := by
  intro verbatim
  have loaded := verbatim .filter [("START_FLINK_LOGGING__FILTER", "3")] "3" (by decide) rfl
  exact absurd loaded (by decide +kernel)

end StartOnReady

import Mathlib.Data.List.Nodup
import StartOnReady.Proofs.Config.Layered
import StartOnReady.Proofs.Settings.Readable
import StartOnReady.Proofs.Settings.Segments

/-!
# Which variables matter

A variable concerns a configuration if its name leads into one of its parts.  Trees of settings with
the same parts give the same configuration or the same error (`Config.ofLayers_congr`), and the
other variables change no part (`Config.relSameParts_concerned`).  So they change nothing that is
loaded, unless one of them holds a text that has to be cut inside a character; then nothing is loaded
(`Config.load_of_concerned`).
-/

namespace StartOnReady

/-! ### Tables in order -/

namespace Keyed

variable {α : Type} {table table' : List (String × α)}

theorem find?_filter (keep : String → Bool) (key : String) (table : List (String × α)) :
    find? key (table.filter fun entry => keep entry.1) =
      if keep key then find? key table else none := by
  induction table with
  | nil => simp [find?]
  | cons entry rest ih =>
    obtain ⟨k, v⟩ := entry
    by_cases here : key = k
    · subst here
      cases kept : keep key <;> simp [find?, kept, ih]
    · cases kept : keep k <;> simp [find?, kept, here, ih]

/-- Tables in order that hold the same are the same. -/
theorem IsSorted.ext (sorted : IsSorted table) (sorted' : IsSorted table')
    (same : ∀ key, find? key table = find? key table') : table = table' := by
  have mem_iff {table : List (String × α)} (sorted : IsSorted table) (entry : String × α) :
      entry ∈ table ↔ find? entry.1 table = some entry.2 :=
    ⟨find?_of_mem sorted.nodup_keys, fun found => mem_of_find? found⟩
  have perm : table.Perm table' := by
    refine (List.perm_ext_iff_of_nodup (List.Nodup.of_map Prod.fst sorted.nodup_keys)
      (List.Nodup.of_map Prod.fst sorted'.nodup_keys)).2 fun entry => ?_
    rw [mem_iff sorted, mem_iff sorted', same]
  refine perm.eq_of_pairwise (fun a b _ _ before after => ?_) sorted sorted'
  exact absurd (String.lt_trans before after) (String.lt_irrefl _)

end Keyed

/-! ### Trees with the same parts -/

namespace Settings

open Settings.Tree (IsTable)

/-- Two tables that have the same at the parts of a configuration. -/
structure SameParts (t t' : Tree) : Prop where
  isTable : IsTable t
  isTable' : IsTable t'
  member? : ∀ part ∈ Config.parts, t.member? part = t'.member? part

theorem SameParts.refl {t : Tree} (h : IsTable t) : SameParts t t := ⟨h, h, fun _ _ => rfl⟩

theorem SameParts.merge {lower lower' t t' : Tree} (l : SameParts lower lower')
    (u : SameParts t t') : SameParts (lower.merge t) (lower'.merge t') where
  isTable := l.isTable.merge u.isTable
  isTable' := l.isTable'.merge u.isTable'
  member? part known := by
    rw [l.isTable.member?_merge u.isTable, l.isTable'.member?_merge u.isTable',
      l.member? part known, u.member? part known]

/-- Members that a step passes over need not be there. -/
theorem foldMembers_filter {σ : Type} {step : σ → String → Extractor σ} {keys : List String}
    (passes : ∀ s key path t, key ∉ keys → step s key path t = .ok s) (path : List String)
    (members : List (String × Tree)) (s : σ) :
    Extractor.foldMembers step path members s =
      Extractor.foldMembers step path (members.filter fun m => keys.contains m.1) s := by
  induction members generalizing s with
  | nil => rfl
  | cons member members ih =>
    obtain ⟨key, t⟩ := member
    by_cases known : key ∈ keys
    · simp only [List.filter_cons, List.contains_iff_mem, known, if_true, Extractor.foldMembers, ih]
    · simp only [List.filter_cons, List.contains_iff_mem, known, if_false, Extractor.foldMembers,
        passes s key _ t known]
      exact ih s

end Settings

namespace Config

open Settings (SameParts Source Tree foldMembers_filter)
open Settings.Tree

theorem addSetting_of_not_part (s : Slots) (key : String) (path : List String) (t : Tree)
    (other : key ∉ parts) : s.addSetting key path t = .ok s := by
  unfold Slots.addSetting
  split
  next => exact absurd (by decide) other
  next => exact absurd (by decide) other
  next => rfl

/-- The parts of a tree decide what is read of it, errors included. -/
theorem fromSettings_congr {t t' : Tree} (same : SameParts t t') (path : List String) :
    fromSettings path t = fromSettings path t' := by
  obtain ⟨⟨_, members, rfl, sorted⟩, ⟨_, members', rfl, sorted'⟩, agree⟩ := same
  have kept : members.filter (fun m => parts.contains m.1) =
      members'.filter fun m => parts.contains m.1 := by
    refine Keyed.IsSorted.ext (sorted.filter _) (sorted'.filter _) fun key => ?_
    rw [Keyed.find?_filter, Keyed.find?_filter]
    split
    next known => exact agree key (by simpa using known)
    next => rfl
  have read : Settings.Extractor.foldMembers Slots.addSetting path members {} =
      Settings.Extractor.foldMembers Slots.addSetting path members' {} := by
    rw [foldMembers_filter addSetting_of_not_part path members, kept,
      ← foldMembers_filter addSetting_of_not_part path members']
  exact congrArg (Except.map Slots.filled) read

theorem ofLayers_congr {overrides overrides' : Tree} (same : SameParts overrides overrides')
    (source : Source) (members : List (String × Toml.Value)) :
    ofLayers source members overrides = ofLayers source members overrides' := by
  have lower := isTable_baseLayer.merge (isTable_ofToml_table source members)
  rw [ofLayers, ofLayers, fromSettings_congr ((SameParts.refl lower).merge same)]

theorem ofContent_congr {overrides overrides' : Tree} (same : SameParts overrides overrides')
    (shown : String) (content : ByteArray) :
    ofContent shown content overrides = ofContent shown content overrides' := by
  unfold ofContent
  split
  next => rfl
  next =>
    split
    next => rfl
    next => exact ofLayers_congr same _ _

/-! ### Variables that concern a configuration -/

/-- Whether a name leads into a part of a configuration: behind the lead its first segment is the
key of one, in any letter case. -/
def concerns (name : String) : Bool :=
  match Settings.afterLead? name.toList with
  | some rest => parts.contains (String.ofList (Settings.lowered (Settings.firstSegment rest)))
  | none => false

/-- The variables of an environment that concern a configuration. -/
def concerned (environment : List (String × String)) : List (String × String) :=
  environment.filter fun (name, _) => concerns name

/-- Whether a path of keys leads into a part. -/
def leadsInto (path : List String) : Bool := path.head?.any parts.contains

variable {name : String} {environment : List (String × String)}

theorem concerns_eq_leadsInto (solid : Settings.IsSolid name) {path : List String}
    (h : Settings.keyPath? name = some path) : concerns name = leadsInto path := by
  obtain ⟨rest, keys, behind, rfl⟩ := Settings.keyPath?_eq_some solid h
  unfold concerns
  rw [behind]
  rfl

theorem settingTexts_concerned (solid : ∀ entry ∈ environment, Settings.IsSolid entry.1) :
    Settings.settingTexts (concerned environment) =
      (Settings.settingTexts environment).filter fun entry => leadsInto entry.1 := by
  unfold Settings.settingTexts concerned
  rw [List.filterMap_filter, List.filter_filterMap]
  refine List.filterMap_congr fun ⟨name, value⟩ mem => ?_
  cases path : Settings.keyPath? name with
  | none => simp [path]
  | some keys =>
    simp only [concerns_eq_leadsInto (solid _ mem) path, path]
    cases into : leadsInto keys <;> simp [into, Option.filter]

/-- Whether every setting of the variables that concern no configuration can be read. -/
def OthersRead (environment : List (String × String)) : Prop :=
  ∀ entry ∈ environment, concerns entry.1 = false → (Settings.keyPath? entry.1).isSome →
    (Tree.ofText? entry.2).isSome

instance : DecidablePred OthersRead := fun environment =>
  inferInstanceAs (Decidable (∀ entry ∈ environment, _ → _ → _))

theorem othersRead_of_escapesBehindAscii
    (ascii : ∀ entry ∈ environment, concerns entry.1 = false → (Settings.keyPath? entry.1).isSome →
      Settings.EscapesBehindAscii entry.2.toList) : OthersRead environment :=
  fun entry given apart set => Tree.isSome_ofText? (ascii entry given apart set)

/-! ### What the other variables change -/

/-- Settings that lead into no part leave the parts as they are. -/
theorem sameParts_foldl_filter {texts : List (List String × String)} {trees : List Tree}
    (filled : ∀ entry ∈ texts, entry.1 ≠ [])
    (read : (texts.mapM fun (path, value) => Settings.settingTree? path value) = some trees)
    {lower lower' : Tree} (same : SameParts lower lower') :
    ∃ trees', ((texts.filter fun entry => leadsInto entry.1).mapM
      fun (path, value) => Settings.settingTree? path value) = some trees' ∧
        SameParts (trees.foldl merge lower) (trees'.foldl merge lower') := by
  -- The tables differ: a setting that is left out has been laid over the first of them only.
  induction texts generalizing trees lower lower' with
  | nil =>
    cases read
    exact ⟨[], rfl, same⟩
  | cons entry texts ih =>
    obtain ⟨path, value⟩ := entry
    obtain ⟨first, others⟩ := List.forall_mem_cons.1 filled
    obtain ⟨key, keys, rfl⟩ := List.exists_cons_of_ne_nil first
    rw [List.mapM_cons] at read
    obtain ⟨tree, isTree, read⟩ := Option.bind_eq_some_iff.1 read
    obtain ⟨trees, readAll, ⟨⟩⟩ := Option.bind_eq_some_iff.1 read
    have isTable : IsTable tree := by
      obtain ⟨piece, -, rfl⟩ := Option.map_eq_some_iff.1 isTree
      exact isTable_singleton _ _ _
    by_cases part : key ∈ parts
    · obtain ⟨trees', readParts, left⟩ := ih others readAll (same.merge (.refl isTable))
      have leads : leadsInto (key :: keys) = true := by simpa [leadsInto] using part
      refine ⟨tree :: trees', ?_, left⟩
      rw [List.filter_cons, if_pos leads, List.mapM_cons, isTree, readParts]
      rfl
    · have passed : SameParts (lower.merge tree) lower' := by
        refine ⟨same.isTable.merge isTable, same.isTable', fun known isPart => ?_⟩
        obtain ⟨piece, -, rfl⟩ := Option.map_eq_some_iff.1 isTree
        have apart : known ≠ key := fun here => part (here ▸ isPart)
        rw [same.isTable.member?_merge isTable, Settings.Tree.nested, member?, Keyed.find?,
          if_neg apart]
        exact same.member? known isPart
      obtain ⟨trees', readParts, left⟩ := ih others readAll passed
      refine ⟨trees', ?_, left⟩
      have passes : ¬leadsInto (key :: keys) = true := by simpa [leadsInto] using part
      rwa [List.filter_cons, if_neg passes]

/-- If the others can be read, an environment can be if the variables that concern a configuration
can. -/
theorem isSome_ofEnvironment?_of_concerned
    (solid : ∀ entry ∈ environment, Settings.IsSolid entry.1) (others : OthersRead environment)
    (read : (Settings.ofEnvironment? (concerned environment)).isSome) :
    (Settings.ofEnvironment? environment).isSome := by
  refine Tree.isSome_ofEnvironment?_iff.2 fun entry mem => ?_
  rcases Bool.eq_false_or_eq_true (leadsInto entry.1) with leads | passes
  · refine Tree.isSome_ofEnvironment?_iff.1 read entry ?_
    rw [settingTexts_concerned solid]
    exact List.mem_filter.2 ⟨mem, leads⟩
  · obtain ⟨⟨name, value⟩, given, set⟩ := List.mem_filterMap.1 mem
    obtain ⟨path, isPath, rfl⟩ := Option.map_eq_some_iff.1 set
    have apart : concerns name = false :=
      (concerns_eq_leadsInto (solid _ given) isPath).trans passes
    exact others (name, value) given apart (Option.isSome_of_mem isPath)

/-- The variables that concern a configuration set the same parts as the whole environment. -/
theorem relSameParts_concerned (solid : ∀ entry ∈ environment, Settings.IsSolid entry.1)
    (others : OthersRead environment) :
    Option.Rel SameParts (Settings.ofEnvironment? environment)
      (Settings.ofEnvironment? (concerned environment)) := by
  have filled : ∀ entry ∈ Settings.settingTexts environment, entry.1 ≠ [] := by
    intro entry mem
    obtain ⟨⟨name, value⟩, given, set⟩ := List.mem_filterMap.1 mem
    obtain ⟨path, isPath, rfl⟩ := Option.map_eq_some_iff.1 set
    obtain ⟨_, _, -, rfl⟩ := Settings.keyPath?_eq_some (solid _ given) isPath
    exact List.cons_ne_nil _ _
  cases all : Settings.ofEnvironment? environment with
  | some overrides =>
    obtain ⟨trees, read, rfl⟩ := Option.map_eq_some_iff.1 all
    have empty : IsTable (.table .environment []) := (isOpen_empty .environment "").isTable
    obtain ⟨trees', readParts, same⟩ := sameParts_foldl_filter filled read (.refl empty)
    rw [Settings.ofEnvironment?, settingTexts_concerned solid, readParts]
    exact .some same
  | none =>
    have unread : ¬(Settings.ofEnvironment? (concerned environment)).isSome := fun read => by
      simpa [all] using isSome_ofEnvironment?_of_concerned solid others read
    rw [Option.not_isSome_iff_eq_none.1 unread]
    exact .none

/-! ### What is loaded -/

theorem below_congr {other : List (String × String)} {read : Tree → Except ConfigError Config}
    (congr : ∀ {t t' : Tree}, SameParts t t' → read t = read t')
    (same : Option.Rel SameParts (Settings.ofEnvironment? environment)
      (Settings.ofEnvironment? other)) :
    below environment read = below other read := by
  unfold below
  generalize Settings.ofEnvironment? environment = overrides at same ⊢
  generalize Settings.ofEnvironment? other = overrides' at same ⊢
  cases same with
  | some same => exact congr same
  | none => rfl

variable (path : String) (found : Files.Located)

/-- Only the variables that concern a configuration matter, if the others can be read. -/
theorem load_concerned (solid : ∀ entry ∈ environment, Settings.IsSolid entry.1)
    (others : OthersRead environment) :
    load path found environment = load path found (concerned environment) := by
  have same := relSameParts_concerned solid others
  cases found with
  | missing => rfl
  | noFile => exact below_congr (fun agree => ofLayers_congr agree _ _) same
  | file shown content => exact below_congr (fun agree => ofContent_congr agree _ _) same

/-- A setting that cannot be read keeps every configuration from being loaded. -/
theorem load_of_not_othersRead (unread : ¬OthersRead environment) (there : found ≠ .missing) :
    load path found environment = .error .cutSetting := by
  have none : Settings.ofEnvironment? environment = none := by
    refine Option.not_isSome_iff_eq_none.1 fun all => unread fun entry given _ isPath => ?_
    obtain ⟨keys, isPath⟩ := Option.isSome_iff_exists.1 isPath
    exact Tree.isSome_ofEnvironment?_iff.1 all (keys, entry.2)
      (List.mem_filterMap.2 ⟨entry, given, by simp [isPath]⟩)
  cases found with
  | missing => exact absurd rfl there
  | noFile => rw [load, loadFromEnvironment, below, none]
  | file _ _ => rw [load, below, none]

theorem load_of_concerned_eq {other : List (String × String)}
    (solid : ∀ entry ∈ environment, Settings.IsSolid entry.1)
    (solid' : ∀ entry ∈ other, Settings.IsSolid entry.1)
    (agree : concerned environment = concerned other)
    (both : OthersRead environment ↔ OthersRead other) :
    load path found environment = load path found other := by
  by_cases others : OthersRead environment
  · rw [load_concerned path found solid others, agree,
      ← load_concerned path found solid' (both.1 others)]
  · by_cases there : found = .missing
    · rw [there]
      rfl
    · rw [load_of_not_othersRead path found others there,
        load_of_not_othersRead path found (fun read => others (both.2 read)) there]

/-- A variable that holds no setting may be missing. -/
theorem load_of_keyPath?_eq_none {name : String} (h : Settings.keyPath? name = none)
    (before behind : List (String × String)) (value : String) :
    load path found (before ++ (name, value) :: behind) = load path found (before ++ behind) := by
  have all : Settings.ofEnvironment? (before ++ (name, value) :: behind) =
      Settings.ofEnvironment? (before ++ behind) := by
    simp [Settings.ofEnvironment?, Settings.settingTexts, h]
  cases found <;> simp only [load, loadFromEnvironment, below, all]

/-- Environments that agree in the variables that concern a configuration load the same, with or
without a file, unless a setting of just one of them has to be cut inside a character.  None of the
others has to be if their escapes stand behind ASCII; an environment in which one has to be loads
nothing.  Variables without the lead and the reserved one change nothing even then. -/
theorem load_of_concerned {environment other : List (String × String)}
    (solid : ∀ entry ∈ environment, Settings.IsSolid entry.1)
    (solid' : ∀ entry ∈ other, Settings.IsSolid entry.1)
    (agree : concerned environment = concerned other) :
    ((OthersRead environment ↔ OthersRead other) →
      loadFromEnvironment environment = loadFromEnvironment other ∧
        ∀ path found, load path found environment = load path found other) ∧
    ((∀ entry ∈ environment, concerns entry.1 = false → (Settings.keyPath? entry.1).isSome →
      Settings.EscapesBehindAscii entry.2.toList) → OthersRead environment) ∧
    (¬OthersRead environment → loadFromEnvironment environment = .error .cutSetting ∧
      ∀ path found, found ≠ .missing → load path found environment = .error .cutSetting) ∧
    ∀ before behind name value, environment = before ++ (name, value) :: behind →
      (∀ rest, Settings.afterLead? name.toList = some rest →
        Settings.lowered rest = Settings.reservedName) →
      loadFromEnvironment environment = loadFromEnvironment (before ++ behind) ∧
        ∀ path found, load path found environment = load path found (before ++ behind) := by
  -- To load without a path is to load from one that names no file.
  refine ⟨fun both => ?_, othersRead_of_escapesBehindAscii, fun unread => ?_, ?_⟩
  · have same := fun path found => load_of_concerned_eq path found solid solid' agree both
    exact ⟨same "" .noFile, same⟩
  · have fails := fun path found => load_of_not_othersRead path found unread
    exact ⟨fails "" .noFile nofun, fails⟩
  · rintro before behind name value rfl free
    have noPath := Settings.keyPath?_eq_none (solid (name, value) List.mem_append_cons_self) free
    have same := fun path found => load_of_keyPath?_eq_none path found noPath before behind value
    exact ⟨same "" .noFile, same⟩

/-- A variable with another first segment, the reserved one and one without the lead change nothing
beside a variable of the logging part. -/
theorem load_of_concerned_logging :
    let logging := ("Start_Flink_Logging.Format", "json")
    let others := [("PATH", "\"é\\n\""), ("START_FLINK_CONFIG", "\"é\\n\""),
      ("START_FLINK_OTHER__DEEP__KEY", "[1, [2]]")]
    loadFromEnvironment (others ++ [logging]) = loadFromEnvironment [logging] := by
  intro logging others
  have solid : (∀ entry ∈ others ++ [logging], Settings.IsSolid entry.1) ∧
      ∀ entry ∈ [logging], Settings.IsSolid entry.1 := by decide +kernel
  have agree : concerned (others ++ [logging]) = concerned [logging] := by decide +kernel
  have read : OthersRead (others ++ [logging]) ∧ OthersRead [logging] := by decide +kernel
  exact ((load_of_concerned solid.1 solid.2 agree).1 (iff_of_true read.1 read.2)).1

/-- A value that is cut inside a character keeps the defaults from being loaded, though its variable
concerns no configuration. -/
theorem not_load_of_concerned_cut :
    ¬ ∀ environment other : List (String × String),
      (∀ entry ∈ environment, Settings.IsSolid entry.1) →
      (∀ entry ∈ other, Settings.IsSolid entry.1) → concerned environment = concerned other →
      loadFromEnvironment environment = loadFromEnvironment other := by
  intro same
  have unread : ¬OthersRead [("START_FLINK_OTHER", "\"é\\n\"")] := by decide +kernel
  have cut := load_of_not_othersRead "" .noFile unread nofun
  have loads : (loadFromEnvironment []).isOk := by decide +kernel
  have equal := same [("START_FLINK_OTHER", "\"é\\n\"")] [] (by decide +kernel) nofun
    (by decide +kernel)
  rw [← equal, show loadFromEnvironment _ = _ from cut] at loads
  exact Bool.false_ne_true loads

end Config

end StartOnReady

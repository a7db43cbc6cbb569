import Mathlib.Data.List.Basic
import UsageContracts.Proofs.Document.Lookup
import UsageContracts.Proofs.Outcome
import UsageContracts.Settings.Read

/-!
# What settings are read from a document

Settings are read exactly if each section that a document has is a map from names of
settings in it.  Each setting then has the value that it is given, or else its default, so
that the order of entries does not matter.  Otherwise the fault is in the first section
that is not such a map.
-/

namespace UsageContracts

open Outcome

/-! ## Single settings -/

/-- A single setting. -/
inductive Setting
  | level
  | file
  | host
  | port
  | allowsOrigins
  | origins
  | indent
deriving DecidableEq

namespace Setting

/-- The section that a setting belongs to. -/
def home : Setting → SettingsSection
  | .level | .file => .logging
  | .host | .port | .allowsOrigins | .origins => .service
  | .indent => .output

/-- The name of a setting in its section. -/
def name : Setting → Text
  | .level => "level"
  | .file => "file"
  | .host => "host"
  | .port => "port"
  | .allowsOrigins => "cors_enabled"
  | .origins => "cors_origins"
  | .indent => "indent"

/-- The value of a setting that is not given. -/
def default (environment : Option Text) : Setting → Value
  | .level => .scalar (.text (environment.getD "info"))
  | .file => .null
  | .host => .scalar (.text "127.0.0.1")
  | .port => .scalar (.integer 8080)
  | .allowsOrigins => .scalar (.bool true)
  | .origins =>
      .list [.scalar (.text "http://localhost:3000"), .scalar (.text "http://127.0.0.1:3000")]
  | .indent => .scalar (.integer 2)

/-- The value of a setting among all settings. -/
def valueIn (settings : Settings) : Setting → Value
  | .level => settings.logging.level
  | .file => settings.logging.file
  | .host => settings.service.host
  | .port => settings.service.port
  | .allowsOrigins => settings.service.allowsOrigins
  | .origins => settings.service.origins
  | .indent => settings.output.indent

/-- Whether a document gives a setting a value. -/
def IsGiven (setting : Setting) (document : List (Value × Value)) (value : Value) : Prop :=
  ∃ entries, (.scalar (.text setting.home.key), .map entries) ∈ document ∧
    (.scalar (.text setting.name), value) ∈ entries

/-- Whether a value is as good as none for a setting: so is a null log level. -/
def IsVoid (setting : Setting) (value : Value) : Prop :=
  setting = .level ∧ value = .null

end Setting

theorem Settings.ext_of_valueIn {settings other : Settings}
    (same : ∀ setting : Setting, setting.valueIn settings = setting.valueIn other) :
    settings = other := by
  rcases settings with ⟨⟨level, file⟩, ⟨host, port, allowsOrigins, origins⟩, ⟨indent⟩⟩
  rcases other with ⟨⟨level', file'⟩, ⟨host', port', allowsOrigins', origins'⟩, ⟨indent'⟩⟩
  obtain rfl : level = level' := same .level
  obtain rfl : file = file' := same .file
  obtain rfl : host = host' := same .host
  obtain rfl : port = port' := same .port
  obtain rfl : allowsOrigins = allowsOrigins' := same .allowsOrigins
  obtain rfl : origins = origins' := same .origins
  obtain rfl : indent = indent' := same .indent
  rfl

/-- Whether a value is another one, or the same map with its entries in another order. -/
inductive Value.IsReordered : Value → Value → Prop
  | same {value : Value} : IsReordered value value
  | map {entries others : List (Value × Value)} : entries.Perm others →
      IsReordered (.map entries) (.map others)

/-! ## Sections -/

namespace SettingsSection

/-- Whether a text is the name of a setting in a section. -/
def Names (which : SettingsSection) (name : Text) : Prop :=
  ∃ setting : Setting, setting.home = which ∧ setting.name = name

/-- Whether a value is a map from names of settings in a section. -/
def IsReadable (which : SettingsSection) (value : Value) : Prop :=
  ∃ entries, value = .map entries ∧
    ∀ entry ∈ entries, ∃ name, which.Names name ∧ entry.1 = .scalar (.text name)

/-- Whether a section can be read from a document, in which it may be missing. -/
def IsAccepted (which : SettingsSection) (document : List (Value × Value)) : Prop :=
  ∀ value, (.scalar (.text which.key), value) ∈ document → which.IsReadable value

/-- The sections that are read before a section. -/
def before : SettingsSection → List SettingsSection
  | .logging => []
  | .service => [.logging]
  | .output => [.logging, .service]

/-- Whether a fault is what is wrong with a section.  Of several keys that name no setting
it is the first one, but that all keys are texts comes before. -/
inductive IsFault (which : SettingsSection) : Value → SectionFault → Prop
  | notAMap {value : Value} : (∀ entries, value ≠ .map entries) →
      IsFault which value (.notAMap value.layer.typeName)
  | keyNotText {entries : List (Value × Value)} {entry : Value × Value} : entry ∈ entries →
      (∀ name : Text, entry.1 ≠ .scalar (.text name)) → IsFault which (.map entries) .keyNotText
  | wrongKey {entries : List (Value × Value)} {before after : List Text} {name : Text} :
      entries.map (·.1) = (before ++ name :: after).map (fun key => .scalar (.text key)) →
      (∀ earlier ∈ before, which.Names earlier) → ¬ which.Names name →
      IsFault which (.map entries) (if name = "self" then .reservedKey else .unknownKey name)

variable {which : SettingsSection} {document entries : List (Value × Value)} {name : Text}

theorem names_iff : which.Names name ↔ name ∈ which.settingNames := by
  constructor
  · rintro ⟨setting, rfl, rfl⟩
    cases setting <;> decide
  · intro member
    cases which <;> simp only [settingNames, List.mem_cons, List.not_mem_nil, or_false] at member
    · rcases member with rfl | rfl
      exacts [⟨.level, rfl, rfl⟩, ⟨.file, rfl, rfl⟩]
    · rcases member with rfl | rfl | rfl | rfl
      exacts [⟨.host, rfl, rfl⟩, ⟨.port, rfl, rfl⟩, ⟨.allowsOrigins, rfl, rfl⟩,
        ⟨.origins, rfl, rfl⟩]
    · exact ⟨.indent, rfl, member.symm⟩

theorem keyFault?_eq_none_iff : which.keyFault? name = none ↔ which.Names name := by
  rw [names_iff, keyFault?]
  split
  · simp_all
  · split <;> simp_all

theorem keyFault?_eq_some_iff {fault : SectionFault} : which.keyFault? name = some fault ↔
    ¬ which.Names name ∧ fault = if name = "self" then .reservedKey else .unknownKey name := by
  rw [names_iff, keyFault?]
  split
  · simp_all
  · split <;> simp_all [eq_comm]

theorem textKey?_eq_some_iff {key : Value} :
    textKey? key = some name ↔ key = .scalar (.text name) := by
  unfold textKey?
  split
  · simp
  · next notText => simpa using fun same => notText name same

theorem mapM_textKey?_eq_some_iff {keys : List Value} {names : List Text} :
    keys.mapM textKey? = some names ↔
      keys = names.map fun name => .scalar (.text name) := by
  induction keys generalizing names with
  | nil => cases names <;> simp
  | cons key keys ih =>
      rw [List.mapM_cons]
      cases names with
      | nil => cases textKey? key <;> cases keys.mapM textKey? <;> simp
      | cons name names =>
          rw [List.map_cons, List.cons.injEq, ← textKey?_eq_some_iff, ← ih]
          cases textKey? key <;> cases keys.mapM textKey? <;> simp

theorem mapM_textKey?_eq_none_iff {keys : List Value} :
    keys.mapM textKey? = none ↔ ∃ key ∈ keys, ∀ name : Text, key ≠ .scalar (.text name) := by
  induction keys with
  | nil => simp
  | cons key keys ih =>
      have isText_iff : textKey? key = none ↔ ∀ name : Text, key ≠ .scalar (.text name) := by
        simp only [Option.eq_none_iff_forall_ne_some, Ne, textKey?_eq_some_iff]
      rw [List.exists_mem_cons_iff, ← isText_iff, ← ih, List.mapM_cons]
      cases textKey? key <;> cases keys.mapM textKey? <;> simp

theorem keysFault?_eq_none_iff :
    which.keysFault? (entries.map (·.1)) = none ↔ which.IsReadable (.map entries) := by
  unfold keysFault?
  split
  · next notTexts =>
      obtain ⟨key, member, notText⟩ := mapM_textKey?_eq_none_iff.mp notTexts
      obtain ⟨entry, inEntries, rfl⟩ := List.mem_map.mp member
      refine iff_of_false (by simp) ?_
      rintro ⟨_, ⟨⟩, named⟩
      obtain ⟨name, -, key_eq⟩ := named entry inEntries
      exact notText name key_eq
  · next names texts =>
      have keys_eq := mapM_textKey?_eq_some_iff.mp texts
      rw [List.findSome?_eq_none_iff]
      simp only [keyFault?_eq_none_iff]
      constructor
      · intro named
        refine ⟨entries, rfl, fun entry member => ?_⟩
        have inKeys : entry.1 ∈ names.map fun name => Value.scalar (.text name) :=
          keys_eq ▸ List.mem_map_of_mem member
        obtain ⟨name, inNames, key_eq⟩ := List.mem_map.mp inKeys
        exact ⟨name, named name inNames, key_eq.symm⟩
      · rintro ⟨_, ⟨⟩, named⟩ name member
        have inKeys : Value.scalar (.text name) ∈ entries.map (·.1) :=
          keys_eq ▸ List.mem_map_of_mem (f := fun name => Value.scalar (.text name)) member
        obtain ⟨entry, inEntries, key_eq⟩ := List.mem_map.mp inKeys
        obtain ⟨other, isName, other_eq⟩ := named entry inEntries
        cases key_eq.symm.trans other_eq
        exact isName

theorem keysFault?_eq_some_iff {fault : SectionFault} :
    which.keysFault? (entries.map (·.1)) = some fault ↔ which.IsFault (.map entries) fault := by
  constructor
  · intro found
    unfold keysFault? at found
    split at found
    · next notTexts =>
        cases found
        obtain ⟨key, member, notText⟩ := mapM_textKey?_eq_none_iff.mp notTexts
        obtain ⟨entry, inEntries, rfl⟩ := List.mem_map.mp member
        exact .keyNotText inEntries notText
    · next names texts =>
        obtain ⟨before, name, after, rfl, fault_eq, earlier⟩ := List.findSome?_eq_some_iff.mp found
        obtain ⟨notNamed, rfl⟩ := keyFault?_eq_some_iff.mp fault_eq
        exact .wrongKey (mapM_textKey?_eq_some_iff.mp texts)
          (fun other member => keyFault?_eq_none_iff.mp (earlier other member)) notNamed
  · intro isFault
    unfold keysFault?
    cases isFault with
    | notAMap notAMap => exact (notAMap entries rfl).elim
    | keyNotText member notText =>
        rw [mapM_textKey?_eq_none_iff.mpr ⟨_, List.mem_map_of_mem member, notText⟩]
    | wrongKey keys_eq earlier notNamed =>
        rw [mapM_textKey?_eq_some_iff.mpr keys_eq]
        exact List.findSome?_eq_some_iff.mpr ⟨_, _, _, rfl,
          keyFault?_eq_some_iff.mpr ⟨notNamed, rfl⟩,
          fun other member => keyFault?_eq_none_iff.mpr (earlier other member)⟩

/-! ### Entries of sections -/

/-- A section that is no map has no other fault. -/
theorem isFault_iff_of_not_map {value : Value} {fault : SectionFault}
    (notAMap : ∀ entries, value ≠ .map entries) :
    which.IsFault value fault ↔ fault = .notAMap value.layer.typeName := by
  constructor
  · intro isFault
    cases isFault with
    | notAMap _ => rfl
    | keyNotText _ _ => exact (notAMap _ rfl).elim
    | wrongKey _ _ _ => exact (notAMap _ rfl).elim
  · rintro rfl
    exact .notAMap notAMap

/-- A section is read exactly if it can be, and its fault is told otherwise. -/
theorem entries_isSpecified (distinct : Value.HaveDistinctNames document) :
    IsSpecified (which.entries document) (which.IsAccepted document) fun fault =>
      ∃ value, (.scalar (.text which.key), value) ∈ document ∧ which.IsFault value fault := by
  unfold SettingsSection.entries
  cases found : View.find? Value.view document which.key with
  | none =>
      have missing := Value.find?_eq_none_iff.mp found
      refine (IsSpecified.ok []).congr ?_ fun fault => ?_
      · exact iff_of_true trivial fun value member => (missing value member).elim
      · exact iff_of_false not_false fun ⟨value, member, _⟩ => missing value member
  | some value =>
      have member := Value.mem_of_find?_eq_some found
      have only : ∀ other, (.scalar (.text which.key), other) ∈ document → other = value :=
        fun other otherMember => distinct _ _ _ otherMember member
      have accepted_iff : which.IsReadable value ↔ which.IsAccepted document :=
        ⟨fun readable other otherMember => only other otherMember ▸ readable,
          fun accepted => accepted value member⟩
      have fault_iff (fault : SectionFault) : which.IsFault value fault ↔
          ∃ value, (.scalar (.text which.key), value) ∈ document ∧ which.IsFault value fault :=
        ⟨fun isFault => ⟨value, member, isFault⟩,
          fun ⟨other, otherMember, isFault⟩ => only other otherMember ▸ isFault⟩
      refine IsSpecified.congr ?_ accepted_iff fault_iff
      cases value with
      | map entries =>
          dsimp only
          cases keys : which.keysFault? (entries.map (·.1)) with
          | none =>
              refine (IsSpecified.ok entries).congr ?_ fun fault => ?_
              · exact iff_of_true trivial (keysFault?_eq_none_iff.mp keys)
              · rw [← keysFault?_eq_some_iff, keys]
                simp
          | some fault =>
              refine (IsSpecified.error fault).congr ?_ fun other => ?_
              · rw [← keysFault?_eq_none_iff, keys]
                simp
              · rw [← keysFault?_eq_some_iff, keys, Option.some.injEq, eq_comm]
      | _ =>
          refine (IsSpecified.error _).congr ?_ fun fault => ?_
          · exact iff_of_false not_false fun readable => by
              obtain ⟨entries, ⟨⟩, -⟩ := readable
          · exact (isFault_iff_of_not_map (by simp)).symm

theorem mem_of_entries_eq_ok (ok : which.entries document = .ok entries) :
    (∀ value, (.scalar (.text which.key), value) ∉ document) ∧ entries = [] ∨
      (.scalar (.text which.key), .map entries) ∈ document := by
  unfold SettingsSection.entries at ok
  split at ok
  · next missing =>
      cases ok
      exact .inl ⟨Value.find?_eq_none_iff.mp missing, rfl⟩
  · next found =>
      split at ok <;> cases ok
      exact .inr (Value.mem_of_find?_eq_some found)
  · cases ok

/-- The order of its entries does not matter for whether a section can be read. -/
theorem isReadable_iff_of_isReordered {value other : Value} (reordered : value.IsReordered other) :
    which.IsReadable value ↔ which.IsReadable other := by
  cases reordered with
  | same => rfl
  | map permuted =>
      constructor
      · rintro ⟨_, ⟨⟩, named⟩
        exact ⟨_, rfl, fun entry member => named entry (permuted.mem_iff.mpr member)⟩
      · rintro ⟨_, ⟨⟩, named⟩
        exact ⟨_, rfl, fun entry member => named entry (permuted.mem_iff.mp member)⟩

end SettingsSection

/-! ## Settings -/

namespace Settings

/-- Whether the entries of a document and of the sections in it are those of maps. -/
structure IsDocument (document : List (Value × Value)) : Prop where
  distinct : Value.HaveDistinctNames document
  sections : ∀ (which : SettingsSection) (entries : List (Value × Value)),
    (.scalar (.text which.key), .map entries) ∈ document → Value.HaveDistinctNames entries

/-- Whether settings have the values that a document gives them, and their defaults
otherwise. -/
structure IsGivenBy (settings : Settings) (environment : Option Text)
    (document : List (Value × Value)) : Prop where
  given : ∀ (setting : Setting) (value : Value), setting.IsGiven document value →
    ¬ setting.IsVoid value → setting.valueIn settings = value
  otherwise : ∀ setting : Setting,
    (∀ value, setting.IsGiven document value → setting.IsVoid value) →
      setting.valueIn settings = setting.default environment

variable {environment : Option Text} {document other : List (Value × Value)}
  {settings : Settings}

/-- A document gives all settings at once. -/
theorem IsGivenBy.unique {settings' : Settings} (given : settings.IsGivenBy environment document)
    (given' : settings'.IsGivenBy environment document) : settings = settings' := by
  apply ext_of_valueIn
  intro setting
  by_cases void : ∀ value, setting.IsGiven document value → setting.IsVoid value
  · rw [given.otherwise setting void, given'.otherwise setting void]
  · simp only [not_forall] at void
    obtain ⟨value, isGiven, notVoid⟩ := void
    rw [given.given setting value isGiven notVoid, given'.given setting value isGiven notVoid]

section

variable {read : SettingsSection → List (Value × Value)}

/-- The entries that are read of a section give what the document gives. -/
theorem isGiven_iff_of_entries (isDocument : IsDocument document)
    (read_eq : ∀ which : SettingsSection, which.entries document = .ok (read which))
    (setting : Setting) (value : Value) :
    setting.IsGiven document value ↔
      View.find? Value.view (read setting.home) setting.name = some value := by
  rcases SettingsSection.mem_of_entries_eq_ok (read_eq setting.home) with
    ⟨missing, read_eq_nil⟩ | member
  · rw [read_eq_nil, View.find?_nil]
    exact iff_of_false (fun ⟨entries, member, _⟩ => missing _ member) (by simp)
  · rw [Value.find?_eq_some_iff (isDocument.sections _ _ member)]
    constructor
    · rintro ⟨entries, otherMember, given⟩
      cases isDocument.distinct _ _ _ member otherMember
      exact given
    · exact fun given => ⟨_, member, given⟩

/-- Settings are put together from the entries of the sections setting by setting. -/
theorem valueIn_ofEntries (setting : Setting) (notLevel : setting ≠ .level) :
    setting.valueIn
        { logging := .ofEntries environment (read .logging)
          service := .ofEntries (read .service)
          output := .ofEntries (read .output) } =
      settingOr (read setting.home) setting.name (setting.default environment) := by
  cases setting with
  | level => exact (notLevel rfl).elim
  | _ => rfl

theorem isGivenBy_of_entries (isDocument : IsDocument document)
    (read_eq : ∀ which : SettingsSection, which.entries document = .ok (read which)) :
    IsGivenBy
      { logging := .ofEntries environment (read .logging)
        service := .ofEntries (read .service)
        output := .ofEntries (read .output) } environment document := by
  have isGiven_iff := isGiven_iff_of_entries isDocument read_eq
  constructor
  case given =>
    intro setting value given notVoid
    have found := (isGiven_iff setting value).mp given
    by_cases isLevel : setting = .level
    · subst isLevel
      have notNull : value.layer.isNull = false := by
        rw [Bool.eq_false_iff, Ne, Value.isNull_layer_iff]
        exact fun null => notVoid ⟨rfl, null⟩
      have level_eq : settingOr (read .logging) "level" .null = value :=
        congrArg (fun value? : Option Value => value?.getD .null) found
      simp only [Setting.valueIn, LoggingSettings.ofEntries, level_eq, notNull, Bool.false_eq_true,
        if_false]
    · rw [valueIn_ofEntries setting isLevel, settingOr, found, Option.getD_some]
  case otherwise =>
    intro setting void
    by_cases isLevel : setting = .level
    · subst isLevel
      have level_eq : settingOr (read .logging) "level" .null = .null := by
        unfold settingOr
        cases found : View.find? Value.view (read .logging) "level" with
        | none => rfl
        | some value => exact (void value ((isGiven_iff .level value).mpr found)).2
      simp only [Setting.valueIn, LoggingSettings.ofEntries, level_eq]
      rfl
    · rw [valueIn_ofEntries setting isLevel, settingOr]
      cases found : View.find? Value.view (read setting.home) setting.name with
      | none => rfl
      | some value =>
          exact (isLevel (void value ((isGiven_iff setting value).mpr found)).1).elim

end

/-! ### Reading -/

/-- Whether a fault is that of the first section that cannot be read. -/
inductive IsFirstFault (document : List (Value × Value)) : SettingsFault → Prop
  | intro {which : SettingsSection} {value : Value} {cause : SectionFault} :
      (.scalar (.text which.key), value) ∈ document → which.IsFault value cause →
      (∀ earlier ∈ which.before, earlier.IsAccepted document) →
      IsFirstFault document (.inSection which cause)

theorem entriesOrFault_isSpecified (isDocument : IsDocument document) (which : SettingsSection) :
    IsSpecified (SettingsSection.entriesOrFault which document) (which.IsAccepted document)
      fun fault => ∃ cause, (∃ value, (.scalar (.text which.key), value) ∈ document ∧
        which.IsFault value cause) ∧ .inSection which cause = fault :=
  (SettingsSection.entries_isSpecified isDocument.distinct).mapError _

/-- Settings are read exactly if all sections can be, and otherwise the fault of the first
one is told that cannot. -/
theorem ofEntries_isSpecified (isDocument : IsDocument document) :
    IsSpecified (ofEntries environment document)
      (∀ which : SettingsSection, which.IsAccepted document) (IsFirstFault document) := by
  have sectionSpecified := entriesOrFault_isSpecified isDocument
  refine ((sectionSpecified .logging).bind fun logging _ =>
    (sectionSpecified .service).bind fun service _ =>
      (sectionSpecified .output).bind_ok fun output => ⟨_, rfl⟩).congr ?_ fun fault => ?_
  · constructor
    · rintro ⟨logging, service, output⟩ which
      cases which
      exacts [logging, service, output]
    · exact fun accepted => ⟨accepted .logging, accepted .service, accepted .output⟩
  · constructor
    · rintro (⟨cause, ⟨value, member, isFault⟩, rfl⟩ | ⟨logging,
        ⟨cause, ⟨value, member, isFault⟩, rfl⟩ | ⟨service, cause, ⟨value, member, isFault⟩, rfl⟩⟩)
      · exact .intro member isFault (List.forall_mem_nil _)
      · exact .intro member isFault (List.forall_mem_singleton.mpr logging)
      · exact .intro member isFault
          (List.forall_mem_cons.mpr ⟨logging, List.forall_mem_singleton.mpr service⟩)
    · rintro @⟨which, value, cause, member, isFault, earlier⟩
      have faulty : ∃ other, (∃ value, (.scalar (.text which.key), value) ∈ document ∧
          which.IsFault value other) ∧
          SettingsFault.inSection which other = .inSection which cause :=
        ⟨cause, ⟨value, member, isFault⟩, rfl⟩
      cases which with
      | logging => exact .inl faulty
      | service => exact .inr ⟨earlier _ (by decide), .inl faulty⟩
      | output => exact .inr ⟨earlier _ (by decide), .inr ⟨earlier _ (by decide), faulty⟩⟩

/-- What is read has the values that the document gives. -/
theorem isGivenBy_of_ofEntries (isDocument : IsDocument document)
    (ok : ofEntries environment document = .ok settings) :
    settings.IsGivenBy environment document := by
  obtain ⟨logging, logging_eq, ok⟩ := bind_eq_ok_iff.mp ok
  obtain ⟨service, service_eq, ok⟩ := bind_eq_ok_iff.mp ok
  obtain ⟨output, output_eq, ok⟩ := bind_eq_ok_iff.mp ok
  cases ok
  let read : SettingsSection → List (Value × Value)
    | .logging => logging
    | .service => service
    | .output => output
  have read_eq (which : SettingsSection) : which.entries document = .ok (read which) := by
    cases which
    exacts [mapError_eq_ok_iff.mp logging_eq, mapError_eq_ok_iff.mp service_eq,
      mapError_eq_ok_iff.mp output_eq]
  exact isGivenBy_of_entries isDocument read_eq

theorem ofEntries_eq_ok_iff (isDocument : IsDocument document) :
    ofEntries environment document = .ok settings ↔
      (∀ which : SettingsSection, which.IsAccepted document) ∧
        settings.IsGivenBy environment document := by
  have specified : IsSpecified (ofEntries environment document) _ _ :=
    ofEntries_isSpecified isDocument
  constructor
  · exact fun ok => ⟨specified.accepted_iff.mp ⟨settings, ok⟩, isGivenBy_of_ofEntries isDocument ok⟩
  · rintro ⟨accepted, given⟩
    obtain ⟨read, ok⟩ := specified.accepted_iff.mpr accepted
    rw [ok, given.unique (isGivenBy_of_ofEntries isDocument ok)]

/-- The fault is in the first section that cannot be read. -/
theorem exists_error_inSection_iff (isDocument : IsDocument document) {which : SettingsSection} :
    (∃ cause, ofEntries environment document = .error (.inSection which cause)) ↔
      ¬ which.IsAccepted document ∧ ∀ earlier ∈ which.before, earlier.IsAccepted document := by
  have ofSection : IsSpecified (which.entries document) _ _ :=
    SettingsSection.entries_isSpecified isDocument.distinct
  simp only [(ofEntries_isSpecified isDocument).faulty_iff]
  rw [← ofSection.exists_faulty_iff]
  constructor
  · rintro ⟨cause, @⟨_, value, _, member, isFault, earlier⟩⟩
    exact ⟨⟨cause, value, member, isFault⟩, earlier⟩
  · rintro ⟨⟨cause, value, member, isFault⟩, earlier⟩
    exact ⟨cause, .intro member isFault earlier⟩

/-! ### Order of entries -/

/-- Whether a document has the sections of another one, in each of which the order of the
entries may be another. -/
def HasSectionsOf (other document : List (Value × Value)) : Prop :=
  ∀ (which : SettingsSection) (value : Value), (.scalar (.text which.key), value) ∈ document →
    ∃ reordered, value.IsReordered reordered ∧ (.scalar (.text which.key), reordered) ∈ other

/-- Whether two documents have the same sections up to the order of entries. -/
structure IsRearranged (document other : List (Value × Value)) : Prop where
  kept : HasSectionsOf other document
  added : HasSectionsOf document other

theorem IsRearranged.symm (rearranged : IsRearranged document other) :
    IsRearranged other document :=
  ⟨rearranged.added, rearranged.kept⟩

theorem IsRearranged.isAccepted (rearranged : IsRearranged document other)
    {which : SettingsSection} (accepted : which.IsAccepted document) : which.IsAccepted other := by
  intro value member
  obtain ⟨original, reordered, inDocument⟩ := rearranged.added which value member
  exact (SettingsSection.isReadable_iff_of_isReordered reordered).mpr (accepted _ inDocument)

theorem IsRearranged.isGiven (rearranged : IsRearranged document other) {setting : Setting}
    {value : Value} (given : setting.IsGiven document value) : setting.IsGiven other value := by
  obtain ⟨entries, member, inEntries⟩ := given
  obtain ⟨_, reordered, inOther⟩ := rearranged.kept _ _ member
  cases reordered with
  | same => exact ⟨entries, inOther, inEntries⟩
  | map permuted => exact ⟨_, inOther, permuted.mem_iff.mp inEntries⟩

theorem IsRearranged.isAccepted_iff (rearranged : IsRearranged document other)
    {which : SettingsSection} : which.IsAccepted document ↔ which.IsAccepted other :=
  ⟨rearranged.isAccepted, rearranged.symm.isAccepted⟩

theorem IsRearranged.isGivenBy (rearranged : IsRearranged document other)
    (given : settings.IsGivenBy environment document) : settings.IsGivenBy environment other where
  given setting value isGiven := given.given setting value (rearranged.symm.isGiven isGiven)
  otherwise setting void :=
    given.otherwise setting fun value isGiven => void value (rearranged.isGiven isGiven)

end Settings

end UsageContracts

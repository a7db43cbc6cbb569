import Mathlib.Data.List.Nodup
import UsageContracts.Proofs.Settings.Reading
import UsageContracts.Proofs.Yaml.Keys
import UsageContracts.Settings.Load

/-!
# Settings of documents and files

Which documents give settings, and which settings they give.  A file gives the settings of
the document in it, of which the names are distinct.
-/

namespace UsageContracts.Settings

open Outcome

variable {environment : Option Text} {entries : List (Value × Value)}

/-! ## Documents in files -/

/-- The value of what is read from a text; no document at all is null. -/
def valueOf : Option Yaml.Document → Value
  | none => .null
  | some document => document.graph.unfold document.root

/-- A document value, for which there are no entries if it counts as false. -/
def orNoEntries (value : Value) : Value :=
  if value.layer.isTruthy then value else .map []

/-- The parts of a map are values in the graph as well. -/
theorem exists_unfoldAt_of_mem {graph : Graph} {root : Place} {key value : Value}
    (unfold_eq : graph.unfold root = .map entries) (member : (key, value) ∈ entries) :
    ∃ path place, value = graph.unfoldAt path place := by
  rw [Graph.unfold, Graph.unfoldAt] at unfold_eq
  cases layer_eq : graph.layer root with
  | map inner =>
      simp only [layer_eq, Layer.isCollection, dite_true, List.not_mem_nil, not_false_eq_true,
        Layer.mapInner, Value.ofLayer, Value.map.injEq] at unfold_eq
      rw [← unfold_eq] at member
      obtain ⟨⟨_, place⟩, -, pair_eq⟩ := List.mem_map.mp member
      exact ⟨_, place, (Prod.ext_iff.mp pair_eq).2.symm⟩
  | _ => simp [layer_eq, Layer.isCollection, Layer.mapInner, Value.ofLayer] at unfold_eq

theorem isDocument_of_read {text : Text} {document? : Option Yaml.Document}
    (read_eq : Yaml.read text = .ok document?) (value_eq : valueOf document? = .map entries) :
    IsDocument entries := by
  cases document? with
  | none => cases value_eq
  | some document =>
      have distinct := Yaml.hasDistinctNames_of_read read_eq
      refine ⟨Graph.haveDistinctNames_unfoldAt distinct value_eq, fun which inner member => ?_⟩
      obtain ⟨path, place, inner_eq⟩ := exists_unfoldAt_of_mem value_eq member
      exact Graph.haveDistinctNames_unfoldAt distinct inner_eq.symm

/-- A file that can be read gives the settings of the document in it. -/
theorem load_eq_of_read {tree : FileTree} {path? : Option Path} {path : Path} {text : Text}
    {document? : Option Yaml.Document}
    (found : path?.or (usualPaths.find? (isThere tree)) = some path)
    (file : tree.read path = .ok text) (read_eq : Yaml.read text = .ok document?) :
    load environment tree path? =
      (ofValue environment (orNoEntries (valueOf document?))).mapError .settings := by
  have present : tree.has path = .ok true := by
    unfold FileTree.read at file
    unfold FileTree.has
    split at file <;> simp_all
  simp only [load, found, ofFile, present, file, ofText, read_eq, mapError_ok, ok_bind, if_true]
  cases document? <;> rfl

/-! ## Settings of documents -/

/-- A map gives settings exactly if its sections are maps from names of settings.  Each
setting then has the value that it is given, and its default otherwise; the fault is that of
the first section that is no such map.  Neither the order of entries nor other entries
matter.  A file gives the settings of the document in it, for which there are no entries if
it counts as false. -/
theorem read_section_by_section (environment : Option Text) :
    (∀ document, IsDocument document →
      ((∃ settings, ofValue environment (.map document) = .ok settings) ↔
        ∀ which : SettingsSection, which.IsAccepted document) ∧
      (∀ settings, ofValue environment (.map document) = .ok settings →
        settings.IsGivenBy environment document) ∧
      (∀ fault, ofValue environment (.map document) = .error fault ↔
        IsFirstFault document fault) ∧
      ∀ other, IsDocument other → IsRearranged document other →
        (∀ settings, ofValue environment (.map document) = .ok settings ↔
          ofValue environment (.map other) = .ok settings) ∧
        ∀ which, (∃ cause, ofValue environment (.map document) = .error (.inSection which cause)) ↔
          ∃ cause, ofValue environment (.map other) = .error (.inSection which cause)) ∧
    ∀ tree path? path text document?,
      Option.or path? (usualPaths.find? (isThere tree)) = some path →
      FileTree.read tree path = .ok text → Yaml.read text = .ok document? →
        load environment tree path? =
          (ofValue environment (orNoEntries (valueOf document?))).mapError .settings ∧
        ∀ entries, valueOf document? = .map entries → IsDocument entries := by
  constructor
  · intro document isDocument
    have specified : IsSpecified (ofEntries environment document) _ _ :=
      ofEntries_isSpecified isDocument
    refine ⟨specified.accepted_iff, fun settings => isGivenBy_of_ofEntries isDocument,
      specified.faulty_iff, fun other isOther rearranged => ⟨fun settings => ?_, fun which => ?_⟩⟩
    · simp only [ofValue, ofEntries_eq_ok_iff isDocument, ofEntries_eq_ok_iff isOther,
        rearranged.isAccepted_iff]
      exact and_congr_right fun _ => ⟨rearranged.isGivenBy, rearranged.symm.isGivenBy⟩
    · simp only [ofValue, exists_error_inSection_iff isDocument,
        exists_error_inSection_iff isOther, rearranged.isAccepted_iff]
  · intro tree path? path text document? found file read_eq
    exact ⟨load_eq_of_read found file read_eq, fun entries => isDocument_of_read read_eq⟩

/-! ### Samples -/

theorem haveDistinctNames_memberValues {members : List (Text × Json)}
    (nodup : (members.map (·.1)).Nodup) : Value.HaveDistinctNames (Json.memberValues members) := by
  intro name value other member otherMember
  rw [Json.memberValues_eq_map] at member otherMember
  obtain ⟨first, inFirst, first_eq⟩ := List.mem_map.mp member
  obtain ⟨second, inSecond, second_eq⟩ := List.mem_map.mp otherMember
  cases first_eq
  obtain ⟨key_eq, rfl⟩ := Prod.ext_iff.mp second_eq
  cases List.inj_on_of_nodup_map nodup inFirst inSecond
    (Scalar.text.inj (Value.scalar.inj key_eq)).symm
  rfl

/-- The members of a JSON object are the entries of a document if no name is repeated. -/
theorem isDocument_memberValues {members : List (Text × Json)}
    (nodup : (members.map (·.1)).Nodup)
    (inner : ∀ member ∈ members, ∀ own, member.2 = .object own → (own.map (·.1)).Nodup) :
    IsDocument (Json.memberValues members) where
  distinct := haveDistinctNames_memberValues nodup
  sections which entries member := by
    rw [Json.memberValues_eq_map] at member
    obtain ⟨⟨name, json⟩, inMembers, pair_eq⟩ := List.mem_map.mp member
    have value_eq : json.toValue = .map entries := (Prod.ext_iff.mp pair_eq).2
    cases json with
    | object own =>
        cases value_eq
        exact haveDistinctNames_memberValues (inner _ inMembers own rfl)
    | _ => cases value_eq

/-- A port and a log level, of which the latter is null. -/
def portSample : List (Text × Json) :=
  [("api", .object [("port", .text "80"), ("host", .null)]),
    ("logging", .object [("level", .null)])]

/-- The same settings in another order, beside an entry that is no section. -/
def rearrangedSample : List (Text × Json) :=
  [("logging", .object [("level", .null)]), ("service", .null),
    ("api", .object [("host", .null), ("port", .text "80")])]

/-- A section that is null, before another one with an unknown name. -/
def faultySample : List (Text × Json) :=
  [("output", .object [("width", .null)]), ("api", .null)]

theorem isRearranged_samples :
    IsRearranged (Json.memberValues portSample) (Json.memberValues rearrangedSample) := by
  constructor
  · intro which value member
    cases which <;> simp [portSample, Json.memberValues_eq_map, SettingsSection.key,
      Text.ofString_inj] at member <;> subst member
    · exact ⟨_, .same, .head _⟩
    · exact ⟨_, .map (.swap _ _ _), .tail _ (.tail _ (.head _))⟩
  · intro which value member
    cases which <;> simp [rearrangedSample, Json.memberValues_eq_map, SettingsSection.key,
      Text.ofString_inj] at member <;> subst member
    · exact ⟨_, .same, .tail _ (.head _)⟩
    · exact ⟨_, .map (.swap _ _ _), .head _⟩

/-- Settings that are read in whichever order they are given, a document that gives none,
and one in a file that counts as false. -/
theorem read_section_by_section_of_samples :
    (∀ which : SettingsSection, which.IsAccepted (Json.memberValues portSample)) ∧
    (∃ settings, IsGivenBy settings (some "debug") (Json.memberValues portSample) ∧
      ofValue (some "debug") (.map (Json.memberValues rearrangedSample)) = .ok settings) ∧
    IsFirstFault (Json.memberValues faultySample) (.inSection .service (.notAMap "NoneType")) ∧
    load none { files := [(["c.yaml"], "# none\n")] } (some (.ofText "c.yaml")) =
      (ofValue none (.map [])).mapError .settings := by
  have isDocument : IsDocument (Json.memberValues portSample) :=
    isDocument_memberValues (by decide) (by simp [portSample, Text.ofString_inj])
  have isRearranged : IsDocument (Json.memberValues rearrangedSample) :=
    isDocument_memberValues (by decide) (by simp [rearrangedSample, Text.ofString_inj])
  have isFaulty : IsDocument (Json.memberValues faultySample) :=
    isDocument_memberValues (by decide) (by simp [faultySample])
  obtain ⟨exists_iff, given, -, sameAs⟩ := (read_section_by_section (some "debug")).1 _ isDocument
  obtain ⟨settings, ok⟩ : ∃ settings,
      ofValue (some "debug") (.map (Json.memberValues portSample)) = .ok settings := ⟨_, rfl⟩
  refine ⟨exists_iff.mp ⟨settings, ok⟩, ⟨settings, given settings ok,
    ((sameAs _ isRearranged isRearranged_samples).1 settings).mp ok⟩, ?_, ?_⟩
  · exact (((read_section_by_section none).1 _ isFaulty).2.2.1 _).mp rfl
  · have isNone : (Yaml.read "# none\n").toOption.map (·.isNone) = some true := by
      decide +kernel
    have read_eq : Yaml.read "# none\n" = .ok none := by
      cases read_eq : Yaml.read "# none\n" with
      | error fault => simp [read_eq, Except.toOption] at isNone
      | ok document? => cases document? <;> simp [read_eq, Except.toOption] at isNone ⊢
    exact ((read_section_by_section none).2 { files := [(["c.yaml"], "# none\n")] }
      (some (.ofText "c.yaml")) (.ofText "c.yaml") _ _ rfl (by decide +kernel) read_eq).1

end UsageContracts.Settings

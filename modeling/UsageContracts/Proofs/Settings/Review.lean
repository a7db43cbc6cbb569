import UsageContracts.Proofs.Document.Lookup
import UsageContracts.Proofs.Document.Writable
import UsageContracts.Proofs.Outcome
import UsageContracts.Settings.Review

/-!
# What reviews of settings find

A review that is finished finds nothing exactly if the settings are usable: the log level
is one of the names, the port the number of a port, and the indentation null or not
negative.  Otherwise it tells of each setting that is not, in this order.  It is finished
exactly if each value can be compared and, unless it is good, written.
-/

namespace UsageContracts

open Outcome

/-! ## Usable settings -/

namespace Scalar.Magnitude

/-- Whether a place on the number line comes before zero. -/
def IsNegative : Scalar.Magnitude → Prop
  | .value number => number < 0
  | .infinite negative => negative = true

theorem isAtLeast_zero_iff (place : Scalar.Magnitude) :
    place.isAtLeast 0 = true ↔ ¬ place.IsNegative := by
  cases place with
  | value number => exact decide_eq_true_iff.trans Rat.not_lt.symm
  | infinite negative => cases negative <;> simp [isAtLeast, IsNegative]

theorem isFromOneTo_iff (place : Scalar.Magnitude) :
    (place.isAtLeast 1 && place.isAtMost 65535) = true ↔
      ∃ number : Rat, place = .value number ∧ 1 ≤ number ∧ number ≤ 65535 := by
  cases place with
  | value number => simp [isAtLeast, isAtMost]
  | infinite negative => cases negative <;> simp [isAtLeast, isAtMost]

end Scalar.Magnitude

namespace Value

/-- Whether a value is the name of a log level. -/
def IsLevelName (value : Value) : Prop :=
  ∃ name ∈ logLevelNames, value = .scalar (.text name)

/-- Whether a value is a number from the first port to the last one. -/
def IsPortNumber (value : Value) : Prop :=
  ∃ number : Rat, value.magnitude? = some (some (.value number)) ∧ 1 ≤ number ∧ number ≤ 65535

/-- Whether a value is null or a number that is not negative.  What counts as a number
without being one is not negative either. -/
def IsIndentation (value : Value) : Prop :=
  value = .null ∨ ∃ place?, value.magnitude? = some place? ∧ ∀ place ∈ place?, ¬ place.IsNegative

end Value

/-- Whether settings can be used to launch the service. -/
structure Settings.IsUsable (settings : Settings) : Prop where
  level : settings.logging.level.IsLevelName
  port : settings.service.port.IsPortNumber
  indent : settings.output.indent.IsIndentation

/-! ## Single settings -/

/-- Whether a check that may not be finished finds out about a property, and is finished if
the property holds. -/
structure Decides {ε : Type} (check : Except ε Bool) (property : Prop) : Prop where
  eq_true_iff : ∀ isGood, check = .ok isGood → (isGood = true ↔ property)
  eq_ok_true : property → check = .ok true

namespace Value

variable (value : Value)

/-- A text is looked up among the names, and nothing else is found there. -/
theorem decides_isLevelName : Decides (isLogLevelName value) value.IsLevelName where
  eq_true_iff isGood check_eq := by
    unfold isLogLevelName at check_eq
    split at check_eq
    · next name =>
        cases check_eq
        simp [IsLevelName]
    · next members =>
        cases check_eq
        simp [IsLevelName]
    · next notText _ =>
        have other : ¬ value.IsLevelName := by
          rintro ⟨name, -, rfl⟩
          exact notText name rfl
        split at check_eq <;> cases check_eq
        simp [other]
  eq_ok_true := by
    rintro ⟨name, member, rfl⟩
    simp [isLogLevelName, member]

theorem decides_isPortNumber : Decides (isPort value) value.IsPortNumber where
  eq_true_iff isGood check_eq := by
    unfold isPort at check_eq
    split at check_eq
    · next place place_eq =>
        cases check_eq
        rw [place.isFromOneTo_iff, IsPortNumber]
        simp [place_eq]
    · next place_eq =>
        cases check_eq
        simp [IsPortNumber, place_eq]
    · cases check_eq
  eq_ok_true := by
    rintro ⟨number, place_eq, first, last⟩
    have isPlace := (Scalar.Magnitude.value number).isFromOneTo_iff.mpr ⟨number, rfl, first, last⟩
    simp only [isPort, place_eq, isPlace]

theorem isPortNumber_integer_iff (number : Int) :
    IsPortNumber (.scalar (.integer number)) ↔ 1 ≤ number ∧ number ≤ 65535 := by
  constructor
  · rintro ⟨_, ⟨⟩, first, last⟩
    exact ⟨Rat.intCast_le_intCast.mp first, Rat.intCast_le_intCast.mp last⟩
  · rintro ⟨first, last⟩
    exact ⟨number, rfl, Rat.intCast_le_intCast.mpr first, Rat.intCast_le_intCast.mpr last⟩

theorem decides_isIndentation : Decides (isIndent value) value.IsIndentation where
  eq_true_iff isGood check_eq := by
    unfold isIndent at check_eq
    split at check_eq
    · next isNull =>
        cases check_eq
        simp [IsIndentation, isNull_layer_iff.mp isNull]
    · next notNull =>
        have notNull : value ≠ .null := notNull ∘ isNull_layer_iff.mpr
        split at check_eq
        · next place place_eq =>
            cases check_eq
            simp [place.isAtLeast_zero_iff, IsIndentation, notNull, place_eq]
        · next place_eq =>
            cases check_eq
            simp [IsIndentation, place_eq]
        · cases check_eq
  eq_ok_true := by
    rintro (rfl | ⟨place?, place_eq, notNegative⟩)
    · rfl
    · unfold isIndent
      split
      · rfl
      · cases place? with
        | none => simp only [place_eq]
        | some place =>
            simp only [place_eq, place.isAtLeast_zero_iff.mpr (notNegative place rfl)]

theorem isIndentation_integer_iff (number : Int) :
    IsIndentation (.scalar (.integer number)) ↔ 0 ≤ number := by
  constructor
  · rintro (isNull | ⟨_, ⟨⟩, notNegative⟩)
    · cases isNull
    · exact Rat.intCast_le_intCast.mp (Rat.not_lt.mp (notNegative _ rfl))
  · intro notNegative
    refine .inr ⟨some (.value (number : Rat)), rfl, ?_⟩
    rintro _ ⟨⟩
    exact Rat.not_lt.mpr (Rat.intCast_le_intCast.mpr notNegative)

end Value

/-! ## Reviews -/

/-- What a finished check tells of a value: nothing if the value is good, and otherwise one
problem with its display form. -/
inductive IsFinding (isGood : Prop) (problem : Text → SettingsProblem) (value : Value) :
    List SettingsProblem → Prop
  | good : isGood → IsFinding isGood problem value []
  | bad {text : Text} : ¬ isGood → Value.view.display value = .ok text →
      IsFinding isGood problem value [problem text]

section

variable {check : Except ReviewFault Bool} {property : Prop}
  {problem : Text → SettingsProblem} {value : Value} {problems : List SettingsProblem}

theorem IsFinding.eq_nil_iff (finding : IsFinding property problem value problems) :
    problems = [] ↔ property := by
  cases finding with
  | good holds => simp [holds]
  | bad fails _ => simp [fails]

theorem Decides.isFinding (decides : Decides check property) {isGood : Bool}
    (check_eq : check = .ok isGood) (found : problemUnless isGood problem value = .ok problems) :
    IsFinding property problem value problems := by
  have holds_iff := decides.eq_true_iff isGood check_eq
  unfold problemUnless at found
  split at found
  · next holds =>
      cases found
      exact .good (holds_iff.mp holds)
  · next fails =>
      split at found
      · next text_eq =>
          cases found
          exact .bad (fails ∘ holds_iff.mpr) text_eq
      · cases found

end

namespace Settings

/-- Whether a list of problems is what there is to tell of settings, in the order of the
settings. -/
inductive Finds (settings : Settings) : List SettingsProblem → Prop
  | intro {ofLevel ofPort ofIndent : List SettingsProblem} :
      IsFinding settings.logging.level.IsLevelName .logLevel settings.logging.level ofLevel →
      IsFinding settings.service.port.IsPortNumber .port settings.service.port ofPort →
      IsFinding settings.output.indent.IsIndentation .indent settings.output.indent ofIndent →
      Finds settings (ofLevel ++ ofPort ++ ofIndent)

variable {settings : Settings} {problems : List SettingsProblem}

theorem Finds.eq_nil_iff (finds : settings.Finds problems) :
    problems = [] ↔ settings.IsUsable := by
  rcases finds with @⟨ofLevel, ofPort, ofIndent, level, port, indent⟩
  rw [List.append_eq_nil_iff, List.append_eq_nil_iff, level.eq_nil_iff, port.eq_nil_iff,
    indent.eq_nil_iff]
  exact ⟨fun ⟨⟨level, port⟩, indent⟩ => ⟨level, port, indent⟩,
    fun usable => ⟨⟨usable.level, usable.port⟩, usable.indent⟩⟩

theorem finds_of_review (review_eq : settings.review = .ok problems) :
    settings.Finds problems := by
  rw [review] at review_eq
  obtain ⟨isLevel, isLevel_eq, review_eq⟩ := bind_eq_ok_iff.mp review_eq
  obtain ⟨ofLevel, ofLevel_eq, review_eq⟩ := bind_eq_ok_iff.mp review_eq
  obtain ⟨isPort, isPort_eq, review_eq⟩ := bind_eq_ok_iff.mp review_eq
  obtain ⟨ofPort, ofPort_eq, review_eq⟩ := bind_eq_ok_iff.mp review_eq
  obtain ⟨isIndent, isIndent_eq, review_eq⟩ := bind_eq_ok_iff.mp review_eq
  obtain ⟨ofIndent, ofIndent_eq, review_eq⟩ := bind_eq_ok_iff.mp review_eq
  cases review_eq
  exact .intro ((Value.decides_isLevelName _).isFinding isLevel_eq ofLevel_eq)
    ((Value.decides_isPortNumber _).isFinding isPort_eq ofPort_eq)
    ((Value.decides_isIndentation _).isFinding isIndent_eq ofIndent_eq)

/-- A review finds nothing exactly if the settings are usable. -/
theorem review_eq_ok_nil_iff : settings.review = .ok [] ↔ settings.IsUsable := by
  constructor
  · intro review_eq
    exact (finds_of_review review_eq).eq_nil_iff.mp rfl
  · intro usable
    simp only [review, (Value.decides_isLevelName _).eq_ok_true usable.level,
      (Value.decides_isPortNumber _).eq_ok_true usable.port,
      (Value.decides_isIndentation _).eq_ok_true usable.indent, problemUnless, if_true, ok_bind]
    rfl

end Settings

/-! ## Finished reviews -/

namespace Value

/-- Whether a value can be looked up among names. -/
def IsLookedUp (value : Value) : Prop :=
  (∃ members, value = .set members) ∨ value.changeable? = none

/-- Whether a value counts as a number. -/
inductive IsNumber : Value → Prop
  | bool {truth : Bool} : IsNumber (.scalar (.bool truth))
  | integer {number : Int} : IsNumber (.scalar (.integer number))
  | float {number : Binary64} : IsNumber (.scalar (.float number))

variable {value : Value}

theorem isNumber_iff : value.IsNumber ↔ ∃ place?, value.magnitude? = some place? := by
  constructor
  · rintro (_ | _ | @⟨number⟩)
    · exact ⟨_, rfl⟩
    · exact ⟨_, rfl⟩
    · cases number <;> exact ⟨_, rfl⟩
  · rintro ⟨place?, place_eq⟩
    cases value with
    | scalar content =>
        cases content with
        | bool => exact .bool
        | integer => exact .integer
        | float => exact .float
        | _ => cases place_eq
    | _ => cases place_eq

theorem exists_isLogLevelName_iff :
    (∃ isGood, isLogLevelName value = .ok isGood) ↔ value.IsLookedUp := by
  unfold isLogLevelName IsLookedUp
  split
  · simp [changeable?]
  · simp
  · next notSet =>
      have notSet : ¬ ∃ members, value = .set members := by
        rintro ⟨members, rfl⟩
        exact notSet members rfl
      cases changeable?_eq : value.changeable? <;> simp [notSet]

theorem exists_isPort_iff : (∃ isGood, isPort value = .ok isGood) ↔ value.IsNumber := by
  rw [isNumber_iff, isPort]
  split <;> simp_all

theorem exists_isIndent_iff :
    (∃ isGood, isIndent value = .ok isGood) ↔ value = .null ∨ value.IsNumber := by
  rw [isNumber_iff, isIndent, ← isNull_layer_iff]
  split
  · simp_all
  · split <;> simp_all

end Value

section

variable {check : Except ReviewFault Bool} {property : Prop} {problem : Text → SettingsProblem}
  {value : Value}

/-- What a check finds is told exactly if the check is finished and a bad value can be
written. -/
theorem Decides.exists_problems_iff (decides : Decides check property) :
    (∃ problems, (check >>= fun isGood => problemUnless isGood problem value) = .ok problems) ↔
      (∃ isGood, check = .ok isGood) ∧ (property ∨ value.IsWritable) := by
  rw [← Value.exists_display_iff]
  cases check_eq : check with
  | error fault => simp
  | ok isGood =>
      rw [← decides.eq_true_iff isGood check_eq, ok_bind]
      cases isGood with
      | true => simp [problemUnless]
      | false => cases display_eq : Value.view.display value <;> simp [problemUnless, display_eq]

end

namespace Settings

/-- Whether a review of settings is finished: each value can be compared with what it should
be, and a bad one has no integer with too many digits. -/
structure IsReviewed (settings : Settings) : Prop where
  level : settings.logging.level.IsLookedUp ∧
    (settings.logging.level.IsLevelName ∨ settings.logging.level.IsWritable)
  port : settings.service.port.IsNumber ∧
    (settings.service.port.IsPortNumber ∨ settings.service.port.IsWritable)
  indent : (settings.output.indent = .null ∨ settings.output.indent.IsNumber) ∧
    (settings.output.indent.IsIndentation ∨ settings.output.indent.IsWritable)

variable (settings : Settings)

/-- A review checks the level, the port and the indentation in this order. -/
theorem exists_review_eq_ok_iff_checks :
    (∃ problems, settings.review = .ok problems) ↔
      (∃ ofLevel, (isLogLevelName settings.logging.level >>= fun isGood =>
        problemUnless isGood .logLevel settings.logging.level) = .ok ofLevel) ∧
      (∃ ofPort, (isPort settings.service.port >>= fun isGood =>
        problemUnless isGood .port settings.service.port) = .ok ofPort) ∧
      ∃ ofIndent, (isIndent settings.output.indent >>= fun isGood =>
        problemUnless isGood .indent settings.output.indent) = .ok ofIndent := by
  simp only [review, bind_eq_ok_iff, pure_eq_ok, Except.ok.injEq]
  constructor
  · rintro ⟨problems, isLevel, isLevel_eq, ofLevel, ofLevel_eq, isPort, isPort_eq, ofPort,
      ofPort_eq, isIndent, isIndent_eq, ofIndent, ofIndent_eq, -⟩
    exact ⟨⟨ofLevel, isLevel, isLevel_eq, ofLevel_eq⟩, ⟨ofPort, isPort, isPort_eq, ofPort_eq⟩,
      ofIndent, isIndent, isIndent_eq, ofIndent_eq⟩
  · rintro ⟨⟨ofLevel, isLevel, isLevel_eq, ofLevel_eq⟩, ⟨ofPort, isPort, isPort_eq, ofPort_eq⟩,
      ofIndent, isIndent, isIndent_eq, ofIndent_eq⟩
    exact ⟨_, isLevel, isLevel_eq, ofLevel, ofLevel_eq, isPort, isPort_eq, ofPort, ofPort_eq,
      isIndent, isIndent_eq, ofIndent, ofIndent_eq, rfl⟩

theorem exists_review_eq_ok_iff :
    (∃ problems, settings.review = .ok problems) ↔ settings.IsReviewed := by
  rw [exists_review_eq_ok_iff_checks, (Value.decides_isLevelName _).exists_problems_iff,
    (Value.decides_isPortNumber _).exists_problems_iff,
    (Value.decides_isIndentation _).exists_problems_iff, Value.exists_isLogLevelName_iff,
    Value.exists_isPort_iff, Value.exists_isIndent_iff]
  exact ⟨fun ⟨level, port, indent⟩ => ⟨level, port, indent⟩,
    fun reviewed => ⟨reviewed.level, reviewed.port, reviewed.indent⟩⟩

end Settings

end UsageContracts

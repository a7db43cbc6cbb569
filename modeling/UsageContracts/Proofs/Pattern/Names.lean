import Mathlib.Data.List.Forall2
import UsageContracts.Contract.Example
import UsageContracts.Proofs.Text.Blank
import UsageContracts.Proofs.Text.LetterCase

/-!
# Names of patterns

A pattern is asked for by its canonical name in any letter case, with hyphens or spaces for
the underscores and with white space around it.  Among the texts of ASCII nothing else asks
for it.  Any other name is refused as it is.
-/

namespace UsageContracts.Pattern

open CodePoint (IsNameLetter)

variable {pattern : Pattern} {text core name : Text} {point letter : CodePoint}

/-! ## Letters of names -/

/-- Whether a code point stands for one of a canonical name: for a letter in either case,
and for an underscore also as a hyphen or a space. -/
def Writes (point letter : CodePoint) : Prop :=
  if letter = '_' then
    point = '_' ∨ point = '-' ∨ point = ' '
  else
    point = letter ∨ point = letter.asciiLower

instance (point letter : CodePoint) : Decidable (Writes point letter) := by
  unfold Writes
  infer_instance

/-- The code point of a name that a code point of ASCII is read as. -/
def letterOf (point : CodePoint) : CodePoint :=
  if point = '-' ∨ point = ' ' then '_' else point.asciiUpper

theorem number_separators : CodePoint.number '_' = 95 ∧ CodePoint.number '-' = 45 ∧
    CodePoint.number ' ' = 32 :=
  ⟨rfl, rfl, rfl⟩

theorem number_letterOf (point : CodePoint) : (letterOf point).number =
    if point.number = 45 ∨ point.number = 32 then 95
    else if 97 ≤ point.number ∧ point.number ≤ 122 then point.number - 32 else point.number := by
  simp only [letterOf, ← CodePoint.number_injective.eq_iff, apply_ite CodePoint.number,
    CodePoint.number_asciiUpper, number_separators]

theorem letterOf_eq_iff (isLetter : IsNameLetter letter) :
    letterOf point = letter ↔ Writes point letter := by
  simp only [IsNameLetter, Writes, ← CodePoint.number_injective.eq_iff, number_letterOf,
    CodePoint.number_asciiLower, number_separators] at isLetter ⊢
  split_ifs <;> omega

/-- White space is read as an underscore or as nothing that a name has. -/
theorem letterOf_eq_underscore (blank : point.isBlank = true)
    (isLetter : IsNameLetter (letterOf point)) : letterOf point = '_' := by
  simp only [CodePoint.isBlank, Bool.or_eq_true, Bool.and_eq_true, decide_eq_true_eq,
    beq_iff_eq] at blank
  simp only [IsNameLetter, ← CodePoint.number_injective.eq_iff, number_letterOf,
    number_separators] at isLetter ⊢
  split_ifs at isLetter ⊢ <;> omega

theorem name_letters (pattern : Pattern) : ∀ letter ∈ pattern.name, IsNameLetter letter := by
  cases pattern <;> decide

/-- No white space can stand for the ends of a name. -/
theorem name_ends (pattern : Pattern) :
    (∀ letter ∈ pattern.name.head?, letter ≠ '_') ∧
      ∀ letter ∈ pattern.name.getLast?, letter ≠ '_' := by
  cases pattern <;> decide

/-! ## Spellings -/

/-- Whether a text is a spelling of the name of a pattern with white space around it. -/
def IsSpelledBy (pattern : Pattern) (text : Text) : Prop :=
  ∃ core, text.IsPadded core ∧ List.Forall₂ Writes core pattern.name

/-- A text in upper case, with underscores for hyphens and spaces. -/
def underscored (text : Text) : Text :=
  text.upper.map fun point : CodePoint => if point = '-' ∨ point = ' ' then '_' else point

theorem canonicalSpelling_eq (text : Text) : canonicalSpelling text = underscored text.trim :=
  rfl

theorem underscored_append (first second : Text) :
    underscored (first ++ second) = underscored first ++ underscored second := by
  rw [underscored, Text.upper_append, List.map_append, ← underscored, ← underscored]

theorem underscored_singleton (plain : point.isAscii = true ∨ point.isBlank = true) :
    underscored [point] = [letterOf point] := by
  have separator_iff : (point.asciiUpper = '-' ∨ point.asciiUpper = ' ') ↔
      point = '-' ∨ point = ' ' := by
    simp only [← CodePoint.number_injective.eq_iff, CodePoint.number_asciiUpper,
      number_separators]
    split_ifs <;> omega
  simp only [underscored, Text.upper_singleton plain, List.map_cons, List.map_nil, letterOf,
    separator_iff]

/-- A text of ASCII is read code point by code point. -/
theorem underscored_eq_map (ascii : ∀ point ∈ core, point.isAscii = true) :
    underscored core = core.map letterOf := by
  induction core with
  | nil => rfl
  | cons point core ih =>
      have pointAscii := ascii point List.mem_cons_self
      have coreAscii : ∀ other ∈ core, other.isAscii = true :=
        fun other member => ascii other (List.mem_cons_of_mem point member)
      rw [← List.singleton_append, underscored_append, underscored_singleton (.inl pointAscii),
        ih coreAscii, List.map_append, List.map_singleton]

theorem map_letterOf_eq_iff (letters : ∀ letter ∈ name, IsNameLetter letter) :
    core.map letterOf = name ↔ List.Forall₂ Writes core name := by
  induction core generalizing name with
  | nil => cases name <;> simp
  | cons point core ih =>
      cases name with
      | nil => simp
      | cons letter name =>
          have headLetter := letters letter List.mem_cons_self
          have restLetters : ∀ other ∈ name, IsNameLetter other :=
            fun other member => letters other (List.mem_cons_of_mem letter member)
          rw [List.map_cons, List.cons.injEq, List.forall₂_cons, letterOf_eq_iff headLetter,
            ih restLetters]

/-- What becomes the name of a pattern neither begins nor ends with white space. -/
theorem trim_eq_of_isPadded (padded : text.IsPadded core)
    (core_eq : underscored core = pattern.name) : text.trim = core := by
  have letters := pattern.name_letters
  have ends := pattern.name_ends
  rw [← core_eq] at letters ends
  apply padded.trim_eq
  · intro point head_eq
    obtain ⟨rest, rfl⟩ := List.head?_eq_some_iff.mp head_eq
    rw [← List.singleton_append, underscored_append] at letters ends
    by_contra notFalse
    have blank := eq_true_of_ne_false notFalse
    rw [underscored_singleton (.inr blank)] at letters ends
    exact ends.1 _ rfl (letterOf_eq_underscore blank (letters _ (by simp)))
  · intro point last_eq
    obtain ⟨start, rfl⟩ := List.getLast?_eq_some_iff.mp last_eq
    rw [underscored_append] at letters ends
    by_contra notFalse
    have blank := eq_true_of_ne_false notFalse
    rw [underscored_singleton (.inr blank)] at letters ends
    exact ends.2 _ (by simp) (letterOf_eq_underscore blank (letters _ (by simp)))
  · rintro rfl
    cases pattern <;> cases core_eq

/-! ## Names of patterns -/

theorem ofName?_eq_some_iff : ofName? name = some pattern ↔ pattern.name = name := by
  constructor
  · intro found
    rw [ofName?] at found
    simpa using List.find?_some found
  · rintro rfl
    cases pattern <;> rfl

/-- A text names a pattern as it is. -/
theorem resolveValue_text (name : Text) : resolveValue (.scalar (.text name)) = resolve name :=
  rfl

theorem ne_notRecognized_of_resolve (resolved : resolve name = .ok pattern) :
    pattern ≠ .notRecognized := by
  rintro rfl
  unfold resolve at resolved
  split at resolved
  · cases resolved
  · cases resolved
  · next notMissing _ => exact notMissing (Except.ok.inj resolved)

theorem eq_unknown_of_resolve (refused : resolve name = .error fault) : fault = .unknown name := by
  unfold resolve at refused
  split at refused
  · exact (Except.error.inj refused).symm
  · exact (Except.error.inj refused).symm
  · cases refused

/-- A pattern is found by the texts that become its name without the white space around
them, in upper case, and with underscores for hyphens and spaces. -/
theorem resolve_eq_ok_iff : resolve text = .ok pattern ↔
    pattern ≠ .notRecognized ∧ ∃ core, text.IsPadded core ∧ underscored core = pattern.name := by
  have spelled_iff : resolve text = .ok pattern ↔
      pattern ≠ .notRecognized ∧ underscored text.trim = pattern.name := by
    rw [eq_comm (a := underscored text.trim), ← ofName?_eq_some_iff, ← canonicalSpelling_eq,
      resolve]
    split
    · next missing => simp [missing]
    · next found => simp [found, eq_comm]
    · next other concrete found =>
        rw [Except.ok.injEq, found, Option.some.injEq]
        exact ⟨fun same => ⟨same ▸ concrete, same⟩, And.right⟩
  rw [spelled_iff]
  refine and_congr_right fun _ => ⟨fun trim_eq => ⟨_, text.isPadded_trim, trim_eq⟩, ?_⟩
  rintro ⟨core, padded, core_eq⟩
  rw [trim_eq_of_isPadded padded core_eq, core_eq]

/-- Whether a text is one of the names of a pattern in some letter case. -/
def IsNamedBy (pattern : Pattern) (variant : Text) : Prop :=
  variant.upper = pattern.name.upper ∨ variant.upper = pattern.slug.upper

/-- Both names of a pattern are read as its canonical name. -/
theorem IsNamedBy.underscored_eq {variant : Text} (named : pattern.IsNamedBy variant) :
    underscored variant = pattern.name := by
  rw [underscored]
  rcases named with name_eq | slug_eq
  · rw [name_eq, ← underscored, underscored_eq_map (by cases pattern <;> decide)]
    cases pattern <;> decide
  · rw [slug_eq, ← underscored, underscored_eq_map (by cases pattern <;> decide)]
    cases pattern <;> decide

/-- In ASCII the spellings of a pattern are all that names it.  A name is that of a concrete
pattern or is refused as it is, also if it is given as a pattern.  With one name of a pattern
all of them name it, in every letter case and with every white space around them. -/
theorem resolved_as_spelled (text : Text) :
    ((∀ point ∈ text, point.isAscii = true) → ∀ pattern, pattern ≠ .notRecognized →
      (resolveValue (.scalar (.text text)) = .ok pattern ↔ pattern.IsSpelledBy text)) ∧
    ((∃ pattern, pattern ≠ .notRecognized ∧
        resolveValue (.scalar (.text text)) = .ok pattern) ∨
      resolveValue (.scalar (.text text)) = .error (.unknown text)) ∧
    (∀ pattern : Pattern,
      (pattern ≠ .notRecognized ∧ resolveValue (.scalar (.pattern pattern)) = .ok pattern) ∨
      (pattern = .notRecognized ∧
        resolveValue (.scalar (.pattern pattern)) = .error (.unknown pattern.name))) ∧
    PatternFault.message (.unknown text) = "Unknown pattern: " ++ text ∧
    ∀ pattern, resolveValue (.scalar (.text text)) = .ok pattern →
      ∀ variant padded, pattern.IsNamedBy variant → Text.IsPadded padded variant →
        resolveValue (.scalar (.text padded)) = .ok pattern := by
  refine ⟨?_, ?_, ?_, rfl, ?_⟩
  · intro ascii pattern concrete
    rw [resolveValue_text, resolve_eq_ok_iff, and_iff_right concrete]
    refine exists_congr fun core => and_congr_right ?_
    rintro ⟨before, after, -, -, rfl⟩
    have coreAscii : ∀ point ∈ core, point.isAscii = true :=
      fun point member => ascii point (by simp [member])
    rw [underscored_eq_map coreAscii, map_letterOf_eq_iff pattern.name_letters]
  · rw [resolveValue_text]
    cases resolved : resolve text with
    | ok pattern => exact .inl ⟨pattern, ne_notRecognized_of_resolve resolved, rfl⟩
    | error fault => exact .inr (congrArg _ (eq_unknown_of_resolve resolved))
  · intro pattern
    cases pattern with
    | notRecognized => exact .inr ⟨rfl, rfl⟩
    | _ => exact .inl ⟨by decide, rfl⟩
  · intro pattern resolved variant padded named isPadded
    have concrete := (resolve_eq_ok_iff.mp resolved).1
    exact resolve_eq_ok_iff.mpr ⟨concrete, variant, isPadded, named.underscored_eq⟩

/-- A spelling with white space around it, and the slug that names the same pattern. -/
theorem resolved_as_spelled_of_samples :
    IsSpelledBy .nTimesUsage "\t n-Times usage\n" ∧
      resolveValue (.scalar (.text "\t n-Times usage\n")) = .ok .nTimesUsage ∧
      resolveValue (.scalar (.text " n-times-usage")) = .ok .nTimesUsage := by
  have spelled : IsSpelledBy .nTimesUsage "\t n-Times usage\n" := by
    refine ⟨"n-Times usage", ⟨"\t ", "\n", ?_⟩, ?_⟩ <;> decide
  have resolved := ((resolved_as_spelled "\t n-Times usage\n").1 (by decide) .nTimesUsage
    (by decide)).mpr spelled
  have padded : Text.IsPadded " n-times-usage" "n-times-usage" := by
    refine ⟨" ", "", ?_⟩
    decide
  exact ⟨spelled, resolved, (resolved_as_spelled _).2.2.2.2 _ resolved _ _ (.inr rfl) padded⟩

end UsageContracts.Pattern

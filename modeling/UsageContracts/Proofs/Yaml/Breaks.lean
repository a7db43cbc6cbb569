import UsageContracts.Contract.Text
import UsageContracts.Files.Tree
import UsageContracts.Proofs.Text.Characters
import UsageContracts.Proofs.Yaml.LineEnds.Tokens

/-!
# Line ends

Files and streams are read with line feeds for their line ends.  That changes nothing
for readers of YAML, who take a carriage return, with or without a line feed after it,
for a line feed wherever it stands.
-/

namespace UsageContracts

namespace Yaml

/-- Whether readers of YAML cannot tell two sequences of characters apart, whose line
ends may differ. -/
structure ReadAlike (characters others : List Char) : Prop where
  breaks : normalizeBreaks characters = normalizeBreaks others
  allowed : characters.all isAllowed = others.all isAllowed

theorem ReadAlike.map {change otherChange : List Char → List Char}
    {characters? others? : Option (List Char)} (rel : Option.Rel ReadAlike characters? others?)
    (alike : ∀ {characters others}, others ∈ others? → ReadAlike characters others →
      ReadAlike (change characters) (otherChange others)) :
    Option.Rel ReadAlike (characters?.map change) (others?.map otherChange) := by
  cases rel with
  | none => exact .none
  | some related => exact .some (alike rfl related)

/-- The line ends of a text that is read from a file or a stream are those that YAML
finds in the text. -/
theorem readAlike_unifyBreaks (text : Text) :
    Option.Rel ReadAlike text.unifyBreaks.characters? text.characters? := by
  fun_induction Text.unifyBreaks text with
  | case1 => exact .some ⟨rfl, rfl⟩
  | case2 rest ih =>
      simp only [Text.characters?_scalar, Option.map_map]
      apply ReadAlike.map ih
      intro characters others _ alike
      constructor
      · exact congrArg ('\n' :: ·) alike.breaks
      · exact alike.allowed
  | case3 rest notPair ih =>
      rw [Text.characters?_scalar, Text.characters?_scalar]
      apply ReadAlike.map ih
      intro characters others others_eq alike
      -- The carriage return is a line end of its own, since no line feed follows it
      -- in the characters either.
      have notFeed : others.head? ≠ some '\n' := by
        intro head_eq
        have feed : rest.head? = some (.scalar '\n') := by
          rw [Text.head?_eq_of_characters? others_eq, head_eq]
          rfl
        rcases List.head?_eq_some_iff.mp feed with ⟨after, rest_eq⟩
        exact notPair after rest_eq
      constructor
      · have single : isHalfBreak '\r' others = false := by simp [isHalfBreak, notFeed]
        rw [normalizeBreaks_of_not_isHalfBreak single, normalizeBreaks_of_not_isHalfBreak rfl,
          alike.breaks]
        rfl
      · exact alike.allowed
  | case4 point rest notPair notReturn ih =>
      cases point with
      | surrogate half =>
          rw [Text.characters?_surrogate, Text.characters?_surrogate]
          exact .none
      | scalar character =>
          have notReturn : character ≠ '\r' := by
            rintro rfl
            exact notReturn rfl
          rw [Text.characters?_scalar, Text.characters?_scalar]
          apply ReadAlike.map ih
          intro characters others _ alike
          constructor
          · have single := isHalfBreak_of_ne notReturn
            rw [normalizeBreaks_of_not_isHalfBreak (single _),
              normalizeBreaks_of_not_isHalfBreak (single _), alike.breaks]
          · rw [List.all_cons, List.all_cons, alike.allowed]

theorem ReadAlike.tokensOf_eq {characters others : List Char}
    (alike : ReadAlike characters others) : tokensOf characters = tokensOf others := by
  rw [← tokensOf_normalizeBreaks, alike.breaks, tokensOf_normalizeBreaks]

/-- A text is read as it is from a file or a stream. -/
theorem read_unifyBreaks (text : Text) : read text.unifyBreaks = read text := by
  have rel := readAlike_unifyBreaks text
  unfold read
  generalize text.unifyBreaks.characters? = unified? at rel
  generalize text.characters? = characters? at rel
  cases rel with
  | none => rfl
  | some alike => simp only [alike.tokensOf_eq, alike.allowed]

end Yaml

theorem Policy.ofText_unifyBreaks (text : Text) : ofText text.unifyBreaks = ofText text := by
  rw [ofText, ofText, Yaml.read_unifyBreaks]

end UsageContracts

import UsageContracts.Proofs.Yaml.LineEnds.Block
import UsageContracts.Yaml.Token.Name

/-!
# Line ends around names

Names, tags and directives stand on one line, whatever ends the line.
-/

namespace UsageContracts.Yaml

variable {character : Char} {rest text : List Char}

theorem keepsToLine_isNameCharacter : KeepsToLine isNameCharacter :=
  keepsToLine_of_breaks (Text.forall_mem_of_all (by decide))

theorem keepsToLine_isTagCharacter : KeepsToLine isTagCharacter :=
  keepsToLine_of_breaks (Text.forall_mem_of_all (by decide))

theorem keepsToLine_not_isSpaceOrBreak : KeepsToLine (!isSpaceOrBreak ·) :=
  keepsToLine_of_breaks (Text.forall_mem_of_all (by decide))

theorem keepsToLine_isDigit : KeepsToLine Char.isDigit :=
  keepsToLine_of_breaks (Text.forall_mem_of_all (by decide))

/-- What stands behind the characters of a class at the beginning of a text. -/
theorem drop_takeWhile_normalizeBreaks {isInClass : Char → Bool} (keeps : KeepsToLine isInClass)
    (text : List Char) :
    (normalizeBreaks text).drop (text.takeWhile isInClass).length =
        normalizeBreaks (text.drop (text.takeWhile isInClass).length) ∧
      Passes text (text.drop (text.takeWhile isInClass).length) := by
  rw [drop_length_takeWhile, ← dropWhile_normalizeBreaks keeps,
    ← takeWhile_normalizeBreaks keeps, drop_length_takeWhile]
  exact ⟨rfl, passes_dropWhile keeps text⟩

/-! ## Anchors and aliases -/

theorem readName_alike (text : List Char) :
    ReadsOnAlike text (readName text) (readName (normalizeBreaks text)) := by
  obtain ⟨alike, passes⟩ := drop_takeWhile_normalizeBreaks keepsToLine_isNameCharacter text
  simp only [readName, takeWhile_normalizeBreaks keepsToLine_isNameCharacter, alike]
  exact .ite (fun _ => .failed .form) fun _ => .passed passes

theorem readAnchor_alike (text : List Char) :
    ReadsOnAlike text (readAnchor text) (readAnchor (normalizeBreaks text)) := by
  refine (readName_alike text).bind ?_
  rintro ⟨name, rest⟩ passes
  have ends := endsOr_normalizeBreaks (show endsAnchor '\r' = endsAnchor '\n' from rfl) rfl rest
  simp only [unifyRest, ends]
  exact .ite (fun _ => .passed passes) fun _ => .failed .form

/-! ## Tags -/

theorem readTagSuffix_alike (text : List Char) :
    ReadsOnAlike text (readTagSuffix text) (readTagSuffix (normalizeBreaks text)) := by
  obtain ⟨alike, passes⟩ := drop_takeWhile_normalizeBreaks keepsToLine_isTagCharacter text
  simp only [readTagSuffix, takeWhile_normalizeBreaks keepsToLine_isTagCharacter, alike]
  refine .ite (fun _ => .failed .form) fun _ => ?_
  cases decodeEscapes [] (text.takeWhile isTagCharacter) with
  | error fault => exact .failed fault
  | ok decoded => exact .passed passes

theorem readHandle_alike (text : List Char) :
    ReadsOnAlike text (readHandle text) (readHandle (normalizeBreaks text)) := by
  have mark : isBreak '!' = false := rfl
  obtain ⟨alike, passes⟩ := drop_takeWhile_normalizeBreaks keepsToLine_isNameCharacter text
  simp only [readHandle, takeWhile_normalizeBreaks keepsToLine_isNameCharacter, alike]
  generalize text.drop (text.takeWhile isNameCharacter).length = rest at passes ⊢
  rcases begins_or_not mark rest with ⟨rest, rfl⟩ | ⟨noMark, noOther⟩
  · rw [normalizeBreaks_cons_of_not_isBreak mark]
    exact .passed (passes.trans ((Passes.refl rest).cons mark))
  · split
    · next rest => exact (noMark rest rfl).elim
    · exact .failed .form

theorem readTagName_alike (text : List Char) :
    ReadsOnAlike text (readTagName text) (readTagName (normalizeBreaks text)) := by
  have opening : isBreak '<' = false := rfl
  have closing : isBreak '>' = false := rfl
  rcases begins_or_not opening text with ⟨rest, rfl⟩ | ⟨notFull, notOther⟩
  · rw [normalizeBreaks_cons_of_not_isBreak opening]
    refine (ReadsOnAlike.after (readTagSuffix_alike rest) ((Passes.refl rest).cons opening)).bind ?_
    rintro ⟨suffix, rest⟩ passes
    simp only [unifyRest]
    rcases begins_or_not closing rest with ⟨rest, rfl⟩ | ⟨noMark, noOther⟩
    · rw [normalizeBreaks_cons_of_not_isBreak closing]
      exact .passed (passes.trans ((Passes.refl rest).cons closing))
    · split
      · next rest => exact (noMark rest rfl).elim
      · exact .failed .form
  · unfold readTagName
    split
    · next rest => exact (notFull rest rfl).elim
    · simp only [endsOr_isSeparation_normalizeBreaks,
        takeWhile_normalizeBreaks keepsToLine_not_isSpaceOrBreak]
      refine .ite (fun _ => .passed (.refl text)) fun _ => .ite (fun _ => ?_) fun _ => ?_
      · refine (readHandle_alike text).bind ?_
        rintro ⟨handle, rest⟩ passes
        exact (ReadsOnAlike.after (readTagSuffix_alike rest) passes).bind
          fun _ passes => .passed passes
      · exact (readTagSuffix_alike text).bind fun _ passes => .passed passes

theorem readTag_alike (text : List Char) :
    ReadsOnAlike text (readTag text) (readTag (normalizeBreaks text)) := by
  refine (readTagName_alike text).bind ?_
  rintro ⟨name, rest⟩ passes
  simp only [unifyRest, endsOr_isSpaceOrBreak_normalizeBreaks]
  exact .ite (fun _ => .passed passes) fun _ => .failed .form

/-! ## Directives -/

theorem dropSpaces_normalizeBreaks (text : List Char) :
    dropSpaces (normalizeBreaks text) = normalizeBreaks (dropSpaces text) ∧
      Passes text (dropSpaces text) :=
  ⟨dropWhile_normalizeBreaks keepsToLine_space text, passes_dropWhile keepsToLine_space text⟩

theorem readVersionNumber_alike (text : List Char) :
    ReadsOnAlike text (readVersionNumber text) (readVersionNumber (normalizeBreaks text)) := by
  obtain ⟨alike, passes⟩ := drop_takeWhile_normalizeBreaks keepsToLine_isDigit text
  simp only [readVersionNumber, takeWhile_normalizeBreaks keepsToLine_isDigit, alike]
  exact .ite (fun _ => .failed .form) fun _ =>
    .ite (fun _ => .failed _) fun _ => .passed passes

theorem readVersion_alike (text : List Char) :
    ReadsOnAlike text (readVersion text) (readVersion (normalizeBreaks text)) := by
  have dot : isBreak '.' = false := rfl
  obtain ⟨alike, passes⟩ := dropSpaces_normalizeBreaks text
  unfold readVersion
  rw [alike]
  refine (ReadsOnAlike.after (readVersionNumber_alike _) passes).bind ?_
  rintro ⟨major, rest⟩ passes
  simp only [unifyRest]
  rcases begins_or_not dot rest with ⟨rest, rfl⟩ | ⟨noDot, noOther⟩
  · rw [normalizeBreaks_cons_of_not_isBreak dot]
    have passes := passes.trans ((Passes.refl rest).cons dot)
    refine (ReadsOnAlike.after (readVersionNumber_alike rest) passes).bind ?_
    rintro ⟨minor, rest⟩ passes
    simp only [unifyRest, endsOr_isSpaceOrBreak_normalizeBreaks]
    exact .ite (fun _ => .passed passes) fun _ => .failed .form
  · split
    · next rest => exact (noDot rest rfl).elim
    · exact .failed .form

theorem readDefinedHandle_alike (text : List Char) :
    ReadsOnAlike text (readDefinedHandle text) (readDefinedHandle (normalizeBreaks text)) := by
  have mark : isBreak '!' = false := rfl
  have space : isBreak ' ' = false := rfl
  rcases begins_or_not mark text with ⟨rest, rfl⟩ | ⟨noMark, noOther⟩
  · rw [normalizeBreaks_cons_of_not_isBreak mark]
    rcases begins_or_not space rest with ⟨rest, rfl⟩ | ⟨noSpace, noOther⟩
    · rw [normalizeBreaks_cons_of_not_isBreak space, readDefinedHandle, readDefinedHandle,
        ← normalizeBreaks_cons_of_not_isBreak space]
      exact .passed ((Passes.refl _).cons mark)
    · rw [readDefinedHandle, readDefinedHandle]
      · exact ReadsOnAlike.after (readHandle_alike rest) ((Passes.refl rest).cons mark)
      · exact noOther
      · exact noSpace
  · rw [readDefinedHandle, readDefinedHandle]
    · exact .failed .form
    · exact fun rest => noOther (' ' :: rest)
    · exact noOther
    · exact fun rest => noMark (' ' :: rest)
    · exact noMark

theorem readTagHandle_alike (text : List Char) :
    ReadsOnAlike text (readTagHandle text) (readTagHandle (normalizeBreaks text)) := by
  obtain ⟨alike, passes⟩ := dropSpaces_normalizeBreaks text
  unfold readTagHandle
  rw [alike]
  refine (ReadsOnAlike.after (readDefinedHandle_alike _) passes).bind ?_
  rintro ⟨handle, rest⟩ passes
  obtain ⟨restAlike, restPasses⟩ := dropSpaces_normalizeBreaks rest
  have head := head?_normalizeBreaks_eq_iff (show isBreak ' ' = false from rfl) rest
  simp only [unifyRest, ne_eq, head, restAlike]
  refine .ite (fun _ => .failed .form) fun _ => ?_
  refine (ReadsOnAlike.after (readTagSuffix_alike _) (passes.trans restPasses)).bind ?_
  rintro ⟨expansion, rest⟩ passes
  simp only [unifyRest, endsOr_isSpaceOrBreak_normalizeBreaks]
  exact .ite (fun _ => .passed passes) fun _ => .failed .form

theorem readDirectiveBody_alike (name text : List Char) :
    ReadsOnAlike text (readDirectiveBody name text)
      (readDirectiveBody name (normalizeBreaks text)) := by
  unfold readDirectiveBody
  refine .ite (fun _ => readVersion_alike text) fun _ =>
    .ite (fun _ => readTagHandle_alike text) fun _ => ?_
  rw [dropWhile_normalizeBreaks keepsToLine_not_isBreak]
  exact .passed (passes_dropWhile keepsToLine_not_isBreak text)

theorem readDirective_alike (text : List Char) :
    ReadsOnAlike text (readDirective text) (readDirective (normalizeBreaks text)) := by
  refine (readName_alike text).bind ?_
  rintro ⟨name, rest⟩ passes
  simp only [unifyRest, endsOr_isSpaceOrBreak_normalizeBreaks]
  refine .ite (fun _ => .failed .form) fun _ => ?_
  refine (ReadsOnAlike.after (readDirectiveBody_alike name rest) passes).bind ?_
  rintro ⟨directive, rest⟩ passes
  exact (readLineEnd_alike rest).bind fun later passesLater => .passed (passes.trans passesLater)

end UsageContracts.Yaml

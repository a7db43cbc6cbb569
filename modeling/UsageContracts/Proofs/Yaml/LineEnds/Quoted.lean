import UsageContracts.Proofs.Yaml.LineEnds.Texts
import UsageContracts.Yaml.Scalar.Quoted

/-!
# Line ends in quoted scalars

A quoted scalar has the same content in a text with unified line ends: a carriage
return and a line feed after it are folded, or escaped, as one line end.
-/

namespace UsageContracts.Yaml

variable {character : Char} {rest text : List Char}

/-! ## Single quotation marks -/

/-- Whether a quoted scalar is read alike: up to a place behind where its reading begins. -/
abbrev ReadsQuotedAlike (text : List Char) (outcome other : Except Fault (Text × List Char)) :
    Prop :=
  FareAlike unifyRest (fun result => Passes text result.2 ∧ result.2.length < text.length)
    outcome other

namespace ReadsQuotedAlike

variable {outcome other : Except Fault (Text × List Char)}

/-- Whatever stands before a text is passed over with the scalar. -/
theorem after (alike : ReadsQuotedAlike rest outcome other) (character : Char) :
    ReadsQuotedAlike (character :: rest) outcome other := by
  refine alike.mono fun result passes => ⟨passes.1.consMoved ?_ character, ?_⟩
  · intro result_eq
    rw [result_eq] at passes
    exact Nat.lt_irrefl _ passes.2
  · exact Nat.lt_succ_of_lt passes.2

theorem append (alike : ReadsQuotedAlike rest outcome other) (passed : List Char) :
    ReadsQuotedAlike (passed ++ rest) outcome other := by
  induction passed with
  | nil => exact alike
  | cons character passed ih => exact ih.after character

/-- A scalar ends with its closing mark. -/
theorem ending (content : Text) (notBreak : isBreak character = false) (rest : List Char) :
    ReadsQuotedAlike (character :: rest) (.ok (content, rest))
      (.ok (content, normalizeBreaks rest)) :=
  .passed ⟨(Passes.refl rest).cons notBreak, Nat.lt_succ_self _⟩

end ReadsQuotedAlike

/-- A character that ends a line is no blank. -/
theorem not_blank_of_isBreak (isEnd : isBreak character = true) :
    ¬ (character = ' ' ∨ character = '\t') := by
  rintro (rfl | rfl) <;> cases isEnd

theorem readSingleQuoted_cons (notQuote : character ≠ '\'') (content : Text) (gap : Gap)
    (rest : List Char) :
    readSingleQuoted content gap (character :: rest) =
      if character = ' ' ∨ character = '\t' then
        readSingleQuoted content (gap.passBlank character) rest
      else if isHalfBreak character rest then
        readSingleQuoted content gap rest
      else if isBreak character then
        if startsWithMarker rest then .error .form
        else readSingleQuoted content (gap.passBreak (readAs character)) rest
      else
        readSingleQuoted (.scalar character :: (gap.text.reverse ++ content)) {} rest := by
  rw [readSingleQuoted, if_neg notQuote]
  exact fun _ isQuote => (notQuote isQuote).elim

/-- A line end in a text with unified line ends is read as the line feed that it is. -/
theorem readSingleQuoted_lineEnd (isEnd : isBreak (readAs character) = true)
    (whole : isHalfBreak character rest = false) (content : Text) (gap : Gap) :
    readSingleQuoted content gap (normalizeBreaks (character :: rest)) =
      if startsWithMarker rest then .error .form
      else readSingleQuoted content (gap.passBreak (readAs character)) (normalizeBreaks rest) := by
  have quote : isBreak '\'' = false := rfl
  rw [normalizeBreaks_of_not_isHalfBreak whole, readSingleQuoted_cons (ne_of_isBreak isEnd quote),
    if_neg (not_blank_of_isBreak isEnd), isHalfBreak_readAs, if_neg Bool.false_ne_true,
    if_pos isEnd, readAs_readAs, startsWithMarker_normalizeBreaks]

theorem readSingleQuoted_alike (content : Text) (gap : Gap) (text : List Char) :
    ReadsQuotedAlike text (readSingleQuoted content gap text)
      (readSingleQuoted content gap (normalizeBreaks text)) := by
  have quote : isBreak '\'' = false := rfl
  fun_induction readSingleQuoted content gap text with
  | case1 content gap => exact .failed .form
  | case2 content gap rest ih =>
      rw [normalizeBreaks_cons_of_not_isBreak quote, normalizeBreaks_cons_of_not_isBreak quote,
        readSingleQuoted]
      exact (ih.after _).after _
  | case3 content gap rest notQuotes =>
      have notOther (others : List Char) : normalizeBreaks rest ≠ '\'' :: others := by
        intro rest_eq
        obtain ⟨others, rfl, -⟩ := (normalizeBreaks_eq_cons_iff quote).mp rest_eq
        exact notQuotes others rfl rfl
      rw [normalizeBreaks_cons_of_not_isBreak quote, readSingleQuoted]
      · exact .ending _ quote rest
      · exact fun others _ => notOther others
  | case4 content gap character rest notQuotes notQuote isBlank ih =>
      have notBreak : isBreak character = false := by
        rcases isBlank with rfl | rfl <;> rfl
      rw [normalizeBreaks_cons_of_not_isBreak notBreak, readSingleQuoted_cons notQuote,
        if_pos isBlank]
      exact ih.after character
  | case5 content gap character rest notQuotes notQuote notBlank half ih =>
      rw [normalizeBreaks_of_isHalfBreak half]
      exact ih.after character
  | case6 content gap character rest notQuotes notQuote notBlank whole isEnd starts =>
      rw [readSingleQuoted_lineEnd (by simpa using isEnd) (by simpa using whole), if_pos starts]
      exact .failed .form
  | case7 content gap character rest notQuotes notQuote notBlank whole isEnd notStarts ih =>
      rw [readSingleQuoted_lineEnd (by simpa using isEnd) (by simpa using whole), if_neg notStarts]
      exact ih.after character
  | case8 content gap character rest notQuotes notQuote notBlank whole notBreak ih =>
      have notBreak : isBreak character = false := by simpa using notBreak
      rw [normalizeBreaks_cons_of_not_isBreak notBreak, readSingleQuoted_cons notQuote,
        if_neg notBlank, isHalfBreak_of_not_isBreak notBreak, notBreak]
      exact ih.after character

/-! ## Escapes -/

theorem hexadecimalDigit?_of_isBreak (isEnd : isBreak character = true) :
    Text.hexadecimalDigit? character = none := by
  have each : ∀ character ∈ breaks, Text.hexadecimalDigit? character = none :=
    Text.forall_mem_of_all (by decide)
  exact each character (mem_breaks isEnd)

theorem numberedPoint_eq_form {digits : List Char}
    (noDigit : ∃ digit ∈ digits, isBreak digit = true) :
    numberedPoint digits = .error .form := by
  have noNumber (number : Nat) :
      digits.foldlM (fun number digit => (16 * number + ·) <$> Text.hexadecimalDigit? digit)
        number = none := by
    induction digits generalizing number with
    | nil => simp at noDigit
    | cons digit digits ih =>
        rw [List.foldlM_cons]
        cases digit_eq : Text.hexadecimalDigit? digit with
        | none => rfl
        | some value =>
            refine ih ?_ _
            rcases noDigit with ⟨other, member, isEnd⟩
            rcases List.mem_cons.mp member with rfl | later
            · rw [hexadecimalDigit?_of_isBreak isEnd] at digit_eq
              cases digit_eq
            · exact ⟨other, later, isEnd⟩
  rw [numberedPoint, Text.hexadecimalNumber?, noNumber]

/-- How many digits follow the letter of an escape by number. -/
def escapeLengths : List (Char × Nat) :=
  [('x', 2), ('u', 4), ('U', 8)]

/-- An escape by number needs all of its digits, and on one line. -/
theorem readDoubleQuoted_numbered_eq_form {letter : Char} {count : Nat}
    (numbered : (letter, count) ∈ escapeLengths)
    (bad : rest.length < count ∨ ∃ digit ∈ rest.take count, isBreak digit = true)
    (content : Text) (gap : Gap) :
    readDoubleQuoted content gap ('\\' :: letter :: rest) = .error .form := by
  have noDigits (enough : count ≤ rest.length) : ∃ digit ∈ rest.take count, isBreak digit = true :=
    bad.resolve_left (Nat.not_lt.mpr enough)
  simp only [escapeLengths, List.mem_cons, Prod.mk.injEq, List.not_mem_nil, or_false] at numbered
  rcases numbered with ⟨rfl, rfl⟩ | ⟨rfl, rfl⟩ | ⟨rfl, rfl⟩
  · rcases rest with _ | ⟨d₁, _ | ⟨d₂, rest⟩⟩
    iterate 2 next => rfl
    rw [readDoubleQuoted, numberedPoint_eq_form (by simpa using noDigits (by simp))]
    rfl
  · rcases rest with _ | ⟨d₁, _ | ⟨d₂, _ | ⟨d₃, _ | ⟨d₄, rest⟩⟩⟩⟩
    iterate 4 next => rfl
    rw [readDoubleQuoted, numberedPoint_eq_form (by simpa using noDigits (by simp))]
    rfl
  · rcases rest with _ | ⟨d₁, _ | ⟨d₂, _ | ⟨d₃, _ | ⟨d₄, _ | ⟨d₅, _ | ⟨d₆, _ | ⟨d₇, _ |
      ⟨d₈, rest⟩⟩⟩⟩⟩⟩⟩⟩
    iterate 8 next => rfl
    rw [readDoubleQuoted, numberedPoint_eq_form (by simpa using noDigits (by simp))]
    rfl

/-- An escape by number stands for the code point with the number. -/
theorem readDoubleQuoted_numbered {letter : Char} {digits : List Char}
    (numbered : (letter, digits.length) ∈ escapeLengths) (content : Text) (gap : Gap)
    (rest : List Char) :
    readDoubleQuoted content gap ('\\' :: letter :: (digits ++ rest)) = (numberedPoint digits >>=
      fun point => readDoubleQuoted (point :: (gap.text.reverse ++ content)) {} rest) := by
  simp only [escapeLengths, List.mem_cons, Prod.mk.injEq, List.not_mem_nil, or_false] at numbered
  rcases numbered with ⟨rfl, length_eq⟩ | ⟨rfl, length_eq⟩ | ⟨rfl, length_eq⟩
  · match digits, length_eq with
    | [_, _], _ => rfl
  · match digits, length_eq with
    | [_, _, _, _], _ => rfl
  · match digits, length_eq with
    | [_, _, _, _, _, _, _, _], _ => rfl

theorem isBreak_of_mem_escapeLengths {escape : Char × Nat} (numbered : escape ∈ escapeLengths) :
    isBreak escape.1 = false := by
  have each : ∀ escape ∈ escapeLengths, isBreak escape.1 = false := by decide
  exact each escape numbered

/-- Line ends among the digits of an escape are as good as no digits at all. -/
theorem readDoubleQuoted_numbered_alike (letter : Char) (digits : List Char)
    (numbered : (letter, digits.length) ∈ escapeLengths) (content : Text) (gap : Gap)
    (alike : ∀ point : CodePoint, ReadsQuotedAlike rest
      (readDoubleQuoted (point :: (gap.text.reverse ++ content)) {} rest)
      (readDoubleQuoted (point :: (gap.text.reverse ++ content)) {} (normalizeBreaks rest))) :
    ReadsQuotedAlike ('\\' :: letter :: (digits ++ rest))
      (numberedPoint digits >>= fun point =>
        readDoubleQuoted (point :: (gap.text.reverse ++ content)) {} rest)
      (readDoubleQuoted content gap (normalizeBreaks ('\\' :: letter :: (digits ++ rest)))) := by
  rw [normalizeBreaks_cons_of_not_isBreak rfl,
    normalizeBreaks_cons_of_not_isBreak (isBreak_of_mem_escapeLengths numbered)]
  by_cases isEnd : ∃ digit ∈ digits, isBreak digit = true
  · have otherEnd : ∃ digit ∈ (normalizeBreaks (digits ++ rest)).take digits.length,
        isBreak digit = true :=
      exists_isBreak_take (by simpa using isEnd)
    rw [numberedPoint_eq_form isEnd, readDoubleQuoted_numbered_eq_form numbered (.inr otherEnd)]
    exact .failed .form
  · have onLine : ∀ digit ∈ digits, isBreak digit = false := by
      simpa using isEnd
    rw [normalizeBreaks_append_of_not_isBreak onLine, readDoubleQuoted_numbered numbered]
    cases numberedPoint digits with
    | error fault => exact .failed fault
    | ok point =>
        exact (((alike point).append digits).after letter).after '\\'

/-! ## Double quotation marks -/

theorem readDoubleQuoted_escaped {escaped : Char}
    (notNumbered : ∀ count, (escaped, count) ∉ escapeLengths)
    (whole : isHalfBreak escaped rest = false) (content : Text) (gap : Gap) :
    readDoubleQuoted content gap ('\\' :: escaped :: rest) =
      if isBreak escaped then
        if startsWithMarker rest then .error .form
        else readDoubleQuoted (gap.text.reverse ++ content) { kind := .joined } rest
      else
        match simpleEscape? escaped with
        | none => .error .form
        | some character =>
            readDoubleQuoted (.scalar character :: (gap.text.reverse ++ content)) {} rest := by
  simp only [escapeLengths, List.mem_cons, Prod.mk.injEq, List.not_mem_nil, or_false, not_or]
    at notNumbered
  rewrite [readDoubleQuoted]
  · rfl
  · exact fun _ _ _ isLetter => ((notNumbered 2).1 ⟨isLetter, rfl⟩).elim
  · exact fun _ _ _ _ _ isLetter => ((notNumbered 4).2.1 ⟨isLetter, rfl⟩).elim
  · exact fun _ _ _ _ _ _ _ _ _ isLetter => ((notNumbered 8).2.2 ⟨isLetter, rfl⟩).elim
  · rintro later rfl rfl
    cases whole

theorem readDoubleQuoted_cons (notBackslash : character ≠ '\\') (content : Text) (gap : Gap)
    (rest : List Char) :
    readDoubleQuoted content gap (character :: rest) =
      if character = '"' then
        .ok (content.reverse ++ gap.text, rest)
      else if character = ' ' ∨ character = '\t' then
        readDoubleQuoted content (gap.passBlank character) rest
      else if isHalfBreak character rest then
        readDoubleQuoted content gap rest
      else if isBreak character then
        if startsWithMarker rest then .error .form
        else readDoubleQuoted content (gap.passBreak (readAs character)) rest
      else
        readDoubleQuoted (.scalar character :: (gap.text.reverse ++ content)) {} rest := by
  rw [readDoubleQuoted, if_neg notBackslash]
  all_goals simp [notBackslash]

/-- A line end in a text with unified line ends is read as the line feed that it is. -/
theorem readDoubleQuoted_lineEnd (isEnd : isBreak (readAs character) = true)
    (whole : isHalfBreak character rest = false) (content : Text) (gap : Gap) :
    readDoubleQuoted content gap (normalizeBreaks (character :: rest)) =
      if startsWithMarker rest then .error .form
      else readDoubleQuoted content (gap.passBreak (readAs character)) (normalizeBreaks rest) := by
  have backslash : isBreak '\\' = false := rfl
  have quote : isBreak '"' = false := rfl
  rw [normalizeBreaks_of_not_isHalfBreak whole,
    readDoubleQuoted_cons (ne_of_isBreak isEnd backslash), if_neg (ne_of_isBreak isEnd quote),
    if_neg (not_blank_of_isBreak isEnd), isHalfBreak_readAs, if_neg Bool.false_ne_true,
    if_pos isEnd, readAs_readAs, startsWithMarker_normalizeBreaks]

/-- An escaped line end is left out, whichever it is. -/
theorem readDoubleQuoted_escapedEnd {escaped : Char} (isEnd : isBreak (readAs escaped) = true)
    (whole : isHalfBreak escaped rest = false) (content : Text) (gap : Gap) :
    readDoubleQuoted content gap (normalizeBreaks ('\\' :: escaped :: rest)) =
      if startsWithMarker rest then .error .form
      else
        readDoubleQuoted (gap.text.reverse ++ content) { kind := .joined }
          (normalizeBreaks rest) := by
  have backslash : isBreak '\\' = false := rfl
  have notNumbered (count : Nat) : (readAs escaped, count) ∉ escapeLengths := by
    intro numbered
    rw [isBreak_of_mem_escapeLengths numbered] at isEnd
    cases isEnd
  rw [normalizeBreaks_cons_of_not_isBreak backslash, normalizeBreaks_of_not_isHalfBreak whole,
    readDoubleQuoted_escaped notNumbered (isHalfBreak_readAs _ _), if_pos isEnd,
    startsWithMarker_normalizeBreaks]

/-- An escaped carriage return stands with a line feed after it for one line end. -/
theorem normalizeBreaks_escaped_pair (rest : List Char) :
    normalizeBreaks ('\\' :: '\r' :: '\n' :: rest) = normalizeBreaks ('\\' :: '\n' :: rest) := by
  have backslash : isBreak '\\' = false := rfl
  rw [normalizeBreaks_cons_of_not_isBreak backslash, normalizeBreaks_cons_of_not_isBreak backslash,
    normalizeBreaks_of_isHalfBreak rfl]

theorem isHalfBreak_eq_false {escaped : Char}
    (notPair : ∀ later, escaped = '\r' → rest = '\n' :: later → False) :
    isHalfBreak escaped rest = false := by
  cases half : isHalfBreak escaped rest with
  | false => rfl
  | true =>
      obtain ⟨isReturn, later, rest_eq⟩ := eq_of_isHalfBreak half
      exact (notPair later isReturn rest_eq).elim

/-- The letter of an escape without digits stands for nothing. -/
theorem simpleEscape?_eq_none {escape : Char × Nat} (numbered : escape ∈ escapeLengths) :
    simpleEscape? escape.1 = none := by
  have each : ∀ escape ∈ escapeLengths, simpleEscape? escape.1 = none := by decide
  exact each escape numbered

/-- No character after a letter that asks for digits makes up for a missing one. -/
theorem length_lt_of_not_digits {letter : Char} {count : Nat}
    (numbered : (letter, count) ∈ escapeLengths)
    (notTwo : ∀ (d₁ d₂ : Char) (later : List Char), letter = 'x' → rest = d₁ :: d₂ :: later → False)
    (notFour : ∀ (d₁ d₂ d₃ d₄ : Char) (later : List Char), letter = 'u' →
      rest = d₁ :: d₂ :: d₃ :: d₄ :: later → False)
    (notEight : ∀ (d₁ d₂ d₃ d₄ d₅ d₆ d₇ d₈ : Char) (later : List Char), letter = 'U' →
      rest = d₁ :: d₂ :: d₃ :: d₄ :: d₅ :: d₆ :: d₇ :: d₈ :: later → False) :
    rest.length < count := by
  simp only [escapeLengths, List.mem_cons, Prod.mk.injEq, List.not_mem_nil, or_false] at numbered
  rcases numbered with ⟨rfl, rfl⟩ | ⟨rfl, rfl⟩ | ⟨rfl, rfl⟩
  · rcases rest with _ | ⟨d₁, _ | ⟨d₂, rest⟩⟩
    iterate 2 next => simp
    exact (notTwo _ _ _ rfl rfl).elim
  · rcases rest with _ | ⟨d₁, _ | ⟨d₂, _ | ⟨d₃, _ | ⟨d₄, rest⟩⟩⟩⟩
    iterate 4 next => simp
    exact (notFour _ _ _ _ _ rfl rfl).elim
  · rcases rest with _ | ⟨d₁, _ | ⟨d₂, _ | ⟨d₃, _ | ⟨d₄, _ | ⟨d₅, _ | ⟨d₆, _ | ⟨d₇, _ |
      ⟨d₈, rest⟩⟩⟩⟩⟩⟩⟩⟩
    iterate 8 next => simp
    exact (notEight _ _ _ _ _ _ _ _ _ rfl rfl).elim

theorem readDoubleQuoted_alike (content : Text) (gap : Gap) (text : List Char) :
    ReadsQuotedAlike text (readDoubleQuoted content gap text)
      (readDoubleQuoted content gap (normalizeBreaks text)) := by
  have backslash : isBreak '\\' = false := rfl
  have quote : isBreak '"' = false := rfl
  fun_induction readDoubleQuoted content gap text with
  | case1 content gap => exact .failed .form
  | case2 content gap d₁ d₂ rest ih =>
      exact readDoubleQuoted_numbered_alike 'x' [d₁, d₂] (by simp [escapeLengths]) content gap ih
  | case3 content gap d₁ d₂ d₃ d₄ rest ih =>
      exact readDoubleQuoted_numbered_alike 'u' [d₁, d₂, d₃, d₄] (by simp [escapeLengths])
        content gap ih
  | case4 content gap d₁ d₂ d₃ d₄ d₅ d₆ d₇ d₈ rest ih =>
      exact readDoubleQuoted_numbered_alike 'U' [d₁, d₂, d₃, d₄, d₅, d₆, d₇, d₈]
        (by simp [escapeLengths]) content gap ih
  | case5 content gap rest starts =>
      rw [normalizeBreaks_escaped_pair, readDoubleQuoted_escapedEnd rfl rfl, if_pos starts]
      exact .failed .form
  | case6 content gap rest notStarts ih =>
      rw [normalizeBreaks_escaped_pair, readDoubleQuoted_escapedEnd rfl rfl, if_neg notStarts]
      exact ih.append ['\\', '\r', '\n']
  | case7 content gap escaped rest notTwo notFour notEight notPair isEnd starts =>
      rw [readDoubleQuoted_escapedEnd (by simpa using isEnd) (isHalfBreak_eq_false notPair),
        if_pos starts]
      exact .failed .form
  | case8 content gap escaped rest notTwo notFour notEight notPair isEnd notStarts ih =>
      rw [readDoubleQuoted_escapedEnd (by simpa using isEnd) (isHalfBreak_eq_false notPair),
        if_neg notStarts]
      exact ih.append ['\\', escaped]
  | case9 content gap escaped rest notTwo notFour notEight notPair notBreak escape_eq =>
      have notBreak : isBreak escaped = false := by simpa using notBreak
      rw [normalizeBreaks_cons_of_not_isBreak backslash,
        normalizeBreaks_cons_of_not_isBreak notBreak]
      by_cases isLetter : ∃ count, (escaped, count) ∈ escapeLengths
      · rcases isLetter with ⟨count, numbered⟩
        have short := length_lt_of_not_digits numbered notTwo notFour notEight
        have otherShort := Nat.lt_of_le_of_lt (length_normalizeBreaks_le rest) short
        rw [readDoubleQuoted_numbered_eq_form numbered (.inl otherShort)]
        exact .failed .form
      · rw [readDoubleQuoted_escaped (by simpa using isLetter)
          (isHalfBreak_of_not_isBreak notBreak _), notBreak, escape_eq]
        exact .failed .form
  | case10 content gap escaped rest notTwo notFour notEight notPair notBreak character escape_eq
      ih =>
      have notBreak : isBreak escaped = false := by simpa using notBreak
      have notLetter (count : Nat) : (escaped, count) ∉ escapeLengths := by
        intro numbered
        rw [simpleEscape?_eq_none numbered] at escape_eq
        cases escape_eq
      rw [normalizeBreaks_cons_of_not_isBreak backslash,
        normalizeBreaks_cons_of_not_isBreak notBreak,
        readDoubleQuoted_escaped notLetter (isHalfBreak_of_not_isBreak notBreak _), notBreak,
        escape_eq]
      exact ih.append ['\\', escaped]
  | case11 content gap rest =>
      rw [normalizeBreaks_cons_of_not_isBreak quote, readDoubleQuoted_cons (by decide), if_pos rfl]
      exact .ending _ quote rest
  | case12 content gap rest _ _ _ _ notEscape =>
      cases rest with
      | nil => exact .failed .form
      | cons escaped rest => exact (notEscape escaped rest rfl rfl).elim
  | case13 content gap character rest _ _ _ _ _ notQuote notBackslash isBlank ih =>
      have notBreak : isBreak character = false := by
        rcases isBlank with rfl | rfl <;> rfl
      rw [normalizeBreaks_cons_of_not_isBreak notBreak, readDoubleQuoted_cons notBackslash,
        if_neg notQuote, if_pos isBlank]
      exact ih.after character
  | case14 content gap character rest _ _ _ _ _ notQuote notBackslash notBlank half ih =>
      rw [normalizeBreaks_of_isHalfBreak half]
      exact ih.after character
  | case15 content gap character rest _ _ _ _ _ notQuote notBackslash notBlank whole isEnd starts =>
      rw [readDoubleQuoted_lineEnd (by simpa using isEnd) (by simpa using whole), if_pos starts]
      exact .failed .form
  | case16 content gap character rest _ _ _ _ _ notQuote notBackslash notBlank whole isEnd notStarts
      ih =>
      rw [readDoubleQuoted_lineEnd (by simpa using isEnd) (by simpa using whole), if_neg notStarts]
      exact ih.after character
  | case17 content gap character rest _ _ _ _ _ notQuote notBackslash notBlank whole notBreak ih =>
      have notBreak : isBreak character = false := by simpa using notBreak
      rw [normalizeBreaks_cons_of_not_isBreak notBreak, readDoubleQuoted_cons notBackslash,
        if_neg notQuote, if_neg notBlank, isHalfBreak_of_not_isBreak notBreak, notBreak]
      exact ih.after character

end UsageContracts.Yaml

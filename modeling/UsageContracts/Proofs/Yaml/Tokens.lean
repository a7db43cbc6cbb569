import UsageContracts.Proofs.Yaml.Portable
import UsageContracts.Proofs.Yaml.Scanning

/-!
# The tokens of JSON texts

A portable JSON text has the tokens of its value between brackets, whatever its
white space is.
-/

namespace UsageContracts

namespace Yaml

open Json (Blank Spacing Pieces Name Source)

/-! ## Line ends -/

theorem normalizeBreaks_inLine {part : List Char} (inLine : ∀ character ∈ part, IsInLine character)
    (rest : List Char) : normalizeBreaks (part ++ rest) = part ++ normalizeBreaks rest :=
  normalizeBreaks_append_of_not_isBreak
    (fun character member => (inLine character member).notBreak) rest

/-- White space is spaces and line feeds when line ends are normalized. -/
theorem exists_normalizeBreaks_spacing {spacing : Spacing} (noTab : .tab ∉ spacing)
    (rest : List Char) :
    ∃ normal, (∀ character ∈ normal, IsSpacing character) ∧
      normalizeBreaks (spacing.characters ++ rest) = normal ++ normalizeBreaks rest := by
  induction spacing with
  | nil => exact ⟨[], List.forall_mem_nil _, rfl⟩
  | cons blank spacing ih =>
      rcases ih fun member => noTab (List.mem_cons_of_mem _ member) with
        ⟨normal, isSpacing, normal_eq⟩
      have asRead {character : Char} (isBlank : IsSpacing (readAs character)) :
          ∃ normal, (∀ character ∈ normal, IsSpacing character) ∧
            normalizeBreaks (character :: (Spacing.characters spacing ++ rest)) =
              normal ++ normalizeBreaks rest := by
        cases half : isHalfBreak character (Spacing.characters spacing ++ rest) with
        | true => exact ⟨normal, isSpacing, (normalizeBreaks_of_isHalfBreak half).trans normal_eq⟩
        | false =>
            refine ⟨readAs character :: normal, List.forall_mem_cons.mpr ⟨isBlank, isSpacing⟩, ?_⟩
            rw [normalizeBreaks_of_not_isHalfBreak half, normal_eq, List.cons_append]
      cases blank with
      | space => exact asRead (.inl rfl)
      | lineFeed => exact asRead (.inr rfl)
      | carriageReturn => exact asRead (.inr rfl)
      | tab => exact (noTab List.mem_cons_self).elim

/-! ## Words -/

/-- Whether characters are a word that is a plain scalar on one line. -/
structure IsWord (word : List Char) : Prop where
  begins : ∀ after, TokenReader.BeginsWord (word ++ after)
  parts : ∀ character ∈ word, IsWordPart character
  inLine : ∀ character ∈ word, IsInLine character

theorem isWord_word (word : Json.Word) : IsWord word.characters where
  begins after := by
    cases word with
    | null => exact (by decide : 'n' ∈ "0123456789ntf".toList)
    | false => exact (by decide : 'f' ∈ "0123456789ntf".toList)
    | true => exact (by decide : 't' ∈ "0123456789ntf".toList)
  parts := by cases word <;> exact Text.forall_mem_of_all (by decide)
  inLine := by cases word <;> exact Text.forall_mem_of_all (by decide)

theorem isInLine_of_isNumeric {character : Char} (isNumeric : IsNumeric character) :
    IsInLine character := by
  have each : ∀ character ∈ "0123456789+-.eE".toList, IsInLine character :=
    Text.forall_mem_of_all (by decide)
  exact each character isNumeric

theorem beginsWord_of_isDigit {digit : Char} (isDigit : digit.isDigit = true)
    (rest : List Char) : TokenReader.BeginsWord (digit :: rest) := by
  have each : ∀ character ∈ "0123456789+-.eE".toList, character.isDigit = true →
      character ≠ '-' ∧ character ∈ "0123456789ntf".toList :=
    Text.forall_mem_of_all (by decide)
  have ⟨notHyphen, member⟩ := each digit (isNumeric_of_isDigit isDigit) isDigit
  rw [TokenReader.BeginsWord]
  · exact member
  · exact notHyphen

theorem isWord_number (decimal : DecimalText) : IsWord decimal.characters where
  begins after := by
    rcases decimal.exists_magnitudeText_eq with ⟨digit, rest, magnitude_eq, isDigit⟩
    rw [decimal.characters_eq, magnitude_eq]
    cases decimal.isNegative with
    | false => exact beginsWord_of_isDigit isDigit _
    | true => simpa [TokenReader.BeginsWord] using isDigit
  parts character member := isWordPart_of_isNumeric (decimal.isNumeric member)
  inLine character member := isInLine_of_isNumeric (decimal.isNumeric member)

end Yaml

namespace Yaml.TokenReader

open Json (Blank Spacing Pieces Name Source portable)

variable {depth : Nat} {tokens : List Token} {rest : List Char} {all : List Token}

/-! ## Parts of texts -/

/-- All tokens that readers yield before a text and any white space ahead of it,
once the line ends are normalized. -/
def YieldsPast (depth : Nat) (tokens : List Token) (rest : List Char) (all : List Token) : Prop :=
  ∀ spacing : Spacing, .tab ∉ spacing →
    Yields depth tokens (normalizeBreaks (spacing.characters ++ rest)) all

/-- All tokens that readers yield there where a key may begin. -/
def YieldsPastAtKey (depth : Nat) (tokens : List Token) (rest : List Char) (all : List Token) :
    Prop :=
  ∀ spacing : Spacing, .tab ∉ spacing →
    YieldsAtKey depth tokens (normalizeBreaks (spacing.characters ++ rest)) all

theorem YieldsPast.here (yields : YieldsPast depth tokens rest all) :
    Yields depth tokens (normalizeBreaks rest) all :=
  yields [] List.not_mem_nil

theorem YieldsPast.atKey (yields : YieldsPast depth tokens rest all) :
    YieldsPastAtKey depth tokens rest all :=
  fun spacing noTab => (yields spacing noTab).atKey

theorem YieldsPast.spacing (yields : YieldsPast depth tokens rest all) {spacing : Spacing}
    (noTab : .tab ∉ spacing) : YieldsPast depth tokens (spacing.characters ++ rest) all := by
  intro before noTabBefore
  have whole := yields (before ++ spacing) (by simp [noTab, noTabBefore])
  simpa [Spacing.characters] using whole

/-- What is yielded past normalized white space is yielded past any. -/
theorem yieldsPast_of_normal (yields : ∀ normal, (∀ character ∈ normal, IsSpacing character) →
    Yields depth tokens (normal ++ normalizeBreaks rest) all) :
    YieldsPast depth tokens rest all := by
  intro spacing noTab
  rcases exists_normalizeBreaks_spacing noTab rest with ⟨normal, isSpacing, normal_eq⟩
  rw [normal_eq]
  exact yields normal isSpacing

/-- The brackets that open collections, with their tokens. -/
inductive Opens : Char → Token → Prop
  | list : Opens '[' .openList
  | map : Opens '\x7b' .openMap

/-- The brackets that close collections, with their tokens. -/
inductive Closes : Char → Token → Prop
  | list : Closes ']' .closeList
  | map : Closes '\x7d' .closeMap

theorem yieldsPast_opening {bracket : Char} {token : Token} (opens : Opens bracket token)
    (yields : YieldsPastAtKey (depth + 1) (token :: tokens) rest all) :
    YieldsPast depth tokens (bracket :: rest) all :=
  yieldsPast_of_normal fun _ isSpacing => by
    have following := yields [] List.not_mem_nil
    cases opens <;> rw [normalizeBreaks_cons_of_not_isBreak rfl]
    case list => exact yields_opening isSpacing (by decide) (fun _ => by simp [readToken]) following
    case map => exact yields_opening isSpacing (by decide) (fun _ => by simp [readToken]) following

theorem yieldsPast_closing {bracket : Char} {token : Token} (closes : Closes bracket token)
    (yields : YieldsPast depth (token :: tokens) rest all) :
    YieldsPast (depth + 1) tokens (bracket :: rest) all :=
  yieldsPast_of_normal fun _ isSpacing => by
    have following := yields.here
    cases closes <;> rw [normalizeBreaks_cons_of_not_isBreak rfl]
    case list => exact yields_closing isSpacing (by decide) (fun _ => by simp [readToken]) following
    case map => exact yields_closing isSpacing (by decide) (fun _ => by simp [readToken]) following

theorem yieldsPast_comma (yields : YieldsPastAtKey depth (.comma :: tokens) rest all) :
    YieldsPast depth tokens (',' :: rest) all :=
  yieldsPast_of_normal fun _ isSpacing => by
    rw [normalizeBreaks_cons_of_not_isBreak rfl]
    exact yields_comma isSpacing (yields [] List.not_mem_nil)

theorem yieldsPast_pieces {pieces : Pieces} (onLine : ∀ piece ∈ pieces, IsOnLine piece)
    (yields : YieldsPast depth (.scalar pieces.content false :: tokens) rest all) :
    YieldsPast depth tokens (pieces.characters ++ rest) all :=
  yieldsPast_of_normal fun _ isSpacing => by
    rw [normalizeBreaks_inLine (isInLine_pieces onLine)]
    exact yields_pieces isSpacing onLine yields.here

theorem yieldsPast_word {word : List Char} (isWord : IsWord word) {gap : Spacing}
    (noTab : .tab ∉ gap) {terminator : Char} (ends : EndsFlow terminator)
    (yields : YieldsPast (depth + 1) (.scalar (Text.ofCharacters word) true :: tokens)
      (terminator :: rest) all) :
    YieldsPast (depth + 1) tokens (word ++ (gap.characters ++ terminator :: rest)) all :=
  yieldsPast_of_normal fun _ isSpacing => by
    have following := yields.here
    rcases exists_normalizeBreaks_spacing noTab (terminator :: rest) with
      ⟨normal, gapIsSpacing, normal_eq⟩
    rw [normalizeBreaks_cons_of_not_isBreak ends.notSpacing.1] at following normal_eq
    rw [normalizeBreaks_inLine isWord.inLine, normal_eq]
    exact yields_word isSpacing isWord.begins isWord.parts gapIsSpacing ends following

/-- A name and the colon after it are read as a key past white space. -/
theorem yieldsPast_name {name : Name} (noTab : .tab ∉ name.before)
    (onLine : ∀ piece ∈ name.pieces, IsOnLine piece) (isKey : portable.name name)
    (yields : YieldsPast (depth + 1)
      (.value :: .scalar name.pieces.content false :: .key :: tokens) rest all) :
    YieldsPastAtKey (depth + 1) tokens (name.characters ++ ':' :: rest) all := by
  intro spacing noTabAhead
  have noTabBefore : .tab ∉ spacing ++ name.before := by
    simp [noTab, noTabAhead]
  have text_eq : spacing.characters ++ (name.characters ++ ':' :: rest) =
      Spacing.characters (spacing ++ name.before) ++
        (name.pieces.characters ++ (name.after.characters ++ ':' :: rest)) := by
    simp [Spacing.characters, Name.characters]
  have gapIsBlank : ∀ character ∈ name.after.characters, character = ' ' := by
    intro character member
    rcases List.mem_map.mp member with ⟨blank, inGap, rfl⟩
    rw [isKey.1 blank inGap]
    rfl
  have gapInLine : ∀ character ∈ name.after.characters, IsInLine character := by
    intro character member
    rw [gapIsBlank character member]
    decide
  rcases exists_normalizeBreaks_spacing noTabBefore
    (name.pieces.characters ++ (name.after.characters ++ ':' :: rest)) with
    ⟨normal, isSpacing, normal_eq⟩
  rw [text_eq, normal_eq, normalizeBreaks_inLine (isInLine_pieces onLine),
    normalizeBreaks_inLine gapInLine, normalizeBreaks_cons_of_not_isBreak rfl]
  have short : name.pieces.characters.length + name.after.characters.length ≤ longestKey := by
    have gapLength : name.after.characters.length = name.after.length :=
      List.length_map _
    rw [gapLength]
    exact isKey.2
  exact yields_name isSpacing onLine gapIsBlank short yields.here

/-! ## Values -/

/-- Whether a plain scalar ends before a text that stands between so many
brackets. -/
def EndsPlain (depth : Nat) (rest : List Char) : Prop :=
  0 < depth ∧ ∃ terminator after, rest = terminator :: after ∧ EndsFlow terminator

theorem endsPlain_items (items : List Source) (rest : List Char) :
    EndsPlain (depth + 1) (Source.itemCharacters items ++ ']' :: rest) := by
  refine ⟨depth.succ_pos, ?_⟩
  cases items with
  | nil => exact ⟨']', rest, rfl, .inr (.inl rfl)⟩
  | cons item items => exact ⟨',', _, rfl, .inl rfl⟩

theorem endsPlain_members (members : List (Name × Source)) (rest : List Char) :
    EndsPlain (depth + 1) (Source.membersCharacters members ++ '\x7d' :: rest) := by
  refine ⟨depth.succ_pos, ?_⟩
  cases members with
  | nil => exact ⟨'\x7d', rest, rfl, .inr (.inr rfl)⟩
  | cons member members => exact ⟨',', _, rfl, .inl rfl⟩

theorem yieldsPast_plain {word : List Char} (isWord : IsWord word) {gap : Spacing}
    (noTab : .tab ∉ gap) (ends : EndsPlain depth rest)
    (yields : YieldsPast depth (.scalar (Text.ofCharacters word) true :: tokens) rest all) :
    YieldsPast depth tokens (word ++ (gap.characters ++ rest)) all := by
  obtain ⟨positive, terminator, after, rfl, endsFlow⟩ := ends
  obtain ⟨depth, rfl⟩ := Nat.exists_eq_add_one.mpr positive
  exact yieldsPast_word isWord noTab endsFlow yields

mutual

/-- Before what remains, a text yields the tokens of its value.  If it is a word,
what remains has to end it. -/
theorem yieldsPast_source : ∀ source : Source, source.Obeys portable → ∀ {depth : Nat}
    {tokens : List Token} {gap : Spacing} {rest : List Char}, .tab ∉ gap →
    (source.IsPlain → EndsPlain depth rest) →
    YieldsPast depth (source.flow.tokens.reverse ++ tokens) rest all →
    YieldsPast depth tokens (source.characters ++ (gap.characters ++ rest)) all
  | .word name, _, _, _, _, _, noTab, ends, yields =>
      yieldsPast_plain (isWord_word name) noTab (ends trivial) yields
  | .number decimal, _, _, _, _, _, noTab, ends, yields =>
      yieldsPast_plain (isWord_number decimal) noTab (ends trivial) yields
  | .string pieces, obeys, _, _, _, _, noTab, _, yields =>
      yieldsPast_pieces obeys (yields.spacing noTab)
  | .spaced before value after, obeys, depth, tokens, gap, rest, noTab, ends, yields => by
      have noTabAfter : .tab ∉ after ++ gap := by
        rw [List.mem_append, not_or]
        exact ⟨obeys.2.2, noTab⟩
      have following := yieldsPast_source value obeys.2.1 noTabAfter ends yields
      simpa [Source.characters, Spacing.characters] using following.spacing obeys.1
  | .emptyList spacing, obeys, depth, tokens, gap, rest, noTab, _, yields => by
      have closed := (yieldsPast_closing .list (yields.spacing noTab)).spacing obeys
      simpa [Source.characters] using yieldsPast_opening .list closed.atKey
  | .list first others, obeys, depth, tokens, gap, rest, noTab, _, yields => by
      have closed : YieldsPast depth (.closeList :: ((Flow.itemTokens
          (Source.itemFlows others)).reverse ++ (first.flow.tokens.reverse ++
            .openList :: tokens))) (gap.characters ++ rest) all := by
        simpa [Source.flow, Flow.tokens] using yields.spacing noTab
      have items := yieldsPast_items others obeys.2 closed
      have opened := yieldsPast_opening .list <| YieldsPast.atKey <|
        @yieldsPast_source first obeys.1 (depth + 1) _ [] _ nofun
          (fun _ => endsPlain_items others _) items
      simpa [Source.characters, Spacing.characters] using opened
  | .emptyObject spacing, obeys, depth, tokens, gap, rest, noTab, _, yields => by
      have closed := (yieldsPast_closing .map (yields.spacing noTab)).spacing obeys
      simpa [Source.characters] using yieldsPast_opening .map closed.atKey
  | .object first others, obeys, depth, tokens, gap, rest, noTab, _, yields => by
      have closed : YieldsPast depth (.closeMap :: ((Flow.memberTokens
          (Source.memberFlows others)).reverse ++
            ((Flow.tokensOfMember (Source.memberFlow first)).reverse ++ .openMap :: tokens)))
          (gap.characters ++ rest) all := by
        simpa [Source.flow, Flow.tokens] using yields.spacing noTab
      have members := yieldsPast_members others obeys.2.2 closed
      have opened := yieldsPast_opening .map <|
        yieldsPast_member first obeys.2.1 (endsPlain_members others _) members
      simpa [Source.characters] using opened
termination_by structural source => source

theorem yieldsPast_items : ∀ items : List Source, Source.ItemsObey portable items →
    ∀ {depth : Nat} {tokens : List Token} {rest : List Char},
    YieldsPast depth
      (.closeList :: ((Flow.itemTokens (Source.itemFlows items)).reverse ++ tokens)) rest all →
    YieldsPast (depth + 1) tokens (Source.itemCharacters items ++ ']' :: rest) all
  | [], _, _, _, _, yields => yieldsPast_closing .list yields
  | item :: items, obeys, depth, tokens, rest, yields => by
      have closed : YieldsPast depth (.closeList :: ((Flow.itemTokens
          (Source.itemFlows items)).reverse ++ (item.flow.tokens.reverse ++ .comma :: tokens)))
          rest all := by
        simpa [Source.itemFlows, Flow.itemTokens] using yields
      have separated := yieldsPast_comma <| YieldsPast.atKey <|
        @yieldsPast_source item obeys.1 (depth + 1) _ [] _ nofun
          (fun _ => endsPlain_items items _) (yieldsPast_items items obeys.2 closed)
      simpa [Source.itemCharacters, Spacing.characters] using separated
termination_by structural items => items

theorem yieldsPast_members : ∀ members : List (Name × Source),
    Source.MembersObey portable members →
    ∀ {depth : Nat} {tokens : List Token} {rest : List Char},
    YieldsPast depth
      (.closeMap :: ((Flow.memberTokens (Source.memberFlows members)).reverse ++ tokens)) rest
        all →
    YieldsPast (depth + 1) tokens (Source.membersCharacters members ++ '\x7d' :: rest) all
  | [], _, _, _, _, yields => yieldsPast_closing .map yields
  | member :: members, obeys, depth, tokens, rest, yields => by
      have closed : YieldsPast depth (.closeMap :: ((Flow.memberTokens
          (Source.memberFlows members)).reverse ++
            ((Flow.tokensOfMember (Source.memberFlow member)).reverse ++ .comma :: tokens)))
          rest all := by
        simpa [Source.memberFlows, Flow.memberTokens] using yields
      have separated := yieldsPast_comma <|
        yieldsPast_member member obeys.1 (endsPlain_members members _)
          (yieldsPast_members members obeys.2 closed)
      simpa [Source.membersCharacters] using separated
termination_by structural members => members

theorem yieldsPast_member : ∀ member : Name × Source, Source.MemberObeys portable member →
    ∀ {depth : Nat} {tokens : List Token} {rest : List Char}, EndsPlain (depth + 1) rest →
    YieldsPast (depth + 1)
      ((Flow.tokensOfMember (Source.memberFlow member)).reverse ++ tokens) rest all →
    YieldsPastAtKey (depth + 1) tokens (Source.memberCharacters member ++ rest) all
  | (name, value), obeys, depth, tokens, rest, ends, yields => by
      have following : YieldsPast (depth + 1) (value.flow.tokens.reverse ++
          .value :: .scalar name.pieces.content false :: .key :: tokens) rest all := by
        simpa [Source.memberFlow, Flow.tokensOfMember] using yields
      have named := yieldsPast_name obeys.1.1 obeys.1.2.1 obeys.1.2.2.2 <|
        @yieldsPast_source value obeys.2 (depth + 1) _ [] _ nofun (fun _ => ends) following
      simpa [Source.memberCharacters, Spacing.characters] using named
termination_by structural member => member

end

end Yaml.TokenReader

/-! ## Whole texts -/

namespace Json.Source

open Yaml

theorem isAllowed_spacing (spacing : Spacing) :
    ∀ character ∈ spacing.characters, isAllowed character = true := by
  intro character member
  rcases List.mem_map.mp member with ⟨blank, -, rfl⟩
  cases blank <;> rfl

theorem isAllowed_pieces {pieces : Pieces} (onLine : ∀ piece ∈ pieces, IsOnLine piece) :
    ∀ character ∈ pieces.characters, isAllowed character = true :=
  fun character member => (isInLine_pieces onLine character member).isAllowed

mutual

/-- A portable text is made of characters that are allowed. -/
theorem isAllowed_characters : ∀ source : Source, source.Obeys portable →
    ∀ character ∈ source.characters, isAllowed character = true
  | .word name, _ => fun character member => ((isWord_word name).inLine character member).isAllowed
  | .number decimal, _ =>
      fun character member => ((isWord_number decimal).inLine character member).isAllowed
  | .string _, obeys => isAllowed_pieces obeys
  | .spaced before value after, obeys => by
      simp only [characters, List.forall_mem_append]
      exact ⟨isAllowed_spacing before, isAllowed_characters value obeys.2.1,
        isAllowed_spacing after⟩
  | .emptyList spacing, _ => by
      simp only [characters, List.forall_mem_cons, List.forall_mem_append]
      exact ⟨rfl, isAllowed_spacing spacing, rfl, List.forall_mem_nil _⟩
  | .list first others, obeys => by
      simp only [characters, List.forall_mem_cons, List.forall_mem_append]
      exact ⟨rfl, isAllowed_characters first obeys.1, isAllowed_itemCharacters others obeys.2,
        rfl, List.forall_mem_nil _⟩
  | .emptyObject spacing, _ => by
      simp only [characters, List.forall_mem_cons, List.forall_mem_append]
      exact ⟨rfl, isAllowed_spacing spacing, rfl, List.forall_mem_nil _⟩
  | .object first others, obeys => by
      simp only [characters, List.forall_mem_cons, List.forall_mem_append]
      exact ⟨rfl, isAllowed_memberCharacters first obeys.2.1,
        isAllowed_membersCharacters others obeys.2.2, rfl, List.forall_mem_nil _⟩
termination_by structural source => source

theorem isAllowed_itemCharacters : ∀ items : List Source, ItemsObey portable items →
    ∀ character ∈ itemCharacters items, isAllowed character = true
  | [], _ => List.forall_mem_nil _
  | item :: items, obeys => by
      simp only [itemCharacters, List.forall_mem_cons, List.forall_mem_append]
      exact ⟨rfl, isAllowed_characters item obeys.1, isAllowed_itemCharacters items obeys.2⟩
termination_by structural items => items

theorem isAllowed_membersCharacters : ∀ members : List (Name × Source),
    MembersObey portable members →
    ∀ character ∈ membersCharacters members, isAllowed character = true
  | [], _ => List.forall_mem_nil _
  | member :: members, obeys => by
      simp only [membersCharacters, List.forall_mem_cons, List.forall_mem_append]
      exact ⟨rfl, isAllowed_memberCharacters member obeys.1,
        isAllowed_membersCharacters members obeys.2⟩
termination_by structural members => members

theorem isAllowed_memberCharacters : ∀ member : Name × Source, MemberObeys portable member →
    ∀ character ∈ memberCharacters member, isAllowed character = true
  | (name, value), obeys => by
      simp only [memberCharacters, Name.characters, List.forall_mem_cons, List.forall_mem_append]
      exact ⟨⟨isAllowed_spacing name.before, isAllowed_pieces obeys.1.2.1,
        isAllowed_spacing name.after⟩, rfl, isAllowed_characters value obeys.2⟩
termination_by structural member => member

end

/-- An object begins with its bracket after white space. -/
theorem IsObject.exists_characters_eq : ∀ {source : Source}, source.IsObject →
    source.Obeys portable → ∃ (spacing : Spacing) (rest : List Char), .tab ∉ spacing ∧
      source.characters = spacing.characters ++ '\x7b' :: rest
  | .spaced before value after, isObject, obeys => by
      rcases @IsObject.exists_characters_eq value isObject obeys.2.1 with
        ⟨spacing, rest, noTab, characters_eq⟩
      refine ⟨before ++ spacing, rest ++ after.characters, ?_, ?_⟩
      · rw [List.mem_append, not_or]
        exact ⟨obeys.1, noTab⟩
      · simp [characters, characters_eq, Spacing.characters]
  | .emptyObject _, _, _ => ⟨[], _, nofun, rfl⟩
  | .object _ _, _, _ => ⟨[], _, nofun, rfl⟩

theorem IsObject.not_isPlain : ∀ {source : Source}, source.IsObject → ¬ source.IsPlain
  | .spaced _ value _, isObject => @IsObject.not_isPlain value isObject
  | .emptyObject _, _ => id
  | .object _ _, _ => id

theorem IsObject.start_rest_eq {source : Source} (isObject : source.IsObject)
    (isPortable : source.IsPortable) :
    (Cursor.start (normalizeBreaks source.characters)).rest =
      normalizeBreaks source.characters := by
  rcases isObject.exists_characters_eq isPortable with ⟨spacing, rest, noTab, characters_eq⟩
  rcases exists_normalizeBreaks_spacing noTab ('\x7b' :: rest) with ⟨normal, isSpacing, normal_eq⟩
  rw [characters_eq, normal_eq, normalizeBreaks_cons_of_not_isBreak rfl]
  rcases normal with - | ⟨blank, normal⟩
  · rfl
  · rcases isSpacing blank List.mem_cons_self with rfl | rfl <;> rfl

/-- The tokens of a portable text are those of its value between brackets. -/
theorem tokensOf_source {source : Source} (isObject : source.IsObject)
    (isPortable : source.IsPortable) :
    tokensOf source.characters = source.flow.tokens ++ [.endOfText] := by
  have atEnd : TokenReader.YieldsPast 0 (source.flow.tokens.reverse ++ []) []
      (source.flow.tokens ++ [.endOfText]) :=
    TokenReader.yieldsPast_of_normal fun normal isSpacing => by
      simpa [normalizeBreaks] using TokenReader.yields_end 0 source.flow.tokens.reverse isSpacing
  have yields := @TokenReader.yieldsPast_source _ source isPortable 0 [] [] [] nofun
    (fun isPlain => (isObject.not_isPlain isPlain).elim) atEnd
  have stands : TokenReader.StandsAt
      { cursor := .start (normalizeBreaks source.characters) } 0 []
      (normalizeBreaks source.characters) :=
    { blocks_eq := rfl
      noneRequired := by simp [TokenReader.NoneRequired]
      depth_eq := rfl
      tokens_eq := rfl
      rest_eq := isObject.start_rest_eq isPortable }
  rw [← tokensOf_normalizeBreaks]
  refine yields.here _ ?_
  simpa [Spacing.characters] using stands

end Json.Source

end UsageContracts

import Mathlib.Data.List.TakeWhile
import UsageContracts.Proofs.Outcome
import UsageContracts.Proofs.Text.Characters
import UsageContracts.Yaml.Character
import UsageContracts.Yaml.Fault

/-!
# Texts with unified line ends

A line can end in a line feed, in a carriage return, in both of them or in a next
line character.  Unifying the line ends puts a line feed for each of these ends.
A reader fares alike on both texts if it has the same results, or the same fault,
and leaves off at places that correspond and are not inside a line end.
-/

namespace UsageContracts.Yaml

/-! ## Texts with unified line ends -/

/-- A text with every line end as it is read. -/
def normalizeBreaks : List Char → List Char
  | [] => []
  | character :: rest =>
      if isHalfBreak character rest then normalizeBreaks rest
      else readAs character :: normalizeBreaks rest

variable {character : Char} {rest text : List Char}

/-- The characters that end a line. -/
def breaks : List Char :=
  ['\n', '\r', '\u0085', '\u2028', '\u2029']

theorem mem_breaks (isEnd : isBreak character = true) : character ∈ breaks := by
  simpa [isBreak, breaks, or_assoc] using isEnd

theorem readAs_of_not_isBreak (notBreak : isBreak character = false) :
    readAs character = character := by
  have characters : character ≠ '\r' ∧ character ≠ '\u0085' := by
    constructor <;>
    · rintro rfl
      cases notBreak
  simp [readAs, characters]

/-- A class of characters that does not tell line ends apart. -/
theorem apply_readAs {isInClass : Char → Bool} (ofReturn : isInClass '\r' = isInClass '\n')
    (ofNextLine : isInClass '\u0085' = isInClass '\n') (character : Char) :
    isInClass (readAs character) = isInClass character := by
  unfold readAs
  split
  · next ends => rcases ends with rfl | rfl <;> simp [ofReturn, ofNextLine]
  · rfl

@[simp]
theorem isBreak_readAs (character : Char) : isBreak (readAs character) = isBreak character :=
  apply_readAs rfl rfl character

@[simp]
theorem readAs_readAs (character : Char) : readAs (readAs character) = readAs character := by
  unfold readAs
  split <;> rfl

theorem readAs_ne_return (character : Char) : readAs character ≠ '\r' := by
  unfold readAs
  split
  · decide
  · next notEnd => exact fun isReturn => notEnd (.inl isReturn)

/-- A character that ends no line is only itself. -/
theorem readAs_eq_iff {other : Char} (notBreak : isBreak other = false) :
    readAs character = other ↔ character = other := by
  constructor
  · rintro rfl
    rw [isBreak_readAs] at notBreak
    exact (readAs_of_not_isBreak notBreak).symm
  · rintro rfl
    exact readAs_of_not_isBreak notBreak

theorem isHalfBreak_of_ne (notReturn : character ≠ '\r') (rest : List Char) :
    isHalfBreak character rest = false := by
  simp [isHalfBreak, notReturn]

theorem isHalfBreak_of_not_isBreak (notBreak : isBreak character = false) (rest : List Char) :
    isHalfBreak character rest = false := by
  refine isHalfBreak_of_ne ?_ rest
  rintro rfl
  cases notBreak

@[simp]
theorem isHalfBreak_readAs (character : Char) (rest : List Char) :
    isHalfBreak (readAs character) rest = false :=
  isHalfBreak_of_ne (readAs_ne_return character) rest

@[simp]
theorem afterBreak_readAs (character : Char) (rest : List Char) :
    afterBreak (readAs character) rest = rest := by
  rw [afterBreak, isHalfBreak_readAs]
  rfl

/-- A half of a line end is a carriage return, and the other half comes next. -/
theorem eq_of_isHalfBreak (half : isHalfBreak character rest = true) :
    character = '\r' ∧ ∃ later, rest = '\n' :: later := by
  simp only [isHalfBreak, Bool.and_eq_true, beq_iff_eq] at half
  exact ⟨half.1, List.head?_eq_some_iff.mp half.2⟩

theorem normalizeBreaks_of_isHalfBreak (half : isHalfBreak character rest = true) :
    normalizeBreaks (character :: rest) = normalizeBreaks rest := by
  rw [normalizeBreaks, if_pos half]

theorem normalizeBreaks_of_not_isHalfBreak (whole : isHalfBreak character rest = false) :
    normalizeBreaks (character :: rest) = readAs character :: normalizeBreaks rest := by
  rw [normalizeBreaks, whole]
  rfl

/-- What a text begins with, and what follows if that ends a line. -/
theorem normalizeBreaks_cons (character : Char) (rest : List Char) :
    normalizeBreaks (character :: rest) =
      readAs character :: normalizeBreaks (afterBreak character rest) := by
  cases half : isHalfBreak character rest with
  | false => rw [normalizeBreaks_of_not_isHalfBreak half, afterBreak, half]; rfl
  | true =>
      obtain ⟨rfl, later, rfl⟩ := eq_of_isHalfBreak half
      rw [normalizeBreaks_of_isHalfBreak half, afterBreak, if_pos half,
        normalizeBreaks_of_not_isHalfBreak rfl]
      rfl

theorem normalizeBreaks_cons_of_not_isBreak (notBreak : isBreak character = false)
    (rest : List Char) :
    normalizeBreaks (character :: rest) = character :: normalizeBreaks rest := by
  rw [normalizeBreaks_of_not_isHalfBreak (isHalfBreak_of_not_isBreak notBreak rest),
    readAs_of_not_isBreak notBreak]

theorem head?_normalizeBreaks (text : List Char) :
    (normalizeBreaks text).head? = text.head?.map readAs := by
  cases text with
  | nil => rfl
  | cons character rest => rw [normalizeBreaks_cons]; rfl

@[simp]
theorem normalizeBreaks_eq_nil_iff : normalizeBreaks text = [] ↔ text = [] := by
  cases text with
  | nil => simp [normalizeBreaks]
  | cons character rest => simp [normalizeBreaks_cons]

/-- A character that ends no line begins the one text where it begins the other. -/
theorem normalizeBreaks_eq_cons_iff {unified : List Char} (notBreak : isBreak character = false) :
    normalizeBreaks text = character :: unified ↔
      ∃ rest, text = character :: rest ∧ normalizeBreaks rest = unified := by
  constructor
  · intro text_eq
    cases text with
    | nil => cases text_eq
    | cons other rest =>
        rw [normalizeBreaks_cons] at text_eq
        obtain ⟨other_eq, rest_eq⟩ := List.cons.inj text_eq
        obtain rfl := (readAs_eq_iff notBreak).mp other_eq
        rw [afterBreak, isHalfBreak_of_not_isBreak notBreak] at rest_eq
        exact ⟨rest, rfl, rest_eq⟩
  · rintro ⟨rest, rfl, rfl⟩
    exact normalizeBreaks_cons_of_not_isBreak notBreak rest

/-- What stands after a part of a text completes no line end of the part unless the text
is taken apart inside a line end. -/
theorem isHalfBreak_append {passed : List Char}
    (whole : (character :: passed).getLast? = some '\r' → rest.head? ≠ some '\n') :
    isHalfBreak character (passed ++ rest) = isHalfBreak character passed := by
  cases passed with
  | nil =>
      by_cases isReturn : character = '\r'
      · have notFeed := whole (by simp [isReturn])
        simp [isHalfBreak, notFeed]
      · simp [isHalfBreak, isReturn]
  | cons next passed => rfl

theorem getLast?_cons_of_some {passed : List Char} {last : Char}
    (isLast : passed.getLast? = some last) : (character :: passed).getLast? = some last := by
  simp [List.getLast?_cons, isLast]

theorem normalizeBreaks_append {passed : List Char}
    (whole : passed.getLast? = some '\r' → rest.head? ≠ some '\n') :
    normalizeBreaks (passed ++ rest) = normalizeBreaks passed ++ normalizeBreaks rest := by
  induction passed with
  | nil => rfl
  | cons character passed ih =>
      rw [List.cons_append, normalizeBreaks, normalizeBreaks, isHalfBreak_append whole,
        ih fun isLast => whole (getLast?_cons_of_some isLast)]
      split <;> rfl

/-- Either both texts begin with a character that ends no line, or none of them does. -/
theorem begins_or_not (notBreak : isBreak character = false) (text : List Char) :
    (∃ rest, text = character :: rest) ∨
      (∀ rest, text ≠ character :: rest) ∧ ∀ rest, normalizeBreaks text ≠ character :: rest := by
  by_cases begins : ∃ rest, text = character :: rest
  · exact .inl begins
  · refine .inr ⟨fun rest text_eq => begins ⟨rest, text_eq⟩, fun unified text_eq => ?_⟩
    obtain ⟨rest, rest_eq, -⟩ := (normalizeBreaks_eq_cons_iff notBreak).mp text_eq
    exact begins ⟨rest, rest_eq⟩

theorem normalizeBreaks_append_of_not_isBreak {passed : List Char}
    (onLine : ∀ character ∈ passed, isBreak character = false) (rest : List Char) :
    normalizeBreaks (passed ++ rest) = passed ++ normalizeBreaks rest := by
  induction passed with
  | nil => rfl
  | cons character passed ih =>
      rw [List.cons_append, normalizeBreaks_cons_of_not_isBreak (onLine character (by simp)),
        ih fun other member => onLine other (List.mem_cons_of_mem _ member), List.cons_append]

theorem length_normalizeBreaks_le (text : List Char) :
    (normalizeBreaks text).length ≤ text.length := by
  induction text with
  | nil => exact Nat.le_refl 0
  | cons character rest ih =>
      rw [normalizeBreaks]
      split
      · exact Nat.le_succ_of_le ih
      · exact Nat.succ_le_succ ih

/-- The first line end stands at the same place in both texts. -/
theorem exists_isBreak_take {count : Nat}
    (isEnd : ∃ other ∈ text.take count, isBreak other = true) :
    ∃ other ∈ (normalizeBreaks text).take count, isBreak other = true := by
  induction text generalizing count with
  | nil => exact isEnd
  | cons character rest ih =>
      cases count with
      | zero => simp at isEnd
      | succ count =>
          cases first : isBreak character with
          | true =>
              rw [normalizeBreaks_cons]
              exact ⟨readAs character, by simp, by simpa using first⟩
          | false =>
              have later : ∃ other ∈ rest.take count, isBreak other = true := by
                simpa [first] using isEnd
              rw [normalizeBreaks_cons_of_not_isBreak first]
              simpa [first] using ih later

/-! ## Places between line ends -/

/-- Whether the second text begins where the first one has come to after whole line
ends. -/
def Passes (text rest : List Char) : Prop :=
  ∃ passed, text = passed ++ rest ∧ (passed.getLast? = some '\r' → rest.head? ≠ some '\n')

namespace Passes

theorem refl (text : List Char) : Passes text text :=
  ⟨[], rfl, fun last => by simp at last⟩

theorem trans {later : List Char} (first : Passes text rest) (second : Passes rest later) :
    Passes text later := by
  rcases first with ⟨passed, rfl, firstWhole⟩
  rcases second with ⟨others, rfl, secondWhole⟩
  refine ⟨passed ++ others, by simp, fun last => ?_⟩
  cases others with
  | nil => exact firstWhole (by simpa using last)
  | cons character others => exact secondWhole (by simpa using last)

theorem consWhole {later : List Char} (whole : isHalfBreak character rest = false)
    (passes : Passes rest later) : Passes (character :: rest) later := by
  refine trans ⟨[character], rfl, fun last => ?_⟩ passes
  obtain rfl : character = '\r' := by simpa using last
  simpa [isHalfBreak] using whole

/-- A character that ends no line is passed over as a whole. -/
theorem cons {later : List Char} (notBreak : isBreak character = false)
    (passes : Passes rest later) : Passes (character :: rest) later :=
  consWhole (isHalfBreak_of_not_isBreak notBreak rest) passes

/-- So is a line end. -/
theorem afterBreak (character : Char) (rest : List Char) :
    Passes (character :: rest) (afterBreak character rest) := by
  cases half : isHalfBreak character rest with
  | true =>
      obtain ⟨rfl, later, rfl⟩ := eq_of_isHalfBreak half
      exact ⟨['\r', '\n'], rfl, fun last => by simp at last⟩
  | false =>
      rw [Yaml.afterBreak, half]
      exact consWhole half (.refl rest)

/-- Whatever stands before a text is passed over with some of it. -/
theorem consMoved {later : List Char} (passes : Passes rest later) (moved : later ≠ rest)
    (character : Char) : Passes (character :: rest) later := by
  rcases passes with ⟨passed, rfl, whole⟩
  refine ⟨character :: passed, rfl, fun last => ?_⟩
  cases passed with
  | nil => exact (moved rfl).elim
  | cons next passed => exact whole (by simpa using last)

/-- The other half of a line end has been passed over if the text goes on otherwise. -/
theorem ofHalf {later : List Char} (half : isHalfBreak character rest = true)
    (passes : Passes rest later) (notFeed : later.head? ≠ some '\n') :
    Passes (character :: rest) later := by
  refine passes.consMoved ?_ character
  rintro rfl
  obtain ⟨-, others, rfl⟩ := eq_of_isHalfBreak half
  exact notFeed rfl

theorem suffix (passes : Passes text rest) : rest <:+ text := by
  rcases passes with ⟨passed, rfl, -⟩
  exact List.suffix_append passed rest

/-- What is passed over and what is left are unified each by itself. -/
theorem exists_normalizeBreaks_eq (passes : Passes text rest) :
    ∃ passed, text = passed ++ rest ∧
      normalizeBreaks text = normalizeBreaks passed ++ normalizeBreaks rest := by
  rcases passes with ⟨passed, rfl, whole⟩
  exact ⟨passed, rfl, normalizeBreaks_append whole⟩

/-- A place is further on in the one text if it is in the other. -/
theorem length_lt_iff (passes : Passes text rest) :
    (normalizeBreaks rest).length < (normalizeBreaks text).length ↔ rest.length < text.length := by
  rcases passes.exists_normalizeBreaks_eq with ⟨passed, rfl, unified_eq⟩
  rw [unified_eq]
  have nil_iff : normalizeBreaks passed = [] ↔ passed = [] := normalizeBreaks_eq_nil_iff
  cases passed with
  | nil => simp [normalizeBreaks]
  | cons character passed =>
      have notNil : normalizeBreaks (character :: passed) ≠ [] := by simp
      have := List.length_pos_iff.mpr notNil
      simp only [List.length_append, List.length_cons]
      omega

end Passes

/-! ## Classes of characters -/

theorem endsOr_normalizeBreaks {isInClass : Char → Bool}
    (ofReturn : isInClass '\r' = isInClass '\n')
    (ofNextLine : isInClass '\u0085' = isInClass '\n') (text : List Char) :
    endsOr isInClass (normalizeBreaks text) = endsOr isInClass text := by
  cases text with
  | nil => rfl
  | cons character rest =>
      rw [normalizeBreaks_cons]
      exact apply_readAs ofReturn ofNextLine character

@[simp]
theorem endsOr_isSeparation_normalizeBreaks (text : List Char) :
    endsOr isSeparation (normalizeBreaks text) = endsOr isSeparation text :=
  endsOr_normalizeBreaks rfl rfl text

@[simp]
theorem endsOr_isSpaceOrBreak_normalizeBreaks (text : List Char) :
    endsOr isSpaceOrBreak (normalizeBreaks text) = endsOr isSpaceOrBreak text :=
  endsOr_normalizeBreaks rfl rfl text

/-- Whether a class of characters holds none that ends a line. -/
def KeepsToLine (isInClass : Char → Bool) : Prop :=
  ∀ character, isBreak character = true → isInClass character = false

theorem keepsToLine_of_breaks {isInClass : Char → Bool}
    (outside : ∀ character ∈ breaks, isInClass character = false) : KeepsToLine isInClass :=
  fun character isEnd => outside character (mem_breaks isEnd)

theorem KeepsToLine.not_isBreak {isInClass : Char → Bool} (keeps : KeepsToLine isInClass)
    (inClass : isInClass character = true) : isBreak character = false := by
  cases isEnd : isBreak character with
  | false => rfl
  | true => simp [keeps character isEnd] at inClass

variable {isInClass : Char → Bool}

theorem takeWhile_normalizeBreaks (keeps : KeepsToLine isInClass) (text : List Char) :
    (normalizeBreaks text).takeWhile isInClass = text.takeWhile isInClass := by
  induction text with
  | nil => rfl
  | cons character rest ih =>
      cases isEnd : isBreak character with
      | false =>
          rw [normalizeBreaks_cons_of_not_isBreak isEnd, List.takeWhile_cons, List.takeWhile_cons,
            ih]
      | true =>
          rw [normalizeBreaks_cons, List.takeWhile_cons, List.takeWhile_cons, keeps _ isEnd,
            keeps _ (by simpa using isEnd)]
          rfl

theorem dropWhile_normalizeBreaks (keeps : KeepsToLine isInClass) (text : List Char) :
    (normalizeBreaks text).dropWhile isInClass = normalizeBreaks (text.dropWhile isInClass) := by
  induction text with
  | nil => rfl
  | cons character rest ih =>
      cases isEnd : isBreak character with
      | false =>
          rw [normalizeBreaks_cons_of_not_isBreak isEnd, List.dropWhile_cons, List.dropWhile_cons,
            ih]
          split
          · rfl
          · rw [normalizeBreaks_cons_of_not_isBreak isEnd]
      | true =>
          rw [normalizeBreaks_cons, List.dropWhile_cons, List.dropWhile_cons, keeps _ isEnd,
            keeps _ (by simpa using isEnd)]
          exact (normalizeBreaks_cons character rest).symm

theorem passes_dropWhile (keeps : KeepsToLine isInClass) (text : List Char) :
    Passes text (text.dropWhile isInClass) := by
  induction text with
  | nil => exact .refl []
  | cons character rest ih =>
      rw [List.dropWhile_cons]
      split
      · next inClass => exact ih.cons (keeps.not_isBreak inClass)
      · exact .refl _

theorem drop_length_takeWhile (text : List Char) :
    text.drop (text.takeWhile isInClass).length = text.dropWhile isInClass := by
  have whole : (text.takeWhile isInClass ++ text.dropWhile isInClass).drop
      (text.takeWhile isInClass).length = text.dropWhile isInClass := List.drop_left
  rwa [List.takeWhile_append_dropWhile] at whole

theorem ne_of_isBreak {other : Char} (isEnd : isBreak character = true)
    (notBreak : isBreak other = false) : character ≠ other := by
  rintro rfl
  rw [isEnd] at notBreak
  cases notBreak

theorem startsWithMarker_normalizeBreaks (text : List Char) :
    startsWithMarker (normalizeBreaks text) = startsWithMarker text := by
  have hyphen : isBreak '-' = false := rfl
  have dot : isBreak '.' = false := rfl
  unfold startsWithMarker
  split
  · next rest text_eq =>
      obtain ⟨_, rfl, second_eq⟩ := (normalizeBreaks_eq_cons_iff hyphen).mp text_eq
      obtain ⟨_, rfl, third_eq⟩ := (normalizeBreaks_eq_cons_iff hyphen).mp second_eq
      obtain ⟨_, rfl, rfl⟩ := (normalizeBreaks_eq_cons_iff hyphen).mp third_eq
      exact endsOr_normalizeBreaks rfl rfl _
  · next rest text_eq =>
      obtain ⟨_, rfl, second_eq⟩ := (normalizeBreaks_eq_cons_iff dot).mp text_eq
      obtain ⟨_, rfl, third_eq⟩ := (normalizeBreaks_eq_cons_iff dot).mp second_eq
      obtain ⟨_, rfl, rfl⟩ := (normalizeBreaks_eq_cons_iff dot).mp third_eq
      exact endsOr_normalizeBreaks rfl rfl _
  · next noHyphens noDots =>
      split
      · next rest =>
          simp only [normalizeBreaks_cons_of_not_isBreak hyphen] at noHyphens
          exact (noHyphens _ rfl).elim
      · next rest =>
          simp only [normalizeBreaks_cons_of_not_isBreak dot] at noDots
          exact (noDots _ rfl).elim
      · rfl

/-! ## Readers -/

/-- Whether two outcomes are the same fault, or values of which the second is what the
change makes of the first. -/
inductive FareAlike {α : Type} (change : α → α) (good : α → Prop) :
    Except Fault α → Except Fault α → Prop
  | failed (fault : Fault) : FareAlike change good (.error fault) (.error fault)
  | passed {value : α} : good value → FareAlike change good (.ok value) (.ok (change value))

namespace FareAlike

variable {α β : Type} {change : α → α} {good : α → Prop} {otherChange : β → β} {better : β → Prop}
  {outcome other : Except Fault α}

theorem eq_map (alike : FareAlike change good outcome other) : other = outcome.map change := by
  cases alike <;> rfl

theorem isGood {value : α} (alike : FareAlike change good (.ok value) other) : good value := by
  cases alike
  assumption

theorem mono {weaker : α → Prop} (alike : FareAlike change good outcome other)
    (weaken : ∀ value, good value → weaker value) : FareAlike change weaker outcome other := by
  cases alike with
  | failed fault => exact .failed fault
  | passed isGood => exact .passed (weaken _ isGood)

/-- Readers fare alike if their first steps do, and the next ones after every value. -/
theorem bind {next otherNext : α → Except Fault β} (alike : FareAlike change good outcome other)
    (nextAlike : ∀ value, good value →
      FareAlike otherChange better (next value) (otherNext (change value))) :
    FareAlike otherChange better (outcome >>= next) (other >>= otherNext) := by
  cases alike with
  | failed fault => exact .failed fault
  | passed isGood => exact nextAlike _ isGood

theorem ite {condition : Prop} [Decidable condition] {first second : Except Fault α}
    {firstOther secondOther : Except Fault α}
    (firstAlike : condition → FareAlike change good first firstOther)
    (secondAlike : ¬ condition → FareAlike change good second secondOther) :
    FareAlike change good (if condition then first else second)
      (if condition then firstOther else secondOther) := by
  split
  · exact firstAlike ‹_›
  · exact secondAlike ‹_›

end FareAlike

/-- A result with the rest of a text, after its line ends are unified. -/
def unifyRest {α : Type} (result : α × List Char) : α × List Char :=
  (result.1, normalizeBreaks result.2)

/-- Whether the outcomes of reading a text, and the text with unified line ends, are
alike. -/
abbrev ReadsOnAlike {α : Type} (text : List Char) (outcome other : Except Fault (α × List Char)) :
    Prop :=
  FareAlike unifyRest (fun result => Passes text result.2) outcome other

/-- Making something else of what has been read changes nothing for the rest. -/
theorem ReadsOnAlike.map {α β : Type} {outcome other : Except Fault (α × List Char)}
    {make : α × List Char → β × List Char} (alike : ReadsOnAlike text outcome other)
    (keeps : ∀ result, make (unifyRest result) = unifyRest (make result) ∧
      (make result).2 = result.2) :
    ReadsOnAlike text (outcome.map make) (other.map make) := by
  cases alike with
  | failed fault => exact .failed fault
  | @passed value passes =>
      rw [Outcome.exceptMap_ok, Outcome.exceptMap_ok, (keeps value).1]
      refine .passed ?_
      rw [(keeps value).2]
      exact passes

theorem ReadsOnAlike.after {α : Type} {outcome other : Except Fault (α × List Char)}
    (alike : ReadsOnAlike rest outcome other) (passes : Passes text rest) :
    ReadsOnAlike text outcome other :=
  alike.mono fun _ later => passes.trans later

end UsageContracts.Yaml

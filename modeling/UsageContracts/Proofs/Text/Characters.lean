import UsageContracts.Text.Basic

/-!
# The characters of texts

A text without surrogate halves is made of its characters.
-/

namespace UsageContracts.Text

/-- Whether the number of every code point in a text has at most four hexadecimal
digits. -/
def IsBasic (text : Text) : Prop :=
  ∀ point ∈ text, point.number < 0x10000

instance (text : Text) : Decidable text.IsBasic :=
  inferInstanceAs (Decidable (∀ point ∈ text, point.number < 0x10000))

/-- Whether every code point in a text is a character. -/
def IsWhole (text : Text) : Prop :=
  ∀ point ∈ text, point.character?.isSome

instance (text : Text) : Decidable text.IsWhole :=
  inferInstanceAs (Decidable (∀ point ∈ text, point.character?.isSome = true))

/-- The characters of a text; surrogate halves are left out. -/
def scalars (text : Text) : List Char :=
  text.filterMap CodePoint.character?

@[simp]
theorem scalars_nil : scalars [] = [] :=
  rfl

@[simp]
theorem scalars_cons (character : Char) (text : Text) :
    scalars (.scalar character :: text) = character :: scalars text :=
  rfl

@[simp]
theorem ofCharacters_nil : ofCharacters [] = [] :=
  rfl

@[simp]
theorem ofCharacters_cons (character : Char) (characters : List Char) :
    ofCharacters (character :: characters) = .scalar character :: ofCharacters characters :=
  rfl

@[simp]
theorem ofCharacters_append (first second : List Char) :
    ofCharacters (first ++ second) = ofCharacters first ++ ofCharacters second :=
  List.map_append

@[simp]
theorem length_ofCharacters (characters : List Char) :
    (ofCharacters characters).length = characters.length :=
  List.length_map _

@[simp]
theorem scalars_ofCharacters (characters : List Char) :
    scalars (ofCharacters characters) = characters := by
  induction characters with
  | nil => rfl
  | cons character characters ih =>
      rw [ofCharacters, List.map_cons, scalars_cons, ← ofCharacters, ih]

@[simp]
theorem characters?_ofCharacters (characters : List Char) :
    characters? (ofCharacters characters) = some characters := by
  induction characters with
  | nil => rfl
  | cons character characters ih =>
      rw [characters?] at ih ⊢
      rw [ofCharacters_cons, List.mapM_cons, ih]
      rfl

theorem characters?_scalar (character : Char) (text : Text) :
    characters? (.scalar character :: text) = text.characters?.map (character :: ·) := by
  rw [characters?, List.mapM_cons, ← characters?]
  cases text.characters? <;> rfl

theorem characters?_surrogate (half : Fin 2048) (text : Text) :
    characters? (.surrogate half :: text) = none := by
  rw [characters?, List.mapM_cons]
  rfl

theorem head?_eq_of_characters? {text : Text} {characters : List Char}
    (characters_eq : text.characters? = some characters) :
    text.head? = characters.head?.map .scalar := by
  cases text with
  | nil =>
      rw [← Option.some.inj characters_eq]
      rfl
  | cons point rest =>
      cases point with
      | surrogate half =>
          rw [characters?_surrogate] at characters_eq
          cases characters_eq
      | scalar character =>
          rw [characters?_scalar] at characters_eq
          rcases Option.map_eq_some_iff.mp characters_eq with ⟨others, -, rfl⟩
          rfl

theorem isWhole_ofCharacters (characters : List Char) : (ofCharacters characters).IsWhole :=
  List.forall_mem_map.mpr fun _ _ => rfl

theorem isWhole_ofString (string : String) : (ofString string).IsWhole :=
  isWhole_ofCharacters _

theorem IsWhole.append {first second : Text} (firstWhole : first.IsWhole)
    (secondWhole : second.IsWhole) : IsWhole (first ++ second) :=
  List.forall_mem_append.mpr ⟨firstWhole, secondWhole⟩

/-- A text of whole code points is made of its characters. -/
theorem ofCharacters_scalars {text : Text} (whole : text.IsWhole) :
    ofCharacters text.scalars = text := by
  induction text with
  | nil => rfl
  | cons point rest ih =>
      cases point with
      | surrogate half => cases whole _ List.mem_cons_self
      | scalar character =>
          have restWhole : IsWhole rest := fun point member =>
            whole point (List.mem_cons_of_mem _ member)
          rw [scalars_cons, ofCharacters_cons, ih restWhole]

/-- Of listed characters it can be decided whether they all are of a class. -/
theorem forall_mem_of_all {characters : List Char} {isInClass : Char → Prop}
    [DecidablePred isInClass]
    (inClass : (characters.all fun character => decide (isInClass character)) = true) :
    ∀ character ∈ characters, isInClass character :=
  fun character member => of_decide_eq_true (List.all_eq_true.mp inClass character member)

/-! ## Runs -/

section

variable {α : Type} {isInRun : α → Bool} {run rest : List α}

/-- A run ends where the first element outside its class stands. -/
theorem takeWhile_append_of_stop (inRun : ∀ element ∈ run, isInRun element = true)
    (stops : ∀ element ∈ rest.head?, isInRun element = false) :
    (run ++ rest).takeWhile isInRun = run := by
  rw [List.takeWhile_append_of_pos inRun]
  cases rest with
  | nil => simp
  | cons element rest => simp [stops element rfl]

theorem dropWhile_append_of_stop (inRun : ∀ element ∈ run, isInRun element = true)
    (stops : ∀ element ∈ rest.head?, isInRun element = false) :
    (run ++ rest).dropWhile isInRun = rest := by
  rw [List.dropWhile_append_of_pos inRun]
  cases rest with
  | nil => rfl
  | cons element rest => simp [stops element rfl]

end

end UsageContracts.Text

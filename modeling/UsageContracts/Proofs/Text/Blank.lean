import UsageContracts.Proofs.Text.Characters
import UsageContracts.Text.Blank

/-!
# White space around texts

Removing the white space around a text leaves what it pads.
-/

namespace UsageContracts.Text

/-- Whether a text consists of white space. -/
def IsBlank (text : Text) : Prop :=
  ∀ point ∈ text, point.isBlank = true

instance (text : Text) : Decidable text.IsBlank :=
  inferInstanceAs (Decidable (∀ point ∈ text, point.isBlank = true))

/-- Whether a text is another one with white space around it. -/
def IsPadded (text core : Text) : Prop :=
  ∃ before after : Text, before.IsBlank ∧ after.IsBlank ∧ text = before ++ core ++ after

theorem isBlank_takeWhile (text : Text) : IsBlank (text.takeWhile CodePoint.isBlank) :=
  List.all_eq_true.mp List.all_takeWhile

theorem isPadded_trim (text : Text) : text.IsPadded text.trim := by
  let start := text.takeWhile CodePoint.isBlank
  let final := (text.trimLeft.reverse.takeWhile CodePoint.isBlank).reverse
  have start_eq : start ++ text.trimLeft = text := List.takeWhile_append_dropWhile
  have final_eq : text.trim ++ final = text.trimLeft := by
    rw [trim, trimRight, ← List.reverse_append, List.takeWhile_append_dropWhile,
      List.reverse_reverse]
  refine ⟨start, final, isBlank_takeWhile text, ?_, by rw [List.append_assoc, final_eq, start_eq]⟩
  intro point member
  exact isBlank_takeWhile text.trimLeft.reverse point (List.mem_reverse.mp member)

/-- What is padded is left if it neither begins nor ends with white space itself. -/
theorem IsPadded.trim_eq {text core : Text} (padded : text.IsPadded core)
    (begins : ∀ point ∈ core.head?, point.isBlank = false)
    (ends : ∀ point ∈ core.getLast?, point.isBlank = false) (nonempty : core ≠ []) :
    text.trim = core := by
  rcases padded with ⟨before, after, blankBefore, blankAfter, rfl⟩
  have left_eq : (before ++ core ++ after).trimLeft = core ++ after := by
    rw [trimLeft, List.append_assoc]
    apply dropWhile_append_of_stop blankBefore
    cases core with
    | nil => exact absurd rfl nonempty
    | cons first rest => exact begins
  have right_eq : (core ++ after).reverse.dropWhile CodePoint.isBlank = core.reverse := by
    rw [List.reverse_append]
    apply dropWhile_append_of_stop fun point member =>
      blankAfter point (List.mem_reverse.mp member)
    rwa [List.head?_reverse]
  rw [trim, left_eq, trimRight, right_eq, List.reverse_reverse]

end UsageContracts.Text

import Mathlib.Data.List.Forall2
import UsageContracts.Document.Layer

/-!
# Views that agree

Two views agree on related values if these have the same outermost layer, up to
related values inside, and the same quoted form.  What a view shows of related
values is then the same, too.
-/

namespace UsageContracts

/-- Entries with related keys and related values. -/
abbrev RelatedEntries {α β : Type} (related : α → β → Prop) :
    List (α × α) → List (β × β) → Prop :=
  List.Forall₂ fun entry entry' => related entry.1 entry'.1 ∧ related entry.2 entry'.2

/-- Layers of the same kind with related values inside. -/
inductive Layer.Related {α β : Type} (related : α → β → Prop) : Layer α → Layer β → Prop
  | scalar {content : Scalar} : Related related (.scalar content) (.scalar content)
  | list {items : List α} {items' : List β} :
      List.Forall₂ related items items' → Related related (.list items) (.list items')
  | tuple {items : List α} {items' : List β} :
      List.Forall₂ related items items' → Related related (.tuple items) (.tuple items')
  | set {members : List α} {members' : List β} :
      List.Forall₂ related members members' → Related related (.set members) (.set members')
  | map {entries : List (α × α)} {entries' : List (β × β)} :
      RelatedEntries related entries entries' → Related related (.map entries) (.map entries')

/-- Two views agree on related values. -/
structure View.Agrees {α β : Type} (left : View α) (right : View β) (related : α → β → Prop) :
    Prop where
  layer {value : α} {value' : β} :
    related value value' → Layer.Related related (left.layer value) (right.layer value')
  quoted {value : α} {value' : β} :
    related value value' → left.quoted value = right.quoted value'

namespace View.Agrees

variable {α β : Type} {left : View α} {right : View β} {related : α → β → Prop}
  {value : α} {value' : β}

theorem display_eq (agrees : left.Agrees right related) (are : related value value') :
    left.display value = right.display value' := by
  have layers := agrees.layer are
  unfold View.display
  generalize left.layer value = layer, right.layer value' = layer' at layers
  cases layers with
  | scalar => rfl
  | _ => exact agrees.quoted are

theorem isText_eq (agrees : left.Agrees right related) (text : Text)
    (are : related value value') : left.isText text value = right.isText text value' := by
  have layers := agrees.layer are
  unfold View.isText
  generalize left.layer value = layer, right.layer value' = layer' at layers
  cases layers with
  | @scalar content => cases content <;> rfl
  | _ => rfl

theorem isTruthy_eq (agrees : left.Agrees right related) (are : related value value') :
    (left.layer value).isTruthy = (right.layer value').isTruthy := by
  have layers := agrees.layer are
  generalize left.layer value = layer, right.layer value' = layer' at layers
  cases layers with
  | scalar => rfl
  | list parts | tuple parts | set parts | map parts => cases parts <;> rfl

theorem isNull_eq (agrees : left.Agrees right related) (are : related value value') :
    (left.layer value).isNull = (right.layer value').isNull := by
  have layers := agrees.layer are
  generalize left.layer value = layer, right.layer value' = layer' at layers
  cases layers with
  | @scalar content => cases content <;> rfl
  | _ => rfl

/-- Related entries give related values to a text. -/
theorem find?_rel (agrees : left.Agrees right related) {entries : List (α × α)}
    {entries' : List (β × β)} (are : RelatedEntries related entries entries') (key : Text) :
    Option.Rel related (left.find? entries key) (right.find? entries' key) := by
  unfold View.find?
  induction are with
  | nil => exact .none
  | cons entry rest ih =>
      rw [List.find?_cons, List.find?_cons, agrees.isText_eq key entry.1]
      split
      · exact .some entry.2
      · exact ih

end View.Agrees

end UsageContracts

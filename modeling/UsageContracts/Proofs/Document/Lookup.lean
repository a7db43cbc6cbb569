import UsageContracts.Json.Basic

/-!
# Looking up entries

What a view finds in the entries of a map, which entries the document value of a
JSON object has, and when entries make up a map as they are.  Names that are
literals are compared as strings, so that simplification decides which of two
literal names is meant.
-/

namespace UsageContracts

namespace Text

theorem ofString_inj {first second : String} :
    ofString first = ofString second ↔ first = second := by
  constructor
  · intro texts_eq
    have characters_eq : first.toList = second.toList := by
      simpa [ofString, ofCharacters, List.map_inj_right] using texts_eq
    exact String.toList_inj.mp characters_eq
  · rintro rfl
    rfl

theorem ofString_append_ofString (first second : String) :
    ofString first ++ ofString second = ofString (first ++ second) := by
  simp [ofString, ofCharacters]

end Text

namespace View

variable {α : Type} (view : View α)

@[simp]
theorem find?_nil (key : Text) : view.find? [] key = none :=
  rfl

theorem find?_cons (entry : α × α) (entries : List (α × α)) (key : Text) :
    view.find? (entry :: entries) key =
      if view.isText key entry.1 then some entry.2 else view.find? entries key := by
  cases found : view.isText key entry.1 <;> simp [find?, found]

theorem find?_append (first second : List (α × α)) (key : Text) :
    view.find? (first ++ second) key = (view.find? first key).or (view.find? second key) := by
  simp [find?, List.find?_append, Option.map_or]

end View

namespace Value

@[simp]
theorem view_layer (value : Value) : view.layer value = value.layer :=
  rfl

@[simp]
theorem layer_scalar (content : Scalar) : (scalar content).layer = .scalar content :=
  rfl

@[simp]
theorem layer_list (items : List Value) : (list items).layer = .list items :=
  rfl

@[simp]
theorem layer_tuple (items : List Value) : (tuple items).layer = .tuple items :=
  rfl

@[simp]
theorem layer_set (members : List Value) : (set members).layer = .set members :=
  rfl

@[simp]
theorem layer_map (entries : List (Value × Value)) : (map entries).layer = .map entries :=
  rfl

@[simp]
theorem isTruthy_text (text : Text) :
    (Layer.scalar (α := Value) (.text text)).isTruthy = !text.isEmpty :=
  rfl

@[simp]
theorem isText_text (key name : Text) :
    view.isText key (.scalar (.text name)) = (name == key) :=
  rfl

theorem isText_iff {text : Text} {key : Value} :
    view.isText text key = true ↔ key = .scalar (.text text) := by
  cases key with
  | scalar content => cases content <;> simp [View.isText]
  | _ => simp [View.isText]

theorem isNull_layer_iff {value : Value} : value.layer.isNull = true ↔ value = .null := by
  cases value with
  | scalar content => cases content <;> simp [layer, Layer.isNull, null]
  | _ => simp [layer, Layer.isNull, null]

/-- Whether entries give each name at most one value, as those of a map do. -/
def HaveDistinctNames (entries : List (Value × Value)) : Prop :=
  ∀ (name : Text) (value other : Value), (.scalar (.text name), value) ∈ entries →
    (.scalar (.text name), other) ∈ entries → value = other

section

variable {entries : List (Value × Value)} {name : Text} {value : Value}

theorem mem_of_find?_eq_some (found : view.find? entries name = some value) :
    (.scalar (.text name), value) ∈ entries := by
  obtain ⟨⟨key, _⟩, entry_eq, rfl⟩ := Option.map_eq_some_iff.mp found
  have isName := List.find?_some entry_eq
  obtain rfl := isText_iff.mp isName
  exact List.mem_of_find?_eq_some entry_eq

theorem find?_eq_none_iff :
    view.find? entries name = none ↔ ∀ value, (.scalar (.text name), value) ∉ entries := by
  rw [View.find?, Option.map_eq_none_iff, List.find?_eq_none]
  constructor
  · intro missing value member
    exact missing _ member (isText_iff.mpr rfl)
  · rintro missing ⟨key, value⟩ member isName
    obtain rfl := isText_iff.mp isName
    exact missing value member

theorem find?_eq_some_iff (distinct : HaveDistinctNames entries) :
    view.find? entries name = some value ↔ (.scalar (.text name), value) ∈ entries := by
  refine ⟨mem_of_find?_eq_some, fun member => ?_⟩
  cases found : view.find? entries name with
  | none => exact (find?_eq_none_iff.mp found value member).elim
  | some other => rw [distinct name value other member (mem_of_find?_eq_some found)]

end

end Value

namespace Json

@[simp]
theorem toValue_text (text : Text) : (Json.text text).toValue = .scalar (.text text) :=
  rfl

@[simp]
theorem toValue_list (items : List Json) :
    (Json.list items).toValue = .list (items.map toValue) := by
  have itemValues_eq : itemValues items = items.map toValue := by
    induction items with
    | nil => rfl
    | cons item items ih => rw [itemValues, ih, List.map_cons]
  rw [toValue, itemValues_eq]

theorem memberValues_eq_map (members : List (Text × Json)) :
    memberValues members =
      members.map fun member => (Value.scalar (.text member.1), member.2.toValue) := by
  induction members with
  | nil => rfl
  | cons member members ih => rw [memberValues, ih, List.map_cons, memberValue]

@[simp]
theorem toValue_object (members : List (Text × Json)) :
    (Json.object members).toValue = .map (memberValues members) :=
  rfl

@[simp]
theorem memberValues_nil : memberValues [] = [] :=
  rfl

@[simp]
theorem memberValues_cons (name : Text) (json : Json) (members : List (Text × Json)) :
    memberValues (member name json :: members) =
      (.scalar (.text name), json.toValue) :: memberValues members :=
  rfl

@[simp]
theorem memberValues_append (first second : List (Text × Json)) :
    memberValues (first ++ second) = memberValues first ++ memberValues second := by
  simp [memberValues_eq_map]

/-- A member that is present only on a condition is found only on it. -/
theorem find?_memberIf (condition : Bool) (name key : Text) (json : Json) :
    Value.view.find? (memberValues (memberIf condition name json)) key =
      if condition ∧ name = key then some json.toValue else none := by
  cases condition <;> simp [memberIf, View.find?_cons]

end Json

/-! ## Entries with different keys -/

section

variable {κ ν : Type} {isSame : κ → κ → Bool}

theorem putEntry_eq_append {key : κ} {value : ν} {entries : List (κ × ν)}
    (fresh : ∀ entry ∈ entries, isSame entry.1 key = false) :
    putEntry isSame key value entries = entries ++ [(key, value)] := by
  induction entries with
  | nil => rfl
  | cons entry entries ih =>
      rw [putEntry, fresh entry (by simp), ih fun other member => fresh other (by simp [member])]
      rfl

theorem foldl_putEntry_eq_append {merged entries : List (κ × ν)}
    (differ : (merged ++ entries).Pairwise fun earlier later =>
      isSame earlier.1 later.1 = false) :
    entries.foldl (fun merged (key, value) => putEntry isSame key value merged) merged =
      merged ++ entries := by
  induction entries generalizing merged with
  | nil => simp
  | cons entry entries ih =>
      rcases entry with ⟨key, value⟩
      have fresh : ∀ earlier ∈ merged, isSame earlier.1 key = false := fun earlier member =>
        (List.pairwise_append.mp differ).2.2 earlier member (key, value) (by simp)
      simp only [List.foldl_cons, putEntry_eq_append fresh]
      rw [ih (by simpa using differ), List.append_assoc, List.singleton_append]

/-- A key that is there already stays as it is. -/
theorem putEntry_keys {key : κ} {value : ν} {entries : List (κ × ν)}
    (present : ∃ entry ∈ entries, isSame entry.1 key = true) :
    (putEntry isSame key value entries).map (·.1) = entries.map (·.1) := by
  induction entries with
  | nil => simp at present
  | cons entry entries ih =>
      rw [putEntry]
      split
      · rfl
      · next differs =>
          have present : ∃ entry ∈ entries, isSame entry.1 key = true := by
            simpa [differs] using present
          rw [List.map_cons, List.map_cons, ih present]

theorem putEntry_pairwise {key : κ} {value : ν} {entries : List (κ × ν)}
    (differ : entries.Pairwise fun earlier later => isSame earlier.1 later.1 = false) :
    (putEntry isSame key value entries).Pairwise fun earlier later =>
      isSame earlier.1 later.1 = false := by
  by_cases present : ∃ entry ∈ entries, isSame entry.1 key = true
  · have keysDiffer : (entries.map (·.1)).Pairwise (isSame · · = false) :=
      List.pairwise_map.mpr differ
    rw [← putEntry_keys present] at keysDiffer
    exact List.pairwise_map.mp keysDiffer
  · have fresh : ∀ entry ∈ entries, isSame entry.1 key = false := by
      simpa only [not_exists, not_and, Bool.not_eq_true] using present
    rw [putEntry_eq_append fresh, List.pairwise_append]
    refine ⟨differ, List.pairwise_singleton _ _, fun entry member last isLast => ?_⟩
    rw [List.mem_singleton.mp isLast]
    exact fresh entry member

/-- The keys of a map differ from each other. -/
theorem mergeEntries_pairwise (entries : List (κ × ν)) :
    (mergeEntries isSame entries).Pairwise fun earlier later =>
      isSame earlier.1 later.1 = false := by
  have fold (merged : List (κ × ν))
      (differ : merged.Pairwise fun earlier later => isSame earlier.1 later.1 = false) :
      (entries.foldl (fun merged entry => putEntry isSame entry.1 entry.2 merged) merged).Pairwise
        fun earlier later => isSame earlier.1 later.1 = false := by
    induction entries generalizing merged with
    | nil => exact differ
    | cons entry entries ih => exact ih _ (putEntry_pairwise differ)
  exact fold [] .nil

/-- Entries with different keys make up a map as they are. -/
theorem mergeEntries_eq_self {entries : List (κ × ν)}
    (differ : entries.Pairwise fun earlier later => isSame earlier.1 later.1 = false) :
    mergeEntries isSame entries = entries :=
  foldl_putEntry_eq_append differ

end

end UsageContracts

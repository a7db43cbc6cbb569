import UsageContracts.Yaml.Cursor

/-!
# Moving through a text

What of a cursor changes when it passes over a part of the text.
-/

namespace UsageContracts.Yaml.Cursor

theorem moveTo_eq_foldl {cursor : Cursor} {passed rest : List Char}
    (rest_eq : cursor.rest = passed ++ rest) : cursor.moveTo rest = passed.foldl pass cursor := by
  simp [moveTo, rest_eq]

theorem foldl_pass_rest (passed : List Char) (cursor : Cursor) :
    (passed.foldl pass cursor).rest = cursor.rest.drop passed.length := by
  induction passed generalizing cursor with
  | nil => rfl
  | cons character passed ih =>
      have pass_rest : (cursor.pass character).rest = cursor.rest.tail := by
        simp only [pass]
        split
        · rfl
        · split <;> rfl
      rw [List.foldl_cons, ih, pass_rest, List.length_cons, List.drop_tail]

/-- Passing over a part of a line leaves the line as it is and counts the characters. -/
theorem foldl_pass_onLine (passed : List Char) (cursor : Cursor)
    (onLine : ∀ character ∈ passed, isBreak character = false) :
    (passed.foldl pass cursor).line = cursor.line ∧
      (passed.foldl pass cursor).offset = cursor.offset + passed.length := by
  induction passed generalizing cursor with
  | nil => exact ⟨rfl, rfl⟩
  | cons character passed ih =>
      have passes : (cursor.pass character).line = cursor.line ∧
          (cursor.pass character).offset = cursor.offset + 1 := by
        simp only [pass, onLine character List.mem_cons_self, Bool.false_and, Bool.false_eq_true,
          if_false]
        split <;> exact ⟨rfl, rfl⟩
      rw [List.foldl_cons]
      obtain ⟨line_eq, offset_eq⟩ :=
        ih (cursor.pass character) fun other member => onLine other (List.mem_cons_of_mem _ member)
      rw [line_eq, offset_eq, passes.1, passes.2, List.length_cons]
      exact ⟨rfl, by omega⟩

theorem moveTo_rest {cursor : Cursor} {passed rest : List Char}
    (rest_eq : cursor.rest = passed ++ rest) : (cursor.moveTo rest).rest = rest := by
  rw [moveTo_eq_foldl rest_eq, foldl_pass_rest, rest_eq, List.drop_left]

theorem moveTo_moveTo {cursor : Cursor} {first second rest : List Char}
    (rest_eq : cursor.rest = first ++ (second ++ rest)) :
    (cursor.moveTo (second ++ rest)).moveTo rest = cursor.moveTo rest := by
  have whole_eq : cursor.rest = (first ++ second) ++ rest := by
    rw [rest_eq, List.append_assoc]
  rw [moveTo_eq_foldl (moveTo_rest rest_eq), moveTo_eq_foldl rest_eq, moveTo_eq_foldl whole_eq,
    List.foldl_append]

end UsageContracts.Yaml.Cursor

import Mathlib.Data.List.Basic
import UsageContracts.Files.Tree

/-!
# Places of files

Where a path leads, and what the writing of a file changes: the content at one place.
-/

namespace UsageContracts

/-! ## Growing contents -/

/-- A file has kept its content or has gained some at its end; a file that is not there
counts as empty. -/
inductive HasGrown : Option Text → Option Text → Prop
  | same {content? : Option Text} : HasGrown content? content?
  | more {content? : Option Text} {added : Text} :
      HasGrown content? (some (content?.getD [] ++ added))

theorem HasGrown.trans {first? second? third? : Option Text} (first : HasGrown first? second?)
    (second : HasGrown second? third?) : HasGrown first? third? := by
  cases second with
  | same => exact first
  | more =>
      cases first with
      | same => exact .more
      | more =>
          rw [Option.getD_some, List.append_assoc]
          exact .more

namespace FileTree

/-! ## Putting files -/

theorem lookup_cons (entry : FilePlace × Text) (files : List (FilePlace × Text))
    (place : FilePlace) :
    (entry :: files).lookup place =
      if place = entry.1 then some entry.2 else files.lookup place := by
  by_cases place_eq : place = entry.1
  · rw [if_pos place_eq, List.lookup_cons, beq_iff_eq.mpr place_eq]
  · rw [if_neg place_eq, List.lookup_cons, beq_eq_false_iff_ne.mpr place_eq]

theorem lookup_replace (place other : FilePlace) (content : Text)
    (files : List (FilePlace × Text)) :
    (files.map fun file => if file.1 = place then (place, content) else file).lookup other =
      if other = place then (files.lookup place).map fun _ => content
      else files.lookup other := by
  induction files with
  | nil => simp
  | cons file files ih =>
      rw [List.map_cons, lookup_cons, lookup_cons, lookup_cons, ih]
      by_cases file_eq : file.1 = place
      · by_cases other_eq : other = place <;> simp [file_eq, other_eq]
      · by_cases other_eq : other = place
        · simp [file_eq, other_eq, Ne.symm file_eq]
        · simp [file_eq, other_eq]

/-- Putting a file changes the content at its place and no other. -/
theorem content?_put (tree : FileTree) (place other : FilePlace) (content : Text) :
    (tree.put place content).content? other =
      if other = place then some content else tree.content? other := by
  cases found : tree.content? place with
  | some old =>
      have files_eq : (tree.put place content).files =
          tree.files.map fun file => if file.1 = place then (place, content) else file := by
        simp [put, found]
      have lookup_eq : tree.files.lookup place = some old := found
      rw [content?, files_eq, lookup_replace, lookup_eq, Option.map_some]
      rfl
  | none =>
      have files_eq : (tree.put place content).files = tree.files ++ [(place, content)] := by
        simp [put, found]
      have lookup_eq : tree.files.lookup place = none := found
      rw [content?, files_eq, List.lookup_append, lookup_cons]
      by_cases other_eq : other = place
      · simp [other_eq, lookup_eq]
      · simp [other_eq, content?]

/-! ## Where paths lead -/

/-- The place to which a path leads. -/
def placeOf (tree : FileTree) (path : Path) : FilePlace :=
  (path.absolute tree.here).parts

theorem placeOf_eq (tree : FileTree) (path : Path) :
    tree.placeOf path =
      path.parts.foldl Path.stepTo (if path.isFromRoot then [] else tree.here) := by
  unfold placeOf Path.absolute
  split <;> rfl

theorem placeOf_of_here_eq {before after : FileTree} (here_eq : after.here = before.here)
    (path : Path) : after.placeOf path = before.placeOf path := by
  rw [placeOf, placeOf, here_eq]

/-- A way leads to a file, or to where one can be made, by its steps. -/
theorem walk_spec (tree : FileTree) (folder : FilePlace) (parts : List Text) :
    (∀ place content, tree.walk folder parts = .file place content →
      place = parts.foldl Path.stepTo folder ∧ tree.content? place = some content) ∧
    ∀ place, tree.walk folder parts = .vacant place →
      place = parts.foldl Path.stepTo folder ∧ tree.content? place = none := by
  induction parts generalizing folder with
  | nil => simp [walk]
  | cons part parts ih =>
      by_cases isUp : part = ".."
      · have step_eq : Path.stepTo folder part = folder.dropLast := if_pos isUp
        simpa only [walk, if_pos isUp, List.foldl_cons, step_eq] using ih folder.dropLast
      · have step_eq : Path.stepTo folder part = folder ++ [part] := if_neg isUp
        simp only [walk, if_neg isUp, List.foldl_cons, step_eq]
        cases isLongName part with
        | true => simp
        | false =>
            cases found : tree.content? (folder ++ [part]) with
            | some content => cases parts <;> simp [found]
            | none =>
                cases tree.isFolder (folder ++ [part]) with
                | true => simpa using ih (folder ++ [part])
                | false => cases parts <;> simp [found]

theorem entry_spec (tree : FileTree) (path : Path) :
    (∀ place content, tree.entry path = .file place content →
      place = tree.placeOf path ∧ tree.content? place = some content) ∧
    ∀ place, tree.entry path = .vacant place →
      place = tree.placeOf path ∧ tree.content? place = none := by
  rw [placeOf_eq]
  unfold entry
  split
  · simp
  · split
    · simp
    · split
      · simp
      · exact tree.walk_spec _ path.parts

/-! ## Writing -/

/-- A file that is changed stands where its path leads. -/
theorem eq_put_of_update {tree after : FileTree} {path : Path} {change : Text → Text}
    (updated : tree.update path change = .ok after) :
    after =
      tree.put (tree.placeOf path) (change ((tree.content? (tree.placeOf path)).getD [])) := by
  unfold update at updated
  split at updated
  · next place content entry_eq =>
      obtain ⟨rfl, content_eq⟩ := (tree.entry_spec path).1 place content entry_eq
      rw [content_eq]
      exact (Except.ok.inj updated).symm
  · next place entry_eq =>
      obtain ⟨rfl, content_eq⟩ := (tree.entry_spec path).2 place entry_eq
      rw [content_eq]
      exact (Except.ok.inj updated).symm
  · cases updated
  · cases updated

/-- A file that is written holds the text, or nothing if the text cannot be encoded. -/
theorem eq_put_of_write {tree after : FileTree} {path : Path} {text : Text}
    {fault? : Option EncodingFault} (written : tree.write path text = .ok (after, fault?)) :
    fault? = text.contentFault? ∧
      after = tree.put (tree.placeOf path) (if fault?.isSome then [] else text) := by
  simp only [write] at written
  cases updated : tree.update path fun _ => if text.contentFault?.isSome then [] else text with
  | error fault =>
      rw [updated] at written
      cases written
  | ok emptied =>
      rw [updated] at written
      cases written
      exact ⟨rfl, eq_put_of_update updated⟩

/-- Only the file at one place has changed, if any, and it has grown. -/
structure HasGrownAt (place? : Option FilePlace) (before after : FileTree) : Prop where
  here_eq : after.here = before.here
  folders_eq : after.folders = before.folders
  others_eq : ∀ place, place ∉ place? → after.content? place = before.content? place
  grown : ∀ place ∈ place?, HasGrown (before.content? place) (after.content? place)

namespace HasGrownAt

variable {place? : Option FilePlace} {before middle after : FileTree}

theorem refl (place? : Option FilePlace) (tree : FileTree) : HasGrownAt place? tree tree :=
  ⟨rfl, rfl, fun _ _ => rfl, fun _ _ => .same⟩

theorem trans (first : HasGrownAt place? before middle) (second : HasGrownAt place? middle after) :
    HasGrownAt place? before after where
  here_eq := second.here_eq.trans first.here_eq
  folders_eq := second.folders_eq.trans first.folders_eq
  others_eq place other := (second.others_eq place other).trans (first.others_eq place other)
  grown place member := (first.grown place member).trans (second.grown place member)

theorem append {path : Path} {text : Text} (appended : before.append path text = .ok after) :
    HasGrownAt (some (before.placeOf path)) before after := by
  obtain rfl := eq_put_of_update appended
  refine ⟨rfl, rfl, fun place other => ?_, fun place member => ?_⟩
  · rw [content?_put, if_neg fun place_eq => other (by rw [place_eq]; rfl)]
  · obtain rfl := Option.some.inj member
    rw [content?_put, if_pos rfl]
    exact .more

end HasGrownAt

end FileTree

end UsageContracts

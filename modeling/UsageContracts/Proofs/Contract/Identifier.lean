import Mathlib.Data.List.TakeWhile
import UsageContracts.Contract.Terms
import UsageContracts.Proofs.Text.LetterCase

/-!
# Local names

The local name of an identifier is its longest end in which no code point ends a
namespace, although these code points are looked for one after the other.  In every
namespace an identifier therefore stands for the same term as its local name alone.
-/

namespace UsageContracts

/-! ## Ends of texts -/

namespace Text

/-- Whether a text is the longest end of another one without some code points. -/
structure IsLongestEnd (stops : List CodePoint) (text ending : Text) : Prop where
  isSuffix : ending <:+ text
  free : ∀ stop ∈ stops, stop ∉ ending
  longest : ∀ other : Text, other <:+ text → (∀ stop ∈ stops, stop ∉ other) →
    other.length ≤ ending.length

variable {text ending other : Text} {stop : CodePoint} {stops : List CodePoint}

theorem afterLast_suffix (text : Text) (stop : CodePoint) : text.afterLast stop <:+ text := by
  rw [← List.reverse_prefix, afterLast, List.reverse_reverse]
  exact List.takeWhile_prefix _

theorem not_mem_afterLast (text : Text) (stop : CodePoint) : stop ∉ text.afterLast stop := by
  intro member
  have passed := List.mem_takeWhile_imp (List.mem_reverse.mp member)
  simp at passed

/-- An end of a text without a code point is an end of what follows the last
occurrence of the code point. -/
theorem suffix_afterLast (isSuffix : ending <:+ text) (free : stop ∉ ending) :
    ending <:+ text.afterLast stop := by
  obtain ⟨before, rfl⟩ := isSuffix
  have passes : ∀ point ∈ ending.reverse, decide (point ≠ stop) = true := by
    intro point member
    have notStop : point ≠ stop := by
      rintro rfl
      exact free (List.mem_reverse.mp member)
    exact decide_eq_true notStop
  rw [← List.reverse_prefix, afterLast, List.reverse_reverse, List.reverse_append,
    List.takeWhile_append_of_pos passes]
  exact List.prefix_append _ _

namespace IsLongestEnd

theorem refl (text : Text) : IsLongestEnd [] text text where
  isSuffix := List.suffix_refl text
  free := List.forall_mem_nil _
  longest _ isSuffix _ := isSuffix.length_le

theorem suffix_of_length_le (longest : IsLongestEnd stops text ending) (isSuffix : other <:+ text)
    (free : ∀ stop ∈ stops, stop ∉ other) : other <:+ ending :=
  List.suffix_of_suffix_length_le isSuffix longest.isSuffix (longest.longest other isSuffix free)

theorem unique (longest : IsLongestEnd stops text ending)
    (otherLongest : IsLongestEnd stops text other) : ending = other := by
  have isSuffix : ending <:+ other :=
    otherLongest.suffix_of_length_le longest.isSuffix longest.free
  exact isSuffix.eq_of_length_le
    (longest.longest other otherLongest.isSuffix otherLongest.free)

/-- One more code point to be without is dropped with all before it. -/
theorem afterLast (longest : IsLongestEnd stops text ending) (stop : CodePoint) :
    IsLongestEnd (stops ++ [stop]) text (ending.afterLast stop) where
  isSuffix := (afterLast_suffix ending stop).trans longest.isSuffix
  free := by
    refine List.forall_mem_append.mpr ⟨fun seen member inside => ?_, ?_⟩
    · exact longest.free seen member ((afterLast_suffix ending stop).mem inside)
    · exact List.forall_mem_singleton.mpr (not_mem_afterLast ending stop)
  longest other isSuffix free := by
    obtain ⟨seenFree, stopFree⟩ := List.forall_mem_append.mp free
    have inEnding := longest.suffix_of_length_le isSuffix seenFree
    exact (suffix_afterLast inEnding (stopFree stop List.mem_cons_self)).length_le

/-- The order in which the code points are looked for does not matter, since what is left
is the longest end without those that have been looked for. -/
theorem foldl_afterLast {seen : List CodePoint} (longest : IsLongestEnd seen text ending)
    (stops : List CodePoint) :
    IsLongestEnd (seen ++ stops) text (stops.foldl Text.afterLast ending) := by
  induction stops generalizing seen ending with
  | nil => rwa [List.append_nil]
  | cons stop stops ih =>
      rw [List.foldl_cons, List.append_cons]
      exact ih (longest.afterLast stop)

/-- What stands before one of the code points does not matter. -/
theorem append_cons (longest : IsLongestEnd stops text ending) (member : stop ∈ stops)
    (before : Text) : IsLongestEnd stops (before ++ stop :: text) ending where
  isSuffix := longest.isSuffix.trans ⟨before ++ [stop], by simp⟩
  free := longest.free
  longest other isSuffix free := by
    have notLonger : other <:+ text := by
      rcases List.suffix_or_suffix_of_suffix isSuffix (List.suffix_append before (stop :: text))
        with inside | outside
      · rcases List.suffix_cons_iff.mp inside with rfl | inText
        · exact (free stop member List.mem_cons_self).elim
        · exact inText
      · exact (free stop member (outside.mem List.mem_cons_self)).elim
    exact longest.longest other notLonger free

end IsLongestEnd

end Text

/-! ## Local names -/

section

open Text (IsLongestEnd)

theorem isNamespaceEnd_iff {point : CodePoint} :
    point.isNamespaceEnd = true ↔ point ∈ namespaceEnds := by
  simp [CodePoint.isNamespaceEnd, namespaceEnds, or_assoc]

/-- No code point that names are made of ends a namespace. -/
theorem CodePoint.IsEitherCase.isNamespaceEnd_eq_false {point : CodePoint}
    (eitherCase : point.IsEitherCase) : point.isNamespaceEnd = false := by
  rw [IsEitherCase, isNameLetter_iff] at eitherCase
  simp only [isNamespaceEnd, Bool.or_eq_false_iff, decide_eq_false_iff_not,
    ← number_injective.eq_iff]
  have numbers : number '#' = 35 ∧ number '/' = 47 ∧ number ':' = 58 := ⟨rfl, rfl, rfl⟩
  omega

theorem localName_isLongestEnd (identifier : Text) :
    IsLongestEnd namespaceEnds identifier (localName identifier) :=
  (IsLongestEnd.refl identifier).foldl_afterLast namespaceEnds

theorem localName_qualified {separator : CodePoint} (ends : separator.isNamespaceEnd = true)
    (space name : Text) : localName (space ++ separator :: name) = localName name :=
  (localName_isLongestEnd _).unique <|
    (localName_isLongestEnd name).append_cons (isNamespaceEnd_iff.mp ends) space

theorem localName_eq_self {name : Text}
    (plain : ∀ point ∈ name, point.isNamespaceEnd = false) : localName name = name := by
  have free : ∀ stop ∈ namespaceEnds, stop ∉ name := by
    intro stop isStop member
    cases (plain stop member).symm.trans (isNamespaceEnd_iff.mpr isStop)
  exact (localName_isLongestEnd name).unique
    ⟨List.suffix_refl name, free, fun _ isSuffix _ => isSuffix.length_le⟩

end

end UsageContracts

import Mathlib.Data.List.Infix
import RestrictedApi.Proofs.SimpleName
import RestrictedApi.Restriction

/-!
# Namespaces

A restriction compares names as texts: a package is covered if its name is the base namespace or
goes on after it with a dot.  This module shows that the comparison is one of segments, whatever the
texts are: the segments of the base namespace are the first ones of the package.  So namespaces are
ordered like paths in a tree.
-/

namespace RestrictedApi

namespace Text

/-!
# Joining segments

Cutting a text loses nothing, so a text goes on after another one with a separator exactly if it has
further segments.
-/

theorem splitChars_injective (separator : Char) : Function.Injective (splitChars separator) :=
  Function.LeftInverse.injective (intercalate_splitChars separator)

theorem prefix_intercalate_append (separator : Char) {first : List (List Char)}
    (hfirst : first ≠ []) (segment : List Char) (rest : List (List Char)) :
    [separator].intercalate first ++ [separator] <+:
      [separator].intercalate (first ++ segment :: rest) := by
  induction first with
  | nil => exact absurd rfl hfirst
  | cons head tail ih =>
      cases tail with
      | nil =>
          rw [List.intercalate_singleton, List.singleton_append, List.intercalate_cons_cons]
          exact List.prefix_append _ _
      | cons next others =>
          rw [List.cons_append, List.cons_append, List.intercalate_cons_cons,
            List.intercalate_cons_cons, List.append_assoc (head ++ [separator])]
          exact (List.prefix_append_right_inj _).mpr (ih (List.cons_ne_nil next others))

theorem splitChars_prefix_iff {separator : Char} {start chars : List Char} :
    splitChars separator start <+: splitChars separator chars ↔
      chars = start ∨ start ++ [separator] <+: chars := by
  constructor
  · rintro ⟨others, hothers⟩
    cases others with
    | nil =>
        rw [List.append_nil] at hothers
        exact Or.inl (splitChars_injective separator hothers).symm
    | cons segment rest =>
        have hjoined := prefix_intercalate_append separator (splitChars_ne_nil separator start)
          segment rest
        rw [hothers, intercalate_splitChars, intercalate_splitChars] at hjoined
        exact Or.inr hjoined
  · rintro (heq | ⟨others, hothers⟩)
    · rw [heq]
    · rw [← hothers, List.append_assoc, List.singleton_append, splitChars_append]
      exact List.prefix_append _ _

theorem segments_prefix_iff {separator : Char} {start text : String} :
    segments separator start <+: segments separator text ↔
      text = start ∨ start.toList ++ [separator] <+: text.toList := by
  have hofList : Function.Injective String.ofList :=
    Function.LeftInverse.injective fun _ => String.toList_ofList
  rw [segments, segments, List.prefix_map_iff_of_injective hofList, splitChars_prefix_iff,
    String.toList_inj]

end Text

namespace Restriction

/-!
# The order of namespaces
-/

theorem containsNamespace_iff_segments (restriction : Restriction) (name : String) :
    restriction.containsNamespace name = true ↔
      Text.segments '.' restriction.baseNamespace <+: Text.segments '.' name := by
  rw [Text.segments_prefix_iff, containsNamespace, Bool.or_eq_true, beq_iff_eq, Text.begins,
    List.isPrefixOf_iff_prefix, String.toList_append]
  rfl

/-- Namespaces are compared by their segments.  So each contains itself and what the namespaces in
it contain, and of two that have a namespace in common one contains the other. -/
theorem namespaces_ordered_by_segments (base other : Restriction) (name : String) :
    (base.containsNamespace name = true ↔
      Text.segments '.' base.baseNamespace <+: Text.segments '.' name) ∧
    base.containsNamespace base.baseNamespace = true ∧
    (base.containsNamespace other.baseNamespace = true → other.containsNamespace name = true →
      base.containsNamespace name = true) ∧
    (base.containsNamespace name = true → other.containsNamespace name = true →
      base.containsNamespace other.baseNamespace = true ∨
        other.containsNamespace base.baseNamespace = true) := by
  simp only [containsNamespace_iff_segments, true_and]
  refine ⟨List.prefix_refl _, ?_, ?_⟩
  · exact List.IsPrefix.trans
  · exact List.prefix_or_prefix_of_prefix

/-- A package two levels down is in both namespaces above it, and one whose name only starts with
the same letters is in neither. -/
theorem cachePackage_ordered :
    let google : Restriction := { baseNamespace := "com.google", marker := "" }
    let common : Restriction := { baseNamespace := "com.google.common", marker := "" }
    (google.containsNamespace "com.google.common" = true ∧
        common.containsNamespace "com.google.common.cache" = true ∧
        google.containsNamespace "com.google.common.cache" = true) ∧
      common.containsNamespace "com.google.common2" = false ∧
      google.containsNamespace "com.googlecommon" = false := by
  intro google common
  have houter : google.containsNamespace common.baseNamespace = true := by decide
  have hinner : common.containsNamespace "com.google.common.cache" = true := by decide
  have hordered := namespaces_ordered_by_segments google common "com.google.common.cache"
  exact ⟨⟨houter, hinner, hordered.2.2.1 houter hinner⟩, by decide, by decide⟩

end Restriction

end RestrictedApi

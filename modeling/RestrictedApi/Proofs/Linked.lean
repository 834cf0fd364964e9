import RestrictedApi.Program
import RestrictedApi.Proofs.Collected

/-!
# Linking keeps records sound

Linking fills in the supertypes of types and the types of members, which it looks up in the records,
and writes annotations on symbols.  So the records of every program are sound.
-/

namespace RestrictedApi
namespace Declarations.Sound

variable {simple : Prop} {decls : Declarations} {table : SymbolTable}

theorem noParameters : TypeParameters.Sound table [] := by
  intro name id hmem
  cases hmem

theorem supertype_lt (h : decls.Sound simple table) {id found : SymbolId} {decl : TypeDecl}
    {name : DottedName} (hfound : decls.supertype? id decl name = some found) :
    found < table.size :=
  h.typeOf_lt noParameters (Option.filter_eq_some_iff.mp hfound).1

theorem linkType (h : decls.Sound simple table) (id : SymbolId) :
    (decls.linkType id).Sound simple table := by
  unfold Declarations.linkType
  cases hdecl : decls.types[id]? with
  | none => exact h
  | some decl =>
      refine { h with types := ?_ }
      intro other found hfound
      change (decls.types.modify id _)[other]? = some found at hfound
      rw [Std.TreeMap.getElem?_modify] at hfound
      split at hfound
      · rename_i heq
        rcases Option.map_eq_some_iff.mp hfound with ⟨before, hbefore, hafter⟩
        rw [← Std.compare_eq_iff_eq.mp heq, ← hafter]
        have htype := h.types hbefore
        refine ⟨htype.1, { htype.2 with supertypes := ?_ }⟩
        intro supertype hsupertype
        rcases List.mem_append.mp hsupertype with hsuperclass | hinterface
        · rcases Option.bind_eq_some_iff.mp (Option.mem_toList.mp hsuperclass) with
            ⟨name, _, hname⟩
          exact h.supertype_lt hname
        · rcases List.mem_filterMap.mp hinterface with ⟨name, _, hname⟩
          exact h.supertype_lt hname
      · exact h.types hfound

theorem linkSupertypes (h : decls.Sound simple table) :
    decls.linkSupertypes.Sound simple table := by
  unfold Declarations.linkSupertypes
  generalize decls.types.keys = ids
  induction ids generalizing decls with
  | nil => exact h
  | cons id rest ih => exact ih (h.linkType id)

theorem linkMember (h : decls.Sound simple table) {member : MemberDecl}
    (hmember : member.Sound table) : (decls.linkMember member).Sound table := by
  unfold Declarations.linkMember
  split
  · refine { hmember with valueType := ?_ }
    intro id hid
    refine h.typeOf_lt ?_ hid
    intro name parameter hmem
    exact hmember.typeParameters name parameter (List.mem_reverse.mp hmem)
  · exact hmember

theorem linkMembers (h : decls.Sound simple table) : decls.linkMembers.Sound simple table := by
  refine { h with members := ?_ }
  intro id found hfound
  change (decls.members.map _)[id]? = some found at hfound
  rw [Std.TreeMap.getElem?_map] at hfound
  rcases Option.map_eq_some_iff.mp hfound with ⟨member, hmember, heq⟩
  rw [← heq]
  exact ⟨(h.members hmember).1, h.linkMember (h.members hmember).2⟩

end Declarations.Sound

theorem Collected.extends_attach (decls : Declarations) (pending : List PendingAnnotation)
    (table : SymbolTable) : table.Extends (pending.foldl (attach decls) table) := by
  induction pending generalizing table with
  | nil => exact SymbolTable.Extends.refl table
  | cons use rest ih => exact (SymbolTable.Extends.annotate table use.target _).trans (ih _)

theorem Collected.sound_link {simple : Prop} {collected : Collected}
    (h : collected.decls.Sound simple collected.table) :
    collected.link.decls.Sound simple collected.link.table := by
  have hlinked := h.linkSupertypes.linkSupertypes.linkMembers
  have hextends := extends_attach collected.decls.linkSupertypes.linkSupertypes.linkMembers
    collected.decls.linkSupertypes.linkSupertypes.linkMembers.pending.toList collected.table
  rw [Array.foldl_toList] at hextends
  exact { hlinked.extend hextends with }

theorem Program.sound_ofUnits {simple : Prop} {units : List SourceUnit}
    (hunits : simple → ∀ unit, unit ∈ units →
      unit.root.everywhere Node.isNamedSimply none = true) :
    (ofUnits units).decls.Sound simple (ofUnits units).table := by
  apply Collected.sound_link
  apply Collected.sound_ofUnits
  intro hsimple root hroot
  rcases List.mem_map.mp hroot with ⟨unit, hunit, heq⟩
  rw [← heq]
  exact hunits hsimple unit hunit

end RestrictedApi

import RestrictedApi.Proofs.Attached
import RestrictedApi.Proofs.Edited.Collection
import RestrictedApi.Proofs.Mirror.Visit

/-!
# Usages of edited trees

Edited trees declare what the trees declare, in the same order and so with the same numbers.  The
walks over a unit before and after the edit therefore find the same usages.
-/

namespace RestrictedApi

def SourceUnit.edited (edit : Edit) (source : SourceUnit) : SourceUnit :=
  { source with root := source.root.edited edit }

namespace Program

def ofEdited (edit : Edit) (units : List SourceUnit) : Program :=
  ofUnits (units.map (SourceUnit.edited edit))

def InUnit (number : Nat) (site : Site) : Prop :=
  [number] <:+ site.path

theorem InUnit.child {number : Nat} {site child : Site} (h : InUnit number site)
    (hchild : child ∈ site.children) : InUnit number child := by
  rcases Site.path_of_mem_children hchild with ⟨i, _, hpath⟩
  rw [InUnit, hpath]
  exact h.trans (List.suffix_cons i site.path)

variable {edit : Edit} {units : List SourceUnit} {number : Nat} {source : SourceUnit}

theorem alike_collected (h : edit.Harmless (units.map (·.root))) :
    (collected units).Alike h.twinning (collected (units.map (SourceUnit.edited edit))) := by
  have hroots : (units.map (SourceUnit.edited edit)).map (·.root) =
      (units.map (·.root)).map (Node.edited edit) := by
    rw [List.map_map, List.map_map]
    rfl
  rw [collected, collected, hroots]
  exact Collected.alike_ofUnits fun hroot => Edit.Twins.root hroot

theorem table_ofEdited (h : edit.Harmless (units.map (·.root))) :
    (ofEdited edit units).table = (ofUnits units).table := by
  rw [ofEdited, table_ofUnits, table_ofUnits]
  exact (alike_collected h).link.table

theorem decls_ofEdited (h : edit.Harmless (units.map (·.root))) :
    (ofEdited edit units).decls =
      (ofUnits units).decls.withSites (ofEdited edit units).decls.sites := by
  rw [ofEdited, decls_ofUnits, decls_ofUnits]
  exact (alike_collected h).link.decls_eq

theorem sites_ofEdited (h : edit.Harmless (units.map (·.root))) {site twin : Site}
    (htwins : h.twinning.twins site twin) :
    (ofEdited edit units).decls.sites[twin.path]? = (ofUnits units).decls.sites[site.path]? := by
  rw [ofEdited, decls_ofUnits, decls_ofUnits]
  exact (alike_collected h).link.sites htwins

/-- A unit of a program beside the same unit of the edited program. -/
def mirror (h : edit.Harmless (units.map (·.root))) (number : Nat) (source : SourceUnit) :
    Mirror where
  toTwinning := h.twinning.restrict (InUnit number) InUnit.child
  toRenumbering := ⟨(ofUnits units).table, []⟩
  unit := (ofUnits units).walkedUnit number source
  sites := (ofEdited edit units).decls.sites
  sites_eq hsite := by
    rw [walkedUnit]
    exact sites_ofEdited h hsite.1
  simple := False
  sound := sound_ofUnits False.elim

theorem walkedUnit_withSites {program other : Program} {sites : Std.TreeMap Path SymbolId}
    (hdecls : other.decls = program.decls.withSites sites) :
    other.walkedUnit number (source.edited edit) =
      { program.walkedUnit number source with
        decls := (program.walkedUnit number source).decls.withSites sites } := by
  rw [walkedUnit, hdecls]
  rfl

section Mirror

variable (h : edit.Harmless (units.map (·.root))) (number : Nat) (source : SourceUnit)

theorem mirror_unit :
    (mirror h number source).unit = (ofUnits units).walkedUnit number source :=
  rfl

theorem mirror_base : (mirror h number source).base = (ofUnits units).table := by
  rw [mirror]

theorem mirror_twinUnit :
    (mirror h number source).twinUnit =
      (ofEdited edit units).walkedUnit number (source.edited edit) := by
  rw [walkedUnit_withSites (decls_ofEdited h), Mirror.twinUnit, mirror]

end Mirror

theorem alike_walk (h : edit.Harmless (units.map (·.root)))
    (hsource : units[number]? = some source)
    (hdeep : ((ofUnits units).walk number source).tooDeep = none) :
    ((ofUnits units).walk number source).Alike (mirror h number source)
      ((ofEdited edit units).walk number (source.edited edit)) := by
  have hroot : (units.map (·.root))[number]? = some source.root := by
    rw [List.getElem?_map, hsource, Option.map_some]
  have htwins : (mirror h number source).twins ⟨[number], source.root⟩
      ⟨[number], source.root.edited edit⟩ := ⟨.root hroot, List.suffix_rfl⟩
  rw [walk, ← mirror_unit h, ← mirror_base h number source] at hdeep ⊢
  rw [walk, ← mirror_twinUnit h, table_ofEdited h, ← mirror_base h number source]
  exact Mirror.alike_walk (List.append_nil _).symm htwins fun _ => hdeep

theorem usage_eq {h : edit.Harmless (units.map (·.root))} {reference twin : Reference}
    (halike : reference.Alike (mirror h number source) twin) : twin.usage = reference.usage := by
  have hnumber : (mirror h number source).number = id := funext fun _ => ite_self _
  rw [halike.usage, Renumbering.usage, hnumber, Option.map_id]
  rfl

/-- The edited program has the usages of the program. -/
theorem usages_ofEdited (h : edit.Harmless (units.map (·.root))) {usages : List Usage}
    (hsource : units[number]? = some source)
    (husages : ((ofUnits units).usages number).1 = .ok usages) :
    ((ofEdited edit units).usages number).1 = .ok usages := by
  have hunit : (ofUnits units).units[number]? = some source := hsource
  rcases (usages_eq_ok_iff hunit).mp husages with ⟨hdeep, husages⟩
  have hwalk := alike_walk h hsource hdeep
  have hedited : (ofEdited edit units).units[number]? = some (source.edited edit) := by
    change (units.map _)[number]? = _
    rw [List.getElem?_map, hsource, Option.map_some]
  refine (usages_eq_ok_iff hedited).mpr ⟨hwalk.tooDeep_eq.trans hdeep, ?_⟩
  rw [← husages]
  exact map_eq_of_forall₂ hwalk.references usage_eq

end Program

end RestrictedApi

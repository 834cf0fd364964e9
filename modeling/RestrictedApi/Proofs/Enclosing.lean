import Mathlib.Data.List.Perm.Subperm
import RestrictedApi.Proofs.Recorded

/-!
# The types around a declaration

A declaration stands within types, which have been declared before it.  They are recorded so that
following the types outwards from the innermost one meets exactly these.
-/

namespace RestrictedApi

/-- The types that a list of sites declare, innermost first, each of them within the next. -/
inductive Declarations.Surrounds (decls : Declarations) : List Site → List SymbolId → Prop where
  | nil : Surrounds decls [] []
  | cons {site : Site} {sites : List Site} {id : SymbolId} {ids : List SymbolId} :
      decls.sites[site.path]? = some id →
      decls.outer? id = some ids.head? →
      (∀ other, other ∈ ids → other < id) →
      Surrounds decls sites ids →
      Surrounds decls (site :: sites) (id :: ids)

namespace Declarations.Surrounds

variable {decls : Declarations} {sites : List Site} {ids : List SymbolId}

theorem sites_eq (h : decls.Surrounds sites ids) :
    sites.map (fun site => decls.sites[site.path]?) = ids.map some := by
  induction h with
  | nil => rfl
  | cons hsite _ _ _ ih => rw [List.map_cons, List.map_cons, hsite, ih]

theorem nodup (h : decls.Surrounds sites ids) : ids.Nodup := by
  induction h with
  | nil => exact List.nodup_nil
  | cons _ _ hbefore _ ih =>
      refine List.nodup_cons.mpr ⟨?_, ih⟩
      intro hmem
      exact Nat.lt_irrefl _ (hbefore _ hmem)

theorem mem_keys (h : decls.Surrounds sites ids) {id : SymbolId} (hid : id ∈ ids) :
    id ∈ decls.types.keys := by
  induction h with
  | nil => cases hid
  | @cons site sites first ids _ houter _ _ ih =>
      rcases List.mem_cons.mp hid with heq | hrest
      · rw [heq, Std.TreeMap.mem_keys]
        rcases Option.map_eq_some_iff.mp houter with ⟨decl, hdecl, _⟩
        exact Std.TreeMap.mem_iff_isSome_getElem?.mpr (by rw [hdecl]; rfl)
      · exact ih hrest

theorem length_le (h : decls.Surrounds sites ids) : ids.length ≤ decls.types.size := by
  rw [← Std.TreeMap.length_keys]
  exact (h.nodup.subperm fun _ hid => h.mem_keys hid).length_le

/-- Following the types outwards meets exactly these. -/
theorem addOuter_eq (h : decls.Surrounds sites ids) {rounds : Nat} (hrounds : ids.length ≤ rounds)
    {before : List SymbolId} (hbefore : ∀ id, id ∈ ids → id ∉ before) :
    decls.addOuter rounds before ids.head? = before ++ ids := by
  induction h generalizing rounds before with
  | nil =>
      rw [List.append_nil]
      cases rounds <;> rfl
  | @cons site sites id ids _ houter hinner hrest ih =>
      cases rounds with
      | zero => exact absurd hrounds (Nat.not_succ_le_zero _)
      | succ rounds =>
          have hnew : before.contains id = false := by
            simpa using hbefore id List.mem_cons_self
          have hnext : decls.types[id]?.bind (·.outer) = ids.head? := by
            rcases Option.map_eq_some_iff.mp houter with ⟨decl, hdecl, hdeclOuter⟩
            rw [hdecl, Option.bind_some, hdeclOuter]
          rw [List.head?_cons, addOuter, hnew, hnext, if_neg Bool.false_ne_true]
          have hothers : ∀ other, other ∈ ids → other ∉ before ++ [id] := by
            intro other hother hmem
            rcases List.mem_append.mp hmem with hold | hsame
            · exact hbefore other (List.mem_cons_of_mem id hother) hold
            · rw [List.mem_singleton.mp hsame] at hother
              exact Nat.lt_irrefl _ (hinner id hother)
          rw [ih (Nat.le_of_succ_le_succ hrounds) hothers, List.append_assoc]
          rfl

theorem enclosingChain_eq (h : decls.Surrounds sites ids) :
    (ids.head?.map decls.enclosingChain).getD [] = ids := by
  cases hids : ids with
  | nil => rfl
  | cons id rest =>
      have hrounds : ids.length ≤ decls.types.size + 2 := Nat.le_add_right_of_le h.length_le
      have hchain := h.addOuter_eq hrounds fun _ _ => List.not_mem_nil
      rw [hids, List.head?_cons, List.nil_append] at hchain
      exact hchain

theorem congr {other : Declarations} (h : decls.Surrounds sites ids)
    (hsites : other.sites = decls.sites) (houter : ∀ id, other.outer? id = decls.outer? id) :
    other.Surrounds sites ids := by
  induction h with
  | nil => exact .nil
  | cons hsite hout hbefore _ ih =>
      exact .cons (by rw [hsites, hsite]) (by rw [houter, hout]) hbefore ih

end Declarations.Surrounds

namespace Collected.HoldsUnit

variable {state : Collected} {number : Nat} {root : Node} {unit : CollectingUnit}
variable {entries : List Entry}

theorem surrounds (h : state.HoldsUnit number root unit entries) {entry : Entry}
    (hentry : entry ∈ entries) {declaration : Declaration}
    (hdeclaration : entry.declaration = some declaration) :
    state.decls.Surrounds declaration.enclosing entry.chain ∧
      ∀ id, id ∈ entry.chain → id < entry.id := by
  generalize hid : entry.id = id
  induction id using Nat.strongRecOn generalizing entry declaration with
  | ind id ih =>
      -- What holds of the type around holds of what stands in it.
      have hwithin : ∀ around : Entry, around ∈ entries → around.IsType → around.id < entry.id →
          state.decls.Surrounds (Entry.sitesWithin (some around))
              (Entry.chainWithin (some around)) ∧
            ∀ other, other ∈ Entry.chainWithin (some around) → other < id := by
        intro around haround htype hbefore
        rw [hid] at hbefore
        rcases htype.2 with ⟨type, htypeDeclaration⟩
        rcases ih around.id hbefore haround htypeDeclaration rfl with ⟨hsurrounds, hbelow⟩
        have hsites : Entry.sitesWithin (some around) = type.site :: type.enclosing := by
          rw [Entry.sitesWithin, Option.bind_some, htypeDeclaration]
          rfl
        have hholds := h.holds haround
        refine ⟨?_, ?_⟩
        · rw [hsites]
          exact .cons (hholds.site htypeDeclaration) (hholds.outer htype.1) hbelow hsurrounds
        · intro other hother
          rcases List.mem_cons.mp hother with heq | hmem
          · rw [heq]
            exact hbefore
          · exact Nat.lt_trans (hbelow other hmem) hbefore
      cases h.placed hentry with
      | type outer found houter hfound henclosing hchain _ _ =>
          rw [hdeclaration] at hfound
          cases hfound
          rw [henclosing, hchain]
          cases outer with
          | none => exact ⟨.nil, fun _ hmem => by cases hmem⟩
          | some around =>
              rcases houter around rfl with ⟨haround, htype, hbefore⟩
              exact hwithin around haround htype hbefore
      | member outer name kind houter htype hbefore hmember hchain _ _ =>
          rw [(hmember declaration hdeclaration).1, hchain]
          exact hwithin outer houter htype hbefore
      | typeParameter name owner _ hnone _ =>
          rw [hdeclaration] at hnone
          cases hnone

theorem symbol_eq (h : state.HoldsUnit number root unit entries) {entry : Entry}
    (hentry : entry ∈ entries) {declaration : Declaration}
    (hdeclaration : entry.declaration = some declaration) :
    entry.symbol.name = declaration.name ∧ entry.symbol.kind = declaration.kind := by
  cases h.placed hentry with
  | type outer found _ hfound _ _ _ hsymbol =>
      rw [hdeclaration] at hfound
      cases hfound
      rw [hsymbol]
      exact ⟨rfl, rfl⟩
  | member outer name kind _ _ _ hmember _ _ hsymbol =>
      rcases hmember declaration hdeclaration with ⟨_, hname, hkind⟩
      rw [hsymbol]
      exact ⟨hname.symm, hkind.symm⟩
  | typeParameter name owner _ hnone _ =>
      rw [hdeclaration] at hnone
      cases hnone

end Collected.HoldsUnit

end RestrictedApi

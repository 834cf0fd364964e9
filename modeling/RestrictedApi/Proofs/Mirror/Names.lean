import RestrictedApi.Proofs.Mirror

/-!
# Names side by side

The steps over names look up what they refer to in the records and in what is in scope, and both
agree with a renumbering.  No part of a qualified type is left out, since the first and the last one
have a meaning of their own.  Other names are read along roles, and nothing that is left out plays
one.
-/

namespace RestrictedApi

namespace Walker

def nameAt? (unit : WalkedUnit) (inImport : Bool) : Option Site → Walker Meaning
  | none => pure .unknown
  | some site => nameAt unit inImport site

theorem dottedQualifier_eq (unit : WalkedUnit) (inImport : Bool) (path : Path) (index : Nat)
    (nodes : List Node) :
    dottedQualifier unit inImport path index nodes =
      nameAt? unit inImport ((Site.number path index nodes).find?
        fun child => child.node.role = some .scope) := by
  induction nodes generalizing index with
  | nil =>
      rw [dottedQualifier]
      rfl
  | cons node rest ih =>
      rw [dottedQualifier, Site.number, List.find?_cons, ih]
      by_cases hrole : node.role = some .scope
      · simp only [hrole, if_true, decide_true]
        rfl
      · simp only [hrole, if_false, decide_false]

theorem nameAt_eq (unit : WalkedUnit) (inImport : Bool) (site : Site) :
    nameAt unit inImport site =
      if site.kind = .identifier then
        if inImport then packageName unit site true else typeOrPackage unit site
      else do
        let qualifier ← nameAt? unit inImport (site.child? .scope)
        match site.child? .name with
        | none => return .unknown
        | some nameSite => do
            let position := if inImport then .inImport else .type
            let (target, meaning) := unit.decls.select qualifier nameSite.text position
            report unit nameSite .memberSelect nameSite.text target inImport
            return meaning := by
  rcases site with ⟨path, node⟩
  cases node with
  | mk kind named role line column offset length text children =>
      rw [nameAt, dottedName, dottedQualifier_eq]
      rfl

theorem scopedType_eq_site (unit : WalkedUnit) (visit : Visit) (site : Site) :
    scopedType unit visit site.path site.node =
      match lastTypeIdentifier? site with
      | none => do
          visitChildren visit site
          return .unknown
      | some last => do
          let qualifier ←
            scopedTypeParts unit visit last site.path 0 true site.node.children
          let (target, meaning) := unit.decls.select qualifier last.text .type
          reportSelection unit last last.text target
          return meaning := by
  rcases site with ⟨path, node⟩
  cases node
  unfold scopedType
  rfl

end Walker

namespace Mirror

open Renumbering

variable {m : Mirror} {visit visit' : Visit} {site twin : Site}

theorem ofTarget (target : Option SymbolId) :
    ((target.map m.number).map Meaning.type).getD .unknown =
      m.meaning ((target.map Meaning.type).getD .unknown) := by
  cases target <;> rfl

theorem typeIdentifier (h : m.twins site twin) :
    m.Steps m.meaning (Walker.typeIdentifier m.unit site)
      (Walker.typeIdentifier m.twinUnit twin) := by
  simp only [Walker.typeIdentifier, h.text_eq]
  split
  · exact .pure Meaning.unknown
  · refine (simpleType? _).bind fun target => ?_
    exact (report h rfl).bind fun _ => .pure_rel (ofTarget target)

theorem packageName (h : m.twins site twin) (inImport : Bool) :
    m.Steps m.meaning (Walker.packageName m.unit site inImport)
      (Walker.packageName m.twinUnit twin inImport) := by
  simp only [Walker.packageName, h.text_eq]
  refine (report h (map_package m.sound _).symm).bind fun _ => .pure_rel ?_
  change ((m.unit.decls.package? site.text).map _).getD _ = _
  cases m.unit.decls.package? site.text <;> rfl

theorem typeOrPackage (h : m.twins site twin) :
    m.Steps m.meaning (Walker.typeOrPackage m.unit site)
      (Walker.typeOrPackage m.twinUnit twin) := by
  simp only [Walker.typeOrPackage, h.text_eq]
  refine (simpleType? _).bind fun target => ?_
  cases target with
  | none => exact packageName h false
  | some type => exact (report h rfl).bind fun _ => .pure (Meaning.type type)

theorem selection (h : m.twins site twin) (qualifier : Meaning) (position : Position)
    (inImport : Bool) :
    m.Steps m.meaning
      (do
        Walker.report m.unit site .memberSelect site.text
          (m.unit.decls.select qualifier site.text position).1 inImport
        return (m.unit.decls.select qualifier site.text position).2)
      (do
        Walker.report m.twinUnit twin .memberSelect twin.text
          (m.twinUnit.decls.select (m.meaning qualifier) twin.text position).1 inImport
        return (m.twinUnit.decls.select (m.meaning qualifier) twin.text position).2) := by
  rw [h.text_eq, twinUnit_decls, Declarations.withSites_select, select_meaning m.sound]
  rcases fixes_select m.sound qualifier site.text position with ⟨htarget, hmeaning⟩
  exact (report h htarget.symm).bind fun _ => .pure_rel hmeaning.symm

/-!
# Qualified types
-/

theorem scopedTypeParts (hvisit : m.Visits visit visit') {last lastTwin : Site}
    (hlast : m.twins last lastTwin) {rel : Site → Site → Prop}
    (hrel : ∀ {part partTwin}, rel part partTwin → m.twins part partTwin ∧
      (part.kind = .scopedTypeIdentifier →
        m.Steps m.meaning (Walker.scopedType m.unit visit part.path part.node)
          (Walker.scopedType m.twinUnit visit' partTwin.path partTwin.node)))
    {path pathTwin : Path} {index indexTwin : Nat} (first : Bool) {nodes nodeTwins : List Node}
    (h : List.Forall₂ rel (Site.number path index nodes)
      (Site.number pathTwin indexTwin nodeTwins)) :
    m.Steps m.meaning (Walker.scopedTypeParts m.unit visit last path index first nodes)
      (Walker.scopedTypeParts m.twinUnit visit' lastTwin pathTwin indexTwin first nodeTwins) := by
  induction nodes generalizing index indexTwin first nodeTwins with
  | nil =>
      cases nodeTwins with
      | nil =>
          rw [Walker.scopedTypeParts, Walker.scopedTypeParts]
          exact .pure Meaning.unknown
      | cons node rest => cases h
  | cons node rest ih =>
      cases nodeTwins with
      | nil => cases h
      | cons nodeTwin restTwin =>
          rcases List.forall₂_cons.mp h with ⟨hfirst, hrest⟩
          rcases hrel hfirst with ⟨hpart, hscoped⟩
          have hcounts : nodeTwin.counts = node.counts := hpart.counts_eq
          have hsame : Site.same ⟨indexTwin :: pathTwin, nodeTwin⟩ lastTwin =
              Site.same ⟨index :: path, node⟩ last := decide_eq_decide.mpr (m.path hpart hlast)
          have hsimple : nodeTwin.kind = .typeIdentifier ↔ node.kind = .typeIdentifier :=
            hpart.kind_iff _ rfl
          have hnested :
              nodeTwin.kind = .scopedTypeIdentifier ↔ node.kind = .scopedTypeIdentifier :=
            hpart.kind_iff _ rfl
          have hothers : ∀ meaning : Meaning, m.Steps m.meaning
              (Walker.scopedTypeParts m.unit visit last path (index + 1) false rest >>=
                fun others => pure (if first = true then meaning else others))
              (Walker.scopedTypeParts m.twinUnit visit' lastTwin pathTwin (indexTwin + 1) false
                restTwin >>=
                fun others => pure (if first = true then m.meaning meaning else others)) :=
            fun _ => (ih false hrest).bind fun _ => .pure_rel (apply_ite m.meaning _ _ _).symm
          rw [Walker.scopedTypeParts, Walker.scopedTypeParts, hcounts]
          cases node.counts with
          | false => exact ih first hrest
          | true =>
              simp only [if_true, hsame, hsimple, hnested]
              split
              · exact (Comparison.Steps.pure Meaning.unknown).bind hothers
              · split
                · exact (typeOrPackage hpart).bind hothers
                · split
                  · exact (hscoped ‹_›).bind hothers
                  · exact (hvisit.twins hpart).bind hothers

theorem scopedType (hvisit : m.Visits visit visit') (h : m.twins site twin)
    (hkind : site.kind.ordersChildren = true) :
    m.Steps m.meaning (Walker.scopedType m.unit visit site.path site.node)
      (Walker.scopedType m.twinUnit visit' twin.path twin.node) := by
  induction h using Twinning.twins.induct with
  | step site twin h ih =>
      have hparts := ((m.children h).imp_mem And.intro fun _ homits => homits).ordered
        (Site.ordersChildren_of_kind hkind)
      have hlast : Option.Rel m.twins (Walker.lastTypeIdentifier? site)
          (Walker.lastTypeIdentifier? twin) :=
        getLast?_of_forall₂ (h.filter_kind (fun kind => kind = .typeIdentifier) rfl rfl)
      rw [Walker.scopedType_eq_site, Walker.scopedType_eq_site]
      refine hlast.casesOn (fun hlast => ?_)
        ((visitChildren hvisit h).bind fun _ => .pure Meaning.unknown)
      refine (scopedTypeParts hvisit hlast (fun hpart => ⟨hpart.2, fun hscoped => ?_⟩) true
        hparts).bind fun qualifier => selection hlast qualifier .type false
      exact ih hpart.1 hpart.2 (hscoped ▸ rfl)

/-!
# Dotted names
-/

theorem nameAt (h : m.twins site twin) (inImport : Bool) :
    m.Steps m.meaning (Walker.nameAt m.unit inImport site)
      (Walker.nameAt m.twinUnit inImport twin) := by
  induction h using Twinning.twins.induct with
  | step site twin h ih =>
      simp only [Walker.nameAt_eq, h.kind_iff .identifier rfl]
      split
      · cases inImport with
        | true => exact packageName h true
        | false => exact typeOrPackage h
      · have hscope : m.Steps m.meaning (Walker.nameAt? m.unit inImport (site.child? .scope))
            (Walker.nameAt? m.twinUnit inImport (twin.child? .scope)) :=
          (h.childOf? .scope).casesOn (fun hscope => ih hscope.2.1 hscope.1) (.pure Meaning.unknown)
        refine hscope.bind fun qualifier => ?_
        exact (h.child? .name).casesOn (selection · qualifier _ inImport) (.pure Meaning.unknown)

/-!
# Annotations
-/

theorem annotationArgument (hvisit : m.Visits visit visit') (type : Option SymbolId)
    (h : m.twins site twin) :
    m.Steps id (Walker.annotationArgument m.unit visit type site)
      (Walker.annotationArgument m.twinUnit visit' (type.map m.number) twin) := by
  have hvalue := (visitRole hvisit h .value).discard
  simp only [Walker.annotationArgument, h.kind_iff .elementValuePair rfl]
  split
  · refine (h.child? .key).casesOn (fun hkey => ?_) hvalue
    simp only [hkey.text_eq, twinUnit_decls, Declarations.withSites_methods]
    refine (report hkey ?_).bind fun _ => hvalue
    refine bind_map (fun id => ?_) (fun id => ?_) type
    · rw [methods_number m.sound]
    · rw [← List.head?_map, map_methods m.sound]
  · exact (hvisit.twins h).discard

theorem annotationArguments (hvisit : m.Visits visit visit') (h : m.twins site twin)
    (type : Option SymbolId) :
    m.Steps id
      (match site.child? .arguments with
      | none => pure ()
      | some arguments =>
          arguments.namedChildren.forM (Walker.annotationArgument m.unit visit type))
      (match twin.child? .arguments with
      | none => pure ()
      | some arguments =>
          arguments.namedChildren.forM
            (Walker.annotationArgument m.twinUnit visit' (type.map m.number))) := by
  refine (h.childOf? .arguments).casesOn (fun harguments => ?_) (.pure ())
  have horders := Site.ordersChildren_of_role (Or.inl harguments.2.2)
  exact .forM_all (harguments.1.namedChildren.ordered horders) (annotationArgument hvisit type ·)

theorem annotationUse (hvisit : m.Visits visit visit') (h : m.twins site twin) :
    m.Steps id (Walker.annotationUse m.unit visit site)
      (Walker.annotationUse m.twinUnit visit' twin) := by
  unfold Walker.annotationUse
  refine (h.child? .name).casesOn (fun hname => ?_) (annotationArguments hvisit h none)
  refine (nameAt hname false).bind fun meaning => ?_
  rw [type_meaning]
  exact annotationArguments hvisit h _

/-!
# Bare names
-/

theorem fieldInScope? (name : String) :
    m.Steps (Option.map m.number) (Walker.fieldInScope? m.unit name)
      (Walker.fieldInScope? m.twinUnit name) := by
  refine bind_get Walk.enclosingTypes (fun _ => rfl) fun htypes => .pure_rel ?_
  rw [Maps, htypes, enclosingTypes_walk, twinUnit_decls, Declarations.withSites_field?,
    Declarations.withSites_staticField?]
  simp only [Option.orElse_eq_orElse, Option.orElse_eq_or, Option.map_or, map_staticField m.sound,
    findSome_map (fun id => field_number m.sound id name) (fun id => map_field m.sound id name)]
  rfl

theorem expressionName (h : m.twins site twin) :
    m.Steps m.meaning (Walker.expressionName m.unit site)
      (Walker.expressionName m.twinUnit twin) := by
  simp only [Walker.expressionName, h.text_eq]
  refine bind_get Walk.local? (fun _ => rfl) fun {walk _} hlocal => ?_
  rw [hlocal, local_walk]
  cases walk.local? site.text with
  | some found => exact (report h rfl).bind fun _ => .pure_rel (meaning_ofType found.type).symm
  | none =>
      refine (fieldInScope? _).bind fun field => ?_
      cases field with
      | some field =>
          refine (report h rfl).bind fun _ => .pure_rel ?_
          rw [Maps, meaning_ofType, map_valueType m.sound, twinUnit_decls,
            Declarations.withSites_valueType?, valueType_number m.sound]
      | none => exact typeOrPackage h

end Mirror

end RestrictedApi

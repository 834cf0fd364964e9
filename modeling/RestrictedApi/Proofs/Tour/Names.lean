import RestrictedApi.Extraction.Names
import RestrictedApi.Proofs.Run.Names
import RestrictedApi.Proofs.Tour

/-!
# Tours over names

A simple name is reported itself.  A longer name is entered: its qualifier, whatever else stands in
it, and its last segment are distinct children.
-/

namespace RestrictedApi
namespace Tours

variable {unit : WalkedUnit} {shape : Shape} {visit : Visit} {parent : Option Site} {site : Site}

/-!
# Simple names
-/

theorem bind_simpleType {α : Type} {inImport : Bool} {stop : Stop} {name : String}
    {next : Option SymbolId → Walker α}
    (hnext : ∀ walk, Tour unit shape inImport stop walk
      ((next (unit.decls.simpleType? (walk.view unit.unit) name)).run walk).2) :
    Tours unit shape inImport stop (Walker.simpleType? unit name >>= next) :=
  fun walk => hnext walk

theorem typeIdentifier :
    Tours unit shape false (.whole parent site) (Walker.typeIdentifier unit site) := by
  unfold Walker.typeIdentifier
  by_cases hvar : site.text = "var"
  · simp only [if_pos hvar]
    exact Tours.pure _
  · simp only [if_neg hvar]
    apply Tours.bind_simpleType
    intro walk
    refine Tour.report ?_ (by simp)
    cases htype : unit.decls.simpleType? (walk.view unit.unit) site.text with
    | none => exact Resolved.unresolved
    | some id => exact Resolved.simpleType htype

theorem packageName (inImport : Bool)
    (htoken : site.node.isNameToken (parent.map Site.node) = true) :
    Tours unit shape inImport (.whole parent site) (Walker.packageName unit site inImport) := by
  unfold Walker.packageName
  have himported : Imported unit (parent.map Site.node) site.node .identifier site.text
      (unit.decls.package? site.text) := ⟨htoken, rfl, fun _ => rfl⟩
  refine Tours.map (Tours.report ?_ fun _ => himported) _
  intro walk
  cases hpackage : unit.decls.package? site.text with
  | none => exact Resolved.unresolved
  | some id => exact Resolved.package htoken rfl hpackage

theorem typeOrPackage (htoken : site.node.isNameToken (parent.map Site.node) = true) :
    Tours unit shape false (.whole parent site) (Walker.typeOrPackage unit site) := by
  unfold Walker.typeOrPackage
  apply Tours.bind_simpleType
  intro walk
  cases htype : unit.decls.simpleType? (walk.view unit.unit) site.text with
  | none => exact Tours.packageName false htoken walk
  | some id => exact Tour.report (Resolved.simpleType htype) (by simp)

theorem select (htoken : site.node.isNameToken (parent.map Site.node) = true)
    (qualifier : Meaning) (position : Position) (inImport : Bool) :
    Tours unit shape inImport (.whole parent site) (Walker.report unit site .memberSelect site.text
      (unit.decls.select qualifier site.text position).1 inImport) := by
  have himported : Imported unit (parent.map Site.node) site.node .memberSelect site.text
      (unit.decls.select qualifier site.text position).1 :=
    ⟨htoken, rfl, fun hshape => by cases hshape⟩
  refine Tours.report ?_ fun _ => himported
  intro walk
  cases htarget : (unit.decls.select qualifier site.text position).1 with
  | none => exact Resolved.unresolved
  | some id => exact Resolved.selection htoken rfl htarget

/-!
# Qualified types
-/

/-- The children of a qualified type that stand before its last segment, from a child on. -/
def beforeLast (last : Site) (path : Path) (index : Nat) (nodes : List Node) : List Site :=
  (Site.number path index nodes).filter fun child => child.node.counts && !child.same last

theorem beforeLast_cons (last : Site) (path : Path) (index : Nat) (child : Node)
    (rest : List Node) :
    beforeLast last path index (child :: rest) =
      (if child.counts && !Site.same ⟨index :: path, child⟩ last then [⟨index :: path, child⟩]
        else []) ++ beforeLast last path (index + 1) rest := by
  rw [beforeLast, Site.number, List.filter_cons]
  split <;> rfl

theorem nodup_beforeLast (last : Site) (path : Path) (index : Nat) (nodes : List Node) :
    (beforeLast last path index nodes ++ [last]).Nodup := by
  refine List.Nodup.append ((Site.nodup_number path index nodes).filter _)
    (List.nodup_singleton last) ?_
  intro child hchild hlast
  have hsame := (Bool.and_eq_true_iff.mp (List.mem_filter.mp hchild).2).2
  rw [List.mem_singleton.mp hlast] at hsame
  simp [Site.same] at hsame

mutual

theorem scopedType (hvisit : TouringVisit unit shape visit) {parent : Option Site} {path : Path}
    (node : Node) (hsite : Site.Visitable shape parent ⟨path, node⟩)
    (hkind : node.kind = .scopedTypeIdentifier) :
    Tours unit shape false (.whole parent ⟨path, node⟩)
      (Walker.scopedType unit visit path node) := by
  have hplain : (Site.kind ⟨path, node⟩).isPlain = true := by
    rw [Site.kind, hkind]
    rfl
  have hall := NodeKind.visitsAll_of_isPlain hplain
  cases node with
  | mk kind named role line column offset length text children =>
      rw [Walker.scopedType]
      cases hlast : Walker.lastTypeIdentifier?
          ⟨path, ⟨kind, named, role, line, column, offset, length, text, children⟩⟩ with
      | none =>
          have hchildren := Tours.visitChildren hvisit hsite.grammatical hall
          exact (hchildren.map _).enter (Site.nodup_namedChildren _) hplain hsite.body
      | some last =>
          have hmem := Runs.lastTypeIdentifier_mem hlast
          refine Tours.enter (Tours.bind ?_ ?_) (nodup_beforeLast last path 0 children) hplain
            hsite.body
          · exact scopedTypeParts hvisit last true children fun child hchild =>
              hsite.grammatical.mayVisit_of_visitsAll hall hchild
          · intro qualifier
            refine Tours.map
              (Tours.part (hsite.grammatical.mayVisit_of_visitsAll hall hmem.1) ?_) _
            exact Tours.select (Node.isNameToken_of_typeIdentifier hmem.2) qualifier .type false

theorem scopedTypeParts (hvisit : TouringVisit unit shape visit) {site : Site} (last : Site)
    {path : Path} {index : Nat} (first : Bool) (nodes : List Node)
    (hnodes : ∀ child, child ∈ Site.number path index nodes → site.MayVisit shape child) :
    Tours unit shape false (.inside site (beforeLast last path index nodes))
      (Walker.scopedTypeParts unit visit last path index first nodes) := by
  cases nodes with
  | nil => exact Tours.pure _
  | cons child rest =>
      have hhere : site.MayVisit shape ⟨index :: path, child⟩ := hnodes _ List.mem_cons_self
      have hrest : ∀ other, other ∈ Site.number path (index + 1) rest → site.MayVisit shape other :=
        fun other hother => hnodes other (List.mem_cons_of_mem _ hother)
      have hnext : ∀ meaning : Meaning,
          Tours unit shape false (.inside site (beforeLast last path (index + 1) rest))
            (Walker.scopedTypeParts unit visit last path (index + 1) false rest >>= fun others =>
              Pure.pure (if first = true then meaning else others)) :=
        fun _ => Tours.map (scopedTypeParts hvisit last false rest hrest) _
      rw [Walker.scopedTypeParts, beforeLast_cons]
      cases child.counts with
      | false => exact scopedTypeParts hvisit last first rest hrest
      | true =>
          rw [if_pos rfl]
          by_cases hlast : Site.same ⟨index :: path, child⟩ last = true
          · simp only [hlast]
            exact hnext Meaning.unknown
          · simp only [Bool.eq_false_iff.mpr hlast]
            change Tours unit shape false (.inside site ([⟨index :: path, child⟩] ++ _)) _
            by_cases hfirst : (child.kind = .typeIdentifier && first) = true
            · have hkind : child.kind = .typeIdentifier := by
                simpa using (Bool.and_eq_true_iff.mp hfirst).1
              simp only [if_pos hfirst]
              exact Tours.bind (Tours.part hhere
                (Tours.typeOrPackage (Node.isNameToken_of_typeIdentifier hkind))) hnext
            · simp only [if_neg hfirst]
              by_cases hscoped : child.kind = .scopedTypeIdentifier
              · simp only [if_pos hscoped]
                exact Tours.bind (Tours.part hhere
                  (scopedType hvisit child hhere.visitable hscoped)) hnext
              · simp only [if_neg hscoped]
                exact Tours.bind (Tours.visitChild hvisit hhere) hnext

end

/-!
# Dotted names
-/

def scopeFrom (path : Path) (index : Nat) (nodes : List Node) : Option Site :=
  (Site.number path index nodes).find? fun child => child.node.role = some .scope

mutual

theorem dottedName (inImport : Bool) {parent : Option Site} {path : Path} (node : Node)
    (hsite : Site.Visitable shape parent ⟨path, node⟩) (hkind : node.kind.isName = true) :
    Tours unit shape inImport (.whole parent ⟨path, node⟩)
      (Walker.dottedName unit inImport path node) := by
  have hplain : (Site.kind ⟨path, node⟩).isPlain = true := NodeKind.isPlain_of_isName hkind
  have hall := NodeKind.visitsAll_of_isPlain hplain
  have hdotted : node.holdsDottedName = false := by
    apply Node.holdsDottedName_eq_false
    rcases NodeKind.eq_of_isName hkind with heq | heq <;> rw [heq] <;> rfl
  cases node with
  | mk kind named role line column offset length text children =>
      rw [Walker.dottedName]
      by_cases hidentifier : kind = .identifier
      · have htoken : Node.isNameToken
            ⟨kind, named, role, line, column, offset, length, text, children⟩
              (parent.map Site.node) = true :=
          Node.isNameToken_of_identifier hidentifier
        rw [if_pos hidentifier]
        cases inImport with
        | true => exact Tours.packageName true htoken
        | false => exact Tours.typeOrPackage htoken
      · rw [if_neg hidentifier]
        let site : Site :=
          ⟨path, ⟨kind, named, role, line, column, offset, length, text, children⟩⟩
        have hparts := site.nodup_pair (show Role.scope ≠ Role.name by decide)
        refine Tours.enter (Tours.bind ?_ ?_) hparts hplain hsite.body
        · exact dottedQualifier inImport children fun child hchild =>
            hsite.grammatical.mayVisit_of_visitsAll hall hchild
        · intro qualifier
          change Tours unit shape inImport (.inside site (site.child? .name).toList)
            (match site.child? .name with
            | none => Pure.pure Meaning.unknown
            | some nameSite => _)
          cases hname : site.child? .name with
          | none => exact Tours.pure _
          | some nameSite =>
              have htoken := Node.isNameToken_of_name (Site.role_of_child? hname) hdotted
              have hmay := hsite.grammatical.mayVisit_of_visitsAll hall
                (Site.mem_children_of_child? hname)
              refine Tours.map (Tours.part hmay ?_) _
              exact Tours.select htoken qualifier _ inImport

theorem dottedQualifier (inImport : Bool) {site : Site} {path : Path} {index : Nat}
    (nodes : List Node)
    (hnodes : ∀ child, child ∈ Site.number path index nodes → site.MayVisit shape child) :
    Tours unit shape inImport (.inside site (scopeFrom path index nodes).toList)
      (Walker.dottedQualifier unit inImport path index nodes) := by
  cases nodes with
  | nil => exact Tours.pure _
  | cons child rest =>
      rw [Walker.dottedQualifier, scopeFrom, Site.number, List.find?_cons]
      by_cases hrole : child.role = some .scope
      · have hhere : site.MayVisit shape ⟨index :: path, child⟩ := hnodes _ List.mem_cons_self
        simp only [hrole]
        apply Tours.part hhere
        exact dottedName inImport child hhere.visitable
          (hhere.visitable.grammatical.isName_of_scope hrole)
      · simp only [hrole]
        exact dottedQualifier inImport rest
          fun other hother => hnodes other (List.mem_cons_of_mem _ hother)

end

theorem nameAt (inImport : Bool) (hsite : site.Visitable shape parent)
    (hkind : site.kind.isName = true) :
    Tours unit shape inImport (.whole parent site) (Walker.nameAt unit inImport site) :=
  dottedName inImport site.node hsite hkind

/-!
# Annotations
-/

theorem annotationArgument (hvisit : TouringVisit unit shape visit)
    (hsite : site.Visitable shape parent) (type : Option SymbolId) :
    Tours unit shape false (.whole parent site)
      (Walker.annotationArgument unit visit type site) := by
  unfold Walker.annotationArgument
  by_cases hkind : site.kind = .elementValuePair
  · have hplain : site.kind.isPlain = true := by
      rw [hkind]
      rfl
    have hall := NodeKind.visitsAll_of_isPlain hplain
    have hvalue := Tours.discard (Tours.visitRole hvisit hsite.grammatical hall .value)
    have hparts := site.nodup_pair (show Role.key ≠ Role.value by decide)
    rw [if_pos hkind]
    refine Tours.enter ?_ hparts hplain hsite.body
    cases hkey : site.child? .key with
    | none => exact hvalue
    | some key =>
        refine Tours.bind ?_ fun _ => hvalue
        apply Tours.part (hsite.grammatical.mayVisit_of_visitsAll hall
          (Site.mem_children_of_child? hkey))
        refine Tours.report ?_ (by simp)
        intro walk
        cases htarget : type.bind fun type => (unit.decls.methods type key.text).head? with
        | none => exact Resolved.unresolved
        | some id =>
            rcases Option.bind_eq_some_iff.mp htarget with ⟨owner, _, hhead⟩
            exact Resolved.method (List.mem_of_head? hhead)
  · rw [if_neg hkind]
    exact Tours.discard (hvisit parent site hsite)

theorem annotationArguments (hvisit : TouringVisit unit shape visit)
    (hsite : site.Grammatical shape parent)
    (hkind : site.kind.isAnnotationUse = true) (type : Option SymbolId) :
    Tours unit shape false (.inside site (site.child? .arguments).toList)
      (match site.child? .arguments with
      | none => Pure.pure ()
      | some arguments =>
          arguments.namedChildren.forM (Walker.annotationArgument unit visit type)) := by
  have hall := NodeKind.visitsAll_of_isPlain (NodeKind.isPlain_of_isAnnotationUse hkind)
  cases harguments : site.child? .arguments with
  | none => exact Tours.pure _
  | some arguments =>
      have hmay := hsite.mayVisit_of_visitsAll hall (Site.mem_children_of_child? harguments)
      have hbelow := hmay.visitable.grammatical
      have hplain := hbelow.isPlain_of_arguments (Or.inl hkind) (Site.role_of_child? harguments)
      apply Tours.part hmay
      refine Tours.enter (Tours.forSites ?_) arguments.nodup_namedChildren hplain
        hmay.visitable.body
      intro argument hargument
      have hinner := hbelow.mayVisit_of_visitsAll (NodeKind.visitsAll_of_isPlain hplain)
        (Site.mem_children_of_mem_namedChildren hargument)
      exact Tours.part hinner
        (Tours.annotationArgument hvisit hinner.visitable type)

theorem annotationUse (hvisit : TouringVisit unit shape visit) (hsite : site.Visitable shape parent)
    (hkind : site.kind.isAnnotationUse = true) :
    Tours unit shape false (.whole parent site) (Walker.annotationUse unit visit site) := by
  have hplain := NodeKind.isPlain_of_isAnnotationUse hkind
  have harguments := Tours.annotationArguments hvisit hsite.grammatical hkind
  have hparts := site.nodup_pair (show Role.name ≠ Role.arguments by decide)
  refine Tours.enter ?_ hparts hplain hsite.body
  unfold Walker.annotationUse
  cases hname : site.child? .name with
  | none => exact harguments none
  | some nameSite =>
      have hmay := hsite.grammatical.mayVisit_of_visitsAll (NodeKind.visitsAll_of_isPlain hplain)
        (Site.mem_children_of_child? hname)
      refine Tours.bind ?_ fun meaning => harguments meaning.type?
      apply Tours.part hmay
      apply Tours.nameAt false hmay.visitable
      have hpart := hmay.visitable.grammatical.admitsPart
      rw [Site.kind] at hkind
      cases hparent : site.node.kind <;> rw [hparent] at hkind <;> cases hkind <;>
        simpa [Site.kind, Node.admitsPart, hparent, Site.role_of_child? hname] using hpart

/-!
# Bare names in expressions
-/

theorem bind_fieldInScope {α : Type} {inImport : Bool} {stop : Stop} {name : String}
    {next : Option SymbolId → Walker α}
    (hnone : Tours unit shape inImport stop (next none))
    (hsome : ∀ type field, unit.decls.field? type name = some field →
      Tours unit shape inImport stop (next (some field))) :
    Tours unit shape inImport stop (Walker.fieldInScope? unit name >>= next) := by
  intro walk
  rcases Runs.run_fieldInScope unit name walk with ⟨found, hrun, hfound⟩
  rw [StateT.run_bind, hrun]
  cases found with
  | none => exact hnone walk
  | some field =>
      rcases hfound field rfl with ⟨type, hfield⟩
      exact hsome type field hfield walk

theorem expressionName (hkind : site.kind = .identifier) :
    Tours unit shape false (.whole parent site) (Walker.expressionName unit site) := by
  unfold Walker.expressionName
  apply Tours.bind_get
  intro walk
  cases hlocal : walk.local? site.text with
  | some found => exact Tour.report (Resolved.localVariable hlocal) (by simp)
  | none =>
      refine Tours.bind_fieldInScope ?_ ?_ walk
      · exact Tours.typeOrPackage (Node.isNameToken_of_identifier hkind)
      · intro type field hfield
        exact Tours.map (Tours.report (fun _ => Resolved.field hfield) (by simp)) _

end Tours
end RestrictedApi

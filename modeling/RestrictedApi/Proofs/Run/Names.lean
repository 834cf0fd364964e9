import RestrictedApi.Extraction.Names
import RestrictedApi.Proofs.Run

/-!
# Runs over names

Names report references at their segments.  A name that stands alone is reported itself; of a longer
name the segments are reported, which are inside it.
-/

namespace RestrictedApi
namespace Runs

variable {unit : WalkedUnit} {visited : Site → Walk → Walk → Prop} {visit : Visit}
  {parent : Option Node} {site : Site}

/-!
# Simple names
-/

theorem bind_simpleType {α : Type} {place : Place} {name : String}
    {next : Option SymbolId → Walker α}
    (hnext : ∀ walk, Run unit visited place walk
      ((next (unit.decls.simpleType? (walk.view unit.unit) name)).run walk).2) :
    Runs unit visited place (Walker.simpleType? unit name >>= next) :=
  fun walk => hnext walk

theorem typeIdentifier :
    Runs unit visited (.whole parent site) (Walker.typeIdentifier unit site) := by
  unfold Walker.typeIdentifier
  by_cases hvar : site.text = "var"
  · simp only [if_pos hvar]
    exact Runs.pure _
  · simp only [if_neg hvar]
    apply Runs.bind_simpleType
    intro walk
    apply Run.report
    cases htype : unit.decls.simpleType? (walk.view unit.unit) site.text with
    | none => exact Resolved.unresolved
    | some id => exact Resolved.simpleType htype

theorem packageName (inImport : Bool)
    (htoken : site.node.isNameToken parent = true) :
    Runs unit visited (.whole parent site) (Walker.packageName unit site inImport) := by
  unfold Walker.packageName
  apply Runs.bind
  · apply Runs.report
    intro walk
    cases hpackage : unit.decls.package? site.text with
    | none => exact Resolved.unresolved
    | some id => exact Resolved.package htoken rfl hpackage
  · intro _
    exact Runs.pure _

theorem typeOrPackage (htoken : site.node.isNameToken parent = true) :
    Runs unit visited (.whole parent site) (Walker.typeOrPackage unit site) := by
  unfold Walker.typeOrPackage
  apply Runs.bind_simpleType
  intro walk
  cases htype : unit.decls.simpleType? (walk.view unit.unit) site.text with
  | none => exact Runs.packageName false htoken walk
  | some id => exact Run.report false (Resolved.simpleType htype)

theorem select (htoken : site.node.isNameToken parent = true) (qualifier : Meaning)
    (position : Position) (inImport : Bool) :
    Runs unit visited (.whole parent site) (Walker.report unit site .memberSelect site.text
      (unit.decls.select qualifier site.text position).1 inImport) := by
  apply Runs.report
  intro walk
  cases htarget : (unit.decls.select qualifier site.text position).1 with
  | none => exact Resolved.unresolved
  | some id => exact Resolved.selection htoken rfl htarget

/-!
# Qualified types
-/

theorem lastTypeIdentifier_mem {last : Site} (hlast : Walker.lastTypeIdentifier? site = some last) :
    last ∈ site.children ∧ last.kind = .typeIdentifier := by
  have hmem := List.mem_filter.mp (List.mem_of_getLast? hlast)
  exact ⟨Site.mem_children_of_mem_namedChildren hmem.1, by simpa using hmem.2⟩

mutual

theorem scopedType (hvisit : SoundVisit unit visited visit) {parent : Option Node} {path : Path}
    (node : Node)
    (hkind : node.kind = .scopedTypeIdentifier) :
    Runs unit visited (.whole parent ⟨path, node⟩) (Walker.scopedType unit visit path node) := by
  cases node with
  | mk kind named role line column offset length text children =>
      apply Runs.plain (by rw [Site.kind, hkind]; rfl)
      rw [Walker.scopedType]
      cases hlast : Walker.lastTypeIdentifier?
          ⟨path, ⟨kind, named, role, line, column, offset, length, text, children⟩⟩ with
      | none => exact Runs.bind (Runs.visitChildren hvisit) fun _ => Runs.pure _
      | some last =>
          have hmem := lastTypeIdentifier_mem hlast
          apply Runs.bind
          · exact scopedTypeParts hvisit last true children fun child hchild => hchild
          · intro qualifier
            apply Runs.bind
            · exact Runs.child hmem.1
                (Runs.select (Node.isNameToken_of_typeIdentifier hmem.2) qualifier .type false)
            · intro _
              exact Runs.pure _

theorem scopedTypeParts (hvisit : SoundVisit unit visited visit) {site : Site} (last : Site)
    {path : Path} {index : Nat} (first : Bool) (nodes : List Node)
    (hnodes : ∀ child, child ∈ Site.number path index nodes → child ∈ site.children) :
    Runs unit visited (.inside site)
      (Walker.scopedTypeParts unit visit last path index first nodes) := by
  cases nodes with
  | nil => exact Runs.pure _
  | cons child rest =>
      have hhere : ⟨index :: path, child⟩ ∈ site.children := hnodes _ List.mem_cons_self
      have hrest : ∀ other, other ∈ Site.number path (index + 1) rest → other ∈ site.children :=
        fun other hother => hnodes other (List.mem_cons_of_mem _ hother)
      have hnext : ∀ meaning : Meaning, Runs unit visited (.inside site)
          (Walker.scopedTypeParts unit visit last path (index + 1) false rest >>= fun others =>
            Pure.pure (if first = true then meaning else others)) :=
        fun _ => Runs.bind (scopedTypeParts hvisit last false rest hrest) fun _ => Runs.pure _
      rw [Walker.scopedTypeParts]
      cases child.counts with
      | false => exact scopedTypeParts hvisit last first rest hrest
      | true =>
          rw [if_pos rfl]
          by_cases hlast : Site.same ⟨index :: path, child⟩ last = true
          · simp only [if_pos hlast]
            exact Runs.bind (Runs.pure _) hnext
          · simp only [if_neg hlast]
            by_cases hfirst : (child.kind = .typeIdentifier && first) = true
            · have hkind : child.kind = .typeIdentifier := by
                simpa using (Bool.and_eq_true_iff.mp hfirst).1
              simp only [if_pos hfirst]
              exact Runs.bind
                (Runs.child hhere (Runs.typeOrPackage (Node.isNameToken_of_typeIdentifier hkind)))
                hnext
            · simp only [if_neg hfirst]
              by_cases hscoped : child.kind = .scopedTypeIdentifier
              · simp only [if_pos hscoped]
                exact Runs.bind (Runs.child hhere (scopedType hvisit child hscoped)) hnext
              · simp only [if_neg hscoped]
                exact Runs.bind (Runs.visitChild hvisit hhere) hnext

end

/-!
# Dotted names
-/

mutual

theorem dottedName (inImport : Bool) {parent : Option Node} {path : Path} (node : Node)
    (hdirect : node.kind.silences = true → node.enteredFrom parent = true)
    (hdotted : node.holdsDottedName = false) :
    Runs unit visited (.whole parent ⟨path, node⟩) (Walker.dottedName unit inImport path node) := by
  cases node with
  | mk kind named role line column offset length text children =>
      rw [Walker.dottedName]
      by_cases hkind : kind = .identifier
      · have htoken : Node.isNameToken
            ⟨kind, named, role, line, column, offset, length, text, children⟩ parent = true :=
          Node.isNameToken_of_identifier hkind
        rw [if_pos hkind]
        cases inImport with
        | true => exact Runs.packageName true htoken
        | false => exact Runs.typeOrPackage htoken
      · rw [if_neg hkind]
        refine fun walk => Run.enter hdirect (Runs.bind ?_ ?_ walk)
        · exact dottedQualifier inImport children fun child hchild => hchild
        · intro qualifier
          split
          · exact Runs.pure _
          · rename_i nameSite hname
            have htoken := Node.isNameToken_of_name (Site.role_of_child? hname) hdotted
            apply Runs.bind
            · exact Runs.child (Site.mem_children_of_child? hname)
                (Runs.select htoken qualifier _ inImport)
            · intro _
              exact Runs.pure _

theorem dottedQualifier (inImport : Bool) {site : Site} {path : Path} {index : Nat}
    (nodes : List Node)
    (hnodes : ∀ child, child ∈ Site.number path index nodes → child ∈ site.children) :
    Runs unit visited (.inside site) (Walker.dottedQualifier unit inImport path index nodes) := by
  cases nodes with
  | nil => exact Runs.pure _
  | cons child rest =>
      rw [Walker.dottedQualifier]
      by_cases hrole : child.role = some .scope
      · rw [if_pos hrole]
        apply Runs.child (hnodes _ List.mem_cons_self)
        apply dottedName inImport child
        · intro _
          exact Node.enteredFrom_of_scope hrole
        · simp [Node.holdsDottedName, hrole]
      · rw [if_neg hrole]
        exact dottedQualifier inImport rest
          fun other hother => hnodes other (List.mem_cons_of_mem _ hother)

end

theorem nameAt (inImport : Bool)
    (hdirect : site.kind.silences = true → site.node.enteredFrom parent = true)
    (hdotted : site.node.holdsDottedName = false) :
    Runs unit visited (.whole parent site) (Walker.nameAt unit inImport site) :=
  dottedName inImport site.node hdirect hdotted

/-!
# Annotations
-/

theorem annotationArgument (hvisit : SoundVisit unit visited visit) (type : Option SymbolId) :
    Runs unit visited (.whole parent site) (Walker.annotationArgument unit visit type site) := by
  unfold Walker.annotationArgument
  by_cases hkind : site.kind = .elementValuePair
  · rw [if_pos hkind]
    apply Runs.plain (by rw [hkind]; rfl)
    cases hkey : site.child? .key with
    | none => exact Runs.discard (Runs.visitRole hvisit .value)
    | some key =>
        apply Runs.bind
        · apply Runs.child (Site.mem_children_of_child? hkey)
          apply Runs.report
          intro walk
          cases htarget : type.bind fun type => (unit.decls.methods type key.text).head? with
          | none => exact Resolved.unresolved
          | some id =>
              rcases Option.bind_eq_some_iff.mp htarget with ⟨owner, _, hhead⟩
              exact Resolved.method (List.mem_of_head? hhead)
        · intro _
          exact Runs.discard (Runs.visitRole hvisit .value)
  · rw [if_neg hkind]
    exact Runs.discard (hvisit parent site)

theorem annotationUse (hvisit : SoundVisit unit visited visit)
    (hkind : site.kind.isAnnotationUse = true) :
    Runs unit visited (.whole parent site) (Walker.annotationUse unit visit site) := by
  have harguments : ∀ {arguments : Site}, site.child? .arguments = some arguments →
      ∀ type, Runs unit visited (.inside site)
        (arguments.namedChildren.forM (Walker.annotationArgument unit visit type)) := by
    intro arguments hargs type
    apply Runs.part (Site.mem_children_of_child? hargs)
    · intro _
      exact Node.enteredFrom_of_annotation hkind (Or.inr (Site.role_of_child? hargs))
    · exact Runs.forM fun argument hargument =>
        Runs.child (Site.mem_children_of_mem_namedChildren hargument)
          (Runs.annotationArgument hvisit type)
  apply Runs.plain (NodeKind.silences_eq_false_of_isAnnotationUse hkind)
  unfold Walker.annotationUse
  cases hnameSite : site.child? .name with
  | none =>
      cases hargs : site.child? .arguments with
      | none => exact Runs.pure _
      | some arguments => exact harguments hargs none
  | some nameSite =>
      have hrole := Site.role_of_child? hnameSite
      apply Runs.bind
      · apply Runs.child (Site.mem_children_of_child? hnameSite)
        apply Runs.nameAt false
        · intro _
          exact Node.enteredFrom_of_annotation hkind (Or.inl hrole)
        · simp [Node.holdsDottedName, hrole]
      · intro meaning
        cases hargs : site.child? .arguments with
        | none => exact Runs.pure _
        | some arguments => exact harguments hargs meaning.type?

/-!
# Bare names in expressions
-/

theorem run_fieldInScope (unit : WalkedUnit) (name : String) (walk : Walk) :
    ∃ found, (Walker.fieldInScope? unit name).run walk = (found, walk) ∧
      ∀ field, found = some field → ∃ type, unit.decls.field? type name = some field := by
  refine ⟨_, rfl, ?_⟩
  intro field hfound
  rcases Option.or_eq_some_iff.mp ((Option.orElse_eq_or ..).symm.trans hfound) with
    henclosing | ⟨_, hstatic⟩
  · rcases List.exists_of_findSome?_eq_some henclosing with ⟨type, _, hfield⟩
    exact ⟨type, hfield⟩
  · rcases List.exists_of_findSome?_eq_some hstatic with ⟨type, _, hfield⟩
    exact ⟨type, hfield⟩

theorem bind_fieldInScope {α : Type} {place : Place} {name : String}
    {next : Option SymbolId → Walker α}
    (hnone : Runs unit visited place (next none))
    (hsome : ∀ type field, unit.decls.field? type name = some field →
      Runs unit visited place (next (some field))) :
    Runs unit visited place (Walker.fieldInScope? unit name >>= next) := by
  intro walk
  rcases run_fieldInScope unit name walk with ⟨found, hrun, hfound⟩
  rw [StateT.run_bind, hrun]
  cases found with
  | none => exact hnone walk
  | some field =>
      rcases hfound field rfl with ⟨type, hfield⟩
      exact hsome type field hfield walk

theorem expressionName (hkind : site.kind = .identifier) :
    Runs unit visited (.whole parent site) (Walker.expressionName unit site) := by
  unfold Walker.expressionName
  apply Runs.bind_get
  intro walk
  cases hlocal : walk.local? site.text with
  | some found => exact Run.report false (Resolved.localVariable hlocal)
  | none =>
      refine Runs.bind_fieldInScope ?_ ?_ walk
      · exact Runs.typeOrPackage (Node.isNameToken_of_identifier hkind)
      · intro type field hfield
        apply Runs.bind
        · exact Runs.report false fun _ => Resolved.field hfield
        · intro _
          exact Runs.pure _

end Runs
end RestrictedApi

import RestrictedApi.Proofs.Bounds

/-!
# Every walk stays in range

One lemma for each step of a walk.  Only names, selections and parentheses around them denote types;
only the bodies of types, of anonymous classes and of enum constants are walked within a type.
-/

namespace RestrictedApi

namespace Declarations.Sound

variable {simple : Prop} {decls : Declarations} {table : SymbolTable} {id : SymbolId}

theorem selectFrom_lt (h : decls.Sound simple table) {name : String} {position : Position}
    {start : SymbolId} {fromType : Bool}
    (hid : id ∈ (select.selectFrom decls name position start fromType).2.types) :
    id < table.size := by
  unfold select.selectFrom at hid
  dsimp only at hid
  split at hid
  · rw [Meaning.types_ofType] at hid
    cases hid
  · rename_i _ hmember
    have hfound := h.memberType (Option.ite_none_right_eq_some.mp hmember).2
    rw [List.mem_singleton.mp hid]
    exact hfound.lt_size
  · cases hid
  · cases hid

theorem select_lt (h : decls.Sound simple table) {qualifier : Meaning} {name : String}
    {position : Position} (hid : id ∈ (decls.select qualifier name position).2.types) :
    id < table.size := by
  cases qualifier with
  | package package =>
      rw [Declarations.select] at hid
      cases htype : decls.packageType? package name with
      | some type =>
          rw [htype] at hid
          rw [List.mem_singleton.mp hid]
          exact (h.packageTypes htype).lt_size
      | none =>
          rw [htype] at hid
          dsimp only at hid
          split at hid <;> cases hid
  | type type => exact h.selectFrom_lt hid
  | value type => exact h.selectFrom_lt hid
  | unknown => cases hid

end Declarations.Sound

namespace Bounded

variable {unit : WalkedUnit} {size : Nat} {visit : Visit}

/-!
# Names
-/

theorem typeIdentifier (site : Site) :
    Bounded unit size Meaning.types (Walker.typeIdentifier unit site) := by
  unfold Walker.typeIdentifier
  by_cases hvar : site.text = "var"
  · simp only [if_pos hvar]
    exact pure_nothing rfl
  · simp only [if_neg hvar]
    apply bind (simpleType? site.text)
    intro target larger _ htarget
    apply andThen (report _ _ _ _ _)
    intro _
    cases target with
    | none => exact pure_nothing rfl
    | some type => exact Bounded.pure htarget

theorem packageName (site : Site) (inImport : Bool) :
    Bounded unit size Meaning.types (Walker.packageName unit site inImport) := by
  apply andThen (report _ _ _ _ _)
  intro _
  cases unit.decls.package? site.text with
  | none => exact pure_nothing rfl
  | some id => exact pure_nothing rfl

theorem typeOrPackage (site : Site) :
    Bounded unit size Meaning.types (Walker.typeOrPackage unit site) := by
  apply bind (simpleType? site.text)
  intro target larger _ htarget
  cases target with
  | none => exact packageName site false
  | some type => exact andThen (report _ _ _ _ _) fun _ => Bounded.pure htarget

theorem selection (qualifier : Meaning) (site : Site) (name : String) (position : Position)
    (inImport : Bool) :
    Bounded unit size Meaning.types (do
      Walker.report unit site .memberSelect name
        (unit.decls.select qualifier name position).1 inImport
      return (unit.decls.select qualifier name position).2) := by
  intro walk hwalk hsize
  have hmeaning : ∀ id, id ∈ (unit.decls.select qualifier name position).2.types →
      id < walk.table.size := fun _ hid => hwalk.decls.select_lt hid
  exact andThen (report _ _ _ _ _) (fun _ => Bounded.pure hmeaning) walk hwalk (Nat.le_refl _)

mutual

theorem scopedType {unit : WalkedUnit} {visit : Visit} (size : Nat)
    (hvisit : BoundedVisit unit visit) (path : Path) (node : Node) :
    Bounded unit size Meaning.types (Walker.scopedType unit visit path node) := by
  cases node with
  | mk kind named role line column offset length text children =>
      rw [Walker.scopedType]
      cases Walker.lastTypeIdentifier? _ with
      | none => exact andThen (visitChildren hvisit _) fun _ => pure_nothing rfl
      | some last =>
          apply andThen (scopedTypeParts size hvisit last path 0 true children)
          intro qualifier
          exact selection qualifier last last.text .type false

theorem scopedTypeParts {unit : WalkedUnit} {visit : Visit} (size : Nat)
    (hvisit : BoundedVisit unit visit) (last : Site) (path : Path) (index : Nat) (first : Bool)
    (nodes : List Node) :
    Bounded unit size Meaning.types
      (Walker.scopedTypeParts unit visit last path index first nodes) := by
  cases nodes with
  | nil =>
      rw [Walker.scopedTypeParts]
      exact pure_nothing rfl
  | cons child rest =>
      have hnext : ∀ (meaning : Meaning) (larger : Nat), size ≤ larger →
          (∀ id, id ∈ meaning.types → id < larger) → Bounded unit larger Meaning.types
          (Walker.scopedTypeParts unit visit last path (index + 1) false rest >>= fun others =>
            Pure.pure (if first = true then meaning else others)) := by
        intro meaning larger _ hmeaning
        apply bind (scopedTypeParts larger hvisit last path (index + 1) false rest)
        intro others largest hlargest hothers
        apply Bounded.pure
        intro id hid
        split at hid
        · exact Nat.lt_of_lt_of_le (hmeaning id hid) hlargest
        · exact hothers id hid
      rw [Walker.scopedTypeParts]
      cases child.counts with
      | false => exact scopedTypeParts size hvisit last path (index + 1) first rest
      | true =>
          rw [if_pos rfl]
          by_cases hlast : Site.same ⟨index :: path, child⟩ last = true
          · simp only [if_pos hlast]
            exact bind (pure_nothing rfl) hnext
          · simp only [if_neg hlast]
            by_cases hfirst : (child.kind = .typeIdentifier && first) = true
            · simp only [if_pos hfirst]
              exact bind (typeOrPackage _) hnext
            · simp only [if_neg hfirst]
              by_cases hscoped : child.kind = .scopedTypeIdentifier
              · simp only [if_pos hscoped]
                exact bind (scopedType size hvisit (index :: path) child) hnext
              · simp only [if_neg hscoped]
                exact bind (hvisit size _) hnext

end

mutual

theorem dottedName {unit : WalkedUnit} (size : Nat) (inImport : Bool) (path : Path) (node : Node) :
    Bounded unit size Meaning.types (Walker.dottedName unit inImport path node) := by
  cases node with
  | mk kind named role line column offset length text children =>
      rw [Walker.dottedName]
      by_cases hkind : kind = .identifier
      · simp only [if_pos hkind]
        cases inImport with
        | true => exact packageName _ true
        | false => exact typeOrPackage _
      · simp only [if_neg hkind]
        apply andThen (dottedQualifier size inImport path 0 children)
        intro qualifier
        cases Site.child? _ .name with
        | none => exact pure_nothing rfl
        | some nameSite => exact selection qualifier nameSite nameSite.text _ inImport

theorem dottedQualifier {unit : WalkedUnit} (size : Nat) (inImport : Bool) (path : Path)
    (index : Nat) (nodes : List Node) :
    Bounded unit size Meaning.types (Walker.dottedQualifier unit inImport path index nodes) := by
  cases nodes with
  | nil =>
      rw [Walker.dottedQualifier]
      exact pure_nothing rfl
  | cons child rest =>
      rw [Walker.dottedQualifier]
      by_cases hrole : child.role = some .scope
      · rw [if_pos hrole]
        exact dottedName size inImport (index :: path) child
      · rw [if_neg hrole]
        exact dottedQualifier size inImport path (index + 1) rest

end

theorem nameAt (inImport : Bool) (site : Site) :
    Bounded unit size Meaning.types (Walker.nameAt unit inImport site) :=
  dottedName size inImport site.path site.node

theorem annotationArgument (hvisit : BoundedVisit unit visit) (type : Option SymbolId)
    (site : Site) :
    Bounded unit size noTypes (Walker.annotationArgument unit visit type site) := by
  unfold Walker.annotationArgument
  by_cases hpair : site.kind = .elementValuePair
  · simp only [if_pos hpair]
    have hvalue : Bounded unit size noTypes
        (Functor.discard (Walker.visit? visit (site.child? .value))) :=
      discard (visit? hvisit _)
    cases site.child? .key with
    | none => exact hvalue
    | some key => exact andThen (report _ _ _ _ _) fun _ => hvalue
  · simp only [if_neg hpair]
    exact discard (hvisit size site)

theorem annotationUse (hvisit : BoundedVisit unit visit) (site : Site) :
    Bounded unit size noTypes (Walker.annotationUse unit visit site) := by
  have harguments : ∀ (type : Option SymbolId) (arguments : Site), Bounded unit size noTypes
      (arguments.namedChildren.forM (Walker.annotationArgument unit visit type)) :=
    fun type _ => forM fun argument _ => annotationArgument hvisit type argument
  unfold Walker.annotationUse
  cases site.child? .name with
  | none =>
      cases site.child? .arguments with
      | none => exact skip ()
      | some arguments => exact harguments none arguments
  | some nameSite =>
      apply andThen (nameAt false nameSite)
      intro meaning
      cases site.child? .arguments with
      | none => exact skip ()
      | some arguments => exact harguments meaning.type? arguments

theorem expressionName (site : Site) :
    Bounded unit size Meaning.types (Walker.expressionName unit site) := by
  apply bind_get
  intro walk _ _
  cases walk.local? site.text with
  | some found =>
      exact andThen (report _ _ _ _ _) fun _ => pure_nothing (Meaning.types_ofType _)
  | none =>
      have hfield : ∀ larger, Bounded unit larger noTypes
          (Walker.fieldInScope? unit site.text) :=
        fun _ => bind_get fun _ _ _ => skip _
      apply andThen (hfield _)
      intro field
      cases field with
      | some field =>
          exact andThen (report _ _ _ _ _) fun _ => pure_nothing (Meaning.types_ofType _)
      | none => exact typeOrPackage site

/-!
# Expressions
-/

theorem pureValue (type : Option SymbolId) :
    Bounded unit size Meaning.types (Pure.pure (Meaning.ofType? type)) :=
  pure_nothing (Meaning.types_ofType type)

theorem receiverAt (hvisit : BoundedVisit unit visit) (site : Site) :
    Bounded unit size Meaning.types (Walker.receiverAt unit visit site) := by
  unfold Walker.receiverAt
  by_cases hsuper : site.kind = .superKeyword
  · simp only [if_pos hsuper]
    exact bind_get fun _ _ _ => pureValue _
  · simp only [if_neg hsuper]
    exact hvisit size site

theorem linkReceiver (hvisit : BoundedVisit unit visit) (site : Site) (given : Option Meaning) :
    Bounded unit size noTypes (Walker.linkReceiver unit visit site given) := by
  unfold Walker.linkReceiver
  cases given with
  | some meaning => exact skip meaning
  | none =>
      cases site.child? .object with
      | none => exact skip Meaning.unknown
      | some object => exact (receiverAt hvisit object).forget

theorem fieldAccess (hvisit : BoundedVisit unit visit) (site : Site) (given : Option Meaning) :
    Bounded unit size Meaning.types (Walker.fieldAccess unit visit site given) := by
  apply andThen (linkReceiver hvisit site given)
  intro qualifier
  cases site.child? .field with
  | none => exact pure_nothing rfl
  | some field =>
      by_cases hthis : field.kind = .thisKeyword
      · simp only [if_pos hthis]
        exact pureValue _
      · simp only [if_neg hthis]
        exact selection qualifier field field.text .expression false

theorem visitArguments {α : Type} {types : α → List SymbolId} (hvisit : BoundedVisit unit visit)
    (arguments : Option Site) {next : Walker α} (hnext : Bounded unit size types next) :
    Bounded unit size types
      (match arguments with
      | none => next
      | some arguments => do
          Walker.visitChildren visit arguments
          next) := by
  cases arguments with
  | none => exact hnext
  | some arguments => exact andThen (visitChildren hvisit arguments) fun _ => hnext

theorem methodInvocation (hvisit : BoundedVisit unit visit) (site : Site)
    (given : Option Meaning) :
    Bounded unit size Meaning.types (Walker.methodInvocation unit visit site given) := by
  unfold Walker.methodInvocation
  cases site.child? .name with
  | none => exact andThen (visitChildren hvisit site) fun _ => pure_nothing rfl
  | some nameSite =>
      have hrest := fun target : Option SymbolId => andThen
        (discard (visit? hvisit (site.child? .typeArguments) : Bounded unit size _ _))
        fun _ => visitArguments hvisit (site.child? .arguments)
          (pureValue (target.bind unit.decls.valueType?))
      cases site.child? .object with
      | some object =>
          apply andThen (linkReceiver hvisit site given)
          intro receiver
          apply andThen (report _ _ _ _ _)
          intro _
          exact hrest _
      | none =>
          have hmethod : Bounded unit size noTypes (Walker.methodInScope? unit nameSite.text
              ((site.child? .arguments).map Site.argumentCount)) :=
            bind_get fun _ _ _ => skip _
          apply andThen hmethod
          intro target
          apply andThen (report _ _ _ _ _)
          intro _
          exact hrest target

theorem memberLinks (hvisit : BoundedVisit unit visit) {given : Option Meaning}
    (hgiven : ∀ id, id ∈ (given.getD .unknown).types → id < size) (links : List Site) :
    Bounded unit size (fun meaning : Option Meaning => (meaning.getD .unknown).types)
      (Walker.memberLinks unit visit given links) := by
  induction links generalizing given size with
  | nil => exact Bounded.pure hgiven
  | cons link rest ih =>
      have hlink : Bounded unit size Meaning.types (Walker.memberLink unit visit given link) := by
        unfold Walker.memberLink
        split
        · exact methodInvocation hvisit link given
        · exact fieldAccess hvisit link given
      apply bind hlink
      intro meaning larger _ hmeaning
      exact ih hmeaning

theorem memberChain (hvisit : BoundedVisit unit visit) (site : Site) :
    Bounded unit size Meaning.types (Walker.memberChain unit visit site) := by
  apply bind (memberLinks hvisit (fun _ hid => by cases hid) _)
  intro meaning larger _ hmeaning
  exact Bounded.pure hmeaning

theorem operatorChain (hvisit : BoundedVisit unit visit) (site : Site) :
    Bounded unit size noTypes (Walker.operatorChain visit site) := by
  apply andThen (discard (visit? hvisit _))
  intro _
  exact forM fun link _ => discard (visit? hvisit _)

theorem conditional (hvisit : BoundedVisit unit visit) (site : Site) :
    Bounded unit size Meaning.types (Walker.conditional visit site) := by
  apply bind (visitEach hvisit _)
  intro visited larger _ hvisited
  exact Bounded.pure fun id hid => hvisited id (meaningAt_types hid)

theorem assignment (hvisit : BoundedVisit unit visit) (site : Site) :
    Bounded unit size Meaning.types (Walker.assignment visit site) := by
  apply bind (visit? hvisit _)
  intro left larger _ hleft
  apply andThen (discard (visit? hvisit _))
  intro _
  exact Bounded.pure hleft

theorem cast (hvisit : BoundedVisit unit visit) (site : Site) :
    Bounded unit size Meaning.types (Walker.cast visit site) := by
  apply andThen (visit? hvisit _)
  intro type
  apply andThen (discard (visit? hvisit _))
  intro _
  exact pureValue _

theorem genericType (hvisit : BoundedVisit unit visit) (site : Site) :
    Bounded unit size Meaning.types (Walker.genericType visit site) := by
  apply bind (visitEach hvisit _)
  intro visited larger _ hvisited
  apply Bounded.pure
  intro id hid
  cases visited with
  | nil => cases hid
  | cons first rest => exact hvisited id (List.mem_append_left _ hid)

theorem switch (hvisit : BoundedVisit unit visit) (site : Site) :
    Bounded unit size noTypes (Walker.switch visit site) := by
  apply andThen (visit? hvisit _)
  intro selector
  exact inSwitch _ (discard (visit? hvisit _))

theorem switchLabel (hvisit : BoundedVisit unit visit) (site : Site) :
    Bounded unit size noTypes (Walker.switchLabel unit visit site) := by
  apply forM
  intro part _
  apply bind_get
  intro walk _ _
  dsimp only
  split
  · exact report _ _ _ _ _
  · exact discard (hvisit _ part)

theorem anonymousBody (hvisit : BoundedVisit unit visit) {supertype : Option SymbolId}
    (hsupertype : ∀ id, id ∈ supertype.toList → id < size) (body : Site) :
    Bounded unit size noTypes (Walker.anonymousBody visit supertype body) :=
  within (.anonymous supertype) hsupertype (inBlock (visitChildren hvisit body))

theorem objectCreation (hvisit : BoundedVisit unit visit) (site : Site) :
    Bounded unit size Meaning.types (Walker.objectCreation visit site) := by
  apply andThen (visitAll hvisit _)
  intro _
  apply bind (visit? hvisit _)
  intro meaning larger _ hmeaning
  apply visitArguments hvisit
  cases site.childOfKind? .classBody with
  | none => exact pureValue _
  | some body => exact andThen (anonymousBody hvisit hmeaning body) fun _ => pureValue _

theorem methodReference (hvisit : BoundedVisit unit visit) (site : Site) :
    Bounded unit size noTypes (Walker.methodReference unit visit site) := by
  unfold Walker.methodReference
  cases site.namedChildren with
  | nil => exact skip ()
  | cons qualifier rest =>
      have hqualifier : Bounded unit size noTypes
          (Walker.referenceQualifier unit visit qualifier) := by
        unfold Walker.referenceQualifier
        split
        · exact bind_get fun _ _ _ => skip _
        · split
          · exact (unheard (hvisit size qualifier)).forget
          · exact (hvisit size qualifier).forget
      apply andThen hqualifier
      intro meaning
      apply andThen (visitAll hvisit _)
      intro _
      cases site.children.getLast? with
      | none => exact skip ()
      | some member =>
          change Bounded unit size noTypes
            (Walker.referencedMember unit meaning.receiver? member)
          unfold Walker.referencedMember
          split
          · exact report _ _ _ _ _
          · exact skip ()
          · exact report _ _ _ _ _
          · exact report _ _ _ _ _
          · exact skip ()

theorem constructorInvocation (hvisit : BoundedVisit unit visit) (site : Site) :
    Bounded unit size noTypes (Walker.constructorInvocation unit visit site) := by
  apply andThen (discard (visit? hvisit _))
  intro _
  apply andThen (discard (visit? hvisit _))
  intro _
  have harguments : ∀ larger, Bounded unit larger noTypes
      (match site.child? .arguments with
      | none => Pure.pure ()
      | some arguments => Walker.visitChildren visit arguments) := by
    intro larger
    cases site.child? .arguments with
    | none => exact skip ()
    | some arguments => exact visitChildren hvisit arguments
  cases site.child? .constructor with
  | none => exact harguments size
  | some keyword =>
      apply bind_get
      intro walk _ _
      exact andThen (report _ _ _ _ _) fun _ => harguments _

/-!
# Types and members
-/

theorem enclosingOf (site : Site) :
    Bounded unit size Enclosing.types (Walker.enclosingOf unit site) := by
  unfold Walker.enclosingOf
  cases hsite : unit.decls.sites[site.path]? with
  | some id =>
      intro walk hwalk _
      refine ⟨hwalk, Nat.le_refl _, ?_⟩
      intro other hother
      rw [List.mem_singleton.mp hother]
      exact hwalk.decls.sites hsite
  | none =>
      have hsupertype : Bounded unit size Option.toList (Walker.localSupertype? unit site) := by
        apply bind_get
        intro walk hwalk _
        apply Bounded.pure
        intro id hid
        rcases Option.bind_eq_some_iff.mp (Option.mem_toList.mp hid) with ⟨name, _, hname⟩
        exact hwalk.decls.typeOf_lt Declarations.Sound.noParameters hname
      apply bind hsupertype
      intro supertype larger _ hlarger
      exact Bounded.pure hlarger

theorem parameterType (hvisit : BoundedVisit unit visit) (site : Site) :
    Bounded unit size noTypes (Walker.parameterType visit site) := by
  apply foldlM
  intro type part
  unfold Walker.parameterPart
  split
  · exact skip type
  · split
    · exact andThen (discard (hvisit size part)) fun _ => skip type
    · split
      · apply andThen (visitEach hvisit _)
        intro visited
        split
        · exact skip _
        · exact skip type
      · exact andThen (hvisit size part) fun _ => skip _

theorem typeDeclaration (hvisit : BoundedVisit unit visit) (site : Site) :
    Bounded unit size noTypes (Walker.typeDeclaration unit visit site) := by
  apply bind (enclosingOf site)
  intro around larger _ haround
  apply underDeclaration
  apply within around haround
  apply inBlock
  apply forM
  intro part _
  unfold Walker.typeDeclarationPart
  split
  · exact forM fun component _ => discard (parameterType hvisit component)
  · exact discard (hvisit larger part)

theorem openTypeParameters (site : Site) :
    Bounded unit size noTypes (Walker.openTypeParameters unit site) := by
  unfold Walker.openTypeParameters
  cases hmember : unit.decls.sites[site.path]?.bind fun id => unit.decls.members[id]? with
  | none => exact forM fun nameSite _ => declareLocalTypeParameter nameSite.text
  | some member =>
      rcases Option.bind_eq_some_iff.mp hmember with ⟨number, _, hnumber⟩
      apply forM
      intro entry hentry
      apply declareTypeParameter
      intro walk hwalk _
      exact (hwalk.decls.members hnumber).2.typeParameters entry.1 entry.2 hentry

theorem methodDeclaration (hvisit : BoundedVisit unit visit) (site : Site) :
    Bounded unit size noTypes (Walker.methodDeclaration unit visit site) := by
  apply underDeclaration
  apply inBlock
  exact andThen (openTypeParameters site) fun _ => visitAll hvisit _

theorem enumConstant (hvisit : BoundedVisit unit visit) (site : Site) :
    Bounded unit size noTypes (Walker.enumConstant visit site) := by
  apply underDeclaration
  apply andThen (visitAll hvisit _)
  intro _
  cases site.child? .body with
  | none => exact skip ()
  | some body =>
      apply bind_get
      intro walk hwalk _
      exact anonymousBody hvisit (fun id hid => hwalk.thisType_lt (Option.mem_toList.mp hid)) body

/-!
# Variables and patterns
-/

theorem localVariables (hvisit : BoundedVisit unit visit) (site : Site) :
    Bounded unit size noTypes (Walker.localVariables unit visit site) := by
  apply underDeclaration
  apply andThen (visit? hvisit _)
  intro meaning
  apply andThen (discard (visit? hvisit _))
  intro _
  apply forM
  intro declarator _
  exact andThen (visit? hvisit _) fun _ => declare _ _ _

theorem parameter (hvisit : BoundedVisit unit visit) (site : Site) :
    Bounded unit size noTypes (Walker.parameter unit visit site) :=
  andThen (parameterType hvisit site) fun _ => declare _ _ _

theorem variableType (hvisit : BoundedVisit unit visit) (site : Site) (roles : List Role) :
    Bounded unit size noTypes (Walker.variableType visit site roles) := by
  apply foldlM
  intro type part
  split
  · exact skip type
  · exact andThen (hvisit size part) fun _ => skip _

theorem enhancedFor (hvisit : BoundedVisit unit visit) (site : Site) :
    Bounded unit size noTypes (Walker.enhancedFor unit visit site) := by
  apply inBlock
  apply andThen (variableType hvisit site _)
  intro type
  apply andThen (discard (visit? hvisit _))
  intro _
  exact andThen (declare _ _ _) fun _ => discard (visit? hvisit _)

theorem resource (hvisit : BoundedVisit unit visit) (site : Site) :
    Bounded unit size noTypes (Walker.resource unit visit site) := by
  unfold Walker.resource
  cases site.child? .name with
  | none => exact visitChildren hvisit site
  | some nameSite =>
      apply andThen (variableType hvisit site _)
      intro type
      exact andThen (discard (visit? hvisit _)) fun _ => declare _ _ _

theorem lambda (hvisit : BoundedVisit unit visit) (site : Site) :
    Bounded unit size noTypes (Walker.lambda unit visit site) := by
  apply inBlock
  have hbody : Bounded unit size noTypes
      (Functor.discard (Walker.visit? visit (site.child? .body))) := discard (visit? hvisit _)
  cases site.child? .parameters with
  | none => exact hbody
  | some parameters =>
      have hparameters : Bounded unit size noTypes
          (Walker.lambdaParameters unit visit parameters) := by
        unfold Walker.lambdaParameters
        split
        · exact declare _ _ _
        · exact forM fun name _ => declare _ _ _
        · exact visitChildren hvisit parameters
      exact andThen hparameters fun _ => hbody

theorem typeTest (hvisit : BoundedVisit unit visit) (site : Site) :
    Bounded unit size noTypes (Walker.typeTest unit visit site) :=
  andThen (visitEach hvisit _) fun _ => declare _ _ _

theorem typePattern (hvisit : BoundedVisit unit visit) (site : Site) :
    Bounded unit size noTypes (Walker.typePattern unit visit site) := by
  apply discard
  apply foldlM
  intro type part
  unfold Walker.patternPart
  split
  · exact andThen (declare _ _ _) fun _ => skip type
  · exact andThen (discard (hvisit size part)) fun _ => skip type
  · exact andThen (hvisit size part) fun _ => skip _

/-!
# Visits
-/

theorem silent {step : Walker Unit} (hstep : Bounded unit size noTypes step) :
    Bounded unit size Meaning.types (Walker.silent step) :=
  andThen hstep fun _ => pure_nothing rfl

theorem step (hvisit : BoundedVisit unit visit) (site : Site) :
    Bounded unit size Meaning.types (Walker.step unit visit site) := by
  unfold Walker.step
  cases site.kind with
  | packageDeclaration => exact silent (forM fun use _ => annotationUse hvisit use)
  | importDeclaration =>
      apply silent
      cases site.namedChildren.find? fun child => child.kind.isName with
      | none => exact skip ()
      | some name => exact discard (nameAt true name)
  | moduleDeclaration | lineComment | blockComment | breakStatement | continueStatement =>
      exact pure_nothing rfl
  | classDeclaration | interfaceDeclaration | enumDeclaration | annotationTypeDeclaration
  | recordDeclaration => exact silent (typeDeclaration hvisit site)
  | fieldDeclaration | constantDeclaration =>
      exact silent (underDeclaration site (visitChildren hvisit site))
  | methodDeclaration | constructorDeclaration | compactConstructorDeclaration
  | annotationElementDeclaration => exact silent (methodDeclaration hvisit site)
  | enumConstant => exact silent (enumConstant hvisit site)
  | localVariableDeclaration => exact silent (localVariables hvisit site)
  | formalParameter | spreadParameter | catchFormalParameter =>
      exact silent (parameter hvisit site)
  | variableDeclarator => exact silent (discard (visit? hvisit _))
  | block | constructorBody | staticInitializer | switchGroup | switchRule | forStatement
  | catchClause | tryWithResources => exact silent (inBlock (visitChildren hvisit site))
  | enhancedForStatement => exact silent (enhancedFor hvisit site)
  | resource => exact silent (resource hvisit site)
  | lambdaExpression => exact silent (lambda hvisit site)
  | labeledStatement => exact silent (visitAll hvisit _)
  | explicitConstructorInvocation => exact silent (constructorInvocation hvisit site)
  | typeIdentifier => exact typeIdentifier site
  | scopedTypeIdentifier => exact scopedType size hvisit site.path site.node
  | genericType => exact genericType hvisit site
  | typeParameter => exact silent (visitAll hvisit _)
  | annotationMarker | annotationCall => exact silent (annotationUse hvisit site)
  | identifier => exact expressionName site
  | scopedIdentifier => exact nameAt false site
  | fieldAccess | methodInvocation => exact memberChain hvisit site
  | binaryExpression => exact silent (operatorChain hvisit site)
  | switchExpression => exact silent (switch hvisit site)
  | switchLabel => exact silent (switchLabel hvisit site)
  | objectCreation => exact objectCreation hvisit site
  | methodReference => exact silent (methodReference hvisit site)
  | thisKeyword => exact bind_get fun _ _ _ => pureValue _
  | castExpression => exact cast hvisit site
  | parenthesizedExpression => exact visit? hvisit _
  | ternaryExpression => exact conditional hvisit site
  | assignmentExpression => exact assignment hvisit site
  | instanceofExpression => exact silent (typeTest hvisit site)
  | typePattern | recordPatternComponent => exact silent (typePattern hvisit site)
  | _ => exact silent (visitChildren hvisit site)

end Bounded

theorem boundedVisit (unit : WalkedUnit) (levels : Nat) :
    BoundedVisit unit (Walker.visit unit levels) := by
  induction levels with
  | zero =>
      intro size site
      have hmark : Bounded unit size noTypes (Walker.markTooDeep site) :=
        Bounded.ofModify fun _ hwalk _ => ⟨{ hwalk with }, rfl⟩
      exact Bounded.andThen hmark fun _ => Bounded.pure_nothing rfl
  | succ levels ih =>
      intro size site
      apply Bounded.bind_get
      intro walk _ _
      split
      · exact Bounded.pure_nothing rfl
      · exact Bounded.step ih site

/-- Extracting usages keeps every number in range and every owner before what it owns. -/
theorem WalkedUnit.inRange_walk (unit : WalkedUnit) {table : SymbolTable}
    (hdecls : unit.decls.Sound False table) (htable : table.Ordered) (root : Node) :
    (unit.walk table root).InRange unit.decls := by
  have hstart : Walk.InRange unit.decls { table } := by
    constructor
    · exact hdecls
    · exact htable
    · intro around id haround _
      cases haround
    · intro block hblock
      rw [List.mem_singleton.mp hblock]
      exact Declarations.Sound.noParameters
  exact (boundedVisit unit nestingLimit 0 ⟨[unit.unit], root⟩ _ hstart (Nat.zero_le _)).1

end RestrictedApi

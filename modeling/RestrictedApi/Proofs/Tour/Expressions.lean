import RestrictedApi.Proofs.Chains
import RestrictedApi.Proofs.Run.Expressions
import RestrictedApi.Proofs.Tour.Names

/-!
# Tours over expressions

A chain is toured from its innermost link outwards: the tour of a link is first that of the link
before it, which is a child, and then that of its other children.
-/

namespace RestrictedApi

namespace Tours

variable {unit : WalkedUnit} {shape : Shape} {visit : Visit} {parent : Option Site} {site : Site}

theorem leaveOut {α : Type} {inImport : Bool} (parts : List Site) {more : List Site}
    {step : Walker α} (hstep : Tours unit shape inImport (.inside site more) step) :
    Tours unit shape inImport (.inside site (parts ++ more)) step :=
  fun walk => Tour.trans (Tour.refl _ _ walk) (hstep walk)

theorem visitArguments (hvisit : TouringVisit unit shape visit)
    (hsite : site.Grammatical shape parent)
    (hkind : site.kind = .methodInvocation ∨ site.kind = .objectCreation ∨
      site.kind = .explicitConstructorInvocation) :
    Tours unit shape false (.inside site (site.child? .arguments).toList)
      (match site.child? .arguments with
      | none => Pure.pure ()
      | some arguments => Walker.visitChildren visit arguments) := by
  cases harguments : site.child? .arguments with
  | none => exact Tours.pure _
  | some arguments =>
      have hmem := Site.mem_children_of_child? harguments
      have hrole := Site.role_of_child? harguments
      have hbelow := hsite.below hmem
      have hplain := hbelow.isPlain_of_arguments (Or.inr hkind) hrole
      have hundeclared : arguments ∉ site.declaredNames := by
        apply Site.not_mem_declaredNames
        rcases hkind with hkind | hkind | hkind <;> rw [hkind] <;> rfl
      have hbody : arguments.isAnonymousBody (some site) = false := by
        rcases hkind with hkind | hkind | hkind
        · exact Site.isAnonymousBody_of_kind (by rw [hkind]; decide)
        · exact Site.isAnonymousBody_of_ne_classBody hkind hmem
            (hbelow.kind_of_role (by simp [hrole])).2.1
        · exact Site.isAnonymousBody_of_kind (by rw [hkind]; decide)
      apply Tours.child hmem hundeclared
      exact (Tours.visitChildren hvisit hbelow (NodeKind.visitsAll_of_isPlain hplain)).enter
        arguments.nodup_namedChildren hplain hbody

/-!
# Selections and calls
-/

/-- The receiver of a link is toured with the link unless it is given. -/
def receiverRoles : Option Meaning → List Role
  | none => [.object]
  | some _ => []

theorem linkReceiver (hvisit : TouringVisit unit shape visit)
    (hsite : site.Grammatical shape parent)
    (hkind : site.kind.visitsAll = true) (given : Option Meaning) :
    Tours unit shape false (.inside site (site.childrenAs (receiverRoles given)))
      (Walker.linkReceiver unit visit site given) := by
  unfold Walker.linkReceiver
  cases given with
  | some meaning => exact Tours.pure meaning
  | none =>
      rw [receiverRoles, Site.childrenAs, List.flatMap_singleton]
      cases hobject : site.child? .object with
      | none => exact Tours.pure _
      | some object =>
          have hmay := hsite.mayVisit_of_visitsAll hkind (Site.mem_children_of_child? hobject)
          simp only [Walker.receiverAt]
          split
          · exact Tours.bind_get fun walk => Tour.refl _ _ walk
          · exact Tours.visitChild hvisit hmay

theorem fieldAccess (hvisit : TouringVisit unit shape visit) (hsite : site.Grammatical shape parent)
    (hkind : site.kind.visitsAll = true) (given : Option Meaning) :
    Tours unit shape false (.inside site (site.childrenAs (receiverRoles given ++ [.field])))
      (Walker.fieldAccess unit visit site given) := by
  unfold Walker.fieldAccess
  rw [Site.childrenAs, List.flatMap_append, List.flatMap_singleton]
  apply Tours.bind (Tours.linkReceiver hvisit hsite hkind given)
  intro qualifier
  cases hfield : site.child? .field with
  | none => exact Tours.pure _
  | some field =>
      by_cases hthis : field.kind = .thisKeyword
      · simp only [if_pos hthis]
        exact Tours.pure _
      · simp only [if_neg hthis]
        have hmay := hsite.mayVisit_of_visitsAll hkind (Site.mem_children_of_child? hfield)
        refine Tours.map (Tours.part hmay ?_) _
        exact Tours.select (Node.isNameToken_of_field (Site.role_of_child? hfield)) qualifier
          .expression false

theorem bind_methodInScope {α : Type} {inImport : Bool} {stop : Stop} {name : String}
    {count : Option Nat} {next : Option SymbolId → Walker α}
    (hnone : Tours unit shape inImport stop (next none))
    (hsome : ∀ type method, method ∈ unit.decls.methods type name →
      Tours unit shape inImport stop (next (some method))) :
    Tours unit shape inImport stop (Walker.methodInScope? unit name count >>= next) := by
  intro walk
  rcases Runs.run_methodInScope unit name count walk with ⟨found, hrun, hfound⟩
  rw [StateT.run_bind, hrun]
  cases found with
  | none => exact hnone walk
  | some method =>
      rcases hfound method rfl with ⟨type, hmethod⟩
      exact hsome type method hmethod walk

theorem methodInvocation (hvisit : TouringVisit unit shape visit)
    (hsite : site.Grammatical shape parent) (hkind : site.kind = .methodInvocation)
    {nameSite : Site} (hname : site.child? .name = some nameSite) (given : Option Meaning) :
    Tours unit shape false (.inside site
      (site.childrenAs (receiverRoles given ++ [.name, .typeArguments, .arguments])))
      (Walker.methodInvocation unit visit site given) := by
  have hall : site.kind.visitsAll = true := by
    rw [hkind]
    rfl
  have hmay := hsite.mayVisit_of_visitsAll hall (Site.mem_children_of_child? hname)
  have harguments := Tours.visitArguments hvisit hsite (Or.inl hkind)
  have hnext : ∀ target : Option SymbolId,
      Tours unit shape false (.inside site
        ((site.child? .typeArguments).toList ++ (site.child? .arguments).toList)) (do
        Functor.discard (Walker.visit? visit (site.child? .typeArguments))
        match site.child? .arguments with
        | none => Pure.pure ()
        | some arguments => Walker.visitChildren visit arguments
        Pure.pure (Meaning.ofType? (target.bind unit.decls.valueType?))) := by
    intro target
    apply Tours.bind
    · exact Tours.discard (Tours.visitRole hvisit hsite hall .typeArguments)
    · intro _
      cases hargs : site.child? .arguments with
      | none => exact Tours.pure _
      | some arguments =>
          rw [hargs] at harguments
          exact harguments.map _
  rw [Site.childrenAs, List.flatMap_append, List.flatMap_cons, List.flatMap_cons,
    List.flatMap_singleton, hname]
  unfold Walker.methodInvocation
  simp only [hname]
  cases hobject : site.child? .object with
  | some object =>
      apply Tours.bind (Tours.linkReceiver hvisit hsite hall given)
      intro receiver
      refine Tours.bind (Tours.part hmay ?_) fun _ => hnext _
      exact Tours.report (fun _ => Runs.resolved_method) (by simp)
  | none =>
      -- A call without an object is of a method in scope, whatever receiver was given.
      apply Tours.leaveOut
      apply Tours.bind_methodInScope
      · refine Tours.bind (Tours.part hmay ?_) fun _ => hnext none
        exact Tours.report (fun _ => Resolved.unresolved) (by simp)
      · intro type method hmethod
        refine Tours.bind (Tours.part hmay ?_) fun _ => hnext (some method)
        exact Tours.report (fun _ => Resolved.method hmethod) (by simp)

/-- The roles of the children of a link other than what stands before its dot. -/
def linkRoles (kind : NodeKind) : List Role :=
  if kind = .methodInvocation then [.name, .typeArguments, .arguments] else [.field]

/-- The children that are toured with a link; all of them are if it is a call without a name. -/
def linkParts (site : Site) (receiver : List Role) : List Site :=
  if site.kind = .methodInvocation ∧ site.child? .name = none then site.namedChildren
  else site.childrenAs (receiver ++ linkRoles site.kind)

theorem linkParts_eq (hsite : site.Grammatical shape parent) (hshape : shape ≠ .loose)
    (receiver : List Role) :
    linkParts site receiver = site.childrenAs (receiver ++ linkRoles site.kind) := by
  apply if_neg
  rintro ⟨hkind, hnone⟩
  rcases hsite.exists_name hshape hkind with ⟨nameSite, hname⟩
  rw [hnone] at hname
  cases hname

theorem memberLink (hvisit : TouringVisit unit shape visit) (hsite : site.Grammatical shape parent)
    (hkind : site.kind.isMemberLink = true) (given : Option Meaning) :
    Tours unit shape false (.inside site (linkParts site (receiverRoles given)))
      (Walker.memberLink unit visit given site) := by
  have hall : site.kind.visitsAll = true := by
    revert hkind
    cases site.kind <;> decide
  unfold Walker.memberLink linkParts linkRoles
  by_cases hcall : site.kind = .methodInvocation
  · rw [if_pos hcall, if_pos hcall]
    cases hname : site.child? .name with
    | none =>
        rw [if_pos ⟨hcall, rfl⟩]
        unfold Walker.methodInvocation
        simp only [hname]
        exact Tours.map (Tours.visitChildren hvisit hsite hall) _
    | some nameSite =>
        rw [if_neg (by simp)]
        exact Tours.methodInvocation hvisit hsite hcall hname given
  · rw [if_neg hcall, if_neg hcall, if_neg fun hnameless => hcall hnameless.1]
    exact Tours.fieldAccess hvisit hsite hall given

-- The induction is on the length of the chain: the link before the last one starts a shorter one.
theorem memberChain (hvisit : TouringVisit unit shape visit) (hsite : site.Visitable shape parent)
    (hkind : site.kind.isMemberLink = true) :
    Tours unit shape false (.whole parent site) (Walker.memberChain unit visit site) := by
  induction hlength : (site.chain .object NodeKind.isMemberLink).length
    generalizing parent site with
  | zero => exact absurd (List.length_eq_zero_iff.mp hlength) (site.chain_ne_nil _ _)
  | succ length ih =>
      have hplain : site.kind.isPlain = true := by
        revert hkind
        cases site.kind <;> decide
      have hroles : (Role.object :: linkRoles site.kind).Nodup := by
        unfold linkRoles
        split <;> decide
      have henter : ∀ {parts : List Site} {step : Walker Meaning},
          (shape ≠ .loose → parts = site.childrenAs (Role.object :: linkRoles site.kind)) →
          Tours unit shape false (.inside site parts) step →
          Tours unit shape false (.whole parent site) step := by
        intro parts step hparts hstep
        refine Tours.enterIf hstep (fun hshape => ?_) (NodeKind.opensNothing_of_isPlain hplain)
          hsite.body
        rw [hparts hshape]
        exact site.nodup_childrenAs hroles
      have hlink := Tours.memberLink hvisit hsite.grammatical hkind
      have hlast := henter (fun hshape => linkParts_eq hsite.grammatical hshape _) (hlink none)
      rw [Site.chain_eq] at hlength
      rw [Walker.memberChain_eq]
      cases hobject : site.child? .object with
      | none => exact hlast
      | some object =>
          cases hcontinues : object.kind.isMemberLink with
          | false =>
              simp only [Option.filter_some, hcontinues]
              exact hlast
          | true =>
              simp only [hobject, hcontinues, if_true, List.length_cons] at hlength
              have hmay := hsite.grammatical.mayVisit_of_visitsAll
                (NodeKind.visitsAll_of_isPlain hplain) (Site.mem_children_of_child? hobject)
              have hbefore := ih hmay.visitable hcontinues (Nat.succ.inj hlength)
              have hrest : ∀ meaning, Tours unit shape false (.inside site (linkParts site []))
                  (Walker.memberLink unit visit (some meaning) site) :=
                fun meaning => hlink (some meaning)
              rw [Option.filter_some, hcontinues]
              refine henter ?_ (Tours.bind (Tours.part hmay hbefore) hrest)
              intro hshape
              rw [linkParts_eq hsite.grammatical hshape, Site.childrenAs, Site.childrenAs,
                List.flatMap_cons, hobject]
              rfl

/-!
# Operators
-/

-- Again the induction is on the length of the chain.
theorem operatorChain (hvisit : TouringVisit unit shape visit) (hsite : site.Visitable shape parent)
    (hkind : site.kind.isOperatorLink = true) :
    Tours unit shape false (.whole parent site) (Walker.operatorChain visit site) := by
  induction hlength : (site.chain .left NodeKind.isOperatorLink).length
    generalizing parent site with
  | zero => exact absurd (List.length_eq_zero_iff.mp hlength) (site.chain_ne_nil _ _)
  | succ length ih =>
      have hplain : site.kind.isPlain = true := by
        revert hkind
        cases site.kind <;> decide
      have hall := NodeKind.visitsAll_of_isPlain hplain
      have hparts := site.nodup_pair (show Role.left ≠ Role.right by decide)
      have hoperand := Tours.visitRole hvisit hsite.grammatical hall
      refine Tours.enter ?_ hparts hplain hsite.body
      rw [Site.chain_eq] at hlength
      rw [Walker.operatorChain_eq]
      have hboth := Tours.bind (Tours.discard (hoperand .left)) fun _ =>
        Tours.discard (hoperand .right)
      cases hleft : site.child? .left with
      | none =>
          rw [hleft] at hboth
          exact hboth
      | some left =>
          cases hcontinues : left.kind.isOperatorLink with
          | false =>
              rw [hleft] at hboth
              simp only [Option.filter_some, hcontinues]
              exact hboth
          | true =>
              simp only [hleft, hcontinues, if_true, List.length_cons] at hlength
              have hmay := hsite.grammatical.mayVisit_of_visitsAll hall
                (Site.mem_children_of_child? hleft)
              rw [Option.filter_some, hcontinues]
              refine Tours.bind (Tours.part hmay ?_) fun _ =>
                Tours.discard (hoperand .right)
              exact ih hmay.visitable hcontinues (Nat.succ.inj hlength)

theorem assignment (hvisit : TouringVisit unit shape visit) (hsite : site.Grammatical shape parent)
    (hkind : site.kind.visitsAll = true) :
    Tours unit shape false
      (.inside site ((site.child? .left).toList ++ (site.child? .right).toList))
      (Walker.assignment visit site) :=
  Tours.bind (Tours.visitRole hvisit hsite hkind .left) fun _ =>
    Tours.map (Tours.discard (Tours.visitRole hvisit hsite hkind .right)) _

theorem cast (hvisit : TouringVisit unit shape visit) (hsite : site.Grammatical shape parent)
    (hkind : site.kind.visitsAll = true) :
    Tours unit shape false
      (.inside site ((site.child? .type).toList ++ (site.child? .value).toList))
      (Walker.cast visit site) :=
  Tours.bind (Tours.visitRole hvisit hsite hkind .type) fun _ =>
    Tours.map (Tours.discard (Tours.visitRole hvisit hsite hkind .value)) _

theorem visitNamed (hvisit : TouringVisit unit shape visit) (hsite : site.Grammatical shape parent)
    (hkind : site.kind.visitsAll = true) :
    Tours unit shape false (.inside site site.namedChildren)
      (Walker.visitEach visit site.namedChildren) :=
  Tours.visitEach hvisit fun _ hchild =>
    hsite.mayVisit_of_visitsAll hkind (Site.mem_children_of_mem_namedChildren hchild)

/-!
# Switches
-/

theorem switch (hvisit : TouringVisit unit shape visit) (hsite : site.Grammatical shape parent)
    (hkind : site.kind.visitsAll = true) :
    Tours unit shape false
      (.inside site ((site.child? .condition).toList ++ (site.child? .body).toList))
      (Walker.switch visit site) :=
  Tours.bind (Tours.visitRole hvisit hsite hkind .condition) fun selector =>
    Tours.inSwitch selector.receiver?
      (Tours.discard (Tours.visitRole hvisit hsite hkind .body))

theorem labelPart (hvisit : TouringVisit unit shape visit) (hsite : site.Visitable shape parent) :
    Tours unit shape false (.whole parent site) (Walker.labelPart unit visit site) := by
  unfold Walker.labelPart
  apply Tours.bind_get
  intro walk
  cases hconstant : ((walk.switches.head?.getD none).filter fun _ => site.kind = .identifier).bind
      fun type => Walker.enumConstant? unit walk.table type site.text with
  | none =>
      simp only [hconstant]
      exact Tours.discard (hvisit parent site hsite) walk
  | some constant =>
      simp only [hconstant]
      rcases Option.bind_eq_some_iff.mp hconstant with ⟨type, _, hfield⟩
      exact Tour.report (Resolved.field (Option.filter_eq_some_iff.mp hfield).1) (by simp)

theorem switchLabel (hvisit : TouringVisit unit shape visit) (hsite : site.Grammatical shape parent)
    (hkind : site.kind.visitsAll = true) :
    Tours unit shape false (.inside site site.namedChildren) (Walker.switchLabel unit visit site) :=
  Tours.forSites fun _ hpart =>
    have hmay := hsite.mayVisit_of_visitsAll hkind (Site.mem_children_of_mem_namedChildren hpart)
    Tours.part hmay (Tours.labelPart hvisit hmay.visitable)

/-!
# Objects and methods
-/

theorem anonymousBody (hvisit : TouringVisit unit shape visit)
    (hsite : site.Grammatical shape parent)
    (hkind : site.kind.isPlain = true) (hbody : site.isAnonymousBody parent = true)
    (supertype : Option SymbolId) :
    Tours unit shape false (.whole parent site) (Walker.anonymousBody visit supertype site) := by
  have hchildren := Tours.visitChildren hvisit hsite (NodeKind.visitsAll_of_isPlain hkind)
  have himport := NodeKind.ne_import_of_opensNothing (NodeKind.opensNothing_of_isPlain hkind)
  exact Tours.within _ (hchildren.inBlock site.nodup_namedChildren
    (Site.opensBlock_of_isAnonymousBody hbody) himport)

theorem creationBody (hvisit : TouringVisit unit shape visit)
    (hsite : site.Grammatical shape parent)
    (hkind : site.kind = .objectCreation) (meaning : Meaning) :
    Tours unit shape false (.inside site (site.childOfKind? .classBody).toList)
      (match site.childOfKind? .classBody with
      | none => Pure.pure (Meaning.ofType? meaning.type?)
      | some body => do
          Walker.anonymousBody visit meaning.type? body
          Pure.pure (Meaning.ofType? meaning.type?)) := by
  cases hfound : site.childOfKind? .classBody with
  | none => exact Tours.pure _
  | some body =>
      have hmem := Site.mem_children_of_childOfKind? hfound
      have hbody : body.isAnonymousBody (some site) = true := by
        apply Site.isAnonymousBody_of_isAt
        simp only [Site.anonymousBody?, hkind, hfound]
      refine Tours.map (Tours.child hmem ?_ ?_) _
      · exact Site.not_mem_declaredNames (by rw [hkind]; rfl) body
      · refine Tours.anonymousBody hvisit (hsite.below hmem) ?_ hbody _
        rw [Site.kind_of_childOfKind? hfound]
        rfl

def creationParts (site : Site) : List Site :=
  site.childrenExcept [site.child? .type, site.child? .arguments, site.childOfKind? .classBody] ++
    ((site.child? .type).toList ++ ((site.child? .arguments).toList ++
      (site.childOfKind? .classBody).toList))

theorem nodup_creationParts (hsite : site.Grammatical shape parent) :
    (creationParts site).Nodup := by
  apply Site.nodup_childrenExcept_append
  · -- The body is found by its kind, which neither the type nor the arguments can have.
    rw [← List.append_assoc]
    apply site.nodup_append_ofKind (site.nodup_pair (by decide))
    intro other hother
    rcases List.mem_append.mp hother with htype | harguments
    · have htype := Option.mem_toList.mp htype
      exact ((hsite.below (Site.mem_children_of_child? htype)).kind_of_role
        (Or.inl (Site.role_of_child? htype))).2.1
    · have harguments := Option.mem_toList.mp harguments
      exact ((hsite.below (Site.mem_children_of_child? harguments)).kind_of_role
        (Or.inr (Or.inr (Or.inl (Site.role_of_child? harguments))))).2.1
  · intro other hother
    simp only [List.mem_append, Option.mem_toList] at hother
    rcases hother with heq | heq | heq <;> simp [← heq]

theorem objectCreation (hvisit : TouringVisit unit shape visit)
    (hsite : site.Visitable shape parent) (hkind : site.kind = .objectCreation) :
    Tours unit shape false (.whole parent site) (Walker.objectCreation visit site) := by
  have hinside : Tours unit shape false (.inside site (creationParts site))
      (Walker.objectCreation visit site) := by
    unfold Walker.objectCreation
    apply Tours.bind
    · apply Tours.visitAll hvisit
      intro child hchild
      apply hsite.grammatical.mayVisit_of_objectCreation hkind
        (Site.mem_children_of_mem_childrenExcept hchild)
      intro hbody
      exact Site.ne_of_mem_childrenExcept hchild (by simp [hbody]) rfl
    · intro _
      apply Tours.bind
      · apply Tours.visit? hvisit
        intro type htype
        have hmem := Site.mem_children_of_child? htype
        apply hsite.grammatical.mayVisit_of_objectCreation hkind hmem
        intro hbody
        exact ((hsite.grammatical.below hmem).kind_of_role (Or.inl (Site.role_of_child? htype))).2.1
          (Site.kind_of_childOfKind? hbody.symm)
      · intro meaning
        have harguments := Tours.visitArguments hvisit hsite.grammatical (Or.inr (Or.inl hkind))
        have hbody := Tours.creationBody hvisit hsite.grammatical hkind meaning
        cases hargs : site.child? .arguments with
        | none => exact hbody
        | some arguments =>
            rw [hargs] at harguments
            exact Tours.bind harguments fun _ => hbody
  exact hinside.enterNode (nodup_creationParts hsite.grammatical) (by rw [hkind]; rfl) hsite.body

theorem referenceQualifier (hvisit : TouringVisit unit shape visit)
    (hsite : site.Visitable shape parent) :
    Tours unit shape false (.whole parent site) (Walker.referenceQualifier unit visit site) := by
  unfold Walker.referenceQualifier
  split
  · exact Tours.bind_get fun walk => Tour.refl _ _ walk
  · split
    · exact Tours.unheard (hvisit parent site hsite)
    · exact hvisit parent site hsite

theorem referencedMember (type : Option SymbolId) :
    Tours unit shape false (.whole parent site) (Walker.referencedMember unit type site) := by
  rcases Runs.referencedMember_cases unit type site with hnone | ⟨name, target, hreport, hresolved⟩
  · rw [hnone]
    exact Tours.pure ()
  · rw [hreport]
    exact Tours.report (fun walk => hresolved _ walk) (by simp)

def memberPart (site : Site) : List Site :=
  (site.children.getLast?.filter fun member => member.kind ≠ .typeArguments).toList

theorem memberOf (hkind : site.kind.visitsAll = true) (type : Option SymbolId) :
    Tours unit shape false (.inside site (memberPart site)) (match site.children.getLast? with
      | none => Pure.pure ()
      | some member => Walker.referencedMember unit type member) := by
  unfold memberPart
  cases hlast : site.children.getLast? with
  | none => exact Tours.pure _
  | some member =>
      by_cases harguments : member.kind = .typeArguments
      · -- Type arguments in the last place are visited with the others.
        intro walk
        have hnothing : Walker.referencedMember unit type member = Pure.pure () := by
          cases type <;> simp [Walker.referencedMember, harguments]
        simp only [hnothing]
        exact Tour.refl _ _ walk
      · rw [Option.filter_some, if_pos (by simpa using harguments)]
        exact Tours.child (List.mem_of_getLast? hlast)
          (Site.not_mem_declaredNames (NodeKind.declares_of_visitsAll hkind) member)
          (Tours.referencedMember type)

theorem remarkMember (hshape : shape ≠ .whole) (type : Option SymbolId) :
    Tours unit shape false (.inside site []) (match site.children.getLast? with
      | none => Pure.pure ()
      | some member => Walker.referencedMember unit type member) := by
  cases hlast : site.children.getLast? with
  | none => exact Tours.pure _
  | some member =>
      have hmem := List.mem_of_getLast? hlast
      rcases Runs.referencedMember_cases unit type member with
        hnone | ⟨name, target, hreport, hresolved⟩
      · simp only [hnone]
        exact Tours.pure ()
      · simp only [hreport]
        exact fun walk => Tour.remark hshape hmem (hresolved _ walk) (by simp)

theorem nodup_referenceParts (hsite : site.Grammatical .whole parent)
    (hkind : site.kind = .methodReference) {qualifier : Site} {rest : List Site}
    (hnamed : site.namedChildren = qualifier :: rest) :
    ([qualifier] ++ (rest.filter (fun child => child.kind = .typeArguments) ++
      memberPart site)).Nodup := by
  have hnodup := site.nodup_namedChildren
  rw [hnamed, List.nodup_cons] at hnodup
  have hmember : ∀ other, other ∈ memberPart site →
      other ≠ qualifier ∧ other.kind ≠ .typeArguments := by
    intro other hother
    rcases Option.filter_eq_some_iff.mp (Option.mem_toList.mp hother) with ⟨hlast, hother⟩
    exact ⟨(hsite.ne_last hkind hnamed hlast).symm, by simpa using hother⟩
  rw [List.singleton_append, List.nodup_cons]
  constructor
  · intro hmem
    rcases List.mem_append.mp hmem with hrest | hlast
    · exact hnodup.1 (List.mem_filter.mp hrest).1
    · exact (hmember qualifier hlast).1 rfl
  · refine List.Nodup.append (hnodup.2.filter _) ?_ ?_
    · unfold memberPart
      generalize site.children.getLast?.filter _ = member
      cases member <;> simp
    · intro other hrest hlast
      exact (hmember other hlast).2 (by simpa using (List.mem_filter.mp hrest).2)

-- The member counts as a part only if it is surely not the qualifier.
theorem exists_memberParts (hsite : site.Grammatical shape parent)
    (hkind : site.kind = .methodReference) {qualifier : Site} {rest : List Site}
    (hnamed : site.namedChildren = qualifier :: rest) :
    ∃ parts, ([qualifier] ++ (rest.filter (fun child => child.kind = .typeArguments) ++
        parts)).Nodup ∧
      ∀ type, Tours unit shape false (.inside site parts) (match site.children.getLast? with
        | none => Pure.pure ()
        | some member => Walker.referencedMember unit type member) := by
  by_cases hshape : shape = .whole
  · subst hshape
    exact ⟨memberPart site, nodup_referenceParts hsite hkind hnamed,
      Tours.memberOf (by rw [hkind]; rfl)⟩
  · refine ⟨[], ?_, Tours.remarkMember hshape⟩
    have hnodup := site.nodup_namedChildren
    rw [hnamed] at hnodup
    rw [List.append_nil, List.singleton_append]
    exact hnodup.sublist (List.filter_sublist.cons_cons qualifier)

theorem methodReference (hvisit : TouringVisit unit shape visit)
    (hsite : site.Visitable shape parent) (hkind : site.kind = .methodReference) :
    Tours unit shape false (.whole parent site) (Walker.methodReference unit visit site) := by
  have hplain : site.kind.isPlain = true := by
    rw [hkind]
    rfl
  have hall := NodeKind.visitsAll_of_isPlain hplain
  unfold Walker.methodReference
  cases hnamed : site.namedChildren with
  | nil => exact Tours.pure _
  | cons qualifier rest =>
      have hmay : ∀ child, child ∈ qualifier :: rest → site.MayVisit shape child := by
        intro child hchild
        rw [← hnamed] at hchild
        exact hsite.grammatical.mayVisit_of_visitsAll hall
          (Site.mem_children_of_mem_namedChildren hchild)
      have hqualifier := hmay qualifier List.mem_cons_self
      rcases exists_memberParts hsite.grammatical hkind hnamed with ⟨parts, hparts, hmember⟩
      refine Tours.enter (Tours.bind ?_ fun meaning => Tours.bind ?_ fun _ => ?_) hparts hplain
        hsite.body
      · exact Tours.part hqualifier
          (Tours.referenceQualifier hvisit hqualifier.visitable)
      · exact Tours.visitAll hvisit fun child hchild =>
          hmay child (List.mem_cons_of_mem _ (List.mem_filter.mp hchild).1)
      · exact hmember meaning.receiver?

def invocationParts (site : Site) : List Site :=
  (site.child? .object).toList ++ ((site.childOfKind? .typeArguments).toList ++
    ((site.child? .constructor).toList ++ (site.child? .arguments).toList))

theorem nodup_invocationParts (hsite : site.Grammatical shape parent) :
    (invocationParts site).Nodup := by
  have hroles := site.nodup_childrenAs
    (show [Role.object, Role.constructor, Role.arguments].Nodup by decide)
  have hkinds : ∀ other, other ∈ site.childrenAs [.object, .constructor, .arguments] →
      other.kind ≠ .typeArguments := by
    intro other hother
    rcases Site.mem_childrenAs.mp hother with ⟨role, hrole, hfound⟩
    have hbelow := hsite.below (Site.mem_children_of_child? hfound)
    have hown := Site.role_of_child? hfound
    simp only [List.mem_cons, List.not_mem_nil, or_false] at hrole
    rcases hrole with rfl | rfl | rfl <;> exact (hbelow.kind_of_role (by simp [hown])).2.2
  have happart := site.nodup_append_ofKind hroles hkinds
  rw [List.perm_append_comm.nodup_iff] at happart
  rw [invocationParts, (List.perm_append_comm_assoc _ _ _).nodup_iff]
  simpa [Site.childrenAs] using happart

theorem constructorInvocation (hvisit : TouringVisit unit shape visit)
    (hsite : site.Visitable shape parent) (hkind : site.kind = .explicitConstructorInvocation) :
    Tours unit shape false (.whole parent site) (Walker.constructorInvocation unit visit site) := by
  have hplain : site.kind.isPlain = true := by
    rw [hkind]
    rfl
  have hall := NodeKind.visitsAll_of_isPlain hplain
  have harguments := Tours.visitArguments hvisit hsite.grammatical (Or.inr (Or.inr hkind))
  unfold Walker.constructorInvocation
  refine Tours.enter (Tours.bind ?_ fun _ => Tours.bind ?_ fun _ => ?_)
    (nodup_invocationParts hsite.grammatical) hplain hsite.body
  · exact Tours.discard (Tours.visitRole hvisit hsite.grammatical hall .object)
  · exact Tours.discard (Tours.visit? hvisit fun found hfound =>
      hsite.grammatical.mayVisit_of_visitsAll hall (Site.mem_children_of_childOfKind? hfound))
  · cases hkeyword : site.child? .constructor with
    | none => exact harguments
    | some keyword =>
        have hmay := hsite.grammatical.mayVisit_of_visitsAll hall
          (Site.mem_children_of_child? hkeyword)
        apply Tours.bind_get
        intro walk
        refine Tour.trans (Tour.child hmay.mem hmay.undeclared ?_) (harguments _)
        refine Tour.report (Runs.resolved_constructor ?_) (by simp)
        by_cases hsuper : keyword.kind = .superKeyword
        · simp [hsuper]
        · simp [hsuper]

end Tours
end RestrictedApi

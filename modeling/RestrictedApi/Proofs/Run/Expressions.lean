import RestrictedApi.Extraction.Expressions
import RestrictedApi.Proofs.Declared
import RestrictedApi.Proofs.Run.Names

/-!
# Runs over expressions

The links of a chain are below its start, so a whole chain is a run below the start.  The arguments
of a call are entered without a visit of the list that holds them.
-/

namespace RestrictedApi

theorem NodeKind.silences_eq_false_of_isMemberLink {kind : NodeKind}
    (hkind : kind.isMemberLink = true) : kind.silences = false := by
  revert hkind
  cases kind <;> decide

theorem NodeKind.silences_eq_false_of_isOperatorLink {kind : NodeKind}
    (hkind : kind.isOperatorLink = true) : kind.silences = false := by
  revert hkind
  cases kind <;> decide

namespace Node

theorem enteredFrom_of_arguments {parent child : Node}
    (hkind : parent.kind = .methodInvocation ∨ parent.kind = .objectCreation ∨
      parent.kind = .explicitConstructorInvocation)
    (hrole : child.role = some .arguments) : child.enteredFrom (some parent) = true := by
  rcases hkind with hkind | hkind | hkind <;> simp [enteredFrom, entersDirectly, hkind, hrole]

end Node

namespace Runs

variable {unit : WalkedUnit} {visited : Site → Walk → Walk → Prop} {visit : Visit}
  {parent : Option Node} {site : Site}

theorem visitArguments (hvisit : SoundVisit unit visited visit)
    (hkind : site.kind = .methodInvocation ∨ site.kind = .objectCreation ∨
      site.kind = .explicitConstructorInvocation) :
    Runs unit visited (.inside site) (match site.child? .arguments with
      | none => Pure.pure ()
      | some arguments => Walker.visitChildren visit arguments) := by
  cases harguments : site.child? .arguments with
  | none => exact Runs.pure _
  | some arguments =>
      apply Runs.visitPart hvisit (Site.mem_children_of_child? harguments)
      intro _
      exact Node.enteredFrom_of_arguments hkind (Site.role_of_child? harguments)

/-!
# Selections and calls
-/

theorem receiverAt (hvisit : SoundVisit unit visited visit) :
    Runs unit visited (.whole parent site) (Walker.receiverAt unit visit site) := by
  unfold Walker.receiverAt
  split
  · exact Runs.bind_get fun walk => Run.refl _ walk
  · exact hvisit parent site

theorem linkReceiver (hvisit : SoundVisit unit visited visit) (given : Option Meaning) :
    Runs unit visited (.inside site) (Walker.linkReceiver unit visit site given) := by
  unfold Walker.linkReceiver
  cases given with
  | some meaning => exact Runs.pure meaning
  | none =>
      cases hobject : site.child? .object with
      | none => exact Runs.pure _
      | some object =>
          exact Runs.child (Site.mem_children_of_child? hobject) (Runs.receiverAt hvisit)

theorem fieldAccess (hvisit : SoundVisit unit visited visit) (given : Option Meaning) :
    Runs unit visited (.inside site) (Walker.fieldAccess unit visit site given) := by
  unfold Walker.fieldAccess
  apply Runs.bind
  · exact Runs.linkReceiver hvisit given
  · intro qualifier
    cases hfield : site.child? .field with
    | none => exact Runs.pure _
    | some field =>
        by_cases hthis : field.kind = .thisKeyword
        · simp only [if_pos hthis]
          exact Runs.pure _
        · simp only [if_neg hthis]
          apply Runs.bind
          · apply Runs.child (Site.mem_children_of_child? hfield)
            exact Runs.select (Node.isNameToken_of_field (Site.role_of_child? hfield)) qualifier
              .expression false
          · intro _
            exact Runs.pure _

theorem resolved_method {parent : Option Node} {node : Node} {walk : Walk} {shape : UsageShape}
    {name : String}
    {count : Option Nat} {receiver : Option SymbolId} :
    Resolved unit parent node walk shape name
      (receiver.bind fun type => unit.decls.method? type name count) := by
  cases htarget : receiver.bind fun type => unit.decls.method? type name count with
  | none => exact Resolved.unresolved
  | some id =>
      rcases Option.bind_eq_some_iff.mp htarget with ⟨type, _, hmethod⟩
      exact Resolved.method (Declarations.mem_of_selectOverload hmethod)

theorem resolved_constructor {parent : Option Node} {node : Node} {walk : Walk}
    {shape : UsageShape} {name : String}
    {count : Option Nat} {owner : Option SymbolId}
    (hname : name = "super" ∨ name = "this" ∨ name = "new") :
    Resolved unit parent node walk shape name
      (owner.bind fun type => unit.decls.constructor? type count) := by
  cases htarget : owner.bind fun type => unit.decls.constructor? type count with
  | none => exact Resolved.unresolved
  | some id =>
      rcases Option.bind_eq_some_iff.mp htarget with ⟨type, _, hconstructor⟩
      exact Resolved.constructor hname (Declarations.mem_of_selectOverload hconstructor)

theorem run_methodInScope (unit : WalkedUnit) (name : String) (count : Option Nat) (walk : Walk) :
    ∃ found, (Walker.methodInScope? unit name count).run walk = (found, walk) ∧
      ∀ method, found = some method → ∃ type, method ∈ unit.decls.methods type name := by
  refine ⟨_, rfl, ?_⟩
  intro method hfound
  rcases Option.or_eq_some_iff.mp ((Option.orElse_eq_or ..).symm.trans hfound) with
    henclosing | ⟨_, hstatic⟩
  · rcases List.exists_of_findSome?_eq_some henclosing with ⟨type, _, hmethod⟩
    exact ⟨type, Declarations.mem_of_selectOverload hmethod⟩
  · rcases List.mem_flatMap.mp (Declarations.mem_of_selectOverload hstatic) with
      ⟨type, _, hmethod⟩
    exact ⟨type, hmethod⟩

theorem bind_methodInScope {α : Type} {place : Place} {name : String} {count : Option Nat}
    {next : Option SymbolId → Walker α}
    (hnone : Runs unit visited place (next none))
    (hsome : ∀ type method, method ∈ unit.decls.methods type name →
      Runs unit visited place (next (some method))) :
    Runs unit visited place (Walker.methodInScope? unit name count >>= next) := by
  intro walk
  rcases run_methodInScope unit name count walk with ⟨found, hrun, hfound⟩
  rw [StateT.run_bind, hrun]
  cases found with
  | none => exact hnone walk
  | some method =>
      rcases hfound method rfl with ⟨type, hmethod⟩
      exact hsome type method hmethod walk

theorem methodInvocation (hvisit : SoundVisit unit visited visit) (given : Option Meaning)
    (hkind : site.kind = .methodInvocation) :
    Runs unit visited (.inside site) (Walker.methodInvocation unit visit site given) := by
  unfold Walker.methodInvocation
  cases hname : site.child? .name with
  | none => exact Runs.bind (Runs.visitChildren hvisit) fun _ => Runs.pure _
  | some nameSite =>
      have hmem := Site.mem_children_of_child? hname
      have hnext : ∀ target : Option SymbolId, Runs unit visited (.inside site) (do
          Functor.discard (Walker.visit? visit (site.child? .typeArguments))
          match site.child? .arguments with
          | none => Pure.pure ()
          | some arguments => Walker.visitChildren visit arguments
          Pure.pure (Meaning.ofType? (target.bind unit.decls.valueType?))) := by
        intro target
        apply Runs.bind
        · exact Runs.discard (Runs.visitRole hvisit .typeArguments)
        · intro _
          have harguments := Runs.visitArguments hvisit (Or.inl hkind)
          cases hargs : site.child? .arguments with
          | none => exact Runs.pure _
          | some arguments =>
              rw [hargs] at harguments
              exact Runs.bind harguments fun _ => Runs.pure _
      cases hobject : site.child? .object with
      | some object =>
          apply Runs.bind
          · exact Runs.linkReceiver hvisit given
          · intro receiver
            apply Runs.bind
            · exact Runs.child hmem (Runs.report false fun _ => Runs.resolved_method)
            · intro _
              exact Runs.bind (Runs.pure _) hnext
      | none =>
          apply Runs.bind_methodInScope
          · apply Runs.bind
            · exact Runs.child hmem (Runs.report false fun _ => Resolved.unresolved)
            · intro _
              exact Runs.bind (Runs.pure _) hnext
          · intro type method hmethod
            apply Runs.bind
            · exact Runs.child hmem (Runs.report false fun _ => Resolved.method hmethod)
            · intro _
              exact Runs.bind (Runs.pure _) hnext

theorem memberLink (hvisit : SoundVisit unit visited visit) (given : Option Meaning) :
    Runs unit visited (.inside site) (Walker.memberLink unit visit given site) := by
  unfold Walker.memberLink
  by_cases hkind : site.kind = .methodInvocation
  · rw [if_pos hkind]
    exact Runs.methodInvocation hvisit given hkind
  · rw [if_neg hkind]
    exact Runs.fieldAccess hvisit given

theorem memberLinks (hvisit : SoundVisit unit visited visit) {links : List Site}
    (hlinks : ∀ link, link ∈ links → Site.Continues NodeKind.isMemberLink site link)
    (given : Option Meaning) :
    Runs unit visited (.inside site) (Walker.memberLinks unit visit given links) := by
  induction links generalizing given with
  | nil => exact Runs.pure given
  | cons link rest ih =>
      rw [Walker.memberLinks]
      apply Runs.bind
      · exact Runs.continues (fun _ => NodeKind.silences_eq_false_of_isMemberLink)
          (hlinks link List.mem_cons_self) (Runs.memberLink hvisit given)
      · intro meaning
        exact ih (fun other hother => hlinks other (List.mem_cons_of_mem link hother))
          (some meaning)

theorem memberChain (hvisit : SoundVisit unit visited visit) :
    Runs unit visited (.inside site) (Walker.memberChain unit visit site) := by
  unfold Walker.memberChain
  apply Runs.bind
  · exact Runs.memberLinks hvisit
      (fun link hlink => Site.continues_of_mem_chain (List.mem_reverse.mp hlink)) none
  · intro _
    exact Runs.pure _

/-!
# Operators
-/

theorem operatorChain (hvisit : SoundVisit unit visited visit) :
    Runs unit visited (.inside site) (Walker.operatorChain visit site) := by
  have hlinks : ∀ link, link ∈ (site.chain .left NodeKind.isOperatorLink).reverse →
      ∀ role, Runs unit visited (.inside site)
        (Functor.discard (Walker.visit? visit (link.child? role))) := by
    intro link hlink role
    apply Runs.continues (fun _ => NodeKind.silences_eq_false_of_isOperatorLink)
      (Site.continues_of_mem_chain (List.mem_reverse.mp hlink))
    exact Runs.discard (Runs.visitRole hvisit role)
  unfold Walker.operatorChain
  apply Runs.bind
  · cases hhead : (site.chain .left NodeKind.isOperatorLink).reverse.head? with
    | none => exact Runs.discard (Runs.pure _)
    | some link => exact hlinks link (List.mem_of_head? hhead) .left
  · intro _
    exact Runs.forM fun link hlink => hlinks link hlink .right

theorem conditional (hvisit : SoundVisit unit visited visit) :
    Runs unit visited (.inside site) (Walker.conditional visit site) :=
  Runs.bind (Runs.visitEach hvisit fun _ => Site.mem_children_of_mem_namedChildren)
    fun _ => Runs.pure _

theorem assignment (hvisit : SoundVisit unit visited visit) :
    Runs unit visited (.inside site) (Walker.assignment visit site) := by
  unfold Walker.assignment
  apply Runs.bind
  · exact Runs.visitRole hvisit .left
  · intro _
    exact Runs.bind (Runs.discard (Runs.visitRole hvisit .right)) fun _ => Runs.pure _

theorem cast (hvisit : SoundVisit unit visited visit) :
    Runs unit visited (.inside site) (Walker.cast visit site) := by
  unfold Walker.cast
  apply Runs.bind
  · exact Runs.visitRole hvisit .type
  · intro _
    exact Runs.bind (Runs.discard (Runs.visitRole hvisit .value)) fun _ => Runs.pure _

theorem genericType (hvisit : SoundVisit unit visited visit) :
    Runs unit visited (.inside site) (Walker.genericType visit site) :=
  Runs.bind (Runs.visitEach hvisit fun _ => Site.mem_children_of_mem_namedChildren)
    fun _ => Runs.pure _

/-!
# Switches
-/

theorem switch (hvisit : SoundVisit unit visited visit) :
    Runs unit visited (.inside site) (Walker.switch visit site) := by
  unfold Walker.switch
  apply Runs.bind
  · exact Runs.visitRole hvisit .condition
  · intro selector
    exact Runs.inSwitch selector.receiver? (Runs.discard (Runs.visitRole hvisit .body))

theorem labelPart (hvisit : SoundVisit unit visited visit) :
    Runs unit visited (.whole parent site) (Walker.labelPart unit visit site) := by
  unfold Walker.labelPart
  apply Runs.bind_get
  intro walk
  cases hconstant : ((walk.switches.head?.getD none).filter fun _ => site.kind = .identifier).bind
      fun type => Walker.enumConstant? unit walk.table type site.text with
  | none =>
      simp only [hconstant]
      exact Runs.discard (hvisit parent site) walk
  | some constant =>
      simp only [hconstant]
      rcases Option.bind_eq_some_iff.mp hconstant with ⟨type, _, hfield⟩
      exact Run.report false (Resolved.field (Option.filter_eq_some_iff.mp hfield).1)

theorem switchLabel (hvisit : SoundVisit unit visited visit) :
    Runs unit visited (.inside site) (Walker.switchLabel unit visit site) :=
  Runs.forM fun _ hpart =>
    Runs.child (Site.mem_children_of_mem_namedChildren hpart) (Runs.labelPart hvisit)

/-!
# Objects and methods
-/

theorem anonymousBody (hvisit : SoundVisit unit visited visit) {body : Site}
    (hbody : body ∈ site.children)
    (hdirect : body.kind.silences = true → body.node.enteredFrom (some site.node) = true)
    (supertype : Option SymbolId) :
    Runs unit visited (.inside site) (Walker.anonymousBody visit supertype body) :=
  Runs.within _ (Runs.inBlock (Runs.visitPart hvisit hbody hdirect))

theorem objectCreation (hvisit : SoundVisit unit visited visit)
    (hkind : site.kind = .objectCreation) :
    Runs unit visited (.inside site) (Walker.objectCreation visit site) := by
  unfold Walker.objectCreation
  apply Runs.bind
  · exact Runs.visitAll hvisit fun _ => Site.mem_children_of_mem_childrenExcept
  · intro _
    apply Runs.bind
    · exact Runs.visitRole hvisit .type
    · intro meaning
      have hbody : Runs unit visited (.inside site) (match site.childOfKind? .classBody with
          | none => Pure.pure (Meaning.ofType? meaning.type?)
          | some body => do
              Walker.anonymousBody visit meaning.type? body
              Pure.pure (Meaning.ofType? meaning.type?)) := by
        cases hfound : site.childOfKind? .classBody with
        | none => exact Runs.pure _
        | some body =>
            apply Runs.bind
            · apply Runs.anonymousBody hvisit (Site.mem_children_of_childOfKind? hfound)
              rw [Site.kind_of_childOfKind? hfound]
              intro h
              cases h
            · intro _
              exact Runs.pure _
      have harguments := Runs.visitArguments hvisit (Or.inr (Or.inl hkind))
      cases hargs : site.child? .arguments with
      | none => exact hbody
      | some arguments =>
          rw [hargs] at harguments
          exact Runs.bind harguments fun _ => hbody

theorem referenceQualifier (hvisit : SoundVisit unit visited visit) :
    Runs unit visited (.whole parent site) (Walker.referenceQualifier unit visit site) := by
  unfold Walker.referenceQualifier
  split
  · exact Runs.bind_get fun walk => Run.refl _ walk
  · split
    · exact Runs.unheard (hvisit parent site)
    · exact hvisit parent site

/-- The member after the `::` is reported as a selection, or not at all. -/
theorem referencedMember_cases (unit : WalkedUnit) (type : Option SymbolId) (member : Site) :
    Walker.referencedMember unit type member = Pure.pure () ∨
      ∃ name target, Walker.referencedMember unit type member =
          Walker.report unit member .memberSelect name target false ∧
        ∀ parent walk, Resolved unit parent member.node walk .memberSelect name target := by
  unfold Walker.referencedMember
  split
  · exact Or.inr ⟨_, _, rfl, fun _ _ => Resolved.unresolved⟩
  · exact Or.inl rfl
  · refine Or.inr ⟨_, _, rfl, fun parent walk => ?_⟩
    rename_i type _
    cases hhead : (unit.decls.constructors type).head? with
    | none => exact Resolved.unresolved
    | some id => exact Resolved.constructor (Or.inr (Or.inr rfl)) (List.mem_of_head? hhead)
  · refine Or.inr ⟨_, _, rfl, fun parent walk => ?_⟩
    rename_i type _
    cases hhead : (unit.decls.methods type member.text).head? with
    | none => exact Resolved.unresolved
    | some id => exact Resolved.method (List.mem_of_head? hhead)
  · exact Or.inl rfl

theorem referencedMember (type : Option SymbolId) :
    Runs unit visited (.whole parent site) (Walker.referencedMember unit type site) := by
  rcases referencedMember_cases unit type site with hnone | ⟨name, target, hreport, hresolved⟩
  · rw [hnone]
    exact Runs.pure ()
  · rw [hreport]
    exact Runs.report false fun walk => hresolved _ walk

theorem methodReference (hvisit : SoundVisit unit visited visit) :
    Runs unit visited (.inside site) (Walker.methodReference unit visit site) := by
  unfold Walker.methodReference
  cases hchildren : site.namedChildren with
  | nil => exact Runs.pure _
  | cons qualifier rest =>
      have hnamed : ∀ child, child ∈ qualifier :: rest → child ∈ site.children := by
        intro child hchild
        rw [← hchildren] at hchild
        exact Site.mem_children_of_mem_namedChildren hchild
      apply Runs.bind
      · exact Runs.child (hnamed qualifier List.mem_cons_self) (Runs.referenceQualifier hvisit)
      · intro meaning
        apply Runs.bind
        · exact Runs.visitAll hvisit fun child hchild =>
            hnamed child (List.mem_cons_of_mem _ (List.mem_filter.mp hchild).1)
        · intro _
          cases hlast : site.children.getLast? with
          | none => exact Runs.pure _
          | some member =>
              exact Runs.child (List.mem_of_getLast? hlast) (Runs.referencedMember _)

theorem constructorInvocation (hvisit : SoundVisit unit visited visit)
    (hkind : site.kind = .explicitConstructorInvocation) :
    Runs unit visited (.inside site) (Walker.constructorInvocation unit visit site) := by
  unfold Walker.constructorInvocation
  apply Runs.bind
  · exact Runs.discard (Runs.visitRole hvisit .object)
  · intro _
    apply Runs.bind
    · exact Runs.discard (Runs.visit? hvisit fun _ => Site.mem_children_of_childOfKind?)
    · intro _
      have harguments := Runs.visitArguments hvisit (Or.inr (Or.inr hkind))
      cases hkeyword : site.child? .constructor with
      | none => exact harguments
      | some keyword =>
          apply Runs.bind_get
          intro walk
          refine Run.trans ?_ (harguments _)
          apply Run.child (Site.mem_children_of_child? hkeyword)
          apply Run.report
          apply Runs.resolved_constructor
          by_cases hsuper : keyword.kind = .superKeyword
          · simp [hsuper]
          · simp [hsuper]

end Runs
end RestrictedApi

import RestrictedApi.Extraction.Bindings
import RestrictedApi.Proofs.Run.Expressions

/-!
# Runs over declarations

Declarations silence warnings, open blocks and bring names into scope.  What they walk is below the
site, also where a part of them, such as a declarator, is not visited itself.
-/

namespace RestrictedApi

theorem Node.enteredFrom_of_parameters {parent child : Node}
    (hkind : parent.kind = .lambdaExpression)
    (hrole : child.role = some .parameters) : child.enteredFrom (some parent) = true := by
  simp [enteredFrom, entersDirectly, hkind, hrole]

namespace Runs

variable {unit : WalkedUnit} {visited : Site → Walk → Walk → Prop} {visit : Visit}
  {parent : Option Node} {site : Site}

/-!
# Parameters
-/

theorem parameterPart (hvisit : SoundVisit unit visited visit) (skipped : NodeKind → Bool)
    (type : Option SymbolId) :
    Runs unit visited (.whole parent site) (Walker.parameterPart visit skipped type site) := by
  unfold Walker.parameterPart
  by_cases hskipped : skipped site.kind = true
  · rw [if_pos hskipped]
    exact Runs.pure type
  · rw [if_neg hskipped]
    by_cases hmodifiers : site.kind = .modifiers
    · rw [if_pos hmodifiers]
      exact Runs.bind (Runs.discard (hvisit parent site)) fun _ => Runs.pure type
    · rw [if_neg hmodifiers]
      by_cases hcatch : site.kind = .catchType
      · rw [if_pos hcatch]
        apply Runs.plain (by rw [hcatch]; rfl)
        apply Runs.bind
        · exact Runs.visitEach hvisit fun _ => Site.mem_children_of_mem_namedChildren
        · intro visited
          split
          · exact Runs.pure _
          · exact Runs.pure type
      · rw [if_neg hcatch]
        exact Runs.bind (hvisit parent site) fun _ => Runs.pure _

theorem parameterType (hvisit : SoundVisit unit visited visit) :
    Runs unit visited (.inside site) (Walker.parameterType visit site) :=
  Runs.foldlM (fun type _ hpart =>
    Runs.child (Site.mem_children_of_mem_childrenExcept hpart)
      (Runs.parameterPart hvisit Walker.isParameterName type)) none

theorem parameter (hvisit : SoundVisit unit visited visit) :
    Runs unit visited (.inside site) (Walker.parameter unit visit site) := by
  unfold Walker.parameter
  apply Runs.bind
  · exact Runs.parameterType hvisit
  · intro type
    apply Runs.declare
    split <;> rfl

theorem variableType (hvisit : SoundVisit unit visited visit) (roles : List Role) :
    Runs unit visited (.inside site) (Walker.variableType visit site roles) := by
  unfold Walker.variableType
  apply Runs.foldlM
  intro type part hpart
  split
  · exact Runs.pure type
  · exact Runs.bind (Runs.visitChild hvisit (Site.mem_children_of_mem_childrenExcept hpart))
      fun _ => Runs.pure _

/-!
# Types and members
-/

theorem typeDeclarationPart (hvisit : SoundVisit unit visited visit) :
    Runs unit visited (.whole parent site) (Walker.typeDeclarationPart visit site) := by
  unfold Walker.typeDeclarationPart
  by_cases hkind : site.kind = .formalParameters
  · rw [if_pos hkind]
    apply Runs.plain (by rw [hkind]; rfl)
    apply Runs.forM
    intro component hcomponent
    apply Runs.part (Site.mem_children_of_mem_namedChildren hcomponent)
    · intro _
      rw [Site.kind] at hkind
      simp [Node.enteredFrom, Node.entersDirectly, hkind]
    · exact Runs.discard (Runs.parameterType hvisit)
  · rw [if_neg hkind]
    exact Runs.discard (hvisit parent site)

theorem enclosingOf {place : Place} : Runs unit visited place (Walker.enclosingOf unit site) := by
  unfold Walker.enclosingOf
  split
  · exact Runs.pure _
  · exact Runs.bind (fun walk => Run.refl place walk) fun _ => Runs.pure _

theorem typeDeclaration (hvisit : SoundVisit unit visited visit)
    (hkind : site.kind.silences = true) :
    Runs unit visited (.whole parent site) (Walker.typeDeclaration unit visit site) := by
  unfold Walker.typeDeclaration
  apply Runs.bind
  · exact Runs.enclosingOf
  · intro enclosing
    apply Runs.underDeclaration hkind
    apply Runs.within
    apply Runs.inBlock
    exact Runs.forM fun _ hpart =>
      Runs.child (Site.mem_children_of_mem_childrenExcept hpart) (Runs.typeDeclarationPart hvisit)

theorem fieldDeclaration (hvisit : SoundVisit unit visited visit)
    (hkind : site.kind.silences = true) :
    Runs unit visited (.whole parent site) (Walker.fieldDeclaration visit site) :=
  Runs.underDeclaration hkind (Runs.visitChildren hvisit)

end Runs

theorem Walk.OpensBlock.openTypeParameters {unit : WalkedUnit} {first opened : Walk}
    (h : first.OpensBlock unit opened) (site : Site) :
    first.OpensBlock unit ((Walker.openTypeParameters unit site).run opened).2 := by
  unfold Walker.openTypeParameters
  split
  · rename_i member hmember
    rcases Option.bind_eq_some_iff.mp hmember with ⟨id, _, hdecl⟩
    exact Walker.forM_induct h fun _ hparameter _ hopened => .typeParameter hopened hdecl hparameter
  · exact Walker.forM_induct h fun nameSite _ _ hopened => .localTypeParameter nameSite.text hopened

namespace Runs

variable {unit : WalkedUnit} {visited : Site → Walk → Walk → Prop} {visit : Visit}
  {parent : Option Node} {site : Site}

theorem methodDeclaration (hvisit : SoundVisit unit visited visit)
    (hkind : site.kind.silences = true) :
    Runs unit visited (.whole parent site) (Walker.methodDeclaration unit visit site) := by
  unfold Walker.methodDeclaration
  apply Runs.underDeclaration hkind
  intro walk
  exact Run.inBlock (Walk.OpensBlock.empty.openTypeParameters site)
    (Runs.visitAll hvisit (fun _ => Site.mem_children_of_mem_childrenExcept) _)

theorem enumConstant (hvisit : SoundVisit unit visited visit)
    (hkind : site.kind = .enumConstant) :
    Runs unit visited (.whole parent site) (Walker.enumConstant visit site) := by
  unfold Walker.enumConstant
  apply Runs.underDeclaration (by rw [hkind]; rfl)
  apply Runs.bind
  · exact Runs.visitAll hvisit fun _ => Site.mem_children_of_mem_childrenExcept
  · intro _
    cases hbody : site.child? .body with
    | none => exact Runs.pure _
    | some body =>
        apply Runs.bind_get
        intro walk
        refine Runs.anonymousBody hvisit (Site.mem_children_of_child? hbody) ?_ _ walk
        intro _
        rw [Site.kind] at hkind
        simp [Node.enteredFrom, Node.entersDirectly, hkind, Site.role_of_child? hbody]

/-!
# Variables
-/

theorem localVariable (hvisit : SoundVisit unit visited visit) (inferred : Bool)
    (declared : Option SymbolId) :
    Runs unit visited (.inside site) (Walker.localVariable unit visit inferred declared site) := by
  unfold Walker.localVariable
  apply Runs.bind
  · exact Runs.visitRole hvisit .value
  · intro value
    exact Runs.declare _ _ rfl

theorem localVariables (hvisit : SoundVisit unit visited visit)
    (hkind : site.kind = .localVariableDeclaration) :
    Runs unit visited (.whole parent site) (Walker.localVariables unit visit site) := by
  unfold Walker.localVariables
  apply Runs.underDeclaration (by rw [hkind]; rfl)
  apply Runs.bind
  · apply Runs.visit? hvisit
    intro found hfound
    exact Site.mem_children_of_child? (Option.filter_eq_some_iff.mp hfound).1
  · intro meaning
    apply Runs.bind
    · exact Runs.discard (Runs.visit? hvisit fun _ => Site.mem_children_of_childOfKind?)
    · intro _
      apply Runs.forM
      intro declarator hdeclarator
      apply Runs.part (Site.mem_children_of_mem_childrenIn hdeclarator)
      · intro _
        rw [Site.kind] at hkind
        simp [Node.enteredFrom, Node.entersDirectly, hkind, Site.role_of_mem_childrenIn hdeclarator]
      · exact Runs.localVariable hvisit _ _

theorem enhancedFor (hvisit : SoundVisit unit visited visit) :
    Runs unit visited (.inside site) (Walker.enhancedFor unit visit site) := by
  unfold Walker.enhancedFor
  apply Runs.inBlock
  apply Runs.bind
  · exact Runs.variableType hvisit _
  · intro type
    apply Runs.bind
    · exact Runs.discard (Runs.visitRole hvisit .value)
    · intro _
      apply Runs.bind
      · exact Runs.declare _ _ rfl
      · intro _
        exact Runs.discard (Runs.visitRole hvisit .body)

theorem resource (hvisit : SoundVisit unit visited visit) :
    Runs unit visited (.inside site) (Walker.resource unit visit site) := by
  unfold Walker.resource
  cases site.child? .name with
  | none => exact Runs.visitChildren hvisit
  | some nameSite =>
      apply Runs.bind
      · exact Runs.variableType hvisit _
      · intro type
        apply Runs.bind
        · exact Runs.discard (Runs.visitRole hvisit .value)
        · intro _
          exact Runs.declare _ _ rfl

theorem lambdaParameters (hvisit : SoundVisit unit visited visit)
    (hdirect : site.kind.silences = true → site.node.enteredFrom parent = true) :
    Runs unit visited (.whole parent site) (Walker.lambdaParameters unit visit site) := by
  unfold Walker.lambdaParameters
  split
  · exact Runs.declare _ _ rfl
  · exact Runs.forM fun _ _ => Runs.declare _ _ rfl
  · exact fun walk => Run.enter hdirect (Runs.visitChildren hvisit walk)

theorem lambda (hvisit : SoundVisit unit visited visit) (hkind : site.kind = .lambdaExpression) :
    Runs unit visited (.inside site) (Walker.lambda unit visit site) := by
  unfold Walker.lambda
  apply Runs.inBlock
  cases hparameters : site.child? .parameters with
  | none => exact Runs.discard (Runs.visitRole hvisit .body)
  | some parameters =>
      apply Runs.bind
      · apply Runs.child (Site.mem_children_of_child? hparameters)
        apply Runs.lambdaParameters hvisit
        intro _
        exact Node.enteredFrom_of_parameters hkind (Site.role_of_child? hparameters)
      · intro _
        exact Runs.discard (Runs.visitRole hvisit .body)

/-!
# Patterns
-/

theorem typeTest (hvisit : SoundVisit unit visited visit) :
    Runs unit visited (.inside site) (Walker.typeTest unit visit site) := by
  unfold Walker.typeTest
  apply Runs.bind
  · exact Runs.visitEach hvisit fun _ => Site.mem_children_of_mem_childrenExcept
  · intro visited
    exact Runs.declare _ _ rfl

theorem patternPart (hvisit : SoundVisit unit visited visit) (type : Option SymbolId) :
    Runs unit visited (.whole parent site) (Walker.patternPart unit visit type site) := by
  unfold Walker.patternPart
  split
  · exact Runs.bind (Runs.declare _ _ rfl) fun _ => Runs.pure _
  · exact Runs.bind (Runs.discard (hvisit parent site)) fun _ => Runs.pure _
  · exact Runs.bind (hvisit parent site) fun _ => Runs.pure _

theorem typePattern (hvisit : SoundVisit unit visited visit) :
    Runs unit visited (.inside site) (Walker.typePattern unit visit site) :=
  Runs.discard (Runs.foldlM (fun type _ hpart =>
    Runs.child (Site.mem_children_of_mem_namedChildren hpart) (Runs.patternPart hvisit type)) none)

theorem typeParameter (hvisit : SoundVisit unit visited visit) :
    Runs unit visited (.inside site) (Walker.typeParameter visit site) :=
  Runs.visitAll hvisit fun _ => Site.mem_children_of_mem_childrenExcept

end Runs
end RestrictedApi

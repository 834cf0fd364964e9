import RestrictedApi.Proofs.Chains
import RestrictedApi.Proofs.Mirror.Names

/-!
# Expressions side by side

Operands are found by their roles, and arguments are counted, so no argument is left out.  What an
expression denotes is that of an operand, never of something that is left out, and it is renumbered
with the state.  Only the labels of a switch look at the table, and only at symbols that stay where
they are.
-/

namespace RestrictedApi

namespace Mirror

open Renumbering

variable {m : Mirror} {visit visit' : Visit} {site twin : Site}

theorem pureType (type : Option SymbolId) :
    m.Steps m.meaning (pure (Meaning.ofType? type)) (pure (Meaning.ofType? (type.map m.number))) :=
  .pure_rel (meaning_ofType type).symm

theorem superMeaning :
    m.Steps m.meaning (get >>= fun walk => pure (Meaning.ofType? (walk.superType? m.unit.decls)))
      (get >>= fun walk => pure (Meaning.ofType? (walk.superType? m.twinUnit.decls))) := by
  refine bind_get (Walk.superType? · m.unit.decls) (fun _ => rfl) fun {walk walk'} hsuper => ?_
  rw [show walk'.superType? m.twinUnit.decls = walk'.superType? m.unit.decls from rfl, hsuper,
    superType_walk m.sound]
  exact pureType _

theorem valueType (target : Option SymbolId) :
    (target.map m.number).bind m.unit.decls.valueType? =
      (target.bind m.unit.decls.valueType?).map m.number :=
  bind_map (valueType_number m.sound) (map_valueType m.sound) target

theorem chainLink (h : m.twins site twin) (role : Role) (link : NodeKind → Bool)
    (hlink : link .other = link .error) :
    Option.Rel (fun child childTwin => m.twins child childTwin ∧ child ∈ site.children)
      ((site.child? role).filter fun child => link child.kind)
      ((twin.child? role).filter fun child => link child.kind) := by
  refine (h.childOf? role).casesOn (fun hchild => ?_) .none
  rw [Option.filter_some, Option.filter_some, hchild.1.read_kind link hlink]
  split
  · exact .some ⟨hchild.1, hchild.2.1⟩
  · exact .none

theorem meaningAt_eq (h : m.twins site twin) (role : Role)
    {visited visitedTwin : List (Site × Meaning)}
    (hvisited : Thinned
      (fun entry entryTwin => m.twins entry.1 entryTwin.1 ∧ entryTwin.2 = m.meaning entry.2)
      (fun entry => site.Omits m.lossy entry.1 ∧ entry.1 ∈ site.children) visited visitedTwin) :
    Walker.meaningAt visitedTwin (twin.child? role) =
      m.meaning (Walker.meaningAt visited (site.child? role)) := by
  have hidle : ∀ {entry : Site × Meaning}, site.Omits m.lossy entry.1 ∧ entry.1 ∈ site.children →
      entry.1.isAt (site.child? role) = false := by
    rintro ⟨child, meaning⟩ ⟨homits, hchild⟩
    cases hrole : site.child? role with
    | none => rfl
    | some found =>
        refine decide_eq_false fun hpath => ?_
        have heq := Site.eq_of_path hchild (Site.mem_children_of_child? hrole) hpath
        have hnone := homits.role
        rw [heq, Site.role_of_child? hrole] at hnone
        cases hnone
  have hfound := hvisited.find? (fun hentry => hentry.1.isAt_eq (h.child? role)) hidle
  unfold Walker.meaningAt
  exact hfound.casesOn (fun hentry => hentry.2) rfl

theorem passes_labelPart (hvisit : m.Visits visit visit') (hlossy : m.lossy)
    (h : site.node.Idle) : m.walks.Passes (Walker.labelPart m.unit visit site) := by
  have hkind : ¬site.kind = .identifier := NodeKind.ne_of_isUnknown h.kind rfl
  have hselector : ∀ selector : Option SymbolId, selector.filter (fun _ => false) = none := by
    rintro (_ | _) <;> rfl
  refine .bind_get fun walk => ?_
  simp only [hkind, decide_false, hselector, Option.bind_none]
  exact (hvisit.idle hlossy h).discard

theorem enumConstant_table {table : SymbolTable} (htable : m.base.size ≤ table.size)
    (type : SymbolId) (name : String) :
    Walker.enumConstant? m.twinUnit (m.table table) (m.number type) name =
      (Walker.enumConstant? m.unit table type name).map m.number := by
  unfold Walker.enumConstant?
  rw [twinUnit_decls, Declarations.withSites_field?, field_number m.sound]
  cases hfield : m.unit.decls.field? type name with
  | none => rfl
  | some field =>
      -- The constant is declared in the program: its number stays, and so does its symbol.
      have hid := (m.sound.field hfield).lt_size
      simp only [Option.filter, get_table htable hid]
      split
      · exact congrArg some (number_of_lt hid).symm
      · rfl

theorem labelConstant {walk walk' : Walk} (h : walk.Alike m walk') (bare : Bool) (name : String) :
    (((walk'.switches.head?.getD none).filter fun _ => bare).bind fun type =>
        Walker.enumConstant? m.twinUnit walk'.table type name) =
      (((walk.switches.head?.getD none).filter fun _ => bare).bind fun type =>
        Walker.enumConstant? m.unit walk.table type name).map m.number := by
  have hswitches : walk'.switches = walk.switches.map (Option.map m.number) :=
    (congrArg Walk.switches h.scope :)
  have htable : walk'.table = m.table walk.table := (congrArg Walk.table h.scope :)
  rw [hswitches, htable]
  rcases walk.switches with _ | ⟨_ | type, _⟩
  · rfl
  · rfl
  · cases bare with
    | false => rfl
    | true => exact enumConstant_table h.size type name

section Handlers

variable (hvisit : m.Visits visit visit') (h : m.twins site twin)

include hvisit h

/-!
# Selections and calls
-/

theorem visitArguments {α : Type} {image : α → α} {next next' : Walker α}
    (hnext : m.Steps image next next') :
    m.Steps image
      (match site.child? .arguments with
      | none => next
      | some arguments => do
          Walker.visitChildren visit arguments
          next)
      (match twin.child? .arguments with
      | none => next'
      | some arguments => do
          Walker.visitChildren visit' arguments
          next') :=
  (h.child? .arguments).casesOn
    (fun harguments => (visitChildren hvisit harguments).bind fun _ => hnext) hnext

theorem receiverAt :
    m.Steps m.meaning (Walker.receiverAt m.unit visit site)
      (Walker.receiverAt m.twinUnit visit' twin) := by
  simp only [Walker.receiverAt, h.kind_iff .superKeyword rfl]
  split
  · exact superMeaning
  · exact hvisit.twins h

theorem linkReceiver (given : Option Meaning) :
    m.Steps m.meaning (Walker.linkReceiver m.unit visit site given)
      (Walker.linkReceiver m.twinUnit visit' twin (given.map m.meaning)) := by
  unfold Walker.linkReceiver
  cases given with
  | some meaning => exact .pure meaning
  | none => exact (h.child? .object).casesOn (receiverAt hvisit ·) (.pure Meaning.unknown)

theorem fieldAccess (given : Option Meaning) :
    m.Steps m.meaning (Walker.fieldAccess m.unit visit site given)
      (Walker.fieldAccess m.twinUnit visit' twin (given.map m.meaning)) := by
  refine (linkReceiver hvisit h given).bind fun qualifier => ?_
  refine (h.child? .field).casesOn (fun hfield => ?_) (.pure Meaning.unknown)
  simp only [hfield.kind_iff .thisKeyword rfl]
  split
  · rw [type_meaning]
    exact pureType _
  · exact selection hfield qualifier .expression false

omit hvisit h in
theorem methodInScope? (name : String) (count : Option Nat) :
    m.Steps (Option.map m.number) (Walker.methodInScope? m.unit name count)
      (Walker.methodInScope? m.twinUnit name count) := by
  refine bind_get Walk.enclosingTypes (fun _ => rfl) fun htypes => .pure_rel ?_
  rw [Maps, htypes, enclosingTypes_walk, twinUnit_decls, Declarations.withSites_method?,
    Declarations.withSites_selectOverload, Declarations.withSites_staticMethods]
  simp only [Option.orElse_eq_orElse, Option.orElse_eq_or, Option.map_or, map_staticMethod m.sound,
    findSome_map (fun id => method_number m.sound id name count)
      (fun id => map_method m.sound id name count)]
  rfl

theorem callRest (target : Option SymbolId) :
    m.Steps m.meaning
      (do
        discard (Walker.visit? visit (site.child? .typeArguments))
        match site.child? .arguments with
        | none => pure ()
        | some arguments => Walker.visitChildren visit arguments
        return Meaning.ofType? (target.bind m.unit.decls.valueType?))
      (do
        discard (Walker.visit? visit' (twin.child? .typeArguments))
        match twin.child? .arguments with
        | none => pure ()
        | some arguments => Walker.visitChildren visit' arguments
        return Meaning.ofType? ((target.map m.number).bind m.unit.decls.valueType?)) := by
  rw [valueType]
  exact (visitRole hvisit h .typeArguments).discard.bind fun _ =>
    visitArguments hvisit h (pureType _)

theorem methodInvocation (given : Option Meaning) :
    m.Steps m.meaning (Walker.methodInvocation m.unit visit site given)
      (Walker.methodInvocation m.twinUnit visit' twin (given.map m.meaning)) := by
  simp only [Walker.methodInvocation]
  refine (h.child? .name).casesOn (fun hname => ?_)
    ((visitChildren hvisit h).bind fun _ => .pure Meaning.unknown)
  simp only [hname.text_eq, h.argumentCount_eq, twinUnit_decls, Declarations.withSites_method?,
    Declarations.withSites_valueType?]
  refine (h.child? .object).casesOn (fun _ => ?_) ?_
  · refine (linkReceiver hvisit h given).bind fun receiver => ?_
    rw [receiver_meaning, bind_map (fun id => method_number m.sound id _ _)
      (fun id => map_method m.sound id _ _)]
    exact (report hname rfl).bind fun _ => callRest hvisit h _
  · refine (methodInScope? _ _).bind fun target => ?_
    exact (report hname rfl).bind fun _ => callRest hvisit h target

theorem memberLink (given : Option Meaning) :
    m.Steps m.meaning (Walker.memberLink m.unit visit given site)
      (Walker.memberLink m.twinUnit visit' (given.map m.meaning) twin) := by
  simp only [Walker.memberLink, h.kind_iff .methodInvocation rfl]
  split
  · exact methodInvocation hvisit h given
  · exact fieldAccess hvisit h given

theorem memberChain :
    m.Steps m.meaning (Walker.memberChain m.unit visit site)
      (Walker.memberChain m.twinUnit visit' twin) := by
  induction h using Twinning.twins.induct with
  | step site twin h ih =>
      rw [Walker.memberChain_eq, Walker.memberChain_eq]
      refine (chainLink h .object NodeKind.isMemberLink rfl).casesOn (fun hobject => ?_)
        (memberLink hvisit h none)
      exact (ih hobject.2 hobject.1).bind fun meaning => memberLink hvisit h (some meaning)

/-!
# Operators
-/

theorem operatorChain :
    m.Steps id (Walker.operatorChain visit site) (Walker.operatorChain visit' twin) := by
  induction h using Twinning.twins.induct with
  | step site twin h ih =>
      have hright := (visitRole hvisit h .right).discard
      rw [Walker.operatorChain_eq, Walker.operatorChain_eq]
      refine (chainLink h .left NodeKind.isOperatorLink rfl).casesOn (fun hleft => ?_) ?_
      · exact (ih hleft.2 hleft.1).bind fun _ => hright
      · exact (visitRole hvisit h .left).discard.bind fun _ => hright

theorem conditional :
    m.Steps m.meaning (Walker.conditional visit site) (Walker.conditional visit' twin) := by
  have hchildren := h.namedChildren.imp_mem (fun _ htwins => htwins) fun hchild homits =>
    And.intro homits (Site.mem_children_of_mem_namedChildren hchild)
  refine (visitEach hvisit hchildren fun hidle => ⟨hidle.1.allowed, hidle.1.idle⟩).bind_rel
    (fun _ _ hlive => hlive) ?_
  exact fun hvisited => .pure_rel (meaningAt_eq h .consequence hvisited)

theorem assignment :
    m.Steps m.meaning (Walker.assignment visit site) (Walker.assignment visit' twin) :=
  (visitRole hvisit h .left).bind fun left =>
    (visitRole hvisit h .right).discard.bind fun _ => .pure left

theorem cast : m.Steps m.meaning (Walker.cast visit site) (Walker.cast visit' twin) := by
  refine (visitRole hvisit h .type).bind fun type => ?_
  rw [type_meaning]
  exact (visitRole hvisit h .value).discard.bind fun _ => pureType _

theorem genericType (hkind : site.kind.ordersChildren = true) :
    m.Steps m.meaning (Walker.genericType visit site) (Walker.genericType visit' twin) := by
  have hchildren := h.namedChildren.ordered (Site.ordersChildren_of_kind hkind)
  refine (visitEach_all hvisit hchildren).bind_rel (fun _ _ hlive => hlive) fun hvisited => ?_
  cases hvisited with
  | nil => exact .pure Meaning.unknown
  | cons hfirst _ => exact .pure_rel hfirst.2

/-!
# Switches
-/

theorem switch : m.Steps id (Walker.switch visit site) (Walker.switch visit' twin) := by
  refine (visitRole hvisit h .condition).bind fun selector => ?_
  rw [receiver_meaning]
  exact inSwitch (visitRole hvisit h .body).discard _

theorem labelPart :
    m.Steps id (Walker.labelPart m.unit visit site) (Walker.labelPart m.twinUnit visit' twin) := by
  have hvisited := (hvisit.twins h).discard
  simp only [Walker.labelPart, h.text_eq, h.kind_iff .identifier rfl]
  refine .bind_get (fun walk => ?_) fun {walk walk'} hwalk => ?_
  · split
    · exact (report h rfl).live
    · exact hvisited.live
  · rw [labelConstant hwalk]
    generalize ((walk.switches.head?.getD none).filter _).bind _ = constant
    cases constant with
    | none => exact hvisited
    | some constant => exact report h rfl

theorem switchLabel :
    m.Steps id (Walker.switchLabel m.unit visit site)
      (Walker.switchLabel m.twinUnit visit' twin) :=
  .forM h.namedChildren (labelPart hvisit ·) fun homits =>
    passes_labelPart hvisit homits.allowed homits.idle

/-!
# Objects and methods
-/

theorem anonymousBody (supertype : Option SymbolId) :
    m.Steps id (Walker.anonymousBody visit supertype site)
      (Walker.anonymousBody visit' (supertype.map m.number) twin) :=
  within (inBlock (visitChildren hvisit h)) (.anonymous supertype)

theorem objectCreation :
    m.Steps m.meaning (Walker.objectCreation visit site) (Walker.objectCreation visit' twin) := by
  have htype := h.child? .type
  have hbody := h.childOfKind? .classBody rfl
  refine (visitExcept hvisit h (.cons htype (.cons (h.child? .arguments) (.cons hbody .nil)))).bind
    fun _ => ?_
  refine (visit? hvisit htype).bind fun meaning => ?_
  rw [type_meaning]
  refine visitArguments hvisit h (hbody.casesOn (fun hbody => ?_) (pureType _))
  exact (anonymousBody hvisit hbody _).bind fun _ => pureType _

theorem referenceQualifier :
    m.Steps m.meaning (Walker.referenceQualifier m.unit visit site)
      (Walker.referenceQualifier m.twinUnit visit' twin) := by
  simp only [Walker.referenceQualifier, h.read_kind Walker.isNameQualifier rfl,
    h.kind_iff .superKeyword rfl]
  split
  · exact superMeaning
  · split
    · exact unheard (hvisit.twins h)
    · exact hvisit.twins h

omit hvisit in
theorem referencedMember (type : Option SymbolId) :
    m.Steps id (Walker.referencedMember m.unit type site)
      (Walker.referencedMember m.twinUnit (type.map m.number) twin) := by
  simp only [Walker.referencedMember, h.text_eq, h.kind_eq, twinUnit_decls,
    Declarations.withSites_constructors, Declarations.withSites_methods]
  refine m.edit.kind_elim site.kind ?_ (by cases type <;> exact .pure ())
  generalize site.kind = kind
  cases type with
  | none =>
      cases kind with
      | identifier => exact report h rfl
      | _ => exact .pure ()
  | some type =>
      cases kind with
      | newKeyword =>
          refine report h ?_
          rw [constructors_number m.sound, ← List.head?_map, map_constructors m.sound]
      | identifier =>
          refine report h ?_
          rw [methods_number m.sound, ← List.head?_map, map_methods m.sound]
      | _ => exact .pure ()

theorem methodReference (hkind : site.kind.ordersChildren = true) :
    m.Steps id (Walker.methodReference m.unit visit site)
      (Walker.methodReference m.twinUnit visit' twin) := by
  have horders := Site.ordersChildren_of_kind hkind
  have hmember := getLast?_of_forall₂ ((m.children h).ordered horders)
  have hchildren := h.namedChildren.ordered horders
  unfold Walker.methodReference
  generalize site.namedChildren = children at hchildren ⊢
  generalize twin.namedChildren = childTwins at hchildren ⊢
  cases hchildren with
  | nil => exact .pure ()
  | cons hqualifier hrest =>
      refine (referenceQualifier hvisit hqualifier).bind fun meaning => ?_
      have htypes := (Thinned.of_forall₂ hrest).filter
        (p := fun child => child.kind = .typeArguments)
        (q := fun child => child.kind = .typeArguments)
        fun hchild => by simp only [hchild.kind_iff .typeArguments rfl]
      refine (visitAll hvisit htypes fun hidle => hidle.1.elim).bind fun _ => ?_
      rw [receiver_meaning]
      exact hmember.casesOn (referencedMember · _) (.pure ())

theorem constructorInvocation :
    m.Steps id (Walker.constructorInvocation m.unit visit site)
      (Walker.constructorInvocation m.twinUnit visit' twin) := by
  have hrest : m.Steps id
      (match site.child? .arguments with
      | none => pure ()
      | some arguments => Walker.visitChildren visit arguments)
      (match twin.child? .arguments with
      | none => pure ()
      | some arguments => Walker.visitChildren visit' arguments) :=
    (h.child? .arguments).casesOn (visitChildren hvisit ·) (.pure ())
  simp only [Walker.constructorInvocation, h.argumentCount_eq]
  refine (visitRole hvisit h .object).discard.bind fun _ => ?_
  refine (visit? hvisit (h.childOfKind? .typeArguments rfl)).discard.bind fun _ => ?_
  refine (h.child? .constructor).casesOn (fun hkeyword => ?_) hrest
  simp only [hkeyword.kind_iff .superKeyword rfl]
  refine bind_get Walk.enclosing (fun _ => rfl) fun {walk walk'} henclosing => ?_
  have howner : ∀ keyword : NodeKind,
      (if keyword = .superKeyword then walk'.superType? m.twinUnit.decls else walk'.thisType?) =
        (if keyword = .superKeyword then walk.superType? m.unit.decls else walk.thisType?).map
          m.number := by
    intro keyword
    rw [apply_ite (Option.map m.number), ← superType_walk m.sound, ← thisType_walk]
    simp only [Walk.superType?, Walk.thisType?, henclosing, twinUnit_decls]
    rfl
  refine (report hkeyword ?_).bind fun _ => hrest
  rw [howner, twinUnit_decls, Declarations.withSites_constructor?]
  exact bind_map (fun id => constructor_number m.sound id _)
    (fun id => map_constructor m.sound id _) _

end Handlers

end Mirror

end RestrictedApi

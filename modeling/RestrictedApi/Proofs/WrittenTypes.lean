import RestrictedApi.Proofs.Conserved
import RestrictedApi.Proofs.Grammar

/-!
# Types as they are written

The name of a type is a word, a selection from another name, or a name applied to type arguments.
What is read off the tree are the segments of the name; what a walk makes of it is a meaning, found
from left to right: the leftmost word of a selection may be a package, and from there on packages,
types and member types follow.
-/

namespace RestrictedApi

inductive TypeName where
  | simple (name : String)
  | select (qualifier : TypeName) (name : String)
  /-- A name with type arguments, which do not matter. -/
  | apply (base : TypeName)
  deriving DecidableEq, Repr, Inhabited

namespace TypeName

def head : TypeName → String
  | simple name => name
  | select qualifier _ => qualifier.head
  | apply base => base.head

def tail : TypeName → DottedName
  | simple _ => []
  | select qualifier name => qualifier.tail ++ [name]
  | apply base => base.tail

def segments (name : TypeName) : DottedName :=
  name.head :: name.tail

/-- Something is selected from the leftmost word without type arguments, so that it may be a
package. -/
def qualifies : TypeName → Bool
  | simple _ => false
  | select (simple _) _ => true
  | select qualifier _ => qualifier.qualifies
  | apply base => base.qualifies

def isInferred : TypeName → Bool
  | simple name => name = "var"
  | select _ _ => false
  | apply base => base.isInferred

end TypeName

namespace Declarations

def qualifierMeaning (decls : Declarations) (view : Viewpoint) (name : String) : Meaning :=
  match decls.simpleType? view name with
  | some type => .type type
  | none => ((decls.package? name).map fun _ => Meaning.package name).getD .unknown

def meaning (decls : Declarations) (view : Viewpoint) : TypeName → Meaning
  | .simple name =>
      if name = "var" then .unknown
      else ((decls.simpleType? view name).map Meaning.type).getD .unknown
  | .select (.simple qualifier) name =>
      (decls.select (decls.qualifierMeaning view qualifier) name .type).2
  | .select qualifier name => (decls.select (decls.meaning view qualifier) name .type).2
  | .apply base => decls.meaning view base

/-- What a name denotes where something is selected from it. -/
def qualifier (decls : Declarations) (view : Viewpoint) : TypeName → Meaning
  | .simple name => decls.qualifierMeaning view name
  | name => decls.meaning view name

theorem meaning_select (decls : Declarations) (view : Viewpoint) (name : TypeName) (last : String) :
    decls.meaning view (.select name last) =
      (decls.select (decls.qualifier view name) last .type).2 := by
  cases name <;> rfl

def denoted? (decls : Declarations) : Meaning → Option SymbolId
  | .package name => decls.package? name
  | meaning => meaning.type?

theorem select_fst (decls : Declarations) (qualifier : Meaning) (name : String) :
    (decls.select qualifier name .type).1 =
      decls.denoted? (decls.select qualifier name .type).2 := by
  have hselect : ∀ id fromType, (select.selectFrom decls name .type id fromType).1 =
      decls.denoted? (select.selectFrom decls name .type id fromType).2 := by
    intro id fromType
    simp only [select.selectFrom]
    cases fromType <;> cases decls.memberType? id name <;> rfl
  unfold select
  cases qualifier with
  | package package =>
      dsimp only
      cases decls.packageType? package name with
      | some type => rfl
      | none =>
          dsimp only
          cases hpackage : decls.package? (package ++ "." ++ name) with
          | none => rfl
          | some id => exact hpackage.symm
  | type id => exact hselect id true
  | value id => exact hselect id false
  | unknown => rfl

end Declarations

/-!
# Two ways to find a type

A name is looked up as a whole, by its segments, or by what it denotes.
-/

namespace Declarations

/-- The type that segments lead to from a package: through nested packages to a type, and on through
member types. -/
def fromPackage? (decls : Declarations) : (package : String) → DottedName → Option SymbolId
  | _, [] => none
  | package, segment :: rest =>
      match decls.packageType? package segment with
      | some type => decls.memberTypes? type rest
      | none =>
          let nested := package ++ "." ++ segment
          (decls.package? nested).bind fun _ => decls.fromPackage? nested rest

/-- The type that a dotted name leads to if its first segment is a package. -/
def throughPackages? (decls : Declarations) : DottedName → Option SymbolId
  | [] => none
  | first :: rest => (decls.package? first).bind fun _ => decls.fromPackage? first rest

def selectAll (decls : Declarations) (start : Meaning) (segments : DottedName) : Meaning :=
  segments.foldl (fun meaning segment => (decls.select meaning segment .type).2) start

variable (decls : Declarations) (view : Viewpoint)

theorem selectAll_unknown (segments : DottedName) :
    decls.selectAll .unknown segments = .unknown := by
  induction segments with
  | nil => rfl
  | cons segment rest ih => exact ih

theorem selectAll_type (id : SymbolId) (segments : DottedName) :
    (decls.selectAll (.type id) segments).type? = decls.memberTypes? id segments := by
  induction segments generalizing id with
  | nil => rfl
  | cons segment rest ih =>
      have hselect : (decls.select (.type id) segment .type).2 =
          ((decls.memberType? id segment).map Meaning.type).getD .unknown := by
        simp only [select, select.selectFrom]
        cases decls.memberType? id segment <;> rfl
      rw [selectAll, List.foldl_cons, hselect, memberTypes?]
      cases decls.memberType? id segment with
      | none => exact congrArg Meaning.type? (decls.selectAll_unknown rest)
      | some next => exact ih next

theorem selectAll_package (package : String) (segments : DottedName) :
    (decls.selectAll (.package package) segments).type? =
      decls.fromPackage? package segments := by
  induction segments generalizing package with
  | nil => rfl
  | cons segment rest ih =>
      rw [selectAll, List.foldl_cons, fromPackage?, select]
      cases decls.packageType? package segment with
      | some type => exact decls.selectAll_type type rest
      | none =>
          dsimp only
          cases decls.package? (package ++ "." ++ segment) with
          | none => exact congrArg Meaning.type? (decls.selectAll_unknown rest)
          | some _ => exact ih (package ++ "." ++ segment)

/-- What a name denotes is selected, segment by segment, from what its leftmost word denotes. -/
theorem meaning_eq_selectAll (name : TypeName) :
    decls.meaning view name = decls.selectAll
      (if name.qualifies then decls.qualifierMeaning view name.head
        else decls.meaning view (.simple name.head)) name.tail := by
  induction name with
  | simple name => rfl
  | select qualifier last ih =>
      rw [meaning_select, TypeName.tail, selectAll, List.foldl_append]
      cases qualifier with
      | simple name => rfl
      | select inner word =>
          exact congrArg (fun meaning => (decls.select meaning last .type).2) ih
      | apply base => exact congrArg (fun meaning => (decls.select meaning last .type).2) ih
  | apply base ih => exact ih

theorem type_meaning (name : TypeName) :
    (decls.meaning view name).type? =
      match decls.simpleType? view name.head with
      | some id =>
          if name.qualifies = true ∨ name.head ≠ "var" then decls.memberTypes? id name.tail
          else none
      | none => if name.qualifies then decls.throughPackages? name.segments else none := by
  rw [meaning_eq_selectAll]
  cases name.qualifies with
  | true =>
      rw [if_pos rfl, qualifierMeaning]
      cases decls.simpleType? view name.head with
      | some id =>
          simp only [true_or, if_true]
          exact decls.selectAll_type id name.tail
      | none =>
          rw [TypeName.segments, throughPackages?]
          cases decls.package? name.head with
          | none => exact congrArg Meaning.type? (decls.selectAll_unknown name.tail)
          | some _ => exact decls.selectAll_package name.head name.tail
  | false =>
      rw [if_neg Bool.false_ne_true, meaning]
      by_cases hvar : name.head = "var"
      · rw [if_pos hvar, selectAll_unknown]
        cases decls.simpleType? view name.head with
        | some id => simp [hvar, Meaning.type?]
        | none => rfl
      · rw [if_neg hvar]
        cases decls.simpleType? view name.head with
        | some id =>
            simp only [ne_eq, hvar, not_false_eq_true, or_true, if_true]
            exact decls.selectAll_type id name.tail
        | none => exact congrArg Meaning.type? (decls.selectAll_unknown name.tail)

def Agree (name : TypeName) : Prop :=
  match decls.simpleType? view name.head with
  | some id =>
      name.qualifies = true ∨ name.head ≠ "var" ∨ decls.memberTypes? id name.tail = none
  | none =>
      name.tail = [] ∨ decls.typeNamed? name.segments =
        if name.qualifies then decls.throughPackages? name.segments else none

theorem throughPackages_singleton (first : String) : decls.throughPackages? [first] = none := by
  rw [throughPackages?]
  cases decls.package? first <;> rfl

theorem typeOf_eq_type_meaning_iff (name : TypeName) :
    decls.typeOf? view name.segments = (decls.meaning view name).type? ↔ decls.Agree view name := by
  rw [type_meaning, TypeName.segments, typeOf?, Agree]
  cases decls.simpleType? view name.head with
  | some id =>
      dsimp only
      by_cases hknown : name.qualifies = true ∨ name.head ≠ "var"
      · rw [if_pos hknown, ← or_assoc]
        exact ⟨fun _ => Or.inl hknown, fun _ => rfl⟩
      · rw [if_neg hknown, ← or_assoc]
        exact ⟨Or.inr, fun hagree => hagree.resolve_left hknown⟩
  | none =>
      dsimp only
      by_cases htail : name.tail = []
      · rw [if_pos htail, TypeName.segments, htail, throughPackages_singleton, ite_self]
        simp
      · rw [if_neg htail]
        exact ⟨Or.inr, fun hagree => hagree.resolve_left htail⟩

end Declarations

/-!
# Names in the tree
-/

def NodeKind.isTypeSegment : NodeKind → Bool
  | .typeIdentifier | .identifier | .scopedTypeIdentifier | .scopedIdentifier | .genericType => true
  | _ => false

/-- A site writes the name of a type, whose last segment is at another site. -/
inductive Site.Writes : Site → TypeName → Site → Prop where
  | simple {site : Site} :
      site.kind = .typeIdentifier →
      Writes site (.simple site.text) site
  | select {site qualifier inner last : Site} {others : List Site} {name : TypeName} :
      site.kind = .scopedTypeIdentifier →
      site.namedChildren = qualifier :: (others ++ [last]) →
      (∀ other, other ∈ others → other.kind.isTypeSegment = false) →
      last.kind = .typeIdentifier →
      Writes qualifier name inner →
      Writes site (.select name last.text) last
  | apply {site base last : Site} {arguments : List Site} {name : TypeName} :
      site.kind = .genericType →
      site.namedChildren = base :: arguments →
      base.kind = .typeIdentifier ∨ base.kind = .scopedTypeIdentifier →
      Writes base name last →
      Writes site (.apply name) last

namespace Site

theorem counts_of_mem_namedChildren {site child : Site} (hchild : child ∈ site.namedChildren) :
    child.node.counts = true :=
  (List.mem_filter.mp hchild).2

end Site

namespace Node

theorem typeName_eq (node : Node) :
    node.typeName? =
      match node.kind with
      | .typeIdentifier | .identifier => some [node.text]
      | .scopedTypeIdentifier | .scopedIdentifier => typeSegments? node.children
      | .genericType => genericBase? node.children
      | .annotatedType => annotatedBase? node.children
      | _ => none := by
  cases node
  exact typeName?.eq_def _

theorem typeSegments_filter (nodes : List Node) :
    typeSegments? nodes = typeSegments? (nodes.filter counts) := by
  induction nodes with
  | nil => rfl
  | cons node rest ih =>
      cases hcounts : node.counts with
      | true =>
          rw [List.filter_cons_of_pos hcounts, typeSegments?, typeSegments?, hcounts, ih]
      | false =>
          rw [List.filter_cons_of_neg (by simp [hcounts]), typeSegments?, hcounts, ih]
          rfl

theorem genericBase_filter (nodes : List Node) :
    genericBase? nodes = genericBase? (nodes.filter counts) := by
  induction nodes with
  | nil => rfl
  | cons node rest ih =>
      cases hcounts : node.counts with
      | true =>
          rw [List.filter_cons_of_pos hcounts, genericBase?, genericBase?, hcounts, ih]
      | false =>
          rw [List.filter_cons_of_neg (by simp [hcounts]), genericBase?, hcounts, ih]
          rfl

theorem typeSegments_append {nodes : List Node}
    (hkinds : ∀ node, node ∈ nodes → node.kind.isTypeSegment = false) (rest : List Node) :
    typeSegments? (nodes ++ rest) = typeSegments? rest := by
  induction nodes with
  | nil => rfl
  | cons node nodes ih =>
      have hkind := hkinds node List.mem_cons_self
      have hrest := ih fun other hother => hkinds other (List.mem_cons_of_mem node hother)
      rw [List.cons_append, typeSegments?, hrest]
      revert hkind
      cases node.kind <;> simp [NodeKind.isTypeSegment]

end Node

namespace Site.Writes

variable {site last : Site} {name : TypeName}

theorem typeSegments_cons (h : site.Writes name last) (hcounts : site.node.counts = true)
    (htype : site.node.typeName? = some name.segments) (rest : List Node) :
    Node.typeSegments? (site.node :: rest) =
      (Node.typeSegments? rest).map (name.segments ++ ·) := by
  rw [Node.typeSegments?, if_pos hcounts]
  cases h with
  | simple hkind =>
      change site.node.kind = _ at hkind
      rw [hkind]
      rfl
  | select hkind _ _ _ _ | apply hkind _ _ _ =>
      change site.node.kind = _ at hkind
      rw [hkind]
      dsimp only
      rw [htype]
      rfl

theorem typeName (h : site.Writes name last) : site.node.typeName? = some name.segments := by
  induction h with
  | @simple site hkind =>
      change site.node.kind = _ at hkind
      rw [Node.typeName_eq, hkind]
      rfl
  | @select site qualifier inner last others name hkind hchildren hothers hlast hqualifier ih =>
      have hcounts : ∀ child, child ∈ qualifier :: (others ++ [last]) → child.node.counts = true :=
        fun child hchild => counts_of_mem_namedChildren (hchildren ▸ hchild)
      have hlastCounts := hcounts last (by simp)
      have hend : Node.typeSegments? ((others ++ [last]).map node) = some [last.text] := by
        rw [List.map_append, Node.typeSegments_append]
        · change last.node.kind = _ at hlast
          rw [List.map_cons, List.map_nil, Node.typeSegments?, hlastCounts, hlast]
          rfl
        · intro other hother
          rcases List.mem_map.mp hother with ⟨part, hpart, rfl⟩
          exact hothers part hpart
      change site.node.kind = _ at hkind
      rw [Node.typeName_eq, hkind]
      dsimp only
      rw [Node.typeSegments_filter, ← map_node_namedChildren, hchildren, List.map_cons,
        hqualifier.typeSegments_cons (hcounts qualifier List.mem_cons_self) ih, hend]
      rfl
  | @apply site base last arguments name hkind hchildren hbase hname ih =>
      have hcounts : base.node.counts = true :=
        counts_of_mem_namedChildren (hchildren ▸ List.mem_cons_self)
      change site.node.kind = _ at hkind
      rw [Node.typeName_eq, hkind]
      dsimp only
      rw [Node.genericBase_filter, ← map_node_namedChildren, hchildren, List.map_cons,
        Node.genericBase?, hcounts]
      change base.node.kind = _ ∨ base.node.kind = _ at hbase
      simp only [hbase, Bool.true_and, Bool.or_eq_true, decide_eq_true_eq, if_true, ih]
      rfl

theorem kind_cases (h : site.Writes name last) :
    site.kind = .typeIdentifier ∨ site.kind = .scopedTypeIdentifier ∨ site.kind = .genericType := by
  cases h with
  | simple hkind => exact Or.inl hkind
  | select hkind _ _ _ _ => exact Or.inr (Or.inl hkind)
  | apply hkind _ _ _ => exact Or.inr (Or.inr hkind)

end Site.Writes

/-!
# What a walk makes of a name
-/

namespace Walker

variable {unit : WalkedUnit}

theorem visit_of_tooDeep_eq_none {levels : Nat} {site : Site} {walk : Walk}
    (h : ((Walker.visit unit levels site).run walk).2.tooDeep = none) :
    ∃ below, (Walker.visit unit levels site).run walk =
      (step unit (Walker.visit unit below) site).run walk := by
  have hstart := (Walk.onward_visits unit levels site walk).tooDeep h
  cases levels with
  | zero =>
      change (walk.tooDeep <|> some site.line) = none at h
      rw [hstart] at h
      cases h
  | succ below =>
      refine ⟨below, ?_⟩
      change (if walk.tooDeep.isSome = true then _ else _ : Walker Meaning).run walk = _
      rw [hstart]
      rfl

theorem mem_references_report (unit : WalkedUnit) {walk : Walk} (hmuted : walk.muted = 0)
    (site : Site) (shape : UsageShape) (name : String) (target : Option SymbolId)
    (inImport : Bool) :
    ∃ reference, reference ∈
        ((report unit site shape name target inImport).run walk).2.references.toList ∧
      reference.path = site.path ∧ reference.usage.target = target := by
  have hrun : ((report unit site shape name target inImport).run walk).2 =
      if walk.muted > 0 then walk else _ := rfl
  rw [hrun, if_neg (by omega), Array.toList_push]
  exact ⟨_, List.mem_append_right _ List.mem_cons_self, rfl, rfl⟩

def leadingPart (unit : WalkedUnit) (visit : Visit) (last site : Site) : Walker Meaning :=
  if site.same last then pure .unknown
  else if site.kind = .typeIdentifier then typeOrPackage unit site
  else if site.kind = .scopedTypeIdentifier then scopedType unit visit site.path site.node
  else visit site

theorem scopedTypeParts_eq (unit : WalkedUnit) (visit : Visit) (last : Site) {path : Path}
    {index : Nat} {nodes : List Node} {site : Site} {rest : List Site}
    (hparts : (Site.number path index nodes).filter (fun part => part.node.counts) = site :: rest) :
    ∃ later others,
      (∀ part, part ∈ Site.number path later others → part ∈ Site.number path index nodes) ∧
      scopedTypeParts unit visit last path index true nodes = do
        let meaning ← leadingPart unit visit last site
        let _ ← scopedTypeParts unit visit last path later false others
        return meaning := by
  induction nodes generalizing index with
  | nil => cases hparts
  | cons node nodes ih =>
      rw [scopedTypeParts]
      rw [Site.number] at hparts
      cases hcounts : node.counts with
      | false =>
          rw [List.filter_cons_of_neg (by simp [hcounts])] at hparts
          rcases ih hparts with ⟨later, others, hothers, heq⟩
          exact ⟨later, others, fun part hpart => List.mem_cons_of_mem _ (hothers part hpart), heq⟩
      | true =>
          rw [List.filter_cons_of_pos (by exact hcounts)] at hparts
          rw [← (List.cons.inj hparts).1]
          refine ⟨index + 1, nodes, fun _ => List.mem_cons_of_mem _, ?_⟩
          simp only [leadingPart, Site.kind, if_true, Bool.and_true, decide_eq_true_eq]
          by_cases hlast : Site.same ⟨index :: path, node⟩ last = true
          · simp only [if_pos hlast]
          · simp only [if_neg hlast]
            by_cases hsimple : node.kind = .typeIdentifier
            · simp only [hsimple, if_true]
            · by_cases hscoped : node.kind = .scopedTypeIdentifier
              · simp only [hscoped, reduceCtorEq, if_false, if_true]
              · simp only [hsimple, hscoped, if_false]

theorem typeOrPackage_run (site : Site) (walk : Walk) :
    ((typeOrPackage unit site).run walk).1 =
      unit.decls.qualifierMeaning (walk.view unit.unit) site.text := by
  unfold Declarations.qualifierMeaning
  change ((match unit.decls.simpleType? (walk.view unit.unit) site.text with
    | some type => (do reportName unit site site.text (some type); return .type type)
    | none => packageName unit site false : Walker Meaning).run walk).1 = _
  cases unit.decls.simpleType? (walk.view unit.unit) site.text with
  | some type => rfl
  | none => rfl

theorem lastTypeIdentifier_eq {site qualifier last : Site} {others : List Site}
    (hchildren : site.namedChildren = qualifier :: (others ++ [last]))
    (hlast : last.kind = .typeIdentifier) : lastTypeIdentifier? site = some last := by
  have hend : [last].filter (fun child => child.kind = .typeIdentifier) = [last] :=
    List.filter_cons_of_pos (by simpa using hlast)
  rw [lastTypeIdentifier?, hchildren, ← List.cons_append, List.filter_append, hend,
    List.getLast?_concat]

theorem scopedType_eq (unit : WalkedUnit) (visit : Visit) {site qualifier last : Site}
    {others : List Site} (hchildren : site.namedChildren = qualifier :: (others ++ [last]))
    (hlast : last.kind = .typeIdentifier) :
    ∃ later rest, (∀ part, part ∈ Site.number site.path later rest → part ∈ site.children) ∧
      scopedType unit visit site.path site.node = do
        let meaning ← leadingPart unit visit last qualifier
        let _ ← scopedTypeParts unit visit last site.path later false rest
        reportSelection unit last last.text (unit.decls.select meaning last.text .type).1
        return (unit.decls.select meaning last.text .type).2 := by
  rcases scopedTypeParts_eq unit visit last hchildren with ⟨later, rest, hrest, hparts⟩
  rcases site with ⟨path, ⟨kind, named, role, line, column, offset, length, text, children⟩⟩
  refine ⟨later, rest, hrest, ?_⟩
  rw [scopedType, lastTypeIdentifier_eq hchildren hlast]
  dsimp only
  rw [hparts]
  rfl

theorem onward_leadingPart (unit : WalkedUnit) (levels : Nat) (last site : Site) :
    Keeps Walk.Onward (leadingPart unit (Walker.visit unit levels) last site) := by
  have honward := Walk.conserves_onward unit
  have hvisits := Walk.onward_visits unit levels
  unfold leadingPart
  by_cases hlast : site.same last = true
  · rw [if_pos hlast]
    exact honward.pure _
  · rw [if_neg hlast]
    by_cases hsimple : site.kind = .typeIdentifier
    · rw [if_pos hsimple]
      exact honward.of_whole (Runs.typeOrPackage (Node.isNameToken_of_typeIdentifier hsimple))
    · rw [if_neg hsimple]
      by_cases hscoped : site.kind = .scopedTypeIdentifier
      · rw [if_pos hscoped]
        exact honward.of_whole (Runs.scopedType hvisits.sound site.node hscoped)
      · rw [if_neg hscoped]
        exact hvisits site

end Walker

/-- From a state, a step makes of a name what it denotes there, and reports the symbol of that at
the last segment.  Nothing is reported for an inferred type. -/
structure Walk.Reads (unit : WalkedUnit) (walk : Walk) (name : TypeName) (last : Site)
    (step : Walker Meaning) : Prop where
  meaning : (step.run walk).1 = unit.decls.meaning (walk.view unit.unit) name
  reported : walk.muted = 0 → name.isInferred = false →
    ∃ reference, reference ∈ (step.run walk).2.references.toList ∧ reference.path = last.path ∧
      reference.usage.target = unit.decls.denoted? (step.run walk).1

namespace Walk

variable {unit : WalkedUnit} {walk : Walk}

theorem reads_typeIdentifier (walk : Walk) (site : Site) :
    walk.Reads unit (.simple site.text) site (Walker.typeIdentifier unit site) := by
  unfold Walker.typeIdentifier
  by_cases hvar : site.text = "var"
  · simp only [if_pos hvar]
    constructor
    · rw [Declarations.meaning, if_pos hvar]
      rfl
    · intro _ hinferred
      simp [TypeName.isInferred, hvar] at hinferred
  · simp only [if_neg hvar]
    constructor
    · rw [Declarations.meaning, if_neg hvar]
      rfl
    · intro hmuted _
      rcases Walker.mem_references_report unit hmuted site .identifier site.text
        (unit.decls.simpleType? (walk.view unit.unit) site.text) false with
        ⟨reference, hmem, hpath, htarget⟩
      refine ⟨reference, hmem, hpath, htarget.trans ?_⟩
      change _ = unit.decls.denoted?
        (((unit.decls.simpleType? (walk.view unit.unit) site.text).map Meaning.type).getD .unknown)
      cases unit.decls.simpleType? (walk.view unit.unit) site.text with
      | none => rfl
      | some id => rfl

theorem reads_scopedType {levels : Nat} {site qualifier last : Site} {others : List Site}
    {name : TypeName} (hchildren : site.namedChildren = qualifier :: (others ++ [last]))
    (hlast : last.kind = .typeIdentifier)
    (hqualifier : ∀ walk : Walk,
      ((Walker.leadingPart unit (Walker.visit unit levels) last qualifier).run walk).2.tooDeep =
        none →
      ((Walker.leadingPart unit (Walker.visit unit levels) last qualifier).run walk).1 =
        unit.decls.qualifier (walk.view unit.unit) name)
    (hend : ((Walker.scopedType unit (Walker.visit unit levels) site.path site.node).run
      walk).2.tooDeep = none) :
    walk.Reads unit (.select name last.text) last
      (Walker.scopedType unit (Walker.visit unit levels) site.path site.node) := by
  rcases Walker.scopedType_eq unit (Walker.visit unit levels) hchildren hlast with
    ⟨later, rest, hrest, heq⟩
  rw [heq] at hend ⊢
  have hleading := Walker.onward_leadingPart unit levels last qualifier walk
  generalize Walker.leadingPart unit (Walker.visit unit levels) last qualifier = leading at *
  have hparts := (conserves_onward unit).of_runs
    (Runs.scopedTypeParts (onward_visits unit levels).sound last false rest hrest)
    (leading.run walk).2
  generalize Walker.scopedTypeParts unit (Walker.visit unit levels) last site.path later false
    rest = parts at *
  have hreport := (conserves_onward unit).report (parts.run (leading.run walk).2).2 last
    .memberSelect last.text
    (unit.decls.select (leading.run walk).1 last.text .type).1 false
  have hmeaning := hqualifier walk (hparts.tooDeep (hreport.tooDeep hend))
  constructor
  · rw [Declarations.meaning_select, ← hmeaning]
    rfl
  · intro hmuted _
    have hquiet := (hleading.trans hparts).muted.trans hmuted
    rcases Walker.mem_references_report unit hquiet last .memberSelect last.text
      (unit.decls.select (leading.run walk).1 last.text .type).1 false with
      ⟨reference, hmem, hpath, htarget⟩
    exact ⟨reference, hmem, hpath, htarget.trans (unit.decls.select_fst _ _)⟩

theorem Reads.of_run {name : TypeName} {last : Site} {step other : Walker Meaning}
    (h : walk.Reads unit name last other) (hrun : step.run walk = other.run walk) :
    walk.Reads unit name last step := by
  constructor
  · rw [hrun]
    exact h.meaning
  · rw [hrun]
    exact h.reported

theorem reads_genericType {levels : Nat} {site base last : Site} {arguments : List Site}
    {name : TypeName} (hchildren : site.namedChildren = base :: arguments)
    (hbase : ((Walker.visit unit levels base).run walk).2.tooDeep = none →
      walk.Reads unit name last (Walker.visit unit levels base))
    (hend : ((Walker.genericType (Walker.visit unit levels) site).run walk).2.tooDeep = none) :
    walk.Reads unit (.apply name) last (Walker.genericType (Walker.visit unit levels) site) := by
  have hrest := (conserves_onward unit).visitEach (onward_visits unit levels) arguments
    ((Walker.visit unit levels base).run walk).2
  unfold Walker.genericType Walker.visitEach at hend ⊢
  rw [hchildren, List.mapM_cons] at hend ⊢
  have h := hbase (hrest.tooDeep hend)
  constructor
  · exact h.meaning
  · intro hmuted hinferred
    rcases h.reported hmuted hinferred with ⟨reference, hmem, hreference⟩
    exact ⟨reference, hrest.references.subset hmem, hreference⟩

end Walk

theorem Site.path_ne_of_namedChildren {site first last : Site} {others : List Site}
    (hchildren : site.namedChildren = first :: (others ++ [last])) : first.path ≠ last.path := by
  have hpairwise := site.pairwise_children.sublist
    (List.filter_sublist (p := fun child => child.node.counts))
  change site.namedChildren.Pairwise _ at hpairwise
  rw [hchildren] at hpairwise
  exact (List.pairwise_cons.mp hpairwise).1 last (by simp)

namespace Site.Writes

variable {site last : Site} {name : TypeName}

/-- By induction on the name: a visit that does not meet the limit reads the name, and so does the
walk through a qualified name that starts from another one. -/
theorem reads_both (h : site.Writes name last) (unit : WalkedUnit) (levels : Nat) (walk : Walk) :
    (((Walker.visit unit levels site).run walk).2.tooDeep = none →
      walk.Reads unit name last (Walker.visit unit levels site)) ∧
    (site.kind = .scopedTypeIdentifier →
      ((Walker.scopedType unit (Walker.visit unit levels) site.path site.node).run
        walk).2.tooDeep = none →
      walk.Reads unit name last
        (Walker.scopedType unit (Walker.visit unit levels) site.path site.node)) := by
  induction h generalizing levels walk with
  | @simple site hkind =>
      constructor
      · intro hend
        rcases Walker.visit_of_tooDeep_eq_none hend with ⟨below, hrun⟩
        refine Walk.Reads.of_run ?_ hrun
        rw [Walker.step, hkind]
        exact walk.reads_typeIdentifier site
      · intro hscoped
        rw [hkind] at hscoped
        cases hscoped
  | @select site qualifier inner last others name hkind hchildren hothers hlast hqualifier ih =>
      have hscoped : ∀ (levels : Nat) (walk : Walk),
          ((Walker.scopedType unit (Walker.visit unit levels) site.path site.node).run
            walk).2.tooDeep = none →
          walk.Reads unit (.select name last.text) last
            (Walker.scopedType unit (Walker.visit unit levels) site.path site.node) := by
        intro levels walk hend
        refine Walk.reads_scopedType hchildren hlast ?_ hend
        intro start hstart
        have hother : Site.same qualifier last = false := by
          simpa [Site.same] using path_ne_of_namedChildren hchildren
        unfold Walker.leadingPart at hstart ⊢
        rw [hother] at hstart ⊢
        cases hqualifier with
        | simple hsimple =>
            simp only [hsimple, if_true] at hstart ⊢
            exact Walker.typeOrPackage_run qualifier start
        | select hinner _ _ _ _ =>
            simp only [hinner] at hstart ⊢
            exact ((ih levels start).2 hinner hstart).meaning
        | apply hinner _ _ _ =>
            simp only [hinner] at hstart ⊢
            exact ((ih levels start).1 hstart).meaning
      refine ⟨?_, fun _ => hscoped levels walk⟩
      intro hend
      rcases Walker.visit_of_tooDeep_eq_none hend with ⟨below, hrun⟩
      refine Walk.Reads.of_run ?_ hrun
      rw [hrun] at hend
      rw [Walker.step, hkind] at hend ⊢
      exact hscoped below walk hend
  | @apply site base last arguments name hkind hchildren _ hname ih =>
      constructor
      · intro hend
        rcases Walker.visit_of_tooDeep_eq_none hend with ⟨below, hrun⟩
        refine Walk.Reads.of_run ?_ hrun
        rw [hrun] at hend
        rw [Walker.step, hkind] at hend ⊢
        exact Walk.reads_genericType hchildren (ih below walk).1 hend
      · intro hscoped
        rw [hkind] at hscoped
        cases hscoped

theorem reads (h : site.Writes name last) {unit : WalkedUnit} {levels : Nat} {walk : Walk}
    (hend : ((Walker.visit unit levels site).run walk).2.tooDeep = none) :
    walk.Reads unit name last (Walker.visit unit levels site) :=
  (h.reads_both unit levels walk).1 hend

end Site.Writes

end RestrictedApi

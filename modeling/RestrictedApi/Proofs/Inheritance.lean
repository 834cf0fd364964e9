import Mathlib.Data.List.Nodup
import Mathlib.Data.Nat.Find
import Mathlib.Order.Bounds.Defs
import RestrictedApi.Declarations.Hierarchy

/-!
# Inherited members

Members are looked for in a type and then in its supertypes, level by level.  This module says what
the levels are on any graph of types, with cycles and with supertypes that are not declared: level
`n` holds exactly the types that are `n` steps away, and a queue of the types to come gives the same
order.  So what is found first is declared by a type that is as near as any that declares it.
-/

namespace RestrictedApi
namespace Declarations

/-!
# Distances
-/

/-- One step up: to the superclass of a declared type, or to one of its interfaces. -/
def IsSupertype (decls : Declarations) (id other : SymbolId) : Prop :=
  ∃ decl, decls.types[id]? = some decl ∧ (decl.superclass = some other ∨ other ∈ decl.interfaces)

inductive Climbs (decls : Declarations) (id : SymbolId) : Nat → SymbolId → Prop where
  | refl : Climbs decls id 0 id
  | up {steps : Nat} {below other : SymbolId} :
      Climbs decls id steps below → decls.IsSupertype below other →
      Climbs decls id (steps + 1) other

def AtDistance (decls : Declarations) (id other : SymbolId) (distance : Nat) : Prop :=
  IsLeast {steps | decls.Climbs id steps other} distance

/-- A type that a condition holds of, and no other such type is nearer. -/
structure Nearest (decls : Declarations) (id : SymbolId) (holds : SymbolId → Prop)
    (type : SymbolId) : Prop where
  here : holds type
  least : ∃ distance, decls.AtDistance id type distance ∧
    ∀ steps other, decls.Climbs id steps other → holds other → distance ≤ steps

variable {decls : Declarations} {id other : SymbolId}

theorem mem_supertypes_iff : other ∈ decls.supertypes id ↔ decls.IsSupertype id other := by
  unfold supertypes IsSupertype
  cases decls.types[id]? with
  | none => simp
  | some decl => simp [TypeDecl.supertypes]

theorem supertypes_of_not_mem (h : id ∉ decls.types) : decls.supertypes id = [] := by
  rw [supertypes, Std.TreeMap.getElem?_eq_none h]
  rfl

/-!
# Levels
-/

/-- What a search knows before a level: the types on all levels below it, in order, and a list in
which every type on the level occurs. -/
structure BeforeLevel (decls : Declarations) (id : SymbolId) (level : Nat)
    (found frontier : List SymbolId) : Prop where
  earlier : ∀ other, other ∈ found ↔ ∃ steps, steps < level ∧ decls.Climbs id steps other
  sound : ∀ other, other ∈ frontier → decls.Climbs id level other
  complete : ∀ other, decls.Climbs id level other → other ∈ found ∨ other ∈ frontier
  nodup : found.Nodup
  ordered : found.Pairwise fun first second => ∀ steps, decls.Climbs id steps second →
    ∃ fewer, fewer ≤ steps ∧ decls.Climbs id fewer first

theorem mem_freshIn {found frontier : List SymbolId} :
    other ∈ freshIn found frontier ↔ other ∈ frontier ∧ other ∉ found := by
  simp [freshIn, List.mem_eraseDups]

theorem freshIn_cons_of_mem {found : List SymbolId} (h : id ∈ found) (frontier : List SymbolId) :
    freshIn found (id :: frontier) = freshIn found frontier := by
  simp [freshIn, h]

theorem freshIn_cons_of_not_mem {found : List SymbolId} (h : id ∉ found)
    (frontier : List SymbolId) :
    freshIn found (id :: frontier) = id :: freshIn (found ++ [id]) frontier := by
  have hrest :
      (frontier.filter fun other => !found.contains other).filter (fun other => !other == id) =
        frontier.filter fun other => !(found ++ [id]).contains other := by
    rw [List.filter_filter]
    apply List.filter_congr
    intro other _
    simp [Bool.and_comm, beq_eq_decide]
  rw [freshIn, List.filter_cons_of_pos (by simpa using h), List.eraseDups_cons, hrest]
  rfl

theorem nodup_freshIn (found frontier : List SymbolId) : (freshIn found frontier).Nodup := by
  induction frontier generalizing found with
  | nil => exact List.nodup_nil
  | cons id frontier ih =>
      by_cases h : id ∈ found
      · rw [freshIn_cons_of_mem h]
        exact ih found
      · rw [freshIn_cons_of_not_mem h, List.nodup_cons]
        constructor
        · intro hmem
          exact (mem_freshIn.mp hmem).2 (List.mem_append_right _ (List.mem_singleton_self id))
        · exact ih _

namespace BeforeLevel

variable {level : Nat} {found frontier : List SymbolId}

theorem start (decls : Declarations) (id : SymbolId) : BeforeLevel decls id 0 [] [id] where
  earlier := by simp
  sound := by
    intro other hother
    rw [List.mem_singleton.mp hother]
    exact Climbs.refl
  complete := by
    intro other hother
    cases hother
    exact Or.inr (List.mem_singleton_self id)
  nodup := List.nodup_nil
  ordered := List.Pairwise.nil

theorem mem_freshIn_iff (h : BeforeLevel decls id level found frontier) :
    other ∈ freshIn found frontier ↔ decls.Climbs id level other ∧ other ∉ found := by
  rw [mem_freshIn]
  constructor
  · exact fun hother => ⟨h.sound other hother.1, hother.2⟩
  · exact fun hother => ⟨(h.complete other hother.1).resolve_left hother.2, hother.2⟩

theorem mem_append_iff (h : BeforeLevel decls id level found frontier) :
    other ∈ found ++ freshIn found frontier ↔
      ∃ steps, steps < level + 1 ∧ decls.Climbs id steps other := by
  rw [List.mem_append, h.mem_freshIn_iff]
  constructor
  · rintro (hfound | ⟨hlevel, _⟩)
    · rcases (h.earlier other).mp hfound with ⟨steps, hlt, hsteps⟩
      exact ⟨steps, Nat.lt_succ_of_lt hlt, hsteps⟩
    · exact ⟨level, Nat.lt_succ_self level, hlevel⟩
  · rintro ⟨steps, hlt, hsteps⟩
    by_cases hfound : other ∈ found
    · exact Or.inl hfound
    · rcases Nat.eq_or_lt_of_le (Nat.le_of_lt_succ hlt) with rfl | hbefore
      · exact Or.inr ⟨hsteps, hfound⟩
      · exact Or.inl ((h.earlier other).mpr ⟨steps, hbefore, hsteps⟩)

/-- Everything on a level is at least as far away as what was found before, and there is no shorter
way to it. -/
theorem le_of_mem_freshIn (h : BeforeLevel decls id level found frontier)
    (hother : other ∈ freshIn found frontier) {steps : Nat} (hsteps : decls.Climbs id steps other) :
    level ≤ steps := by
  by_contra hlt
  exact (mem_freshIn.mp hother).2 ((h.earlier other).mpr ⟨steps, Nat.lt_of_not_le hlt, hsteps⟩)

theorem next (h : BeforeLevel decls id level found frontier) :
    BeforeLevel decls id (level + 1) (found ++ freshIn found frontier)
      ((freshIn found frontier).flatMap decls.supertypes) where
  earlier := fun _ => h.mem_append_iff
  sound := by
    intro other hother
    rcases List.mem_flatMap.mp hother with ⟨below, hbelow, hsupertype⟩
    exact Climbs.up (h.mem_freshIn_iff.mp hbelow).1 (mem_supertypes_iff.mp hsupertype)
  complete := by
    intro other hother
    cases hother with
    | @up _ below _ hbelow hsupertype =>
        by_cases hfound : below ∈ found
        · -- A step from an earlier level leads to this level or to an earlier one.
          rcases (h.earlier below).mp hfound with ⟨steps, hlt, hsteps⟩
          exact Or.inl (h.mem_append_iff.mpr
            ⟨steps + 1, Nat.succ_lt_succ hlt, Climbs.up hsteps hsupertype⟩)
        · exact Or.inr (List.mem_flatMap.mpr
            ⟨below, h.mem_freshIn_iff.mpr ⟨hbelow, hfound⟩, mem_supertypes_iff.mpr hsupertype⟩)
  nodup := by
    apply List.Nodup.append h.nodup (nodup_freshIn found frontier)
    intro other hfound hfresh
    exact (mem_freshIn.mp hfresh).2 hfound
  ordered := by
    rw [List.pairwise_append]
    refine ⟨h.ordered, ?_, ?_⟩
    · apply List.pairwise_of_forall_mem_list
      intro first hfirst second hsecond steps hsteps
      exact ⟨level, h.le_of_mem_freshIn hsecond hsteps, (h.mem_freshIn_iff.mp hfirst).1⟩
    · intro first hfirst second hsecond steps hsteps
      rcases (h.earlier first).mp hfirst with ⟨fewer, hlt, hfewer⟩
      exact ⟨fewer, Nat.le_of_lt (Nat.lt_of_lt_of_le hlt (h.le_of_mem_freshIn hsecond hsteps)),
        hfewer⟩

theorem mem_found_of_empty (h : BeforeLevel decls id level found frontier)
    (hempty : freshIn found frontier = []) {steps : Nat} (hsteps : decls.Climbs id steps other) :
    other ∈ found := by
  have hall : ∀ steps, steps ≤ level → ∀ other, decls.Climbs id steps other → other ∈ found := by
    intro steps hle other hsteps
    have hmem := h.mem_append_iff.mpr ⟨steps, Nat.lt_succ_of_le hle, hsteps⟩
    rwa [hempty, List.append_nil] at hmem
  induction hsteps with
  | refl => exact hall 0 (Nat.zero_le level) id Climbs.refl
  | @up _ below other _ hsupertype ih =>
      rcases (h.earlier below).mp ih with ⟨fewer, hlt, hfewer⟩
      exact hall (fewer + 1) hlt other (Climbs.up hfewer hsupertype)

end BeforeLevel

/-!
# The search ends

Every level but the last holds a declared type, and no type is on two levels.
-/

def unfound (decls : Declarations) (found : List SymbolId) : List SymbolId :=
  decls.types.keys.filter fun id => !found.contains id

theorem unfound_append (decls : Declarations) (found more : List SymbolId) :
    decls.unfound (found ++ more) = (decls.unfound found).filter fun id => !more.contains id := by
  rw [unfound, unfound, List.filter_filter]
  apply List.filter_congr
  intro id _
  simp [Bool.and_comm]

theorem length_unfound_le (decls : Declarations) (found more : List SymbolId) :
    (decls.unfound (found ++ more)).length ≤ (decls.unfound found).length := by
  rw [unfound_append]
  exact List.length_filter_le _ _

theorem length_unfound_lt {found more : List SymbolId} (hdeclared : id ∈ decls.types)
    (hfound : id ∉ found) (hmore : id ∈ more) :
    (decls.unfound (found ++ more)).length < (decls.unfound found).length := by
  have hmem : id ∈ decls.unfound found :=
    List.mem_filter.mpr ⟨Std.TreeMap.mem_keys.mpr hdeclared, by simpa using hfound⟩
  rw [unfound_append, List.length_filter_lt_length_iff_exists]
  exact ⟨id, hmem, by simpa using hmore⟩

/-- There are enough rounds left to come to an empty level. -/
def Suffices (decls : Declarations) (rounds : Nat) (found frontier : List SymbolId) : Prop :=
  (decls.unfound found).length + 2 ≤ rounds ∨ frontier = [] ∧ 1 ≤ rounds

theorem suffices_start (decls : Declarations) (id : SymbolId) :
    decls.Suffices (decls.types.size + 2) [] [id] := by
  apply Or.inl
  rw [← Std.TreeMap.length_keys]
  exact Nat.add_le_add_right (List.length_filter_le _ _) 2

theorem Suffices.pos {rounds : Nat} {found frontier : List SymbolId}
    (h : decls.Suffices rounds found frontier) : rounds ≠ 0 := by
  rcases h with h | h <;> omega

theorem Suffices.next {rounds : Nat} {found frontier : List SymbolId}
    (h : decls.Suffices (rounds + 1) found frontier) (hfresh : freshIn found frontier ≠ []) :
    decls.Suffices rounds (found ++ freshIn found frontier)
      ((freshIn found frontier).flatMap decls.supertypes) := by
  have hrounds : (decls.unfound found).length + 2 ≤ rounds + 1 := by
    rcases h with hrounds | ⟨rfl, _⟩
    · exact hrounds
    · exact absurd rfl hfresh
  by_cases hdeclared : ∃ id, id ∈ freshIn found frontier ∧ id ∈ decls.types
  · rcases hdeclared with ⟨id, hid, hdeclared⟩
    have hfewer := length_unfound_lt hdeclared (mem_freshIn.mp hid).2 hid
    exact Or.inl (by omega)
  · -- Nothing is above types that are not declared.
    have hlast : (freshIn found frontier).flatMap decls.supertypes = [] := by
      rw [List.flatMap_eq_nil_iff]
      intro id hid
      exact supertypes_of_not_mem fun hmem => hdeclared ⟨id, hid, hmem⟩
    exact Or.inr ⟨hlast, by omega⟩

theorem addLevels_of_empty {found frontier : List SymbolId} (h : freshIn found frontier = [])
    (rounds : Nat) : decls.addLevels rounds found frontier = found := by
  cases rounds with
  | zero => rfl
  | succ rounds => rw [addLevels, h]

theorem addLevels_succ {found frontier : List SymbolId} (h : freshIn found frontier ≠ [])
    (rounds : Nat) :
    decls.addLevels (rounds + 1) found frontier =
      decls.addLevels rounds (found ++ freshIn found frontier)
        ((freshIn found frontier).flatMap decls.supertypes) := by
  rw [addLevels]
  split
  · contradiction
  · rfl

theorem BeforeLevel.addLevels {level rounds : Nat} {found frontier : List SymbolId}
    (h : BeforeLevel decls id level found frontier)
    (hrounds : decls.Suffices rounds found frontier) :
    ∃ last rest, BeforeLevel decls id last (decls.addLevels rounds found frontier) rest ∧
      freshIn (decls.addLevels rounds found frontier) rest = [] := by
  induction rounds generalizing level found frontier with
  | zero => exact absurd rfl hrounds.pos
  | succ rounds ih =>
      by_cases hfresh : freshIn found frontier = []
      · rw [addLevels_of_empty hfresh]
        exact ⟨level, frontier, h, hfresh⟩
      · rw [addLevels_succ hfresh]
        exact ih h.next (hrounds.next hfresh)

/-!
# A queue

The same order results if the types to come are kept in a queue, in which a type may occur more than
once.
-/

/-- Take the types from a queue, adding the supertypes of those that are new at its end. -/
def searchQueue (decls : Declarations) (found : List SymbolId) : List SymbolId → List SymbolId
  | [] => found
  | id :: queue =>
      if id ∈ found then decls.searchQueue found queue
      else decls.searchQueue (found ++ [id]) (queue ++ decls.supertypes id)
termination_by queue => ((decls.unfound found).length, queue.length)
decreasing_by
  · exact Prod.Lex.right _ (Nat.lt_succ_self _)
  · rename_i hfound
    by_cases hdeclared : id ∈ decls.types
    · exact Prod.Lex.left _ _ (length_unfound_lt hdeclared hfound (List.mem_singleton_self id))
    · rw [supertypes_of_not_mem hdeclared, List.append_nil]
      rcases Nat.eq_or_lt_of_le (length_unfound_le decls found [id]) with heq | hlt
      · rw [heq]
        exact Prod.Lex.right _ (Nat.lt_succ_self _)
      · exact Prod.Lex.left _ _ hlt

/-- What stands at the front of a queue is taken from it as one level. -/
theorem searchQueue_append (decls : Declarations) (found frontier queue : List SymbolId) :
    decls.searchQueue found (frontier ++ queue) =
      decls.searchQueue (found ++ freshIn found frontier)
        (queue ++ (freshIn found frontier).flatMap decls.supertypes) := by
  induction frontier generalizing found queue with
  | nil =>
      show decls.searchQueue found queue = decls.searchQueue (found ++ []) (queue ++ [])
      rw [List.append_nil, List.append_nil]
  | cons id frontier ih =>
      rw [List.cons_append, searchQueue]
      by_cases hfound : id ∈ found
      · rw [if_pos hfound, freshIn_cons_of_mem hfound, ih]
      · rw [if_neg hfound, freshIn_cons_of_not_mem hfound, List.append_assoc, ih,
          List.flatMap_cons, List.append_assoc, List.append_assoc, List.singleton_append]

theorem addLevels_eq_searchQueue {rounds : Nat} {found frontier : List SymbolId}
    (hrounds : decls.Suffices rounds found frontier) :
    decls.addLevels rounds found frontier = decls.searchQueue found frontier := by
  induction rounds generalizing found frontier with
  | zero => exact absurd rfl hrounds.pos
  | succ rounds ih =>
      have hlevel := searchQueue_append decls found frontier []
      rw [List.append_nil, List.nil_append] at hlevel
      by_cases hfresh : freshIn found frontier = []
      · rw [addLevels_of_empty hfresh, hlevel, hfresh, List.append_nil, List.flatMap_nil,
          searchQueue]
      · rw [addLevels_succ hfresh, hlevel]
        exact ih (hrounds.next hfresh)

/-!
# The hierarchy
-/

theorem exists_beforeLevel (decls : Declarations) (id : SymbolId) :
    ∃ last rest, BeforeLevel decls id last (decls.hierarchy id) rest ∧
      freshIn (decls.hierarchy id) rest = [] :=
  (BeforeLevel.start decls id).addLevels (suffices_start decls id)

theorem mem_hierarchy_iff :
    other ∈ decls.hierarchy id ↔ ∃ steps, decls.Climbs id steps other := by
  rcases exists_beforeLevel decls id with ⟨last, rest, hbefore, hempty⟩
  constructor
  · intro hmem
    rcases (hbefore.earlier other).mp hmem with ⟨steps, _, hsteps⟩
    exact ⟨steps, hsteps⟩
  · rintro ⟨steps, hsteps⟩
    exact hbefore.mem_found_of_empty hempty hsteps

theorem nodup_hierarchy (decls : Declarations) (id : SymbolId) : (decls.hierarchy id).Nodup := by
  rcases exists_beforeLevel decls id with ⟨_, _, hbefore, _⟩
  exact hbefore.nodup

theorem exists_atDistance {steps : Nat} (h : decls.Climbs id steps other) :
    ∃ distance, decls.AtDistance id other distance := by
  classical
  have hreached : ∃ steps, decls.Climbs id steps other := ⟨steps, h⟩
  exact ⟨Nat.find hreached, Nat.find_spec hreached, fun _ hother => Nat.find_min' hreached hother⟩

theorem hierarchy_ordered (decls : Declarations) (id : SymbolId) :
    (decls.hierarchy id).Pairwise fun first second => ∀ near far,
      decls.AtDistance id first near → decls.AtDistance id second far → near ≤ far := by
  rcases exists_beforeLevel decls id with ⟨_, _, hbefore, _⟩
  apply hbefore.ordered.imp
  intro first second hordered near far hnear hfar
  rcases hordered far hfar.1 with ⟨fewer, hle, hfewer⟩
  exact Nat.le_trans (hnear.2 hfewer) hle

theorem prefix_addLevels (decls : Declarations) (rounds : Nat) (found frontier : List SymbolId) :
    found <+: decls.addLevels rounds found frontier := by
  induction rounds generalizing found frontier with
  | zero => exact List.prefix_refl found
  | succ rounds ih =>
      by_cases hfresh : freshIn found frontier = []
      · simp [addLevels_of_empty hfresh]
      · rw [addLevels_succ hfresh]
        exact (List.prefix_append found _).trans (ih _ _)

theorem head?_hierarchy (decls : Declarations) (id : SymbolId) :
    (decls.hierarchy id).head? = some id := by
  have hfirst : freshIn [] [id] = [id] := rfl
  have hstart : [id] <+: decls.hierarchy id := by
    rw [hierarchy, addLevels_succ (by rw [hfirst]; exact List.cons_ne_nil id []), hfirst]
    exact prefix_addLevels decls _ _ _
  rcases hstart with ⟨rest, hrest⟩
  rw [← hrest]
  rfl

/-- A list of everything above a type: each once, the type itself first, and the others in the order
of their distances. -/
structure ListsByDistance (decls : Declarations) (id : SymbolId) (types : List SymbolId) :
    Prop where
  head : types.head? = some id
  nodup : types.Nodup
  mem_iff : ∀ other, other ∈ types ↔ ∃ steps, decls.Climbs id steps other
  ordered : types.Pairwise fun first second => ∀ near far,
    decls.AtDistance id first near → decls.AtDistance id second far → near ≤ far

theorem listsByDistance_hierarchy (decls : Declarations) (id : SymbolId) :
    decls.ListsByDistance id (decls.hierarchy id) where
  head := head?_hierarchy decls id
  nodup := nodup_hierarchy decls id
  mem_iff := fun _ => mem_hierarchy_iff
  ordered := hierarchy_ordered decls id

/-!
# Looking members up
-/

def ownMemberType? (decls : Declarations) (name : String) (type : SymbolId) : Option SymbolId :=
  decls.types[type]?.bind fun decl => decl.memberTypes[name]?

def ownField? (decls : Declarations) (name : String) (type : SymbolId) : Option SymbolId :=
  decls.types[type]?.bind fun decl => decl.fields[name]?

def ownMethods (decls : Declarations) (name : String) (type : SymbolId) : List SymbolId :=
  (decls.types[type]?.bind fun decl => decl.methods[name]?).getD []

def HasArity (decls : Declarations) (count : Nat) (method : SymbolId) : Prop :=
  ∃ member, decls.members[method]? = some member ∧ member.arity = count ∧ member.variadic = false

def CanTake (decls : Declarations) (count : Nat) (method : SymbolId) : Prop :=
  ∃ member, decls.members[method]? = some member ∧ member.variadic = true ∧
    member.arity ≤ count + 1

theorem takesExactly_iff (decls : Declarations) (count : Nat) (method : SymbolId) :
    decls.takesExactly count method = true ↔ decls.HasArity count method := by
  unfold takesExactly HasArity
  cases decls.members[method]? <;> simp

theorem takesVariadic_iff (decls : Declarations) (count : Nat) (method : SymbolId) :
    decls.takesVariadic count method = true ↔ decls.CanTake count method := by
  unfold takesVariadic CanTake
  cases decls.members[method]? <;> simp

theorem nearest_of_findSome? {found : SymbolId} {own : SymbolId → Option SymbolId}
    (h : (decls.hierarchy id).findSome? own = some found) :
    ∃ type, decls.Nearest id (fun type => own type ≠ none) type ∧ own type = some found := by
  rcases List.findSome?_eq_some_iff.mp h with ⟨before, type, after, hsplit, hown, hbefore⟩
  have htype : type ∈ decls.hierarchy id := by simp [hsplit]
  rcases mem_hierarchy_iff.mp htype with ⟨_, hsteps⟩
  rcases exists_atDistance hsteps with ⟨distance, hdistance⟩
  refine ⟨type, ⟨by simp [hown], distance, hdistance, ?_⟩, hown⟩
  intro steps other hother hholds
  rcases exists_atDistance hother with ⟨far, hfar⟩
  have hordered := hierarchy_ordered decls id
  have hmem := mem_hierarchy_iff.mpr ⟨steps, hother⟩
  rw [hsplit] at hordered hmem
  rcases List.mem_append.mp hmem with hearlier | hlater
  · exact absurd (hbefore other hearlier) hholds
  · rcases List.mem_cons.mp hlater with rfl | hlater
    · exact hdistance.2 hother
    · have hle := (List.pairwise_cons.mp (List.pairwise_append.mp hordered).2.1).1 other hlater
        distance far hdistance hfar
      exact Nat.le_trans hle (hfar.2 hother)

theorem findSome?_hierarchy_eq_none_iff {own : SymbolId → Option SymbolId} :
    (decls.hierarchy id).findSome? own = none ↔
      ∀ steps type, decls.Climbs id steps type → own type = none := by
  rw [List.findSome?_eq_none_iff]
  constructor
  · intro h steps type hsteps
    exact h type (mem_hierarchy_iff.mpr ⟨steps, hsteps⟩)
  · intro h type htype
    rcases mem_hierarchy_iff.mp htype with ⟨steps, hsteps⟩
    exact h steps type hsteps

/-- Something is found if and only if a type above declares it, and then a nearest one does. -/
structure FindsNearest (decls : Declarations) (id : SymbolId) (own : SymbolId → Option SymbolId)
    (found : Option SymbolId) : Prop where
  none_iff : found = none ↔ ∀ steps type, decls.Climbs id steps type → own type = none
  nearest : ∀ member, found = some member →
    ∃ type, decls.Nearest id (fun type => own type ≠ none) type ∧ own type = some member

theorem findsNearest_findSome? (decls : Declarations) (id : SymbolId)
    (own : SymbolId → Option SymbolId) :
    decls.FindsNearest id own ((decls.hierarchy id).findSome? own) :=
  ⟨findSome?_hierarchy_eq_none_iff, fun _ => nearest_of_findSome?⟩

/-- A method is selected if a type above has one that takes the arguments.  It is one of fixed arity
if there is any, and it is declared by a nearest type that has one of its sort. -/
structure SelectsNearest (decls : Declarations) (id : SymbolId) (name : String) (count : Nat)
    (found : Option SymbolId) : Prop where
  none_iff : found = none ↔ ∀ steps type, decls.Climbs id steps type →
    ∀ method, method ∈ decls.ownMethods name type →
      ¬ decls.HasArity count method ∧ ¬ decls.CanTake count method
  selected : ∀ method, found = some method →
    (∃ type, decls.Nearest id (fun type => ∃ method, method ∈ decls.ownMethods name type ∧
          decls.HasArity count method) type ∧
        method ∈ decls.ownMethods name type ∧ decls.HasArity count method) ∨
    (∀ steps type, decls.Climbs id steps type → ∀ method, method ∈ decls.ownMethods name type →
        ¬ decls.HasArity count method) ∧
      ∃ type, decls.Nearest id (fun type => ∃ method, method ∈ decls.ownMethods name type ∧
          decls.CanTake count method) type ∧
        method ∈ decls.ownMethods name type ∧ decls.CanTake count method

theorem find?_methods (decls : Declarations) (id : SymbolId) (name : String)
    {test : SymbolId → Bool} {takes : SymbolId → Prop}
    (htest : ∀ method, test method = true ↔ takes method) :
    ((decls.methods id name).find? test = none ↔ ∀ steps type, decls.Climbs id steps type →
      ∀ method, method ∈ decls.ownMethods name type → ¬ takes method) ∧
    ∀ method, (decls.methods id name).find? test = some method →
      ∃ type, decls.Nearest id (fun type => ∃ method, method ∈ decls.ownMethods name type ∧
          takes method) type ∧
        method ∈ decls.ownMethods name type ∧ takes method := by
  have hfind : (decls.methods id name).find? test =
      (decls.hierarchy id).findSome? fun type => (decls.ownMethods name type).find? test :=
    List.find?_flatMap
  have hnone : ∀ type, (decls.ownMethods name type).find? test = none ↔
      ∀ method, method ∈ decls.ownMethods name type → ¬ takes method := by
    intro type
    simp [List.find?_eq_none, htest]
  rw [hfind]
  constructor
  · rw [findSome?_hierarchy_eq_none_iff]
    simp only [hnone]
  · intro method hmethod
    rcases nearest_of_findSome? hmethod with ⟨type, hnearest, hown⟩
    have hholds : (fun type => (decls.ownMethods name type).find? test ≠ none) =
        fun type => ∃ method, method ∈ decls.ownMethods name type ∧ takes method := by
      funext type
      rw [ne_eq, hnone]
      simp
    rw [hholds] at hnearest
    exact ⟨type, hnearest, List.mem_of_find?_eq_some hown, (htest method).mp (List.find?_some hown)⟩

theorem selectsNearest_selectOverload (decls : Declarations) (id : SymbolId) (name : String)
    (count : Nat) :
    decls.SelectsNearest id name count
      (decls.selectOverload (decls.methods id name) (some count)) := by
  rcases find?_methods decls id name (decls.takesExactly_iff count) with ⟨hnoFixed, hfixed⟩
  rcases find?_methods decls id name (decls.takesVariadic_iff count) with
    ⟨hnoVariadic, hvariadic⟩
  rw [selectOverload]
  constructor
  · rw [Option.orElse_eq_orElse, Option.orElse_eq_or, Option.or_eq_none_iff, hnoFixed, hnoVariadic]
    constructor
    · intro h steps type hsteps method hmethod
      exact ⟨h.1 steps type hsteps method hmethod, h.2 steps type hsteps method hmethod⟩
    · intro h
      exact ⟨fun steps type hsteps method hmethod => (h steps type hsteps method hmethod).1,
        fun steps type hsteps method hmethod => (h steps type hsteps method hmethod).2⟩
  · intro method hmethod
    cases hfind : (decls.methods id name).find? (decls.takesExactly count) with
    | some found =>
        rw [hfind] at hmethod
        cases hmethod
        exact Or.inl (hfixed method hfind)
    | none =>
        rw [hfind] at hmethod
        exact Or.inr ⟨hnoFixed.mp hfind, hvariadic method hmethod⟩

/-- The hierarchy of a type lists everything above it by distance, in the order of a search through
a queue.  So a field or member type that is looked up is one of a nearest type that declares any,
and so is a method that is selected. -/
theorem lookups_find_nearest (decls : Declarations) (id : SymbolId) (name : String) (count : Nat) :
    decls.hierarchy id = decls.searchQueue [] [id] ∧
    decls.ListsByDistance id (decls.hierarchy id) ∧
    decls.FindsNearest id (decls.ownField? name) (decls.field? id name) ∧
    decls.FindsNearest id (decls.ownMemberType? name) (decls.memberType? id name) ∧
    decls.SelectsNearest id name count
      (decls.selectOverload (decls.methods id name) (some count)) :=
  ⟨addLevels_eq_searchQueue (suffices_start decls id), listsByDistance_hierarchy decls id,
    findsNearest_findSome? decls id _, findsNearest_findSome? decls id _,
    selectsNearest_selectOverload decls id name count⟩

-- Each of two types is the superclass of the other, and both have an undeclared interface.
example :
    let cyclic : Declarations := {
      types :=
        (Std.TreeMap.insert ∅ 0 { unit := 0, superclass := some 1, interfaces := [2] }).insert 1
          { unit := 0, superclass := some 0, interfaces := [2, 3] } }
    cyclic.hierarchy 0 = [0, 1, 2, 3] := by
  decide

end Declarations
end RestrictedApi

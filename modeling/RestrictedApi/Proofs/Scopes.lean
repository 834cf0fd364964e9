import RestrictedApi.Proofs.Reported

/-!
# Scopes in a tree

The scopes around a site are the blocks above it, from the inside out, and last the scope of the
whole unit, which no site opens.  A block is known by its path.
-/

namespace RestrictedApi
namespace Site

variable {root site found : Site} {above : List Site}

/-- The sites among those above that open a block, outermost first; `parent` is what is above
them. -/
def openings : (parent : Option Site) → List Site → List Site
  | _, [] => []
  | parent, site :: rest =>
      if site.opensBlock parent then site :: openings (some site) rest
      else openings (some site) rest

def innermostBlock (root : Site) (steps : List Nat) : Site :=
  (openings none (root.ancestors steps)).getLast?.getD root

def innermostScope (root : Site) (steps : List Nat) : Option Path :=
  (openings none (root.ancestors steps)).getLast?.map Site.path

def scopes (above : List Site) : List (Option Path) :=
  ((openings none above).map fun site => some site.path).reverse ++ [none]

theorem openings_concat (parent : Option Site) (above : List Site) (site : Site) :
    openings parent (above ++ [site]) =
      openings parent above ++
        if site.opensBlock (above.getLast?.or parent) then [site] else [] := by
  induction above generalizing parent with
  | nil => rfl
  | cons first rest ih =>
      have hparent : (first :: rest).getLast?.or parent = rest.getLast?.or (some first) := by
        rw [List.getLast?_cons, Option.or_some]
        rfl
      rw [List.cons_append, openings, openings, ih, hparent]
      split <;> rfl

theorem sublist_openings (parent : Option Site) (above : List Site) :
    (openings parent above).Sublist above := by
  induction above generalizing parent with
  | nil => exact List.Sublist.refl []
  | cons first rest ih =>
      rw [openings]
      split
      · exact (ih _).cons_cons first
      · exact (ih _).cons first

theorem scopes_concat_of_opensBlock (hopens : site.opensBlock above.getLast? = true) :
    scopes (above ++ [site]) = some site.path :: scopes above := by
  rw [scopes, openings_concat, Option.or_none, if_pos hopens, List.map_append, List.reverse_append]
  rfl

theorem scopes_concat_of_not_opensBlock (hopens : site.opensBlock above.getLast? = false) :
    scopes (above ++ [site]) = scopes above := by
  rw [scopes, openings_concat, Option.or_none, if_neg (by simp [hopens]), List.append_nil]
  rfl

theorem exists_scopes_eq_cons (above : List Site) :
    ∃ scope outer, scopes above = scope :: outer :=
  List.exists_cons_of_ne_nil (by simp [scopes])

theorem mem_scopes_iff {path : Path} :
    some path ∈ scopes above ↔ ∃ site, site ∈ openings none above ∧ site.path = path := by
  simp [scopes]

/-!
# The order of scopes
-/

/-- The first scope is around the second one. -/
def Encloses : (outer inner : Option Path) → Prop
  | none, inner => inner ≠ none
  | some _, none => False
  | some outer, some inner => outer.length < inner.length

theorem Encloses.ne {outer inner : Option Path} (h : Encloses outer inner) : inner ≠ outer := by
  rintro rfl
  cases inner with
  | none => exact h rfl
  | some path => exact Nat.lt_irrefl _ h

theorem Leads.suffix_of_mem (h : root.Leads above site) (hfound : found ∈ above) :
    ∃ i, (i :: found.path) <:+ site.path := by
  induction h with
  | refl => cases hfound
  | child _ hchild ih =>
      rcases path_of_mem_children hchild with ⟨i, _, hpath⟩
      rcases List.mem_append.mp hfound with habove | hlast
      · rcases ih habove with ⟨j, hsuffix⟩
        rw [hpath]
        exact ⟨j, hsuffix.trans (List.suffix_cons i _)⟩
      · rw [List.mem_singleton.mp hlast, hpath]
        exact ⟨i, List.suffix_refl _⟩

theorem Leads.root_mem (h : root.Leads above site) : root ∈ above ++ [site] := by
  induction h with
  | refl => exact List.mem_singleton_self root
  | child _ _ ih => exact List.mem_append_left _ ih

theorem Leads.nil_or_root_mem (h : root.Leads above site) : above = [] ∨ root ∈ above := by
  cases h with
  | refl => exact Or.inl rfl
  | child hsite _ => exact Or.inr hsite.root_mem

/-!
# Blocks of different sites
-/

/-- What is left behind after the first step of a way down. -/
def ancestorsBelow (root : Site) (i : Nat) (steps : List Nat) : List Site :=
  match root.children[i]? with
  | none => []
  | some child => child.ancestors steps

theorem ancestors_cons (root : Site) (i : Nat) (steps : List Nat) :
    root.ancestors (i :: steps) = root :: root.ancestorsBelow i steps := by
  rw [ancestors, ancestorsBelow]
  cases root.children[i]? <;> rfl

theorem mem_ancestorsBelow {i : Nat} {steps : List Nat} :
    found ∈ root.ancestorsBelow i steps ↔
      ∃ child, root.children[i]? = some child ∧ found ∈ child.ancestors steps := by
  rw [ancestorsBelow]
  cases root.children[i]? <;> simp

theorem descend?_of_mem_ancestors {steps : List Nat} (hfound : found ∈ root.ancestors steps) :
    ∃ before, root.descend? before = some found := by
  induction steps generalizing root with
  | nil => cases hfound
  | cons i steps ih =>
      rw [ancestors_cons, List.mem_cons, mem_ancestorsBelow] at hfound
      rcases hfound with heq | ⟨child, hchild, hrest⟩
      · exact ⟨[], congrArg some heq.symm⟩
      · rcases ih hrest with ⟨before, hbefore⟩
        exact ⟨i :: before, (descend?_cons_of_child hchild before).trans hbefore⟩

theorem suffix_of_mem_ancestorsBelow {i : Nat} {steps : List Nat}
    (hfound : found ∈ root.ancestorsBelow i steps) : (i :: root.path) <:+ found.path := by
  rcases mem_ancestorsBelow.mp hfound with ⟨child, hchild, hmem⟩
  rcases descend?_of_mem_ancestors hmem with ⟨before, hbefore⟩
  rw [getElem?_children] at hchild
  rcases Option.map_eq_some_iff.mp hchild with ⟨node, _, rfl⟩
  rw [path_of_descend? hbefore]
  exact List.suffix_append before.reverse (i :: root.path)

theorem pairwise_ancestors (root : Site) (steps : List Nat) :
    (root.ancestors steps).Pairwise fun outer inner => outer.path.length < inner.path.length := by
  induction steps generalizing root with
  | nil => exact List.Pairwise.nil
  | cons i steps ih =>
      rw [ancestors_cons, List.pairwise_cons]
      constructor
      · exact fun inner hinner => (suffix_of_mem_ancestorsBelow hinner).length_le
      · rw [ancestorsBelow]
        cases root.children[i]? with
        | none => exact List.Pairwise.nil
        | some child => exact ih child

theorem pairwise_scopes (root : Site) (steps : List Nat) :
    (scopes (root.ancestors steps)).Pairwise fun inner outer => Encloses outer inner := by
  have hopenings := (root.pairwise_ancestors steps).sublist (sublist_openings none _)
  refine List.pairwise_append.mpr ⟨?_, List.pairwise_singleton _ _, ?_⟩
  · rw [List.pairwise_reverse, List.pairwise_map]
    exact hopenings
  · intro inner hinner outer houter
    rw [List.mem_singleton.mp houter]
    rcases List.mem_map.mp (List.mem_reverse.mp hinner) with ⟨opened, _, rfl⟩
    exact Option.some_ne_none _

theorem mem_openings_of_mem_ancestors {parent : Option Site} {steps others : List Nat}
    (hmem : found ∈ root.ancestors steps)
    (hopened : found ∈ openings parent (root.ancestors others)) :
    found ∈ openings parent (root.ancestors steps) := by
  -- Both ways pass through the site found, so they take the same steps down to it.
  induction steps generalizing root parent others with
  | nil => cases hmem
  | cons i steps ih =>
      cases others with
      | nil => cases hopened
      | cons j others =>
          rw [ancestors_cons, List.mem_cons] at hmem
          rw [ancestors_cons, openings] at hopened
          rw [ancestors_cons, openings]
          rcases hmem with rfl | hbelow
          · by_cases hopens : found.opensBlock parent = true
            · rw [if_pos hopens]
              exact List.mem_cons_self
            · rw [if_neg hopens] at hopened
              have hsuffix := suffix_of_mem_ancestorsBelow ((sublist_openings _ _).mem hopened)
              exact absurd hsuffix.length_le (Nat.not_succ_le_self _)
          · have hsuffix := suffix_of_mem_ancestorsBelow hbelow
            have hopenedBelow : found ∈ openings (some root) (root.ancestorsBelow j others) := by
              split at hopened
              · rcases List.mem_cons.mp hopened with rfl | hrest
                · exact absurd hsuffix.length_le (Nat.not_succ_le_self _)
                · exact hrest
              · exact hopened
            have hindex : i = j := Path.eq_of_cons_suffix hsuffix
              (suffix_of_mem_ancestorsBelow ((sublist_openings _ _).mem hopenedBelow))
            rcases mem_ancestorsBelow.mp hbelow with ⟨child, hchild, hrest⟩
            rw [← hindex, ancestorsBelow, hchild] at hopenedBelow
            have hfound := ih hrest hopenedBelow
            rw [ancestorsBelow, hchild]
            split
            · exact List.mem_cons_of_mem root hfound
            · exact hfound

theorem innermostScope_cases (root : Site) (steps : List Nat) :
    (openings none (root.ancestors steps) = [] ∧ root.innermostBlock steps = root ∧
        root.innermostScope steps = none) ∨
      ∃ block, block ∈ openings none (root.ancestors steps) ∧ root.innermostBlock steps = block ∧
        root.innermostScope steps = some block.path := by
  unfold innermostBlock innermostScope
  cases hlast : (openings none (root.ancestors steps)).getLast? with
  | none => exact Or.inl ⟨List.getLast?_eq_none_iff.mp hlast, rfl, rfl⟩
  | some block => exact Or.inr ⟨block, List.mem_of_getLast? hlast, rfl, rfl⟩

theorem innermostBlock_mem_ancestors {steps others : List Nat} (hroot : root ∈ root.ancestors steps)
    (hscope : root.innermostScope others ∈ scopes (root.ancestors steps)) :
    root.innermostBlock others ∈ root.ancestors steps := by
  rcases root.innermostScope_cases others with ⟨_, hblock, _⟩ | ⟨block, hmem, hblock, hpath⟩
  · rw [hblock]
    exact hroot
  · rw [hpath, mem_scopes_iff] at hscope
    rcases hscope with ⟨opened, hopened, hsame⟩
    have habove := (sublist_openings none _).mem hopened
    rcases descend?_of_mem_ancestors habove with ⟨_, hfirst⟩
    rcases descend?_of_mem_ancestors ((sublist_openings none _).mem hmem) with ⟨_, hsecond⟩
    rw [hblock, ← eq_of_descend? hfirst hsecond hsame]
    exact habove

theorem innermostScope_mem_scopes {steps others : List Nat}
    (hmem : root.innermostBlock others ∈ root.ancestors steps) :
    root.innermostScope others ∈ scopes (root.ancestors steps) := by
  rcases root.innermostScope_cases others with ⟨_, _, hscope⟩ | ⟨block, hopened, hblock, hscope⟩
  · rw [hscope, scopes]
    exact List.mem_append_right _ (List.mem_singleton_self none)
  · rw [hblock] at hmem
    rw [hscope, mem_scopes_iff]
    exact ⟨block, mem_openings_of_mem_ancestors hmem hopened, rfl⟩

theorem not_encloses_of_suffix {steps others : List Nat} (hroot : root ∈ root.ancestors others)
    (hsuffix : (root.innermostBlock steps).path <:+ (root.innermostBlock others).path) :
    ¬ Encloses (root.innermostScope others) (root.innermostScope steps) := by
  rcases root.innermostScope_cases steps with ⟨_, _, hscope⟩ | ⟨block, hopened, hblock, hscope⟩
  · rw [hscope]
    cases root.innermostScope others with
    | none => exact fun hne => hne rfl
    | some path => exact fun h => h
  · rw [hblock] at hsuffix
    rcases root.innermostScope_cases others with
      ⟨hnone, hother, _⟩ | ⟨other, _, hother, hotherScope⟩
    · -- The block is the root, which is then a block above the other site, too.
      rw [hother] at hsuffix
      rcases descend?_of_mem_ancestors ((sublist_openings none _).mem hopened) with ⟨way, hway⟩
      have hpath := path_of_descend? hway
      have hsame : block.path = root.path := by
        apply hsuffix.eq_of_length_le
        rw [hpath, List.length_append]
        exact Nat.le_add_left _ _
      rw [eq_of_descend? hway (show root.descend? [] = some root from rfl) hsame] at hopened
      have hmem := mem_openings_of_mem_ancestors hroot hopened
      rw [hnone] at hmem
      cases hmem
    · rw [hother] at hsuffix
      rw [hscope, hotherScope]
      exact Nat.not_lt.mpr hsuffix.length_le

end Site
end RestrictedApi

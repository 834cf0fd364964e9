import Mathlib.Data.List.Perm.Subperm
import Mathlib.Data.Nat.Nth
import RestrictedApi.Rule.Declared

/-!
# Loading declared rules

Declarations are loaded one after the other, with the names and codes that are taken so far.  This
module says which lists of declarations can be loaded, which codes the rules get, and which
declaration is the first that cannot be loaded.  A generated code has the least number that is free,
and it is free only if no declaration of the whole list asks for it; so it never stands in the way
of another declaration.
-/

namespace RestrictedApi

/-!
# Generated codes
-/

theorem toList_generatedCode (number : Nat) :
    (generatedCode number).toList = 'U' :: 'A' :: Nat.toDigits 10 number := by
  simp [generatedCode, toString]

theorem eq_ofDigitChars_of_generatedCode {number : Nat} (digits : List Char)
    (h : (generatedCode number).toList = 'U' :: 'A' :: digits) :
    number = Nat.ofDigitChars 10 digits 0 := by
  rw [toList_generatedCode] at h
  have hdigits : Nat.toDigits 10 number = digits := (List.cons.inj (List.cons.inj h).2).2
  rw [← hdigits, Nat.ofDigitChars_toDigits (by decide) (by decide)]

theorem generatedCode_injective : Function.Injective generatedCode := by
  intro first second h
  have hdigits := toList_generatedCode second
  rw [← h] at hdigits
  rw [eq_ofDigitChars_of_generatedCode _ hdigits,
    Nat.ofDigitChars_toDigits (by decide) (by decide)]

theorem generatedCode_ne_betaCode {number : Nat} (hnumber : firstGeneratedCode ≤ number) :
    generatedCode number ≠ BetaRule.code := by
  intro h
  have hone : number = 1 :=
    eq_ofDigitChars_of_generatedCode ['0', '0', '1'] (by rw [h]; rfl)
  rw [hone] at hnumber
  exact absurd hnumber (by decide)

/-- A number for a generated code: none of the codes written in the document has it. -/
def IsFreeNumber (explicit : List String) (number : Nat) : Prop :=
  firstGeneratedCode ≤ number ∧ generatedCode number ∉ explicit

instance (explicit : List String) : DecidablePred (IsFreeNumber explicit) :=
  fun _ => inferInstanceAs (Decidable (_ ∧ _))

/-- Among more consecutive numbers than there are codes, one has a code that is not taken. -/
theorem exists_not_mem_of_length_lt (taken : List String) (number : Nat) {attempts : Nat}
    (h : taken.length < attempts) :
    ∃ free, number ≤ free ∧ free < number + attempts ∧ generatedCode free ∉ taken := by
  by_contra hnone
  have hsubset : (List.range' number attempts).map generatedCode ⊆ taken := by
    intro code hcode
    rcases List.mem_map.mp hcode with ⟨candidate, hcandidate, rfl⟩
    rw [List.mem_range'_1] at hcandidate
    by_contra hfree
    exact hnone ⟨candidate, hcandidate.1, hcandidate.2, hfree⟩
  have hnodup : ((List.range' number attempts).map generatedCode).Nodup :=
    (List.nodup_range' 1).map generatedCode_injective
  have hlength := (hnodup.subperm hsubset).length_le
  rw [List.length_map, List.length_range'] at hlength
  omega

theorem freeNumber_spec {taken : List String} {number attempts : Nat}
    (h : ∃ free, number ≤ free ∧ free < number + attempts ∧ generatedCode free ∉ taken) :
    number ≤ freeNumber taken number attempts ∧
      generatedCode (freeNumber taken number attempts) ∉ taken ∧
      ∀ smaller, number ≤ smaller → smaller < freeNumber taken number attempts →
        generatedCode smaller ∈ taken := by
  induction attempts generalizing number with
  | zero =>
      rcases h with ⟨free, hle, hlt, _⟩
      omega
  | succ attempts ih =>
      rw [freeNumber]
      by_cases htaken : generatedCode number ∈ taken
      · rw [if_pos (List.contains_iff_mem.mpr htaken)]
        have hlater : ∃ free, number + 1 ≤ free ∧ free < number + 1 + attempts ∧
            generatedCode free ∉ taken := by
          rcases h with ⟨free, hle, hlt, hfree⟩
          have hne : free ≠ number := fun heq => hfree (heq ▸ htaken)
          exact ⟨free, by omega, by omega, hfree⟩
        rcases ih hlater with ⟨hle, hfree, hsmaller⟩
        constructor
        · omega
        · constructor
          · exact hfree
          · intro smaller hnumber hlt
            rcases Nat.eq_or_lt_of_le hnumber with heq | hlater
            · rw [← heq]
              exact htaken
            · exact hsmaller smaller hlater hlt
      · rw [if_neg (mt List.contains_iff_mem.mp htaken)]
        exact ⟨Nat.le_refl number, htaken, fun smaller hle hlt => by omega⟩

theorem infinite_isFreeNumber (explicit : List String) :
    (Set.ofPred (IsFreeNumber explicit)).Infinite := by
  rw [Set.infinite_iff_exists_gt]
  intro bound
  rcases exists_not_mem_of_length_lt explicit (bound + firstGeneratedCode + 1)
    (Nat.lt_succ_self explicit.length) with ⟨free, hle, _, hfree⟩
  exact ⟨free, ⟨by omega, hfree⟩, by omega⟩

theorem count_isFreeNumber_eq {explicit : List String} {first second : Nat} (hle : first ≤ second)
    (hnone : ∀ number, first ≤ number → number < second → ¬ IsFreeNumber explicit number) :
    Nat.count (IsFreeNumber explicit) second = Nat.count (IsFreeNumber explicit) first := by
  induction second, hle using Nat.le_induction with
  | base => rfl
  | succ second hle ih =>
      rw [Nat.count_succ, if_neg (hnone second hle (Nat.lt_succ_self second)), Nat.add_zero]
      exact ih fun number hfirst hlt => hnone number hfirst (Nat.lt_succ_of_lt hlt)

namespace RuleDeclaration

/-!
# Lists that can be loaded
-/

/-- Every declaration is right on its own, and names and explicit codes are distinct from each other
and from those of the built-in rule. -/
structure Loadable (declarations : List RuleDeclaration) : Prop where
  valid : ∀ declaration, declaration ∈ declarations → declaration.problem? = none
  names : (BetaRule.name :: declarations.map (·.name)).Nodup
  codes : (BetaRule.code :: declarations.filterMap (·.code)).Nodup

theorem loadable_iff (declarations : List RuleDeclaration) :
    Loadable declarations ↔
      (∀ declaration, declaration ∈ declarations → declaration.problem? = none) ∧
        (BetaRule.name :: declarations.map (·.name)).Nodup ∧
        (BetaRule.code :: declarations.filterMap (·.code)).Nodup :=
  ⟨fun h => ⟨h.valid, h.names, h.codes⟩, fun h => ⟨h.1, h.2.1, h.2.2⟩⟩

instance : DecidablePred Loadable :=
  fun declarations => decidable_of_iff _ (loadable_iff declarations).symm

/-- What is wrong with a declaration after others: on its own, or its name, or its code. -/
def conflict? (earlier : List RuleDeclaration) (declaration : RuleDeclaration) :
    Option DeclarationProblem :=
  match declaration.problem? with
  | some problem => some problem
  | none =>
      if declaration.name ∈ BetaRule.name :: earlier.map (·.name) then
        some (.duplicateName declaration.name)
      else
        match declaration.code with
        | none => none
        | some code =>
            if code ∈ BetaRule.code :: earlier.filterMap (·.code) then some (.duplicateCode code)
            else none

theorem Loadable.sublist {first second : List RuleDeclaration} (hsublist : first.Sublist second)
    (h : Loadable second) : Loadable first where
  valid := fun declaration hmem => h.valid declaration (hsublist.subset hmem)
  names := h.names.sublist ((hsublist.map _).cons_cons _)
  codes := h.codes.sublist ((hsublist.filterMap _).cons_cons _)

theorem conflict?_eq_none_iff (earlier : List RuleDeclaration) (declaration : RuleDeclaration) :
    conflict? earlier declaration = none ↔
      declaration.problem? = none ∧
        declaration.name ∉ BetaRule.name :: earlier.map (·.name) ∧
        ∀ code, declaration.code = some code →
          code ∉ BetaRule.code :: earlier.filterMap (·.code) := by
  unfold conflict?
  cases declaration.problem? with
  | some problem => simp
  | none =>
      by_cases hname : declaration.name ∈ BetaRule.name :: earlier.map (·.name)
      · simp [hname]
      · cases declaration.code with
        | none => simp [hname]
        | some code => simp [hname]

theorem loadable_concat_iff (earlier : List RuleDeclaration) (declaration : RuleDeclaration) :
    Loadable (earlier ++ [declaration]) ↔
      Loadable earlier ∧ conflict? earlier declaration = none := by
  have hnames : (BetaRule.name :: (earlier ++ [declaration]).map (·.name)).Nodup ↔
      (BetaRule.name :: earlier.map (·.name)).Nodup ∧
        declaration.name ∉ BetaRule.name :: earlier.map (·.name) := by
    rw [List.map_append, ← List.cons_append, List.map_singleton, ← List.concat_eq_append,
      List.nodup_concat]
    exact And.comm
  have hcodes : (BetaRule.code :: (earlier ++ [declaration]).filterMap (·.code)).Nodup ↔
      (BetaRule.code :: earlier.filterMap (·.code)).Nodup ∧
        ∀ code, declaration.code = some code →
          code ∉ BetaRule.code :: earlier.filterMap (·.code) := by
    rw [List.filterMap_append, ← List.cons_append]
    cases hcode : declaration.code with
    | none => simp [hcode]
    | some code =>
        rw [List.filterMap_cons, hcode, List.filterMap_nil, ← List.concat_eq_append,
          List.nodup_concat, and_comm]
        simp
  rw [loadable_iff, loadable_iff, hnames, hcodes, conflict?_eq_none_iff]
  rw [List.forall_mem_append, List.forall_mem_singleton]
  constructor
  · rintro ⟨⟨hvalid, hproblem⟩, ⟨hearlierNames, hname⟩, hearlierCodes, hcode⟩
    exact ⟨⟨hvalid, hearlierNames, hearlierCodes⟩, hproblem, hname, hcode⟩
  · rintro ⟨⟨hvalid, hearlierNames, hearlierCodes⟩, hproblem, hname, hcode⟩
    exact ⟨⟨hvalid, hproblem⟩, ⟨hearlierNames, hname⟩, hearlierCodes, hcode⟩

/-!
# One declaration
-/

/-- The code of a declaration: its own, or the free number that follows those of the declarations
without a code before it. -/
noncomputable def codeAfter (explicit : List String) (earlier : List RuleDeclaration)
    (declaration : RuleDeclaration) : String :=
  declaration.code.getD
    (generatedCode (Nat.nth (IsFreeNumber explicit) (earlier.countP (·.code.isNone))))

/-- What is taken after some declarations have been loaded: all free numbers below the next one have
been given away. -/
structure Taken.After (explicit : List String) (earlier : List RuleDeclaration) (taken : Taken) :
    Prop where
  names : ∀ name, name ∈ taken.names ↔ name ∈ BetaRule.name :: earlier.map (·.name)
  codes : ∀ code, code ∈ taken.codes ↔
    code ∈ BetaRule.code :: earlier.filterMap (·.code) ∨
      ∃ number, number < taken.number ∧ IsFreeNumber explicit number ∧ code = generatedCode number
  first : firstGeneratedCode ≤ taken.number
  given : Nat.count (IsFreeNumber explicit) taken.number = earlier.countP (·.code.isNone)

theorem Taken.after_nil (explicit : List String) : Taken.After explicit [] {} where
  names := fun _ => Iff.rfl
  codes := by
    intro code
    constructor
    · exact Or.inl
    · rintro (hbuiltin | ⟨number, hlt, hfree, _⟩)
      · exact hbuiltin
      · exact absurd hfree.1 (Nat.not_le_of_lt hlt)
  first := Nat.le_refl _
  given := by
    rw [count_isFreeNumber_eq (Nat.zero_le _) fun number _ hlt hfree =>
      absurd hfree.1 (Nat.not_le_of_lt hlt)]
    rfl

namespace Taken.After

variable {explicit : List String} {earlier : List RuleDeclaration} {taken : Taken}
  {declaration : RuleDeclaration}

theorem mem_codes_iff (h : taken.After explicit earlier) {code : String}
    (hexplicit : code ∈ explicit) :
    code ∈ taken.codes ↔ code ∈ BetaRule.code :: earlier.filterMap (·.code) := by
  rw [h.codes]
  constructor
  · rintro (hasked | ⟨number, _, hfree, rfl⟩)
    · exact hasked
    · exact absurd hexplicit hfree.2
  · exact Or.inl

theorem not_mem_iff (h : taken.After explicit earlier)
    (hearlier : earlier.filterMap (·.code) ⊆ explicit) {number : Nat}
    (hnumber : taken.number ≤ number) :
    generatedCode number ∉ explicit ++ taken.codes ↔ IsFreeNumber explicit number := by
  rw [List.mem_append, not_or, h.codes, List.mem_cons]
  constructor
  · exact fun hfree => ⟨h.first.trans hnumber, hfree.1⟩
  · intro hfree
    constructor
    · exact hfree.2
    · rintro ((hbuiltin | hasked) | ⟨other, hlt, _, heq⟩)
      · exact generatedCode_ne_betaCode hfree.1 hbuiltin
      · exact hfree.2 (hearlier hasked)
      · rw [generatedCode_injective heq] at hnumber
        exact absurd hlt (Nat.not_lt_of_le hnumber)

theorem assignCode_of_none (h : taken.After explicit earlier)
    (hearlier : earlier.filterMap (·.code) ⊆ explicit) (hcode : declaration.code = none) :
    ∃ number, declaration.assignCode explicit taken = (generatedCode number, number + 1) ∧
      generatedCode number = declaration.codeAfter explicit earlier ∧
      taken.number ≤ number ∧ IsFreeNumber explicit number ∧
      ∀ smaller, taken.number ≤ smaller → smaller < number → ¬ IsFreeNumber explicit smaller := by
  rcases freeNumber_spec (exists_not_mem_of_length_lt (explicit ++ taken.codes) taken.number
    (Nat.lt_succ_self _)) with ⟨hle, hfree, hsmaller⟩
  generalize hnumber : freeNumber (explicit ++ taken.codes) taken.number
    ((explicit ++ taken.codes).length + 1) = number at hle hfree hsmaller
  have hisFree := (h.not_mem_iff hearlier hle).mp hfree
  have hnone : ∀ smaller, taken.number ≤ smaller → smaller < number →
      ¬ IsFreeNumber explicit smaller :=
    fun smaller hle hlt hfree => (h.not_mem_iff hearlier hle).mpr hfree (hsmaller smaller hle hlt)
  have hnth : Nat.nth (IsFreeNumber explicit) (earlier.countP (·.code.isNone)) = number := by
    rw [← h.given, ← count_isFreeNumber_eq hle hnone, Nat.nth_count hisFree]
  refine ⟨number, ?_, ?_, hle, hisFree, hnone⟩
  · simp only [assignCode, hcode, hnumber]
  · rw [codeAfter, hcode, Option.getD_none, hnth]

theorem insert_name (h : taken.After explicit earlier) (name : String) :
    name ∈ declaration.name :: taken.names ↔
      name ∈ BetaRule.name :: (earlier ++ [declaration]).map (·.name) := by
  rw [List.mem_cons, h.names, List.map_append, ← List.cons_append, List.mem_append,
    List.map_singleton, List.mem_singleton, or_comm]

theorem insert_explicit (h : taken.After explicit earlier) {code : String}
    (hcode : declaration.code = some code) :
    Taken.After explicit (earlier ++ [declaration])
      ⟨declaration.name :: taken.names, code :: taken.codes, taken.number⟩ where
  names := h.insert_name
  codes := by
    intro other
    have hown : [declaration].filterMap (·.code) = [code] := by simp [hcode]
    rw [List.mem_cons, h.codes, List.filterMap_append, hown, ← List.cons_append, List.mem_append,
      List.mem_singleton, ← or_assoc, or_comm (a := other = code)]
  first := h.first
  given := by simp [h.given, hcode]

theorem insert_generated (h : taken.After explicit earlier) {number : Nat}
    (hcode : declaration.code = none) (hle : taken.number ≤ number)
    (hfree : IsFreeNumber explicit number)
    (hnone : ∀ smaller, taken.number ≤ smaller → smaller < number →
      ¬ IsFreeNumber explicit smaller) :
    Taken.After explicit (earlier ++ [declaration])
      ⟨declaration.name :: taken.names, generatedCode number :: taken.codes, number + 1⟩ where
  names := h.insert_name
  codes := by
    intro other
    have hgiven : (∃ n, n < number + 1 ∧ IsFreeNumber explicit n ∧ other = generatedCode n) ↔
        other = generatedCode number ∨
          ∃ n, n < taken.number ∧ IsFreeNumber explicit n ∧ other = generatedCode n := by
      constructor
      · rintro ⟨n, hlt, hn, rfl⟩
        rcases Nat.lt_or_ge n taken.number with hbefore | hafter
        · exact Or.inr ⟨n, hbefore, hn, rfl⟩
        · rcases Nat.eq_or_lt_of_le (Nat.le_of_lt_succ hlt) with rfl | hsmaller
          · exact Or.inl rfl
          · exact absurd hn (hnone n hafter hsmaller)
      · rintro (rfl | ⟨n, hlt, hn, rfl⟩)
        · exact ⟨number, Nat.lt_succ_self number, hfree, rfl⟩
        · exact ⟨n, by omega, hn, rfl⟩
    have hown : [declaration].filterMap (·.code) = [] := by simp [hcode]
    rw [hgiven, List.mem_cons, h.codes, List.filterMap_append, hown, List.append_nil, or_left_comm]
  first := h.first.trans (hle.trans (Nat.le_succ number))
  given := by
    rw [Nat.count_succ, if_pos hfree, count_isFreeNumber_eq hle hnone, h.given]
    simp [hcode]

end Taken.After

theorem load_of_conflict {explicit : List String} {earlier : List RuleDeclaration} {taken : Taken}
    {declaration : RuleDeclaration} {problem : DeclarationProblem}
    (hafter : taken.After explicit earlier)
    (hexplicit : (earlier ++ [declaration]).filterMap (·.code) ⊆ explicit)
    (hconflict : conflict? earlier declaration = some problem) :
    declaration.load explicit taken = .error problem := by
  unfold conflict? at hconflict
  unfold load
  cases hproblem : declaration.problem? with
  | some own =>
      rw [hproblem] at hconflict
      rw [Option.some.inj hconflict]
  | none =>
      rw [hproblem] at hconflict
      dsimp only at hconflict ⊢
      by_cases hname : declaration.name ∈ BetaRule.name :: earlier.map (·.name)
      · rw [if_pos hname] at hconflict
        rw [if_pos (List.contains_iff_mem.mpr ((hafter.names _).mpr hname)),
          Option.some.inj hconflict]
      · rw [if_neg hname] at hconflict
        rw [if_neg (mt List.contains_iff_mem.mp (mt (hafter.names _).mp hname))]
        cases hcode : declaration.code with
        | none =>
            rw [hcode] at hconflict
            cases hconflict
        | some code =>
            rw [hcode] at hconflict
            dsimp only at hconflict
            have hmem : code ∈ explicit := hexplicit (by simp [hcode])
            by_cases htaken : code ∈ BetaRule.code :: earlier.filterMap (·.code)
            · rw [if_pos htaken] at hconflict
              simp only [assignCode, hcode]
              rw [if_pos (List.contains_iff_mem.mpr ((hafter.mem_codes_iff hmem).mpr htaken)),
                Option.some.inj hconflict]
            · rw [if_neg htaken] at hconflict
              cases hconflict

theorem load_of_no_conflict {explicit : List String} {earlier : List RuleDeclaration}
    {taken : Taken} {declaration : RuleDeclaration} (hafter : taken.After explicit earlier)
    (hexplicit : (earlier ++ [declaration]).filterMap (·.code) ⊆ explicit)
    (hconflict : conflict? earlier declaration = none) :
    ∃ next, declaration.load explicit taken =
        .ok (declaration.toRule (declaration.codeAfter explicit earlier), next) ∧
      next.After explicit (earlier ++ [declaration]) := by
  rcases (conflict?_eq_none_iff earlier declaration).mp hconflict with ⟨hproblem, hname, hcodes⟩
  have hnames : ¬ taken.names.contains declaration.name = true :=
    mt List.contains_iff_mem.mp (mt (hafter.names _).mp hname)
  unfold load
  rw [hproblem]
  dsimp only
  rw [if_neg hnames]
  cases hcode : declaration.code with
  | some code =>
      have hmem : code ∈ explicit := hexplicit (by simp [hcode])
      have hfree : ¬ taken.codes.contains code = true :=
        mt List.contains_iff_mem.mp (mt (hafter.mem_codes_iff hmem).mp (hcodes code hcode))
      simp only [assignCode, hcode]
      rw [if_neg hfree]
      refine ⟨_, ?_, hafter.insert_explicit hcode⟩
      rw [codeAfter, hcode, Option.getD_some]
  | none =>
      have hearlier : earlier.filterMap (·.code) ⊆ explicit := by
        rw [List.filterMap_append] at hexplicit
        exact fun code hmem => hexplicit (List.mem_append_left _ hmem)
      rcases hafter.assignCode_of_none hearlier hcode with
        ⟨number, hassign, hafterCode, hle, hisFree, hnone⟩
      have hfree : ¬ taken.codes.contains (generatedCode number) = true := by
        intro htaken
        have hnot := (hafter.not_mem_iff hearlier hle).mpr hisFree
        exact hnot (List.mem_append_right _ (List.contains_iff_mem.mp htaken))
      rw [hassign]
      dsimp only
      rw [if_neg hfree, ← hafterCode]
      exact ⟨_, rfl, hafter.insert_generated hcode hle hisFree hnone⟩

/-!
# All declarations
-/

theorem loadFrom_cons {explicit : List String} {taken next : Taken} {declaration : RuleDeclaration}
    {rule : ApiRule} (hload : declaration.load explicit taken = .ok (rule, next)) (index : Nat)
    (rest : List RuleDeclaration) :
    loadFrom explicit index taken (declaration :: rest) =
      (loadFrom explicit (index + 1) next rest).map (rule :: ·) := by
  rw [loadFrom, hload]
  dsimp only
  cases loadFrom explicit (index + 1) next rest <;> rfl

theorem loadFrom_cases {explicit : List String} {earlier rest : List RuleDeclaration}
    {taken : Taken} (hafter : taken.After explicit earlier) (hearlier : Loadable earlier)
    (hexplicit : (earlier ++ rest).filterMap (·.code) ⊆ explicit) :
    (Loadable (earlier ++ rest) ∧
      ∃ rules, loadFrom explicit earlier.length taken rest = .ok rules ∧
        ∀ i, rules[i]? = rest[i]?.map fun declaration : RuleDeclaration =>
          declaration.toRule (declaration.codeAfter explicit (earlier ++ rest.take i))) ∨
    ∃ middle declaration later problem,
      rest = middle ++ declaration :: later ∧ Loadable (earlier ++ middle) ∧
        conflict? (earlier ++ middle) declaration = some problem ∧
        loadFrom explicit earlier.length taken rest =
          .error ⟨(earlier ++ middle).length, problem⟩ := by
  induction rest generalizing earlier taken with
  | nil =>
      rw [List.append_nil]
      exact Or.inl ⟨hearlier, [], rfl, fun i => by simp⟩
  | cons declaration rest ih =>
      rw [List.append_cons] at hexplicit
      have hupto : (earlier ++ [declaration]).filterMap (·.code) ⊆ explicit := by
        rw [List.filterMap_append] at hexplicit
        exact fun code hmem => hexplicit (List.mem_append_left _ hmem)
      cases hconflict : conflict? earlier declaration with
      | some problem =>
          refine Or.inr ⟨[], declaration, rest, problem, rfl, ?_⟩
          rw [loadFrom, load_of_conflict hafter hupto hconflict, List.append_nil]
          exact ⟨hearlier, hconflict, rfl⟩
      | none =>
          rcases load_of_no_conflict hafter hupto hconflict with ⟨next, hload, hnext⟩
          have hloadable := (loadable_concat_iff earlier declaration).mpr ⟨hearlier, hconflict⟩
          have hlength : (earlier ++ [declaration]).length = earlier.length + 1 :=
            List.length_append
          rw [loadFrom_cons hload, ← hlength, List.append_cons]
          rcases ih hnext hloadable hexplicit with
            ⟨hall, rules, hrules, hget⟩ |
            ⟨middle, other, later, problem, hrest, hmiddle, hother, herror⟩
          · refine Or.inl ⟨hall, _, by rw [hrules]; rfl, ?_⟩
            intro i
            cases i with
            | zero => simp
            | succ i => simpa using hget i
          · refine Or.inr ⟨declaration :: middle, other, later, problem, by rw [hrest]; rfl, ?_⟩
            rw [List.append_cons, herror]
            exact ⟨hmiddle, hother, rfl⟩

theorem codes_of_load {explicit : List String} {taken next : Taken} {declaration : RuleDeclaration}
    {rule : ApiRule} (hload : declaration.load explicit taken = .ok (rule, next)) :
    rule.info.code ∉ taken.codes ∧ next.codes = rule.info.code :: taken.codes := by
  unfold load at hload
  split at hload
  · cases hload
  · split at hload
    · cases hload
    · dsimp only at hload
      split at hload
      · cases hload
      · rename_i hfree
        cases hload
        exact ⟨mt List.contains_iff_mem.mpr hfree, rfl⟩

theorem nodup_codes_of_loadFrom {explicit : List String} {index : Nat} {taken : Taken}
    {declarations : List RuleDeclaration} {rules : List ApiRule}
    (h : loadFrom explicit index taken declarations = .ok rules) :
    (rules.map (·.info.code)).Nodup ∧
      ∀ code, code ∈ rules.map (·.info.code) → code ∉ taken.codes := by
  induction declarations generalizing index taken rules with
  | nil =>
      cases h
      exact ⟨List.nodup_nil, fun code hcode => absurd hcode List.not_mem_nil⟩
  | cons declaration rest ih =>
      cases hload : declaration.load explicit taken with
      | error problem =>
          rw [loadFrom, hload] at h
          cases h
      | ok loaded =>
          rw [loadFrom_cons hload] at h
          rcases codes_of_load hload with ⟨hfree, hcodes⟩
          cases hrest : loadFrom explicit (index + 1) loaded.2 rest with
          | error error =>
              rw [hrest] at h
              cases h
          | ok others =>
              rw [hrest] at h
              cases h
              rcases ih hrest with ⟨hnodup, hothers⟩
              rw [hcodes] at hothers
              rw [List.map_cons, List.nodup_cons]
              refine ⟨⟨fun hmem => hothers _ hmem List.mem_cons_self, hnodup⟩, ?_⟩
              intro code hcode
              rcases List.mem_cons.mp hcode with rfl | hmem
              · exact hfree
              · exact fun htaken => hothers code hmem (List.mem_cons_of_mem _ htaken)

theorem loadable_nil : Loadable [] where
  valid := fun _ hmem => absurd hmem List.not_mem_nil
  names := List.nodup_singleton _
  codes := List.nodup_singleton _

/-- The first declaration in conflict ends the longest start of the list that can be loaded. -/
theorem isLeast_of_conflict {middle : List RuleDeclaration} {declaration : RuleDeclaration}
    {problem : DeclarationProblem} (hmiddle : Loadable middle)
    (hconflict : conflict? middle declaration = some problem) (later : List RuleDeclaration) :
    IsLeast {i | ¬ Loadable ((middle ++ declaration :: later).take (i + 1))} middle.length := by
  constructor
  · show ¬ Loadable ((middle ++ declaration :: later).take (middle.length + 1))
    rw [List.append_cons, List.take_append_of_le_length (by simp), List.take_of_length_le (by simp),
      loadable_concat_iff, hconflict]
    rintro ⟨_, hnone⟩
    cases hnone
  · intro i hi
    by_contra hlt
    apply hi
    rw [List.take_append_of_le_length (by omega)]
    exact hmiddle.sublist (List.take_sublist _ _)

theorem not_loadable_of_isLeast {declarations : List RuleDeclaration} {index : Nat}
    (h : IsLeast {i | ¬ Loadable (declarations.take (i + 1))} index) : ¬ Loadable declarations :=
  fun hall => h.1 (hall.sublist (List.take_sublist _ _))

/-- The rules that declarations are loaded as.  Each has the code of its declaration or the free
number that follows those given away before, and all codes are distinct. -/
structure LoadedAs (declarations : List RuleDeclaration) (rules : List ApiRule) : Prop where
  rule : ∀ i, rules[i]? = declarations[i]?.map fun declaration : RuleDeclaration =>
    declaration.toRule (declaration.codeAfter (declarations.filterMap (·.code))
      (declarations.take i))
  names : rules.map (·.info.name) = declarations.map (·.name)
  codes : (BetaRule.code :: rules.map (·.info.code)).Nodup

/-- The error of declarations that cannot be loaded.  It is at the first declaration that is in
conflict with those before it. -/
structure RefusedWith (declarations : List RuleDeclaration) (error : DeclarationError) : Prop where
  first : IsLeast {i | ¬ Loadable (declarations.take (i + 1))} error.index
  problem : ∃ declaration, declarations[error.index]? = some declaration ∧
    conflict? (declarations.take error.index) declaration = some error.problem

theorem loadedAs_of_rule {declarations : List RuleDeclaration} {rules : List ApiRule}
    (hload : loadAll declarations = .ok rules)
    (hrule : ∀ i, rules[i]? = declarations[i]?.map fun declaration : RuleDeclaration =>
      declaration.toRule (declaration.codeAfter (declarations.filterMap (·.code))
        (declarations.take i))) :
    LoadedAs declarations rules where
  rule := hrule
  names := by
    apply List.ext_getElem?
    intro i
    rw [List.getElem?_map, List.getElem?_map, hrule i]
    cases declarations[i]? <;> rfl
  codes := by
    rcases nodup_codes_of_loadFrom hload with ⟨hnodup, hfree⟩
    exact List.nodup_cons.mpr ⟨fun hmem => hfree _ hmem List.mem_cons_self, hnodup⟩

theorem loadAll_cases (declarations : List RuleDeclaration) :
    (Loadable declarations ∧
      ∃ rules, loadAll declarations = .ok rules ∧ LoadedAs declarations rules) ∨
    ∃ error, loadAll declarations = .error error ∧ RefusedWith declarations error := by
  rcases loadFrom_cases (Taken.after_nil (declarations.filterMap (·.code))) loadable_nil
      (List.Subset.refl _) with
    ⟨hall, rules, hload, hrule⟩ |
      ⟨middle, declaration, later, problem, rfl, hmiddle, hconflict, herror⟩
  · exact Or.inl ⟨hall, rules, hload, loadedAs_of_rule hload hrule⟩
  · refine Or.inr ⟨_, herror, isLeast_of_conflict hmiddle hconflict later, declaration, ?_, ?_⟩
    · simp
    · simpa using hconflict

/-- Declarations are loaded exactly if each is right on its own and their names and explicit codes
are distinct.  Codes are generated from all numbers that no declaration asks for, in order. -/
theorem loadAll_exact (declarations : List RuleDeclaration) :
    ((∃ rules, loadAll declarations = .ok rules) ↔ Loadable declarations) ∧
    (∀ rules, loadAll declarations = .ok rules → LoadedAs declarations rules) ∧
    (StrictMono (Nat.nth (IsFreeNumber (declarations.filterMap (·.code)))) ∧
      Set.range (Nat.nth (IsFreeNumber (declarations.filterMap (·.code)))) =
        {number | IsFreeNumber (declarations.filterMap (·.code)) number}) ∧
    ∀ error, loadAll declarations = .error error → RefusedWith declarations error := by
  have hfree := infinite_isFreeNumber (declarations.filterMap (·.code))
  have hnumbers := And.intro (Nat.nth_strictMono hfree) (Nat.range_nth_of_infinite hfree)
  rcases loadAll_cases declarations with ⟨hall, rules, hload, hloaded⟩ | ⟨error, herror, hrefused⟩
  · rw [hload]
    refine ⟨⟨fun _ => hall, fun _ => ⟨rules, rfl⟩⟩, ?_, hnumbers, ?_⟩
    · rintro _ ⟨rfl⟩
      exact hloaded
    · rintro _ ⟨⟩
  · rw [herror]
    refine ⟨⟨?_, ?_⟩, ?_, hnumbers, ?_⟩
    · rintro ⟨_, ⟨⟩⟩
    · intro hall
      exact absurd hall (not_loadable_of_isLeast hrefused.first)
    · rintro _ ⟨⟩
    · rintro _ ⟨rfl⟩
      exact hrefused

/-- Two of these declarations ask for the numbers that would be generated first. -/
def askingDeclarations : List RuleDeclaration :=
  [{ name := "a", code := some "UA101", baseNamespace := "com.example", marker := "com.example.A" },
    { name := "b", baseNamespace := "com.example", marker := "com.example.B" },
    { name := "c", baseNamespace := "com.example", marker := "com.example.C" },
    { name := "d", code := some "UA100", baseNamespace := "com.example",
      marker := "com.example.D" }]

/-- The last of these declarations has the name of another one, and its code, too. -/
def clashingDeclarations : List RuleDeclaration :=
  askingDeclarations ++
    [{ name := "b", code := some "UA101", baseNamespace := "com.example",
       marker := "com.example.E" }]

theorem loadAll_exact_asking :
    (∃ rules, loadAll askingDeclarations = .ok rules ∧ LoadedAs askingDeclarations rules ∧
      rules.map (·.info.code) = ["UA101", "UA102", "UA103", "UA100"]) ∧
    loadAll clashingDeclarations = .error ⟨4, .duplicateName "b"⟩ ∧
      RefusedWith clashingDeclarations ⟨4, .duplicateName "b"⟩ := by
  have hclash : loadAll clashingDeclarations = .error ⟨4, .duplicateName "b"⟩ := by rfl
  have hcodes : (loadAll askingDeclarations).map (·.map (·.info.code)) =
      .ok ["UA101", "UA102", "UA103", "UA100"] := by rfl
  rcases (loadAll_exact askingDeclarations).1.mpr (by decide +kernel) with ⟨rules, hrules⟩
  refine ⟨⟨rules, hrules, (loadAll_exact askingDeclarations).2.1 rules hrules, ?_⟩, hclash,
    (loadAll_exact clashingDeclarations).2.2.2 _ hclash⟩
  rw [hrules] at hcodes
  exact Except.ok.inj hcodes

end RuleDeclaration

end RestrictedApi

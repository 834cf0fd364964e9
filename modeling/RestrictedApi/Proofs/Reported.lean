import RestrictedApi.Proofs.Suppression
import RestrictedApi.Proofs.Tour.Visit

/-!
# Where references are reported

The way to a reference says whether it is inside an import.  A tour of a tree that keeps to the
whole grammar comes to every site at most once, and to no declared name, so there the references of
a walk are at different nodes, and none is at a declared name.
-/

namespace RestrictedApi

/-!
# The way to a site
-/

/-- The way from a root to a site goes through the sites `above`, outermost first. -/
inductive Site.Leads (root : Site) : (above : List Site) → Site → Prop where
  | refl : Leads root [] root
  | child {above : List Site} {site child : Site} :
      Leads root above site →
      child ∈ site.children →
      Leads root (above ++ [site]) child

namespace Site.Leads

variable {root site found : Site} {above : List Site}

theorem reached (h : root.Leads above site) :
    ∃ steps, root.descend? steps = some site ∧ root.ancestors steps = above := by
  induction h with
  | refl => exact ⟨[], rfl, rfl⟩
  | child _ hchild ih =>
      rcases ih with ⟨steps, hsite, habove⟩
      rcases List.mem_iff_getElem?.mp hchild with ⟨i, hi⟩
      refine ⟨steps ++ [i], ?_, ?_⟩
      · rw [descend?_concat hsite, hi]
      · rw [ancestors_concat hsite, habove]

theorem everywhere {test : Option Node → Node → Bool} (h : root.Leads above site)
    (htest : root.node.everywhere test none = true) :
    site.node.everywhere test (above.getLast?.map Site.node) = true := by
  induction h with
  | refl => exact htest
  | child _ hchild ih =>
      rw [List.getLast?_concat]
      exact everywhere_of_mem_children ih hchild

end Site.Leads

/-!
# The area of a tour
-/

namespace Stop

/-- The way to a stop; inside a site, the site is part of it. -/
def Under (root : Site) (above : List Site) : Stop → Prop
  | whole parent site => root.Leads above site ∧ above.getLast? = parent
  | inside site _ => ∃ before, root.Leads before site ∧ above = before ++ [site]

def Covers (path : Path) : Stop → Prop
  | whole _ site => site.path <:+ path
  | inside site parts => ∃ part, part ∈ parts ∧ part ∈ site.children ∧ part.path <:+ path

def Apart : Stop → Prop
  | whole _ _ => True
  | inside _ parts => parts.Nodup

def Undeclared : Stop → Prop
  | whole parent site => ∀ holder, parent = some holder → site ∉ holder.declaredNames
  | inside _ _ => True

variable {root site : Site} {above : List Site} {parent : Option Site} {parts more : List Site}
variable {path : Path}

theorem Under.enter (h : (whole parent site).Under root above) :
    (inside site parts).Under root (above ++ [site]) :=
  ⟨above, h.1, rfl⟩

theorem Under.child {child : Site} (h : (inside site parts).Under root above)
    (hchild : child ∈ site.children) : (whole (some site) child).Under root above := by
  rcases h with ⟨before, hsite, rfl⟩
  exact ⟨Site.Leads.child hsite hchild, List.getLast?_concat⟩

theorem Under.ne_nil (h : (inside site parts).Under root above) : above ≠ [] := by
  rcases h with ⟨before, _, rfl⟩
  exact List.append_ne_nil_of_right_ne_nil before (List.cons_ne_nil _ _)

theorem Covers.enter (h : (inside site parts).Covers path) :
    (whole parent site).Covers path := by
  rcases h with ⟨part, _, hchild, hsuffix⟩
  rcases Site.path_of_mem_children hchild with ⟨i, _, hpath⟩
  exact ((List.suffix_cons i site.path).trans (hpath ▸ List.suffix_refl _)).trans hsuffix

theorem Covers.left (h : (inside site parts).Covers path) :
    (inside site (parts ++ more)).Covers path :=
  h.imp fun _ hpart => ⟨List.mem_append_left more hpart.1, hpart.2⟩

theorem Covers.right (h : (inside site more).Covers path) :
    (inside site (parts ++ more)).Covers path :=
  h.imp fun _ hpart => ⟨List.mem_append_right parts hpart.1, hpart.2⟩

theorem Covers.apart (h : (inside site parts).Covers path) (h' : (inside site more).Covers path)
    (hparts : (inside site (parts ++ more)).Apart) : False := by
  rcases h with ⟨part, hpart, hchild, hsuffix⟩
  rcases h' with ⟨other, hother, hchild', hsuffix'⟩
  rcases Site.path_of_mem_children hchild with ⟨i, _, hpath⟩
  rcases Site.path_of_mem_children hchild' with ⟨j, _, hpath'⟩
  have hindex : i = j := Path.eq_of_cons_suffix (hpath ▸ hsuffix) (hpath' ▸ hsuffix')
  have hsame : part = other := by
    apply Site.eq_of_path hchild hchild'
    rw [hpath, hpath', hindex]
  exact (List.nodup_append.mp hparts).2.2 part hpart other hother hsame

end Stop

/-!
# References of a tour
-/

def Site.isImport (site : Site) : Bool :=
  site.kind = .importDeclaration

structure Reference.ReportedAt (unit : WalkedUnit) (shape : Shape) (root : Site)
    (above : List Site) (site : Site) (reference : Reference) : Prop where
  leads : root.Leads above site
  undeclared : shape = .whole → ∀ holder, above.getLast? = some holder →
    site ∉ holder.declaredNames
  path : reference.path = site.path
  location : reference.usage.location = site.node.locationIn unit.file
  inImport : reference.usage.inImport = above.any Site.isImport
  imported : reference.usage.inImport = true →
    Imported unit (above.getLast?.map Site.node) site.node reference.usage.shape
      reference.usage.name reference.usage.target

namespace Reference.ReportedAt

variable {unit : WalkedUnit} {shape : Shape} {root site : Site} {above : List Site}
variable {reference : Reference}

theorem reached {number : Nat} (hroot : root.path = [number])
    (h : reference.ReportedAt unit shape root above site) :
    root.descend? reference.steps = some site ∧ root.ancestors reference.steps = above := by
  rcases h.leads.reached with ⟨steps, hsite, habove⟩
  rw [Reference.steps, h.path, Site.steps_of_descend? hroot hsite]
  exact ⟨hsite, habove⟩

theorem ne_declaredName (h : reference.ReportedAt unit .whole root above site) {steps : List Nat}
    {holder name : Site} (hholder : root.descend? steps = some holder)
    (hname : name ∈ holder.declaredNames) : name.path ≠ site.path := by
  have hnameChild := Site.mem_children_of_mem_declaredNames hname
  rcases Site.path_of_mem_children hnameChild with ⟨i, _, hnamePath⟩
  intro hpath
  cases h.leads with
  | refl =>
      have hlength := congrArg List.length (hpath.symm.trans hnamePath)
      rw [Site.path_of_descend? hholder] at hlength
      simp at hlength
      omega
  | child hparent hchild =>
      -- The site and the name have the same path, so they are one child of the same parent.
      rename_i before parent
      rcases hparent.reached with ⟨others, hother, _⟩
      rcases Site.path_of_mem_children hchild with ⟨j, _, hchildPath⟩
      have hsame : holder = parent := by
        apply Site.eq_of_descend? hholder hother
        rw [hnamePath, hchildPath] at hpath
        exact (List.cons.inj hpath).2
      rw [hsame] at hname hnameChild
      rw [Site.eq_of_path hnameChild hchild hpath] at hname
      exact h.undeclared rfl parent List.getLast?_concat hname

end Reference.ReportedAt

/-- The references that are added at a stop.  They are at different nodes of it if the tree keeps to
the whole grammar. -/
structure Stop.Adds (unit : WalkedUnit) (shape : Shape) (root : Site) (stop : Stop)
    (first second : Walk) (added : List Reference) : Prop where
  eq : second.references.toList = first.references.toList ++ added
  apart : shape = .whole → stop.Apart → (added.map Reference.path).Nodup
  covered : shape = .whole → ∀ reference, reference ∈ added → stop.Covers reference.path
  reported : ∀ reference, reference ∈ added →
    ∃ above site, reference.ReportedAt unit shape root above site

namespace Stop.Adds

variable {unit : WalkedUnit} {shape : Shape} {root site : Site} {stop : Stop}
variable {first second third : Walk} {parent : Option Site} {parts more : List Site}
variable {added : List Reference}

theorem none (heq : second.references = first.references) :
    stop.Adds unit shape root first second [] where
  eq := by rw [heq, List.append_nil]
  apart := fun _ _ => List.nodup_nil
  covered := fun _ _ hreference => absurd hreference List.not_mem_nil
  reported := fun _ hreference => absurd hreference List.not_mem_nil

theorem append {further : List Reference}
    (h : (inside site parts).Adds unit shape root first second added)
    (h' : (inside site more).Adds unit shape root second third further) :
    (inside site (parts ++ more)).Adds unit shape root first third (added ++ further) where
  eq := by rw [h'.eq, h.eq, List.append_assoc]
  apart := by
    intro hshape hparts
    have hboth := List.nodup_append.mp hparts
    rw [List.map_append]
    refine List.Nodup.append (h.apart hshape hboth.1) (h'.apart hshape hboth.2.1) ?_
    intro path hadded hfurther
    rcases List.mem_map.mp hadded with ⟨reference, hreference, rfl⟩
    rcases List.mem_map.mp hfurther with ⟨other, hother, hpath⟩
    have hcovered := h'.covered hshape other hother
    rw [hpath] at hcovered
    exact (h.covered hshape reference hreference).apart hcovered hparts
  covered := by
    intro hshape reference hreference
    rcases List.mem_append.mp hreference with hadded | hfurther
    · exact (h.covered hshape reference hadded).left
    · exact (h'.covered hshape reference hfurther).right
  reported := by
    intro reference hreference
    rcases List.mem_append.mp hreference with hadded | hfurther
    · exact h.reported reference hadded
    · exact h'.reported reference hfurther

theorem enter (h : (inside site parts).Adds unit shape root first second added)
    (hparts : shape ≠ .loose → parts.Nodup) :
    (whole parent site).Adds unit shape root first second added where
  eq := h.eq
  apart := fun hshape _ => h.apart hshape (hparts (by rw [hshape]; decide))
  covered := fun hshape reference hreference => (h.covered hshape reference hreference).enter
  reported := h.reported

theorem child {child : Site} (h : (whole parent child).Adds unit shape root first second added)
    (hchild : child ∈ site.children) :
    (inside site [child]).Adds unit shape root first second added where
  eq := h.eq
  apart := fun hshape _ => h.apart hshape trivial
  covered := fun hshape reference hreference =>
    ⟨child, List.mem_singleton_self child, hchild, h.covered hshape reference hreference⟩
  reported := h.reported

theorem report {above : List Site} {inImport : Bool} {usage : UsageShape} {name : String}
    {target : Option SymbolId} (hleads : root.Leads above site)
    (hundeclared : shape = .whole → ∀ holder, above.getLast? = some holder →
      site ∉ holder.declaredNames)
    (hcovers : shape = .whole → stop.Covers site.path)
    (himport : inImport = above.any Site.isImport)
    (hpackage : inImport = true →
      Imported unit (above.getLast?.map Site.node) site.node usage name target) :
    ∃ added, stop.Adds unit shape root first
      ((Walker.report unit site usage name target inImport).run first).2 added := by
  change ∃ added, stop.Adds unit shape root first (if first.muted > 0 then first else _) added
  by_cases hmuted : first.muted > 0
  · rw [if_pos hmuted]
    exact ⟨[], none rfl⟩
  · rw [if_neg hmuted]
    let reported : Reference :=
      { path := site.path
        usage := {
          shape := usage, name, inImport, target
          location := site.node.locationIn unit.file
          suppressions := first.silenced } }
    refine ⟨[reported], ?_⟩
    exact
      { eq := Array.toList_push
        apart := fun _ _ => List.nodup_singleton _
        covered := by
          intro hshape other hother
          rw [List.mem_singleton.mp hother]
          exact hcovers hshape
        reported := by
          intro other hother
          rw [List.mem_singleton.mp hother]
          exact ⟨above, site, hleads, hundeclared, rfl, rfl, himport, hpackage⟩ }

end Stop.Adds

/-- Every tour adds references that are reported in its area. -/
theorem Tour.addsReferences {unit : WalkedUnit} {shape : Shape} {inImport : Bool} {stop : Stop}
    {first second : Walk} {root : Site} {above : List Site}
    (htour : Tour unit shape inImport stop first second) (hunder : stop.Under root above)
    (hundeclared : shape = .whole → stop.Undeclared)
    (himport : inImport = above.any Site.isImport) :
    ∃ added, stop.Adds unit shape root first second added := by
  induction htour generalizing above with
  | refl => exact ⟨[], Stop.Adds.none rfl⟩
  | trans _ _ ih ih' =>
      rcases ih hunder (fun _ => trivial) himport with ⟨added, hadded⟩
      rcases ih' hunder (fun _ => trivial) himport with ⟨further, hfurther⟩
      exact ⟨added ++ further, hadded.append hfurther⟩
  | aside hfirst _ hsecond ih =>
      rcases ih hunder hundeclared himport with ⟨added, hadded⟩
      refine ⟨added, { hadded with eq := ?_ }⟩
      rw [← hsecond.references, hfirst.references]
      exact hadded.eq
  | child hchild hname _ ih =>
      rename_i site child _ _ _
      have hundeclared : shape = .whole → (Stop.whole (some site) child).Undeclared := by
        rintro hshape holder ⟨⟩
        exact hname hshape
      rcases ih (hunder.child hchild) hundeclared himport with ⟨added, hadded⟩
      exact ⟨added, hadded.child hchild⟩
  | enter _ hkind hparts _ ih =>
      rcases ih hunder.enter (fun _ => trivial) (by simp [himport, Site.isImport, hkind]) with
        ⟨added, hadded⟩
      exact ⟨added, hadded.enter hparts⟩
  | enterImport _ hkind hparts _ ih =>
      rcases ih hunder.enter (fun _ => trivial) (by simp [Site.isImport, hkind]) with
        ⟨added, hadded⟩
      exact ⟨added, hadded.enter hparts⟩
  | block _ hkind hparts _ ih =>
      rcases ih hunder.enter (fun _ => trivial) (by simp [himport, Site.isImport, hkind]) with
        ⟨added, hadded⟩
      exact ⟨added, { hadded.enter hparts with }⟩
  | report _ hpackage =>
      rename_i site _ _ _ _ _
      refine Stop.Adds.report hunder.1 ?_ (fun _ => List.suffix_refl site.path) himport ?_
      · rw [hunder.2]
        exact hundeclared
      · rw [hunder.2]
        exact hpackage
  | remark hshape hchild _ hpackage =>
      have hbelow := hunder.child hchild
      refine Stop.Adds.report hbelow.1 (fun hwhole => absurd hwhole hshape)
        (fun hwhole => absurd hwhole hshape) himport ?_
      rw [hbelow.2]
      exact hpackage
  | declare | typeParameter | localTypeParameter =>
      exact ⟨[], Stop.Adds.none (Walk.modifyBlock_references _ _)⟩

/-!
# Usages of a program
-/

namespace Program

variable {program : Program} {number : Nat} {source : SourceUnit}

theorem references_walk (program : Program) (number : Nat) {shape : Shape}
    (hroot : Site.Grammatical shape none ⟨[number], source.root⟩) :
    (shape = .whole →
        ((program.walk number source).references.toList.map Reference.path).Nodup) ∧
      ∀ reference, reference ∈ (program.walk number source).references.toList →
        ∃ above site, reference.ReportedAt (program.walkedUnit number source) shape
          ⟨[number], source.root⟩ above site := by
  have htour := (program.walkedUnit number source).tour_walk program.table hroot
  rcases htour.addsReferences ⟨Site.Leads.refl, rfl⟩ (by rintro _ _ ⟨⟩) rfl with ⟨added, hadded⟩
  have hreferences : (program.walk number source).references.toList = added := hadded.eq
  rw [hreferences]
  exact ⟨fun hshape => hadded.apart hshape trivial, hadded.reported⟩

/-- Usages are located at different nodes, none of which is a declared name. -/
theorem usages_at_distinct_nodes (program : Program) (number : Nat) (source : SourceUnit)
    (usages : List Usage) (hsource : program.units[number]? = some source)
    (hshape : source.root.everywhere Node.isGrammatical none = true)
    (husages : (program.usages number).1 = .ok usages) :
    let root : Site := ⟨[number], source.root⟩
    let references := (program.walk number source).references.toList
    usages = references.map Reference.usage ∧
      (references.map Reference.path).Nodup ∧
      ∀ reference, reference ∈ references →
        (∃ node, root.descend? reference.steps = some ⟨reference.path, node⟩ ∧
          reference.usage.location = node.locationIn source.path) ∧
        ∀ steps holder, root.descend? steps = some holder →
          ∀ name, name ∈ holder.declaredNames → name.path ≠ reference.path := by
  intro root references
  rcases program.references_walk number (Site.grammatical_whole hshape) with ⟨hapart, hreported⟩
  refine ⟨((usages_eq_ok_iff hsource).mp husages).2.symm, hapart rfl, ?_⟩
  intro reference hreference
  rcases hreported reference hreference with ⟨above, site, hsite⟩
  constructor
  · refine ⟨site.node, ?_, hsite.location⟩
    rw [hsite.path]
    exact (hsite.reached rfl).1
  · intro steps holder hholder name hname
    rw [hsite.path]
    exact hsite.ne_declaredName hholder hname

end Program

/-- The unit `class A { void f(int x) { g(x -> x, x); } }`, with a name that is declared twice. -/
def shadowing : SourceUnit where
  path := ⟨"A.java"⟩
  root := ⟨.other, true, none, 1, 1, 0, 43, "", [
    ⟨.classDeclaration, true, none, 1, 1, 0, 43, "", [
      ⟨.identifier, true, some .name, 1, 7, 6, 1, "A", []⟩,
      ⟨.classBody, true, some .body, 1, 9, 8, 35, "", [
        ⟨.methodDeclaration, true, none, 1, 11, 10, 31, "", [
          ⟨.other, true, some .type, 1, 11, 10, 4, "void", []⟩,
          ⟨.identifier, true, some .name, 1, 16, 15, 1, "f", []⟩,
          ⟨.formalParameters, true, some .parameters, 1, 17, 16, 7, "", [
            ⟨.formalParameter, true, none, 1, 18, 17, 5, "", [
              ⟨.other, true, some .type, 1, 18, 17, 3, "int", []⟩,
              ⟨.identifier, true, some .name, 1, 22, 21, 1, "x", []⟩]⟩]⟩,
          ⟨.block, true, some .body, 1, 25, 24, 17, "", [
            ⟨.other, true, none, 1, 27, 26, 13, "", [
              ⟨.methodInvocation, true, none, 1, 27, 26, 12, "", [
                ⟨.identifier, true, some .name, 1, 27, 26, 1, "g", []⟩,
                ⟨.other, true, some .arguments, 1, 28, 27, 11, "", [
                  ⟨.lambdaExpression, true, none, 1, 29, 28, 6, "", [
                    ⟨.identifier, true, some .parameters, 1, 29, 28, 1, "x", []⟩,
                    ⟨.identifier, true, some .body, 1, 34, 33, 1, "x", []⟩]⟩,
                  ⟨.identifier, true, none, 1, 37, 36, 1, "x", []⟩]⟩]⟩]⟩]⟩]⟩]⟩]⟩]⟩

/-- The call, the parameter of the lambda and that of the method. -/
def shadowingUsages : List Usage :=
  [{ shape := .identifier, name := "g", location := ⟨⟨"A.java"⟩, 1, 27, 26, 1⟩ },
    { shape := .identifier, name := "x", location := ⟨⟨"A.java"⟩, 1, 34, 33, 1⟩, target := some 4 },
    { shape := .identifier, name := "x", location := ⟨⟨"A.java"⟩, 1, 37, 36, 1⟩, target := some 3 }]

theorem shadowing_distinct :
    let program := Program.ofUnits [shadowing]
    let root : Site := ⟨[0], shadowing.root⟩
    let references := (program.walk 0 shadowing).references.toList
    shadowing.root.everywhere Node.isGrammatical none = true ∧
      (program.usages 0).1 = .ok shadowingUsages ∧
      (references.map Reference.path).Nodup ∧
      ∀ reference, reference ∈ references →
        ∀ steps holder, root.descend? steps = some holder →
          ∀ name, name ∈ holder.declaredNames → name.path ≠ reference.path := by
  intro program root references
  have hshape : shadowing.root.everywhere Node.isGrammatical none = true := by decide
  have husages : (program.usages 0).1 = .ok shadowingUsages :=
    (Program.usages_eq_ok_iff rfl).mpr ⟨by decide +kernel, by decide +kernel⟩
  have hdistinct := Program.usages_at_distinct_nodes program 0 shadowing _ rfl hshape husages
  exact ⟨hshape, husages, hdistinct.2.1, fun reference hreference =>
    (hdistinct.2.2 reference hreference).2⟩

end RestrictedApi

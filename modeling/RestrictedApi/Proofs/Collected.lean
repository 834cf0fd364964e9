import RestrictedApi.Proofs.Ancestry
import RestrictedApi.Proofs.Declared

/-!
# Collecting keeps records sound

Every step of the collecting pass leaves sound records behind and only appends to the table.  What a
step returns is known of the table that it leaves, and of every later table.
-/

namespace RestrictedApi

/-!
# Maps
-/

theorem entry_of_insert {κ β : Type} [Ord κ] [Std.TransOrd κ] [Std.LawfulEqOrd κ]
    {map : Std.TreeMap κ β} {key other : κ} {value found : β}
    (h : (map.insert key value)[other]? = some found) :
    (other = key ∧ found = value) ∨ map[other]? = some found := by
  rw [Std.TreeMap.getElem?_insert] at h
  split at h
  · rename_i heq
    cases h
    exact Or.inl ⟨(Std.compare_eq_iff_eq.mp heq).symm, rfl⟩
  · exact Or.inr h

/-!
# Members of a type
-/

namespace TypeDecl.Sound

variable {table : SymbolTable} {decl : TypeDecl} {name : String} {id : SymbolId}

theorem addField (h : decl.Sound table) (hid : table.Declares id SymbolKind.IsField name) :
    (decl.addField name id).Sound table := by
  refine { h with fields := ?_ }
  intro other found hfound
  rcases entry_of_insert hfound with ⟨rfl, rfl⟩ | hold
  · exact hid
  · exact h.fields hold

theorem addMemberType (h : decl.Sound table) (hid : table.Declares id (·.isType = true) name) :
    (decl.addMemberType name id).Sound table := by
  refine { h with memberTypes := ?_ }
  intro other found hfound
  rcases entry_of_insert hfound with ⟨rfl, rfl⟩ | hold
  · exact hid
  · exact h.memberTypes hold

theorem addMethod (h : decl.Sound table) (hid : table.Declares id (· = .method) name) :
    (decl.addMethod name id).Sound table := by
  refine { h with methods := ?_ }
  intro other ids found hids hfound
  rcases entry_of_insert hids with ⟨rfl, rfl⟩ | hids
  · rcases List.mem_append.mp hfound with hold | hnew
    · cases hmethods : decl.methods[other]? with
      | none =>
          rw [hmethods] at hold
          cases hold
      | some before =>
          rw [hmethods] at hold
          exact h.methods hmethods hold
    · rw [List.mem_singleton.mp hnew]
      exact hid
  · exact h.methods hids hfound

theorem addConstructor (h : decl.Sound table)
    (hid : table.Declares id (· = .constructor) constructorName) :
    (decl.addConstructor id).Sound table := by
  refine { h with constructors := ?_ }
  intro found hfound
  rcases List.mem_append.mp hfound with hold | hnew
  · exact h.constructors hold
  · rw [List.mem_singleton.mp hnew]
    exact hid

end TypeDecl.Sound

namespace Collector

/-!
# Steps of the pass
-/

/-- A step that starts from a table at least as large as `table` keeps the records sound and extends
the table, and its result satisfies a condition afterwards. -/
def Keeps {α : Type} (simple : Prop) (table : SymbolTable) (step : Collector α)
    (result : α → SymbolTable → Prop) : Prop :=
  ∀ state, state.decls.Sound simple state.table → table.Extends state.table →
    (step.run state).2.decls.Sound simple (step.run state).2.table ∧
      state.table.Extends (step.run state).2.table ∧
      result (step.run state).1 (step.run state).2.table

def KeepsSound {α : Type} (simple : Prop) (table : SymbolTable) (step : Collector α) : Prop :=
  Keeps simple table step fun _ _ => True

namespace Keeps

variable {α β : Type} {simple : Prop} {table : SymbolTable}
variable {result : α → SymbolTable → Prop} {final : β → SymbolTable → Prop}

/-!
# Composing steps
-/

theorem pure {value : α} (hvalue : ∀ later, table.Extends later → result value later) :
    Keeps simple table (pure value) result :=
  fun _ hstate hextends => ⟨hstate, SymbolTable.Extends.refl _, hvalue _ hextends⟩

theorem done {value : α} : KeepsSound simple table (Pure.pure value) :=
  Keeps.pure fun _ _ => trivial

theorem bind {step : Collector α} {next : α → Collector β} (hstep : Keeps simple table step result)
    (hnext : ∀ value later, table.Extends later → result value later →
      Keeps simple later (next value) final) :
    Keeps simple table (step >>= next) final := by
  intro state hstate hextends
  rcases hstep state hstate hextends with ⟨hsound, hgrows, hresult⟩
  have hlater := hextends.trans hgrows
  rcases hnext _ _ hlater hresult _ hsound (SymbolTable.Extends.refl _) with
    ⟨hsound', hgrows', hfinal⟩
  exact ⟨hsound', hgrows.trans hgrows', hfinal⟩

theorem bind_get {next : Collected → Collector β}
    (hnext : ∀ state, state.decls.Sound simple state.table → table.Extends state.table →
      Keeps simple state.table (next state) final) :
    Keeps simple table (get >>= next) final :=
  fun state hstate hextends =>
    hnext state hstate hextends state hstate (SymbolTable.Extends.refl _)

theorem forM {items : List β} {step : β → Collector Unit}
    (hstep : ∀ item, item ∈ items → ∀ later, table.Extends later →
      KeepsSound simple later (step item)) :
    KeepsSound simple table (items.forM step) := by
  induction items generalizing table with
  | nil => exact Keeps.done
  | cons item rest ih =>
      change KeepsSound simple table (step item >>= fun _ => rest.forM step)
      apply Keeps.bind (hstep item List.mem_cons_self table (SymbolTable.Extends.refl _))
      intro _ later hlater _
      apply ih
      intro other hother further hfurther
      exact hstep other (List.mem_cons_of_mem item hother) further (hlater.trans hfurther)

theorem foldlM {items : List β} {step : α → β → Collector α} (start : α)
    (hstep : ∀ value item, item ∈ items → ∀ later, table.Extends later →
      KeepsSound simple later (step value item)) :
    KeepsSound simple table (items.foldlM step start) := by
  induction items generalizing table start with
  | nil => exact Keeps.done
  | cons item rest ih =>
      rw [List.foldlM_cons]
      apply Keeps.bind (hstep start item List.mem_cons_self table (SymbolTable.Extends.refl _))
      intro value later hlater _
      apply ih
      intro next other hother further hfurther
      exact hstep next other (List.mem_cons_of_mem item hother) further (hlater.trans hfurther)

theorem imp {step : Collector α} {weaker : α → SymbolTable → Prop}
    (hstep : Keeps simple table step result)
    (hweaker : ∀ value later, result value later → weaker value later) :
    Keeps simple table step weaker := by
  intro state hstate hextends
  rcases hstep state hstate hextends with ⟨hsound, hgrows, hresult⟩
  exact ⟨hsound, hgrows, hweaker _ _ hresult⟩

theorem mapM {items : List β} {step : β → Collector α}
    (hgrow : ∀ value first second, SymbolTable.Extends first second → result value first →
      result value second)
    (hstep : ∀ item later, table.Extends later → Keeps simple later (step item) result) :
    Keeps simple table (items.mapM step) fun values later =>
      ∀ value, value ∈ values → result value later := by
  induction items generalizing table with
  | nil =>
      apply Keeps.pure
      intro later _ value hvalue
      cases hvalue
  | cons item rest ih =>
      rw [List.mapM_cons]
      apply Keeps.bind (hstep item table (SymbolTable.Extends.refl _))
      intro first later hlater hfirst
      apply Keeps.bind (ih fun other further hfurther =>
        hstep other further (hlater.trans hfurther))
      intro values further hfurther hvalues
      apply Keeps.pure
      intro last hlast value hvalue
      rcases List.mem_cons.mp hvalue with heq | hrest
      · rw [heq]
        exact hgrow _ _ _ (hfurther.trans hlast) hfirst
      · exact hgrow _ _ _ hlast (hvalues value hrest)

/-!
# Changing the records
-/

theorem insertSymbol (symbol : Symbol) :
    Keeps simple table (Collector.insertSymbol symbol)
      fun id later => later.Declares id (· = symbol.kind) symbol.name := by
  intro state hstate _
  have hgrows := SymbolTable.Extends.insert state.table symbol
  exact ⟨hstate.extend hgrows, hgrows, state.table.declares_insert symbol⟩

theorem modifyDecls {change : Declarations → Declarations}
    (hchange : ∀ decls later, table.Extends later → decls.Sound simple later →
      (change decls).Sound simple later) :
    KeepsSound simple table (Collector.modifyDecls change) :=
  fun _ hstate hextends =>
    ⟨hchange _ _ hextends hstate, SymbolTable.Extends.refl _, trivial⟩

theorem recordSite (site : Site) {id : SymbolId} (hid : id < table.size) :
    KeepsSound simple table (Collector.recordSite site id) := by
  apply Keeps.modifyDecls
  intro decls later hlater hdecls
  refine { hdecls with sites := ?_ }
  intro path found hfound
  rcases entry_of_insert hfound with ⟨rfl, rfl⟩ | hold
  · exact hlater.lt_size hid
  · exact hdecls.sites hold

theorem recordMember {id : SymbolId} {member : MemberDecl} (hid : id < table.size)
    (hmember : member.Sound table) :
    KeepsSound simple table (Collector.recordMember id member) := by
  apply Keeps.modifyDecls
  intro decls later hlater hdecls
  refine { hdecls with members := ?_ }
  intro other found hfound
  rcases entry_of_insert hfound with ⟨rfl, rfl⟩ | hold
  · exact ⟨hlater.lt_size hid, hmember.extend hlater⟩
  · exact hdecls.members hold

theorem queueAnnotations (unit : Nat) (site : Site) (target : SymbolId)
    (context : Option SymbolId) :
    KeepsSound simple table (Collector.queueAnnotations unit site target context) := by
  unfold Collector.queueAnnotations
  exact Keeps.modifyDecls fun _ _ _ hdecls => { hdecls with }

theorem modifyOwner (owner : Owner) {change : TypeDecl → TypeDecl}
    (hchange : ∀ decl later, table.Extends later → decl.Sound later → (change decl).Sound later) :
    KeepsSound simple table (Collector.modifyOwner owner change) := by
  apply Keeps.modifyDecls
  intro decls later hlater hdecls
  refine { hdecls with types := ?_ }
  intro id decl hdecl
  change (decls.types.modify owner.id change)[id]? = some decl at hdecl
  rw [Std.TreeMap.getElem?_modify] at hdecl
  split at hdecl
  · rename_i heq
    rcases Option.map_eq_some_iff.mp hdecl with ⟨before, hbefore, hafter⟩
    rw [← Std.compare_eq_iff_eq.mp heq, ← hafter]
    have htype := hdecls.types hbefore
    exact ⟨htype.1, hchange before later hlater htype.2⟩
  · exact hdecls.types hdecl

/-!
# Members
-/

theorem declareTypeParameters (unit : CollectingUnit) (site : Site) (owner : SymbolId) :
    Keeps simple table (Collector.declareTypeParameters unit site owner)
      fun parameters later => parameters.Sound later := by
  have hparameter : ∀ (nameSite : Site) (later : SymbolTable), table.Extends later →
      Keeps simple later
        (do
          let id ← Collector.insertSymbol {
            name := nameSite.text, qualifiedName := nameSite.text, package := unit.package
            kind := .typeParameter, owner := some owner }
          return (nameSite.text, id))
        fun entry later => later.Declares entry.2 (· = .typeParameter) entry.1 := by
    intro nameSite later _
    apply Keeps.bind (Keeps.insertSymbol _)
    intro id further _ hid
    exact Keeps.pure fun last hlast => hlast.declares hid
  have hgrow : ∀ (entry : String × SymbolId) (first second : SymbolTable), first.Extends second →
      first.Declares entry.2 (· = .typeParameter) entry.1 →
      second.Declares entry.2 (· = .typeParameter) entry.1 :=
    fun _ _ _ hgrows hid => hgrows.declares hid
  apply Keeps.imp (Keeps.mapM hgrow hparameter)
  intro parameters later hparameters name id hmem
  exact hparameters (name, id) hmem

theorem declareMember (unit : CollectingUnit) (site : Site) (name : String) (kind : SymbolKind)
    (owner : Owner) :
    Keeps simple table (Collector.declareMember unit site name kind owner)
      fun id later => later.Declares id (· = kind) name := by
  apply Keeps.bind (Keeps.insertSymbol _)
  intro id later _ hid
  apply Keeps.bind (Keeps.recordSite site hid.lt_size)
  intro _ further hfurther _
  apply Keeps.bind (Keeps.queueAnnotations _ _ _ _)
  intro _ last hlast _
  exact Keeps.pure fun final hfinal => ((hfurther.trans hlast).trans hfinal).declares hid

theorem memberSound {member : MemberDecl} (hparameters : member.typeParameters = [])
    (htype : ∀ {id}, member.valueType = some id → id < table.size) : member.Sound table where
  typeParameters := by
    intro name id hmem
    rw [hparameters] at hmem
    cases hmem
  valueType := htype

theorem declareEnumConstant (unit : CollectingUnit) {owner : Owner} (site : Site)
    (howner : owner.id < table.size) :
    KeepsSound simple table (Collector.declareEnumConstant unit owner site) := by
  unfold Collector.declareEnumConstant
  cases site.child? .name with
  | none => exact Keeps.done
  | some nameSite =>
      apply Keeps.bind (Keeps.declareMember unit site nameSite.text .enumConstant owner)
      intro id later hlater hid
      have hmember : MemberDecl.Sound later { owner := owner.id, valueType := some owner.id } := by
        refine memberSound rfl ?_
        intro type htype
        cases htype
        exact hlater.lt_size howner
      apply Keeps.bind (Keeps.recordMember hid.lt_size hmember)
      intro _ further hfurther _
      apply Keeps.modifyOwner
      intro decl last hlast hdecl
      exact hdecl.addField ((hlast.declares (hfurther.declares hid)).imp fun _ => Or.inr)

theorem declareFields (unit : CollectingUnit) (owner : Owner) (site : Site) :
    KeepsSound simple table (Collector.declareFields unit owner site) := by
  apply Keeps.forM
  intro declarator _ start _
  cases declarator.child? .name with
  | none => exact Keeps.done
  | some nameSite =>
      apply Keeps.bind (Keeps.declareMember unit site nameSite.text .field owner)
      intro id later _ hid
      apply Keeps.bind (Keeps.recordSite declarator hid.lt_size)
      intro _ further hfurther _
      have hmember : MemberDecl.Sound further
          { owner := owner.id, declaredType := Collector.declaredType? site } := by
        refine memberSound rfl ?_
        intro type htype
        cases htype
      apply Keeps.bind (Keeps.recordMember (hfurther.lt_size hid.lt_size) hmember)
      intro _ last hlast _
      apply Keeps.modifyOwner
      intro decl final hfinal hdecl
      have hfield := ((hfurther.trans hlast).trans hfinal).declares hid
      exact hdecl.addField (hfield.imp fun _ => Or.inl)

theorem declareMethod (unit : CollectingUnit) (owner : Owner) (site : Site) :
    KeepsSound simple table (Collector.declareMethod unit owner site) := by
  unfold Collector.declareMethod
  cases site.child? .name with
  | none => exact Keeps.done
  | some nameSite =>
      apply Keeps.bind (Keeps.declareMember unit site nameSite.text .method owner)
      intro id later _ hid
      apply Keeps.bind (Keeps.declareTypeParameters unit site id)
      intro typeParameters further hfurther hparameters
      apply Keeps.bind (Keeps.recordMember (hfurther.lt_size hid.lt_size)
        { typeParameters := hparameters, valueType := fun htype => by cases htype })
      intro _ last hlast _
      apply Keeps.modifyOwner
      intro decl final hfinal hdecl
      exact hdecl.addMethod (((hfurther.trans hlast).trans hfinal).declares hid)

theorem declareConstructor (unit : CollectingUnit) {owner : Owner} (site : Site)
    (howner : owner.id < table.size) :
    KeepsSound simple table (Collector.declareConstructor unit owner site) := by
  unfold Collector.declareConstructor
  apply Keeps.bind (Keeps.declareMember unit site constructorName .constructor owner)
  intro id later hlater hid
  apply Keeps.bind_get
  intro state _ hstate
  apply Keeps.bind (Keeps.declareTypeParameters unit site id)
  intro typeParameters further hfurther hparameters
  have hgrows := hstate.trans hfurther
  have hmember : ∀ arity variadic, MemberDecl.Sound further {
      owner := owner.id, arity, variadic, typeParameters, valueType := some owner.id } := by
    intro arity variadic
    refine { typeParameters := hparameters, valueType := ?_ }
    intro type htype
    cases htype
    exact (hlater.trans hgrows).lt_size howner
  apply Keeps.bind (Keeps.recordMember (hgrows.lt_size hid.lt_size) (hmember _ _))
  intro _ last hlast _
  apply Keeps.modifyOwner
  intro decl final hfinal hdecl
  exact hdecl.addConstructor (((hgrows.trans hlast).trans hfinal).declares hid)

theorem declareComponent (unit : CollectingUnit) (owner : Owner) (site : Site) :
    KeepsSound simple table (Collector.declareComponent unit owner site) := by
  unfold Collector.declareComponent
  cases site.child? .name with
  | none => exact Keeps.done
  | some nameSite =>
      apply Keeps.bind (Keeps.declareMember unit site nameSite.text .field owner)
      intro field later _ hfield
      apply Keeps.bind (Keeps.insertSymbol _)
      intro accessor further hfurther haccessor
      have hmember : ∀ table, MemberDecl.Sound table
          { owner := owner.id, declaredType := Collector.declaredType? site } := by
        intro table
        refine memberSound rfl ?_
        intro type htype
        cases htype
      apply Keeps.bind
        (Keeps.recordMember (hfurther.lt_size hfield.lt_size) (hmember further))
      intro _ last hlast _
      apply Keeps.bind (Keeps.recordMember (hlast.lt_size haccessor.lt_size) (hmember last))
      intro _ final hfinal _
      apply Keeps.modifyOwner
      intro decl table htable hdecl
      have hgrows := (hlast.trans hfinal).trans htable
      have hadded :=
        hdecl.addField (((hfurther.trans hgrows).declares hfield).imp fun _ => Or.inl)
        |>.addMethod (hgrows.declares haccessor)
      exact { hadded with }

theorem declareComponents (unit : CollectingUnit) (owner : Owner) (site : Site) :
    KeepsSound simple table (Collector.declareComponents unit owner site) :=
  Keeps.forM fun component _ _ _ => Keeps.declareComponent unit owner component

theorem declareDefaultConstructor (unit : CollectingUnit) {owner : Owner}
    (howner : owner.id < table.size) :
    KeepsSound simple table (Collector.declareDefaultConstructor unit owner) := by
  apply Keeps.bind_get
  intro state _ hstate
  by_cases hnone : (state.decls.constructors owner.id).isEmpty = true
  · rw [if_pos hnone]
    apply Keeps.bind_get
    intro same _ hsame
    apply Keeps.bind (Keeps.insertSymbol _)
    intro id later hlater hid
    have hmember : ∀ arity, MemberDecl.Sound later
        { owner := owner.id, arity, valueType := some owner.id } := by
      intro arity
      refine memberSound rfl ?_
      intro type htype
      cases htype
      exact ((hstate.trans hsame).trans hlater).lt_size howner
    apply Keeps.bind (Keeps.recordMember hid.lt_size (hmember _))
    intro _ further hfurther _
    apply Keeps.modifyOwner
    intro decl last hlast hdecl
    exact hdecl.addConstructor (hlast.declares (hfurther.declares hid))
  · rw [if_neg hnone]
    exact Keeps.done

/-!
# Types
-/

theorem newTypeSound {decl : TypeDecl} (houter : ∀ {id}, decl.outer = some id → id < table.size)
    (hparameters : decl.typeParameters.Sound table) (hsuper : decl.supertypes = [])
    (hmembers : decl.memberTypes = ∅ ∧ decl.fields = ∅ ∧ decl.methods = ∅ ∧
      decl.constructors = []) :
    decl.Sound table where
  outer := houter
  supertypes := by simp [hsuper]
  typeParameters := hparameters
  memberTypes := by simp [hmembers.1]
  fields := by simp [hmembers.2.1]
  methods := by simp [hmembers.2.2.1]
  constructors := by simp [hmembers.2.2.2]

theorem recordType {id : SymbolId} {decl : TypeDecl} {qualifiedName name : String}
    (hid : table.Declares id (·.isType = true) name)
    (hname : simple → name = Text.simpleName qualifiedName) (hdecl : decl.Sound table) :
    KeepsSound simple table (Collector.modifyDecls fun decls =>
      { decls with
        typesByName := decls.typesByName.insert qualifiedName id
        types := decls.types.insert id decl }) := by
  apply Keeps.modifyDecls
  intro decls later hlater hdecls
  refine { hdecls with typesByName := ?_, types := ?_ }
  · intro full found hfound
    rcases entry_of_insert hfound with ⟨rfl, rfl⟩ | hold
    · exact ⟨name, hlater.declares hid, hname⟩
    · exact hdecls.typesByName hold
  · intro other found hfound
    rcases entry_of_insert hfound with ⟨rfl, rfl⟩ | hold
    · exact ⟨hlater.lt_size hid.lt_size, hdecl.extend hlater⟩
    · exact hdecls.types hold

theorem recordPackageType {id : SymbolId} (package : String) {name : String}
    (hid : table.Declares id (·.isType = true) name) :
    KeepsSound simple table (Collector.modifyDecls fun decls =>
      let types := decls.packageTypes[package]?.getD ∅
      { decls with packageTypes := decls.packageTypes.insert package (types.insert name id) }) := by
  apply Keeps.modifyDecls
  intro decls later hlater hdecls
  refine { hdecls with packageTypes := ?_ }
  intro other key found hfound
  rcases Option.bind_eq_some_iff.mp hfound with ⟨types, htypes, hkey⟩
  rcases entry_of_insert htypes with ⟨rfl, rfl⟩ | hold
  · rcases entry_of_insert hkey with ⟨rfl, rfl⟩ | hkey
    · exact hlater.declares hid
    · cases hbefore : decls.packageTypes[other]? with
      | none => simp [hbefore] at hkey
      | some before =>
          rw [hbefore] at hkey
          exact hdecls.packageTypes (Option.bind_eq_some_iff.mpr ⟨before, hbefore, hkey⟩)
  · exact hdecls.packageTypes (Option.bind_eq_some_iff.mpr ⟨types, hold, hkey⟩)

theorem simpleName_qualifiedTypeName (unit : CollectingUnit) (outer : Option Owner) {name : String}
    (hname : Text.isSimple name = true) :
    Text.simpleName (qualifiedTypeName unit outer name) = name := by
  have hplain := Text.simpleName_of_isSimple hname
  have hqualified : ∀ qualifier, Text.simpleName (qualifier ++ "." ++ name) = name := by
    intro qualifier
    rw [Text.simpleName_qualified, hplain]
  unfold qualifiedTypeName
  split
  · split
    · split
      · exact hplain
      · exact hqualified _
    · exact hqualified _
  · split
    · exact hplain
    · exact hqualified _

theorem isType_typeKind (kind : NodeKind) : (typeKind kind).isType = true := by
  cases kind <;> rfl

theorem declareType (unit : CollectingUnit) {outer : Option Owner} (site : Site) {name : String}
    (houter : ∀ {owner}, outer = some owner → owner.id < table.size)
    (hname : simple → Text.isSimple name = true) :
    Keeps simple table (Collector.declareType unit outer site name)
      fun owner later => owner.id < later.size := by
  unfold Collector.declareType
  apply Keeps.bind (Keeps.insertSymbol _)
  intro id later hlater hsymbol
  have hid : later.Declares id (·.isType = true) name := by
    apply hsymbol.imp
    intro kind hkind
    rw [hkind]
    exact isType_typeKind site.kind
  apply Keeps.bind (Keeps.recordSite site hid.lt_size)
  intro _ recorded hrecorded _
  apply Keeps.bind (Keeps.queueAnnotations _ _ _ _)
  intro _ queued hqueued _
  apply Keeps.bind (Keeps.declareTypeParameters unit site id)
  intro typeParameters parametrized hparametrized hparameters
  have hgrows := (hrecorded.trans hqueued).trans hparametrized
  have hdecl : TypeDecl.Sound parametrized {
      unit := unit.unit, outer := outer.map (·.id), typeParameters
      superclassName := superclassName? site, interfaceNames := interfaceNames site } := by
    refine newTypeSound ?_ hparameters rfl ⟨rfl, rfl, rfl, rfl⟩
    intro enclosing henclosing
    rcases Option.map_eq_some_iff.mp henclosing with ⟨owner, howner, heq⟩
    rw [← heq]
    exact (hlater.trans hgrows).lt_size (houter howner)
  have hrest : ∀ last, parametrized.Extends last → Keeps simple last (do
      Collector.modifyDecls fun decls =>
        { decls with
          typesByName := decls.typesByName.insert (qualifiedTypeName unit outer name) id
          types := decls.types.insert id {
            unit := unit.unit, outer := outer.map (·.id), typeParameters
            superclassName := superclassName? site, interfaceNames := interfaceNames site } }
      return (⟨id, qualifiedTypeName unit outer name⟩ : Owner))
      fun owner later => owner.id < later.size := by
    intro last hlast
    have hknown := (hgrows.trans hlast).declares hid
    apply Keeps.bind (Keeps.recordType hknown
      (fun hsimple => (simpleName_qualifiedTypeName unit outer (hname hsimple)).symm)
      (hdecl.extend hlast))
    intro _ final hfinal _
    exact Keeps.pure fun final' hfinal' => (hfinal.trans hfinal').lt_size hknown.lt_size
  cases outer with
  | some owner =>
      refine Keeps.bind (Keeps.modifyOwner owner ?_) fun _ last hlast _ => hrest last hlast
      intro decl last hlast hdecl
      exact hdecl.addMemberType ((hgrows.trans hlast).declares hid)
  | none =>
      exact Keeps.bind (Keeps.recordPackageType unit.package (hgrows.declares hid))
        fun _ last hlast _ => hrest last hlast

theorem finishType (unit : CollectingUnit) {owner : Owner} (kind : NodeKind)
    (howner : owner.id < table.size) :
    KeepsSound simple table (Collector.finishType unit owner kind) := by
  unfold Collector.finishType
  split
  · exact Keeps.declareDefaultConstructor unit howner
  · exact Keeps.done

end Keeps

theorem isSimple_typeName {parent : Option Node} {site nameSite : Site}
    (hname : site.child? .name = some nameSite) (hkind : site.kind.isTypeDeclaration = true)
    (hsite : site.node.everywhere Node.isNamedSimply parent = true) :
    Text.isSimple nameSite.text = true := by
  have hholds := Node.holdsDottedName_of_isTypeDeclaration hkind
  have hchild := Site.everywhere_of_mem_children hsite (Site.mem_children_of_child? hname)
  exact Node.isSimple_of_isNamedSimply ((Node.everywhere_iff _ _ _).mp hchild).1
    (Node.isNameToken_of_name (Site.role_of_child? hname) hholds)

mutual

theorem Keeps.declareNode {simple : Prop} {table : SymbolTable} (unit : CollectingUnit)
    {outer : Option Owner} {parent : Option Node} (path : Path) (node : Node)
    (houter : ∀ {owner}, outer = some owner → owner.id < table.size)
    (hnode : simple → node.everywhere Node.isNamedSimply parent = true) :
    KeepsSound simple table (Collector.declareNode unit outer path node) := by
  cases node with
  | mk kind named role line column offset length text children =>
      rw [Collector.declareNode.eq_def]
      dsimp only
      have hchildren : simple → ∀ child, child ∈ children →
          child.everywhere Node.isNamedSimply
            (some ⟨kind, named, role, line, column, offset, length, text, children⟩) = true :=
        fun hsimple => ((Node.everywhere_iff _ _ _).mp (hnode hsimple)).2
      by_cases hkind : kind.isTypeDeclaration = true
      · rw [if_pos hkind]
        cases hname : Site.child? _ .name with
        | none => exact Keeps.done
        | some nameSite =>
            apply Keeps.bind (Keeps.declareType unit _ houter fun hsimple =>
              isSimple_typeName hname hkind (hnode hsimple))
            intro owner later hlater howner
            -- A record has its components before its other members.
            have hrest : ∀ further, later.Extends further → KeepsSound simple further (do
                Collector.declareBody unit owner path 0 children
                Collector.finishType unit owner kind) := by
              intro further hfurther
              have howner' := hfurther.lt_size howner
              apply Keeps.bind (Keeps.declareBody unit path 0 children howner' hchildren)
              intro _ last hlast _
              exact Keeps.finishType unit kind (hlast.lt_size howner')
            by_cases hrecord : kind = .recordDeclaration
            · rw [if_pos hrecord]
              exact Keeps.bind (Keeps.declareComponents unit owner _)
                fun _ further hfurther _ => hrest further hfurther
            · rw [if_neg hrecord]
              exact hrest later (SymbolTable.Extends.refl _)
      · rw [if_neg hkind]
        split
        · exact Keeps.done
        · exact Keeps.declareNodes unit path 0 children houter hchildren
        · exact Keeps.declareEnumConstant unit _ (houter rfl)
        · exact Keeps.declareFields unit _ _
        · exact Keeps.declareFields unit _ _
        · exact Keeps.declareMethod unit _ _
        · exact Keeps.declareMethod unit _ _
        · exact Keeps.declareConstructor unit _ (houter rfl)
        · exact Keeps.declareConstructor unit _ (houter rfl)
        · exact Keeps.done

theorem Keeps.declareBody {simple : Prop} {table : SymbolTable} (unit : CollectingUnit)
    {owner : Owner} {parent : Option Node} (path : Path) (index : Nat) (nodes : List Node)
    (howner : owner.id < table.size)
    (hnodes : simple → ∀ node, node ∈ nodes → node.everywhere Node.isNamedSimply parent = true) :
    KeepsSound simple table (Collector.declareBody unit owner path index nodes) := by
  cases nodes with
  | nil =>
      rw [Collector.declareBody]
      exact Keeps.done
  | cons node rest =>
      cases node with
      | mk kind named role line column offset length text members =>
          rw [Collector.declareBody]
          by_cases hrole : role = some .body
          · rw [if_pos hrole]
            apply Keeps.declareNodes unit (index :: path) 0 members
            · intro found hfound
              cases hfound
              exact howner
            · intro hsimple
              exact ((Node.everywhere_iff _ _ _).mp (hnodes hsimple _ List.mem_cons_self)).2
          · rw [if_neg hrole]
            exact Keeps.declareBody unit path (index + 1) rest howner fun hsimple node hnode =>
              hnodes hsimple node (List.mem_cons_of_mem _ hnode)

theorem Keeps.declareNodes {simple : Prop} {table : SymbolTable} (unit : CollectingUnit)
    {outer : Option Owner} {parent : Option Node} (path : Path) (index : Nat) (nodes : List Node)
    (houter : ∀ {owner}, outer = some owner → owner.id < table.size)
    (hnodes : simple → ∀ node, node ∈ nodes → node.everywhere Node.isNamedSimply parent = true) :
    KeepsSound simple table (Collector.declareNodes unit outer path index nodes) := by
  cases nodes with
  | nil =>
      rw [Collector.declareNodes]
      exact Keeps.done
  | cons node rest =>
      rw [Collector.declareNodes]
      have hrest : ∀ later, table.Extends later →
          KeepsSound simple later (Collector.declareNodes unit outer path (index + 1) rest) := by
        intro later hlater
        exact Keeps.declareNodes unit path (index + 1) rest
          (fun howner => hlater.lt_size (houter howner))
          (fun hsimple node hnode => hnodes hsimple node (List.mem_cons_of_mem _ hnode))
      by_cases hcounts : node.counts = true
      · simp only [if_pos hcounts]
        exact Keeps.bind
          (Keeps.declareNode unit (index :: path) node houter fun hsimple =>
            hnodes hsimple node List.mem_cons_self)
          fun _ later hlater _ => hrest later hlater
      · simp only [if_neg hcounts]
        exact hrest table (SymbolTable.Extends.refl _)

end

/-!
# Packages and imports
-/

namespace Keeps

variable {simple : Prop} {table : SymbolTable}

theorem recordPackage {id : SymbolId} {full : String}
    (hid : table.Declares id (· = .package) (Text.simpleName full)) :
    KeepsSound simple table (Collector.modifyDecls fun decls =>
      { decls with packages := decls.packages.insert full id }) := by
  apply Keeps.modifyDecls
  intro decls later hlater hdecls
  refine { hdecls with packages := ?_ }
  intro other found hfound
  rcases entry_of_insert hfound with ⟨rfl, rfl⟩ | hold
  · exact hlater.declares hid
  · exact hdecls.packages hold

theorem ensurePackage {name : DottedName}
    (hname : ∀ segment, segment ∈ name → Text.isSimple segment = true) :
    KeepsSound simple table (Collector.ensurePackage name) := by
  refine Keeps.bind (Keeps.foldlM none ?_) fun _ _ _ _ => Keeps.done
  intro outer segment hsegment start _
  have hplain := Text.simpleName_of_isSimple (hname segment hsegment)
  have hfull : Text.simpleName
      ((outer.map fun parent => parent.1 ++ "." ++ segment).getD segment) = segment := by
    cases outer with
    | none => exact hplain
    | some parent =>
        change Text.simpleName (parent.1 ++ "." ++ segment) = segment
        rw [Text.simpleName_qualified, hplain]
  apply Keeps.bind_get
  intro state _ _
  split
  · exact Keeps.done
  · apply Keeps.bind (Keeps.insertSymbol _)
    intro id later _ hid
    rw [← hfull] at hid
    exact Keeps.bind (Keeps.recordPackage hid) fun _ _ _ _ => Keeps.done

theorem declarePackage (number : Nat) (site : Site) :
    KeepsSound simple table (Collector.declarePackage number site) := by
  unfold Collector.declarePackage
  split
  · exact Keeps.done
  · apply Keeps.bind (Keeps.ensurePackage fun _ => DottedName.isSimple_of_mem_ofText)
    intro packageSymbol later _ _
    cases packageSymbol with
    | none => exact Keeps.done
    | some id => exact Keeps.bind (Keeps.queueAnnotations _ _ _ _) fun _ _ _ _ => Keeps.done

end Keeps

/-- Every import of a single type is recorded under the last segment of its name. -/
def ImportsSimply (names : UnitNames) : Prop :=
  ∀ (name : String) (imported : DottedName), names.singleTypes[name]? = some imported →
    Text.simpleName imported.toText = name

theorem simpleName_importParts {site : Site} {last : String}
    (hlast : (importParts site).1.getLast? = some last) :
    Text.simpleName (importParts site).1.toText = last := by
  refine DottedName.simpleName_toText ?_ hlast
  intro segment hsegment
  dsimp only [importParts] at hsegment
  cases hnames : (site.children.filter fun child => child.kind.isName).getLast? with
  | none =>
      rw [hnames] at hsegment
      cases hsegment
  | some nameSite =>
      rw [hnames] at hsegment
      exact DottedName.isSimple_of_mem_ofText hsegment

theorem importsSimply_addImport {names : UnitNames} (hnames : ImportsSimply names) (site : Site) :
    ImportsSimply (addImport names site) := by
  have hparts := fun last => @simpleName_importParts site last
  unfold addImport
  split
  · exact hnames
  · exact hnames
  · exact hnames
  · exact hnames
  · rename_i name hempty heq
    rw [heq] at hparts
    intro key imported himported
    rcases entry_of_insert himported with ⟨rfl, rfl⟩ | himported
    · cases hlast : imported.getLast? with
      | none => exact absurd (List.getLast?_eq_none_iff.mp hlast) hempty
      | some last => exact hparts last hlast
    · exact hnames key imported himported

theorem importsSimply_imports (package : String) (imports : List Site) :
    ImportsSimply (imports.foldl addImport { package }) := by
  have hfold : ∀ names, ImportsSimply names → ImportsSimply (imports.foldl addImport names) := by
    induction imports with
    | nil => exact fun _ hnames => hnames
    | cons site rest ih => exact fun names hnames => ih _ (importsSimply_addImport hnames site)
  apply hfold
  intro name imported himported
  simp at himported

theorem Keeps.recordUnit {simple : Prop} {table : SymbolTable} {names : UnitNames}
    (hnames : ImportsSimply names) :
    KeepsSound simple table (Collector.modifyDecls fun decls =>
      { decls with units := decls.units.push names }) := by
  apply Keeps.modifyDecls
  intro decls later _ hdecls
  refine { hdecls with imports := ?_ }
  intro unit found name imported hfound himported
  rw [Array.getElem?_push] at hfound
  split at hfound
  · cases hfound
    exact hnames name imported himported
  · exact hdecls.imports hfound himported

/-!
# Units
-/

theorem Keeps.declareUnit {simple : Prop} {table : SymbolTable} (number : Nat) {root : Node}
    (hroot : simple → root.everywhere Node.isNamedSimply none = true) :
    KeepsSound simple table (Collector.declareUnit number root) := by
  unfold Collector.declareUnit
  have hrest : ∀ (unit : CollectingUnit) (imports : List Site) later, KeepsSound simple later (do
      Collector.modifyDecls fun decls =>
        { decls with
          units := decls.units.push (imports.foldl addImport { package := unit.package }) }
      Collector.declareNodes unit none [number] 0 root.children) := by
    intro unit imports later
    apply Keeps.bind (Keeps.recordUnit (importsSimply_imports unit.package imports))
    intro _ further _ _
    exact Keeps.declareNodes unit [number] 0 root.children (fun howner => by cases howner)
      fun hsimple => ((Node.everywhere_iff _ _ _).mp (hroot hsimple)).2
  dsimp only
  split
  · exact hrest _ _ table
  · exact Keeps.bind (Keeps.declarePackage number _) fun unit later _ _ => hrest unit _ later

end Collector

namespace Collected

theorem sound_empty (simple : Prop) : Declarations.Sound simple {} {} where
  imports := by simp
  packages := by simp
  typesByName := by simp
  packageTypes := by simp [Declarations.packageType?]
  types := by simp
  members := by simp
  sites := by simp

/-- The records of a program are sound; its dotted names are so if its names are simple. -/
theorem sound_ofUnits {simple : Prop} {roots : List Node}
    (hroots : simple → ∀ root, root ∈ roots → root.everywhere Node.isNamedSimply none = true) :
    (ofUnits roots).decls.Sound simple (ofUnits roots).table := by
  have hfold : ∀ (units : List (Node × Nat)) (state : Collected),
      (simple → ∀ unit, unit ∈ units → unit.1.everywhere Node.isNamedSimply none = true) →
      state.decls.Sound simple state.table →
      (units.foldl (fun state unit => ((Collector.declareUnit unit.2 unit.1).run state).2)
        state).decls.Sound simple
      (units.foldl (fun state unit => ((Collector.declareUnit unit.2 unit.1).run state).2)
        state).table := by
    intro units
    induction units with
    | nil => exact fun _ _ hstate => hstate
    | cons unit rest ih =>
        intro state hunits hstate
        have hunit := Collector.Keeps.declareUnit unit.2
          (fun hsimple => hunits hsimple unit List.mem_cons_self) state hstate
          (SymbolTable.Extends.refl _)
        exact ih _
          (fun hsimple other hother => hunits hsimple other (List.mem_cons_of_mem _ hother)) hunit.1
  refine hfold roots.zipIdx {} ?_ (sound_empty simple)
  intro hsimple unit hunit
  exact hroots hsimple unit.1 (List.fst_mem_of_mem_zipIdx hunit)

end Collected

end RestrictedApi

import Mathlib.Data.List.Infix
import RestrictedApi.Config.Source
import RestrictedApi.Proofs.SimpleName

/-!
# The search for a configuration

The search for the configuration file of a project climbs along the path of the target as it is
written: from the whole path to what is left without its last step, without its last two, and so
on.  As long as no step is a `..`, these paths lead to the target and to the directories above it.
A `..` breaks this: the paths before it lead into the directory that it leaves.
-/

namespace RestrictedApi

namespace Text

theorem segments_append (before after : String) :
    segments '/' (before ++ "/" ++ after) = segments '/' before ++ segments '/' after := by
  have hchars : (before ++ "/" ++ after).toList = before.toList ++ '/' :: after.toList := by simp
  rw [segments, hchars, splitChars_append, List.map_append]
  rfl

theorem segments_of_no_slash {name : String} (hname : '/' ∉ name.toList) :
    segments '/' name = [name] := by
  rw [segments, splitChars_of_not_mem hname]
  simp

theorem no_slash_of_mem_segments {text piece : String} (hpiece : piece ∈ segments '/' text) :
    '/' ∉ piece.toList := by
  rcases List.mem_map.mp hpiece with ⟨chars, hchars, hofList⟩
  simpa [← hofList] using not_mem_of_mem_splitChars hchars

theorem mem_splitChars_of_mem {separator c : Char} {chars : List Char} (hc : c ∈ chars)
    (hne : c ≠ separator) : ∃ segment ∈ splitChars separator chars, c ∈ segment := by
  induction chars with
  | nil => exact absurd hc List.not_mem_nil
  | cons first rest ih =>
      rw [splitChars]
      by_cases hfirst : first = separator
      · have hrest : c ∈ rest := by
          rcases List.mem_cons.mp hc with heq | hrest
          · exact absurd (heq.trans hfirst) hne
          · exact hrest
        rcases ih hrest with ⟨segment, hsegment, hin⟩
        rw [if_pos hfirst]
        exact ⟨segment, List.mem_cons_of_mem [] hsegment, hin⟩
      · rw [if_neg hfirst]
        cases hsplit : splitChars separator rest with
        | nil => exact absurd hsplit (splitChars_ne_nil separator rest)
        | cons segment segments =>
            rw [hsplit] at ih
            rcases List.mem_cons.mp hc with heq | hrest
            · exact ⟨first :: segment, List.mem_cons_self, heq ▸ List.mem_cons_self⟩
            · rcases ih hrest with ⟨found, hfound, hin⟩
              rcases List.mem_cons.mp hfound with hhead | htail
              · exact ⟨first :: segment, List.mem_cons_self,
                  List.mem_cons_of_mem first (hhead ▸ hin)⟩
              · exact ⟨found, List.mem_cons_of_mem _ htail, hin⟩

theorem segments_intercalate {first : String} {rest : List String}
    (hnames : ∀ name ∈ first :: rest, '/' ∉ name.toList) :
    segments '/' ("/".intercalate (first :: rest)) = first :: rest := by
  induction rest generalizing first with
  | nil =>
      have hsingle : "/".intercalate [first] = first := by
        apply String.toList_injective
        simp
      rw [hsingle, segments_of_no_slash (hnames first List.mem_cons_self)]
  | cons second rest ih =>
      have hcons : "/".intercalate (first :: second :: rest) =
          first ++ "/" ++ "/".intercalate (second :: rest) := by
        apply String.toList_injective
        simp [String.toList_intercalate, List.intercalate]
      rw [hcons, segments_append, segments_of_no_slash (hnames first List.mem_cons_self),
        ih fun name hname => hnames name (List.mem_cons_of_mem first hname)]
      rfl

end Text

/-!
# The steps of a path
-/

namespace SourcePath

/-- A piece of a path that is a step of it: not empty and not a `.`. -/
def isStep (piece : String) : Bool :=
  (component? piece).isSome

/-- The steps of a path.  A `..` is a step like any other. -/
def steps (path : SourcePath) : List String :=
  (Text.segments '/' path.text).filter isStep

theorem isStep_iff {piece : String} : isStep piece = true ↔ piece ≠ "" ∧ piece ≠ "." := by
  unfold isStep component?
  by_cases hskip : piece = "" ∨ piece = "."
  · rw [if_pos hskip]
    simp only [Option.isSome_none, Bool.false_eq_true, false_iff]
    tauto
  · rw [if_neg hskip]
    by_cases hup : piece = ".."
    · simp [hup]
    · rw [if_neg hup]
      simpa using hskip

theorem isStep_of_mem_steps {path : SourcePath} {step : String} (hstep : step ∈ path.steps) :
    SourcePath.isStep step = true :=
  (List.mem_filter.mp hstep).2

theorem eq_append_of_ends {text : String} (hends : Text.ends text "/" = true) :
    ∃ before : String, text = before ++ "/" := by
  rw [Text.ends, List.isSuffixOf_iff_suffix] at hends
  rcases hends with ⟨chars, hchars⟩
  refine ⟨String.ofList chars, String.toList_injective ?_⟩
  simpa using hchars.symm

theorem steps_append_slash (before : String) :
    steps ⟨before ++ "/"⟩ = steps ⟨before⟩ := by
  have happend := Text.segments_append before ""
  rw [String.append_empty] at happend
  rw [steps, steps, happend, List.filter_append]
  simp [Text.segments, Text.splitChars, isStep, component?]

theorem steps_append (before after : String) :
    steps ⟨before ++ "/" ++ after⟩ = steps ⟨before⟩ ++ steps ⟨after⟩ := by
  rw [steps, Text.segments_append, List.filter_append]
  rfl

theorem join_spelling {base path : SourcePath} (hbase : base.text ≠ "")
    (hpath : path.isAbsolute = false) :
    ∃ before, base.join path = ⟨before ++ "/" ++ path.text⟩ ∧ steps ⟨before⟩ = base.steps := by
  unfold join
  rw [if_neg (by simp [hpath])]
  by_cases hends : Text.ends base.text "/" = true
  · rcases eq_append_of_ends hends with ⟨before, hbefore⟩
    refine ⟨before, by rw [if_pos (Or.inr hends), hbefore], ?_⟩
    rw [← steps_append_slash before, ← hbefore]
  · exact ⟨base.text, by rw [if_neg (by simp [hbase, hends])], rfl⟩

theorem steps_join {base path : SourcePath} (hbase : base.text ≠ "")
    (hpath : path.isAbsolute = false) : (base.join path).steps = base.steps ++ path.steps := by
  rcases join_spelling hbase hpath with ⟨before, hjoin, hbefore⟩
  rw [hjoin, steps_append, hbefore]

/-!
# The paths on the way back
-/

theorem steps_empty : steps ⟨""⟩ = [] := by decide

theorem map_steps_stems {pieces : List String} (hpieces : ∀ piece ∈ pieces, '/' ∉ piece.toList)
    (start : String) :
    (start :: stems (some start) pieces).map (fun text => steps ⟨text⟩) =
      (pieces.filter isStep).inits.map (steps ⟨start⟩ ++ ·) := by
  induction pieces generalizing start with
  | nil => simp [stems]
  | cons piece rest ih =>
      have hpiece := hpieces piece List.mem_cons_self
      have hrest := ih (fun other hother => hpieces other (List.mem_cons_of_mem piece hother))
        (start ++ "/" ++ piece)
      have htext : steps ⟨start ++ "/" ++ piece⟩ = steps ⟨start⟩ ++ [piece].filter isStep := by
        rw [steps_append]
        congr 1
        rw [steps, Text.segments_of_no_slash hpiece]
      by_cases hstep : isStep piece = true
      · have hcounts : (component? piece).isSome = true := hstep
        rw [List.filter_cons_of_pos hstep, List.filter_nil] at htext
        rw [stems, List.filter_cons_of_pos hstep, List.inits_cons]
        simp only [Option.elim_some, hcounts, Bool.or_true, if_true]
        rw [List.map_cons, hrest, htext]
        simp [Function.comp_def]
      · have hcounts : (component? piece).isSome = false := by simpa [isStep] using hstep
        rw [List.filter_cons_of_neg hstep, List.filter_nil, List.append_nil] at htext
        rw [stems, List.filter_cons_of_neg hstep]
        simp only [Option.elim_some, Option.isNone_some, Bool.false_and, hcounts, Bool.or_false,
          Bool.false_eq_true, if_false]
        rw [List.map_cons, htext] at hrest
        rw [List.map_cons, hrest]

theorem inits_concat (steps : List String) (last : String) :
    (steps ++ [last]).inits = steps.inits ++ [steps ++ [last]] := by
  simp [List.inits_append]

theorem dropLast_inits_append (steps : List String) :
    steps.inits.dropLast ++ [steps] = steps.inits := by
  induction steps using List.reverseRecOn with
  | nil => rfl
  | append_singleton steps last => rw [inits_concat, List.dropLast_concat]

theorem eq_slash_append_of_isAbsolute {path : SourcePath} (hpath : path.isAbsolute = true) :
    ∃ rest : String, path.text = "" ++ "/" ++ rest := by
  rw [isAbsolute, Text.begins, List.isPrefixOf_iff_prefix] at hpath
  rcases hpath with ⟨chars, hchars⟩
  refine ⟨String.ofList chars, String.toList_injective ?_⟩
  simpa using hchars.symm

/-- The paths that the search looks at take the steps of the path, then all but the last one, and so
on. -/
theorem map_steps_ancestors {path : SourcePath} (hpath : path.isAbsolute = true) :
    path.ancestors.map steps = path.steps.inits.reverse := by
  rcases eq_slash_append_of_isAbsolute hpath with ⟨rest, hrest⟩
  have hpieces : Text.segments '/' path.text = "" :: Text.segments '/' rest := by
    rw [hrest, Text.segments_append]
    rfl
  have hstems : stems none ("" :: Text.segments '/' rest) =
      "" :: stems (some "") (Text.segments '/' rest) := by
    rw [stems]
    simp
  have hslashes : ∀ piece ∈ Text.segments '/' rest, '/' ∉ piece.toList := fun _ hpiece =>
    Text.no_slash_of_mem_segments hpiece
  have hbeginnings := map_steps_stems hslashes ""
  have hsteps : path.steps = (Text.segments '/' rest).filter isStep := by
    rw [steps, hpieces]
    rfl
  rw [← hsteps, steps_empty, ← hstems, ← hpieces] at hbeginnings
  simp only [List.nil_append, List.map_id'] at hbeginnings
  -- the root is spelled with a slash and not as the empty text, which takes no step either
  have hspelled : (steps ∘ fun text => if text = "" then (⟨"/"⟩ : SourcePath) else ⟨text⟩) =
      fun text => steps ⟨text⟩ := by
    funext text
    by_cases htext : text = ""
    · simp only [Function.comp_apply, htext, if_true]
      decide
    · simp [Function.comp_apply, htext]
  rw [ancestors, if_pos (Or.inl hpath), List.map_cons, List.map_map, hspelled, List.map_reverse,
    List.map_dropLast, hbeginnings, ← List.reverse_concat, dropLast_inits_append]

theorem ne_empty_of_mem_ancestors {path directory : SourcePath} (hpath : path.isAbsolute = true)
    (hdirectory : directory ∈ path.ancestors) : directory.text ≠ "" := by
  rw [ancestors, if_pos (Or.inl hpath)] at hdirectory
  rcases List.mem_cons.mp hdirectory with hself | hshorter
  · rcases eq_slash_append_of_isAbsolute hpath with ⟨rest, hrest⟩
    rw [hself, hrest]
    intro hempty
    simpa using congrArg String.toList hempty
  · rcases List.mem_map.mp hshorter with ⟨text, -, htext⟩
    rw [← htext]
    split
    · decide
    · assumption

end SourcePath

/-!
# Trees of files
-/

namespace FileSystem

def isName (name : String) : Bool :=
  SourcePath.isStep name && name != ".." && decide (name.utf8ByteSize ≤ longestName) &&
    !name.toList.any fun c => c = '/' || c.toNat = 0

/-- Every entry has a name and stands in a directory. -/
def isTree (files : FileSystem) : Bool :=
  files.entries.toList.all fun (location, _) =>
    location.all isName && files.entry? location.dropLast = some .directory

section

variable {files : FileSystem} {location : FileLocation} {name : String}

theorem isName_iff : isName name = true ↔
    SourcePath.isStep name = true ∧ name ≠ ".." ∧ name.utf8ByteSize ≤ longestName ∧
      ∀ c ∈ name.toList, c ≠ '/' ∧ c.toNat ≠ 0 := by
  simp [isName, and_assoc]

theorem entry_concat : files.entry? (location ++ [name]) = files.entries[location ++ [name]]? := by
  simp [FileSystem.entry?]

theorem isName_of_entry (hfiles : files.isTree = true)
    (hentry : (files.entry? location).isSome = true) : ∀ name ∈ location, isName name = true := by
  intro name hname
  have hne : location ≠ [] := List.ne_nil_of_mem hname
  rw [FileSystem.entry?, if_neg hne] at hentry
  rcases Option.isSome_iff_exists.mp hentry with ⟨entry, hfound⟩
  have hmem := Std.TreeMap.mem_toList_iff_getElem?_eq_some.mpr hfound
  have hall := List.all_eq_true.mp hfiles _ hmem
  rw [Bool.and_eq_true, List.all_eq_true] at hall
  exact hall.1 name hname

theorem directory_of_entry (hfiles : files.isTree = true)
    (hentry : (files.entry? (location ++ [name])).isSome = true) :
    files.entry? location = some .directory := by
  rw [entry_concat] at hentry
  rcases Option.isSome_iff_exists.mp hentry with ⟨entry, hfound⟩
  have hmem := Std.TreeMap.mem_toList_iff_getElem?_eq_some.mpr hfound
  have hall := List.all_eq_true.mp hfiles _ hmem
  rw [Bool.and_eq_true, List.dropLast_concat] at hall
  exact of_decide_eq_true hall.2

theorem entry_dropLast (hfiles : files.isTree = true)
    (hentry : (files.entry? location).isSome = true) :
    (files.entry? location.dropLast).isSome = true := by
  rcases List.eq_nil_or_concat location with hnil | ⟨above, last, hconcat⟩
  · simp [hnil, FileSystem.entry?]
  · rw [hconcat, List.concat_eq_append] at hentry ⊢
    rw [List.dropLast_concat, directory_of_entry hfiles hentry]
    rfl

end

/-!
# Following the steps of a path
-/

def follow (files : FileSystem) (start : FileLocation) (steps : List String) :
    Option FileLocation :=
  (steps.foldlM files.step start).toOption

/-- Where steps lead if nothing stops them. -/
def settle (start : FileLocation) (steps : List String) : FileLocation :=
  steps.foldl (fun location step => if step = ".." then location.dropLast else location ++ [step])
    start

section

variable {files : FileSystem} {start location left : FileLocation} {name : String}
  {pieces steps : List String}

theorem settle_concat (step : String) : settle start (steps ++ [step]) =
    if step = ".." then (settle start steps).dropLast else settle start steps ++ [step] := by
  simp [settle]

theorem settle_append (more : List String) :
    settle start (steps ++ more) = settle (settle start steps) more := by
  simp [settle]

theorem settle_names (hsteps : ".." ∉ steps) : settle start steps = start ++ steps := by
  induction steps using List.reverseRecOn with
  | nil => simp [settle]
  | append_singleton steps last ih =>
      rw [List.mem_append, not_or, List.mem_singleton] at hsteps
      rw [settle_concat, if_neg (Ne.symm hsteps.2), ih hsteps.1, List.append_assoc]

theorem follow_append (more : List String) : files.follow start (steps ++ more) =
    (files.follow start steps).bind fun location => files.follow location more := by
  unfold follow
  rw [List.foldlM_append]
  cases steps.foldlM files.step start <;> rfl

theorem follow_singleton (step : String) :
    files.follow start [step] = (files.step start step).toOption := by
  unfold follow
  rw [List.foldlM_cons]
  cases files.step start step <;> rfl

theorem step_eq_some_iff (hfiles : files.isTree = true) (hname : SourcePath.isStep name = true) :
    files.follow start [name] = some left ↔
      files.entry? start = some .directory ∧
        left = settle start [name] ∧ (files.entry? left).isSome = true := by
  have hskip : ¬(name = "" ∨ name = ".") := by simpa using SourcePath.isStep_iff.mp hname
  rw [follow_singleton, step]
  rcases hstart : files.entry? start with _ | (_ | content)
  · simp [Except.toOption]
  · simp only [true_and]
    rw [if_neg hskip]
    by_cases hup : name = ".."
    · have hparent : (files.entry? start.dropLast).isSome = true :=
        entry_dropLast hfiles (by simp [hstart])
      rw [if_pos hup]
      simp only [Except.toOption, Option.some.injEq, settle, List.foldl_cons, List.foldl_nil, hup,
        if_true]
      constructor
      · rintro rfl
        exact ⟨rfl, hparent⟩
      · exact fun h => h.1.symm
    · rw [if_neg hup]
      simp only [settle, List.foldl_cons, List.foldl_nil, if_neg hup]
      by_cases hentry : (files.entry? (start ++ [name])).isSome = true
      · have hshort := (isName_iff.mp (isName_of_entry hfiles hentry name (by simp))).2.2.1
        rw [if_neg (by omega), if_pos hentry]
        simp only [Except.toOption, Option.some.injEq]
        constructor
        · rintro rfl
          exact ⟨rfl, hentry⟩
        · exact fun h => h.1.symm
      · constructor
        · intro hsome
          split at hsome <;> simp [Except.toOption] at hsome
        · rintro ⟨rfl, hsome⟩
          exact absurd hsome hentry
  · simp [Except.toOption]

theorem foldlM_step_of_stuck {error : FileError}
    (hstuck : ∀ piece, files.step start piece = .error error) (pieces : List String)
    (name : String) : (pieces ++ [name]).foldlM files.step start = .error error := by
  cases pieces with
  | nil =>
      rw [List.nil_append, List.foldlM_cons, hstuck]
      rfl
  | cons piece rest =>
      rw [List.cons_append, List.foldlM_cons, hstuck]
      rfl

/-- Skipped pieces only ask for a directory, and so does the next step. -/
theorem foldlM_step_filter : (pieces ++ [name]).foldlM files.step start =
    (pieces.filter SourcePath.isStep ++ [name]).foldlM files.step start := by
  induction pieces generalizing start with
  | nil => rfl
  | cons piece rest ih =>
      by_cases hstep : SourcePath.isStep piece = true
      · rw [List.filter_cons_of_pos hstep, List.cons_append, List.cons_append, List.foldlM_cons,
          List.foldlM_cons]
        simp only [ih]
      · have hskip : piece = "" ∨ piece = "." := by
          by_contra hneither
          exact hstep (SourcePath.isStep_iff.mpr (by simpa using hneither))
        rw [List.filter_cons_of_neg hstep, List.cons_append, List.foldlM_cons, step]
        rcases hstart : files.entry? start with _ | (_ | content)
        · exact (foldlM_step_of_stuck (fun piece => by rw [step, hstart]) _ _).symm
        · simp only [if_pos hskip]
          exact ih
        · exact (foldlM_step_of_stuck (fun piece => by rw [step, hstart]) _ _).symm

theorem isName_of_follow (hfiles : files.isTree = true)
    (hsteps : ∀ step ∈ steps, SourcePath.isStep step = true)
    (hfollow : files.follow start steps = some left) :
    ∀ step ∈ steps, step = ".." ∨ isName step = true := by
  induction steps using List.reverseRecOn generalizing left with
  | nil => simp
  | append_singleton steps last ih =>
      rw [follow_append] at hfollow
      rcases Option.bind_eq_some_iff.mp hfollow with ⟨before, hbefore, hlast⟩
      have htaken := (step_eq_some_iff hfiles (hsteps last (by simp))).mp hlast
      intro step hstep
      rcases List.mem_append.mp hstep with hearlier | hself
      · exact ih (fun step hmem => hsteps step (List.mem_append_left _ hmem)) hbefore step hearlier
      · rw [List.mem_singleton] at hself
        by_cases hup : last = ".."
        · exact Or.inl (hself.trans hup)
        · refine Or.inr (isName_of_entry hfiles htaken.2.2 step ?_)
          rw [htaken.2.1, settle_names (by simpa using Ne.symm hup), hself]
          simp

theorem entry_of_follow (hfiles : files.isTree = true)
    (hstart : (files.entry? start).isSome = true)
    (hsteps : ∀ step ∈ steps, SourcePath.isStep step = true)
    (hfollow : files.follow start steps = some left) :
    left = settle start steps ∧ (files.entry? left).isSome = true := by
  induction steps using List.reverseRecOn generalizing left with
  | nil =>
      cases hfollow
      exact ⟨rfl, hstart⟩
  | append_singleton steps last ih =>
      rw [follow_append] at hfollow
      rcases Option.bind_eq_some_iff.mp hfollow with ⟨before, hbefore, hlast⟩
      have htaken := (step_eq_some_iff hfiles (hsteps last (by simp))).mp hlast
      have hearlier := ih (fun step hmem => hsteps step (List.mem_append_left _ hmem)) hbefore
      rw [settle_append, ← hearlier.1]
      exact htaken.2

theorem follow_eq_none_of_hasNul {path : SourcePath} (hfiles : files.isTree = true)
    (hnul : hasNul path = true) : files.follow start path.steps = none := by
  rcases List.any_eq_true.mp hnul with ⟨c, hc, hzero⟩
  have hzero : c.toNat = 0 := of_decide_eq_true hzero
  have hne (d : Char) (hd : d.toNat ≠ 0) : c ≠ d := fun heq => hd (heq ▸ hzero)
  rcases Text.mem_splitChars_of_mem hc (hne '/' (by decide)) with ⟨chars, hchars, hin⟩
  have hpiece : String.ofList chars ∈ Text.segments '/' path.text := List.mem_map_of_mem hchars
  have hother (other : String) (hclean : ∀ d ∈ other.toList, d.toNat ≠ 0) :
      String.ofList chars ≠ other := by
    intro heq
    exact hclean c (by rw [← heq, String.toList_ofList]; exact hin) hzero
  have hstep : String.ofList chars ∈ path.steps :=
    List.mem_filter.mpr ⟨hpiece,
      SourcePath.isStep_iff.mpr ⟨hother "" (by simp), hother "." (by simp)⟩⟩
  rw [Option.eq_none_iff_forall_not_mem]
  intro left hleft
  rcases isName_of_follow hfiles (fun _ => SourcePath.isStep_of_mem_steps) hleft _ hstep with
    hup | hname
  · exact hother ".." (by simp) hup
  · exact ((isName_iff.mp hname).2.2.2 c (by rw [String.toList_ofList]; exact hin)).2 hzero

theorem locate_join {directory : SourcePath} (hfiles : files.isTree = true)
    (hdirectory : directory.text ≠ "") (hname : isName name = true) :
    (files.locate (directory.join ⟨name⟩)).toOption =
      (files.follow [] directory.steps).bind fun location => files.follow location [name] := by
  have hchars := (isName_iff.mp hname).2.2.2
  have hslash : '/' ∉ name.toList := fun hmem => (hchars '/' hmem).1 rfl
  have hrelative : SourcePath.isAbsolute ⟨name⟩ = false := by
    rw [← Bool.not_eq_true]
    intro habsolute
    rw [SourcePath.isAbsolute, Text.begins, List.isPrefixOf_iff_prefix] at habsolute
    exact hslash (habsolute.subset (by decide))
  have hlast : SourcePath.steps ⟨name⟩ = [name] := by
    rw [SourcePath.steps, Text.segments_of_no_slash hslash,
      List.filter_cons_of_pos (isName_iff.mp hname).1, List.filter_nil]
  rcases SourcePath.join_spelling hdirectory hrelative with ⟨before, hjoin, hbefore⟩
  have hsteps : (directory.join ⟨name⟩).steps = directory.steps ++ [name] := by
    rw [SourcePath.steps_join hdirectory hrelative, hlast]
  have hnonempty : (directory.join ⟨name⟩).text ≠ "" := by
    rw [hjoin]
    intro hempty
    simpa using congrArg String.toList hempty
  rw [← follow_append, locate, if_neg hnonempty]
  by_cases hnul : hasNul (directory.join ⟨name⟩) = true
  · rw [if_pos hnul, ← hsteps, follow_eq_none_of_hasNul hfiles hnul]
    rfl
  · rw [if_neg hnul, hjoin, Text.segments_append, Text.segments_of_no_slash hslash,
      foldlM_step_filter, ← hbefore]
    rfl

end

/-!
# The nearest configuration
-/

def holdsFile (files : FileSystem) (location : FileLocation) : Bool :=
  match files.entry? location with
  | some (.file _) => true
  | _ => false

def configIn? (files : FileSystem) (directory : FileLocation) : Option String :=
  ["unstable-lint.toml", ".unstable-lint.toml"].find? fun name =>
    files.holdsFile (directory ++ [name])

def holdsRepository (files : FileSystem) (directory : FileLocation) : Bool :=
  (files.entry? (directory ++ [".git"])).isSome

/-- The search goes on above this place. -/
def isBare (files : FileSystem) (directory : FileLocation) : Bool :=
  (files.configIn? directory).isNone && !files.holdsRepository directory

/-- The nearest configuration above a place: nothing that ends the search stands below it. -/
structure Nearest (files : FileSystem) (place directory : FileLocation) (name : String) : Prop where
  above : directory <+: place
  named : files.configIn? directory = some name
  bare : ∀ other, other <+: place → directory <+: other → other ≠ directory →
    files.isBare other = true

/-- The directories that a `..` leaves exist, and the search would go on above each of them. -/
def LeavesBare (files : FileSystem) (start : FileLocation) (steps : List String) : Prop :=
  ∀ before, before ++ [".."] <+: steps →
    ∃ left ∈ files.follow start before,
      files.entry? left = some .directory ∧ (left = [] ∨ files.isBare left = true)

section

variable {files : FileSystem} {place directory : FileLocation} {name : String}

theorem nearest_self (hnamed : files.configIn? place = some name) :
    files.Nearest place place name where
  above := List.prefix_rfl
  named := hnamed
  bare _ hbelow habove hne := absurd (hbelow.eq_of_length_le habove.length_le) hne

theorem Nearest.eq_of_prefix {inner : FileLocation} {innerName : String}
    (h : files.Nearest place directory name) (hinner : files.Nearest place inner innerName)
    (hwithin : directory <+: inner) : inner = directory := by
  by_contra hne
  have hbare := h.bare inner hinner.above hwithin hne
  simp [isBare, hinner.named] at hbare

theorem Nearest.unique {other : FileLocation} {otherName : String}
    (h : files.Nearest place directory name) (hother : files.Nearest place other otherName) :
    other = directory ∧ otherName = name := by
  have hdirectory : other = directory := by
    rcases List.prefix_or_prefix_of_prefix h.above hother.above with houter | hinner
    · exact h.eq_of_prefix hother houter
    · exact (hother.eq_of_prefix h hinner).symm
  have hnamed := hother.named
  rw [hdirectory, h.named] at hnamed
  exact ⟨hdirectory, (Option.some.inj hnamed).symm⟩

theorem not_nearest_of_repository (hnone : files.configIn? place = none)
    (hrepository : files.holdsRepository place = true) : ¬files.Nearest place directory name := by
  intro hnearest
  by_cases hself : place = directory
  · have hnamed := hnearest.named
    rw [← hself, hnone] at hnamed
    cases hnamed
  · have hbare := hnearest.bare place List.prefix_rfl hnearest.above hself
    simp [isBare, hrepository] at hbare

theorem nearest_concat_iff {last : String} (hbare : files.isBare (place ++ [last]) = true) :
    files.Nearest (place ++ [last]) directory name ↔ files.Nearest place directory name := by
  constructor
  · intro hnearest
    refine ⟨?_, hnearest.named, fun other hother => ?_⟩
    · rcases List.prefix_concat_iff.mp hnearest.above with hself | habove
      · have hnamed := hnearest.named
        rw [hself] at hnamed
        simp [isBare, hnamed] at hbare
      · exact habove
    · exact hnearest.bare other (hother.trans (List.prefix_append place [last]))
  · intro hnearest
    refine ⟨hnearest.above.trans (List.prefix_append place [last]), hnearest.named, ?_⟩
    intro other hother habove hne
    rcases List.prefix_concat_iff.mp hother with hself | hbelow
    · exact hself ▸ hbare
    · exact hnearest.bare other hbelow habove hne

theorem nearest_dropLast_iff (hbare : place = [] ∨ files.isBare place = true) :
    files.Nearest place directory name ↔ files.Nearest place.dropLast directory name := by
  rcases List.eq_nil_or_concat place with hnil | ⟨above, last, hconcat⟩
  · rw [hnil, List.dropLast_nil]
  · rw [List.concat_eq_append] at hconcat
    rw [hconcat] at hbare ⊢
    rw [List.dropLast_concat]
    exact nearest_concat_iff (hbare.resolve_left (by simp))

end

/-!
# What the search finds
-/

/-- What a search from a place should give: the nearest configuration, if there is one. -/
def Found (files : FileSystem) (place : FileLocation) : Option SourcePath → Prop
  | some path => ∃ directory name, files.Nearest place directory name ∧
      files.locate path = .ok (directory ++ [name])
  | none => ∀ directory name, ¬files.Nearest place directory name

section

variable {files : FileSystem} {start left place : FileLocation} {name : String}
  {steps : List String} {directory : SourcePath}

theorem LeavesBare.of_append {more : List String} (h : files.LeavesBare start (steps ++ more)) :
    files.LeavesBare start steps := by
  intro before hleaves
  exact h before (hleaves.trans (List.prefix_append steps more))

theorem LeavesBare.concat (h : files.LeavesBare start steps) (hname : name ≠ "..") :
    files.LeavesBare start (steps ++ [name]) := by
  intro before hleaves
  rcases List.prefix_concat_iff.mp hleaves with hself | hearlier
  · exact absurd (List.append_inj' hself rfl).2 (by simpa using Ne.symm hname)
  · exact h before hearlier

theorem follow_eq_some_iff (hfiles : files.isTree = true)
    (hstart : (files.entry? start).isSome = true)
    (hsteps : ∀ step ∈ steps, SourcePath.isStep step = true)
    (hleaves : files.LeavesBare start steps) : files.follow start steps = some left ↔
      left = settle start steps ∧ (files.entry? left).isSome = true := by
  refine ⟨entry_of_follow hfiles hstart hsteps, ?_⟩
  rintro ⟨rfl, hentry⟩
  induction steps using List.reverseRecOn with
  | nil => rfl
  | append_singleton steps last ih =>
      have hearlier : ∀ step ∈ steps, SourcePath.isStep step = true := fun step hmem =>
        hsteps step (List.mem_append_left _ hmem)
      have hbefore : files.follow start steps = some (settle start steps) ∧
          files.entry? (settle start steps) = some .directory := by
        by_cases hup : last = ".."
        · rcases hleaves steps (by rw [hup]) with ⟨location, hlocation, hdirectory, -⟩
          have hsettled := entry_of_follow hfiles hstart hearlier hlocation
          rw [← hsettled.1]
          exact ⟨hlocation, hdirectory⟩
        · rw [settle_concat, if_neg hup] at hentry
          have hdirectory := directory_of_entry hfiles hentry
          exact ⟨ih hearlier hleaves.of_append (by rw [hdirectory]; rfl), hdirectory⟩
      rw [follow_append, hbefore.1, Option.bind_some,
        step_eq_some_iff hfiles (hsteps last (by simp)), ← settle_append]
      exact ⟨hbefore.2, rfl, hentry⟩

theorem locate_join_eq_some_iff (hfiles : files.isTree = true) (hdirectory : directory.text ≠ "")
    (hleaves : files.LeavesBare [] directory.steps) (hname : isName name = true) :
    (files.locate (directory.join ⟨name⟩)).toOption = some left ↔
      left = settle [] directory.steps ++ [name] ∧ (files.entry? left).isSome = true := by
  have hproper := isName_iff.mp hname
  have hsteps : ∀ step ∈ directory.steps ++ [name], SourcePath.isStep step = true := by
    intro step hstep
    rcases List.mem_append.mp hstep with hearlier | hlast
    · exact SourcePath.isStep_of_mem_steps hearlier
    · rw [List.mem_singleton.mp hlast]
      exact hproper.1
  rw [locate_join hfiles hdirectory hname, ← follow_append,
    follow_eq_some_iff hfiles rfl hsteps (hleaves.concat hproper.2.1), settle_concat,
    if_neg hproper.2.1]

theorem find?_join (hfiles : files.isTree = true) (hdirectory : directory.text ≠ "")
    (hleaves : files.LeavesBare [] directory.steps) (hname : isName name = true) :
    files.find? (directory.join ⟨name⟩) =
      files.entry? (settle [] directory.steps ++ [name]) := by
  have hlocate (left : FileLocation) := @locate_join_eq_some_iff files left name directory hfiles
    hdirectory hleaves hname
  unfold find?
  cases hfound : files.locate (directory.join ⟨name⟩) with
  | ok location =>
      rw [hfound] at hlocate
      exact congrArg files.entry? ((hlocate location).mp rfl).1
  | error error =>
      rw [hfound] at hlocate
      cases hentry : files.entry? (settle [] directory.steps ++ [name]) with
      | none => rfl
      | some entry => cases (hlocate _).mpr ⟨rfl, by rw [hentry]; rfl⟩

theorem isFile_join (hfiles : files.isTree = true) (hdirectory : directory.text ≠ "")
    (hleaves : files.LeavesBare [] directory.steps) (hname : isName name = true) :
    files.isFile (directory.join ⟨name⟩) =
      files.holdsFile (settle [] directory.steps ++ [name]) := by
  rw [isFile, find?_join hfiles hdirectory hleaves hname]
  rfl

theorem inDirectory?_eq (hfiles : files.isTree = true) (hdirectory : directory.text ≠ "")
    (hleaves : files.LeavesBare [] directory.steps) :
    ConfigSource.inDirectory? files directory =
      (files.configIn? (settle [] directory.steps)).map fun name => directory.join ⟨name⟩ := by
  have hfirst := isFile_join hfiles hdirectory hleaves
    (show isName "unstable-lint.toml" = true by decide)
  have hsecond := isFile_join hfiles hdirectory hleaves
    (show isName ".unstable-lint.toml" = true by decide)
  simp only [ConfigSource.inDirectory?, ConfigSource.projectNames, configIn?, List.map_cons,
    List.map_nil, List.find?_cons, List.find?_nil, hfirst, hsecond]
  split
  · rfl
  · split <;> rfl

theorem contains_repository (hfiles : files.isTree = true) (hdirectory : directory.text ≠ "")
    (hleaves : files.LeavesBare [] directory.steps) :
    files.contains (directory.join ⟨".git"⟩) =
      files.holdsRepository (settle [] directory.steps) := by
  rw [contains, find?_join hfiles hdirectory hleaves (by decide), holdsRepository]

theorem holdsFile_of_configIn (hnamed : files.configIn? place = some name) :
    isName name = true ∧ (files.entry? (place ++ [name])).isSome = true := by
  have hproper : ∀ name ∈ ["unstable-lint.toml", ".unstable-lint.toml"], isName name = true := by
    decide
  refine ⟨hproper name (List.mem_of_find?_eq_some hnamed), ?_⟩
  have hfile := List.find?_some hnamed
  simp only [holdsFile] at hfile
  cases hentry : files.entry? (place ++ [name]) with
  | none => simp [hentry] at hfile
  | some entry => rfl

theorem found_congr (hplace : ∀ directory name,
    files.Nearest left directory name ↔ files.Nearest place directory name)
    {result : Option SourcePath} (hfound : files.Found left result) : files.Found place result := by
  cases result with
  | some path =>
      rcases hfound with ⟨directory, name, hnearest, hlocate⟩
      exact ⟨directory, name, (hplace directory name).mp hnearest, hlocate⟩
  | none => exact fun directory name hnearest =>
      hfound directory name ((hplace directory name).mpr hnearest)

theorem found_cons (hfiles : files.isTree = true) (hdirectory : directory.text ≠ "")
    (hsteps : directory.steps = steps) (hleaves : files.LeavesBare [] steps)
    {others : List SourcePath} (hothers : files.isBare (settle [] steps) = true →
      files.Found (settle [] steps) (ConfigSource.search files others)) :
    files.Found (settle [] steps) (ConfigSource.search files (directory :: others)) := by
  subst hsteps
  rw [ConfigSource.search, inDirectory?_eq hfiles hdirectory hleaves,
    contains_repository hfiles hdirectory hleaves]
  cases hnamed : files.configIn? (settle [] directory.steps) with
  | some name =>
      refine ⟨_, name, nearest_self hnamed, ?_⟩
      have hentry := holdsFile_of_configIn hnamed
      have hlocate := (locate_join_eq_some_iff hfiles hdirectory hleaves hentry.1).mpr
        ⟨rfl, hentry.2⟩
      cases hfound : files.locate (directory.join ⟨name⟩) with
      | ok location =>
          rw [hfound] at hlocate
          exact congrArg Except.ok (Option.some.inj hlocate)
      | error error =>
          rw [hfound] at hlocate
          cases hlocate
  | none =>
      by_cases hrepository : files.holdsRepository (settle [] directory.steps) = true
      · simp only [Option.map_none, hrepository, if_true]
        exact fun _ _ => not_nearest_of_repository hnamed hrepository
      · simp only [Option.map_none, hrepository, Bool.false_eq_true, if_false]
        exact hothers (by simp [isBare, hnamed, hrepository])

/-- The induction is on the steps, from the last one back: the shorter paths are the rest of the
search. -/
theorem search_found (hfiles : files.isTree = true) {directories : List SourcePath}
    (hdirectories : directories.map SourcePath.steps = steps.inits.reverse)
    (hnonempty : ∀ directory ∈ directories, directory.text ≠ "")
    (hleaves : files.LeavesBare [] steps) :
    files.Found (settle [] steps) (ConfigSource.search files directories) := by
  induction steps using List.reverseRecOn generalizing directories with
  | nil =>
      rcases List.map_eq_cons_iff.mp hdirectories with ⟨directory, others, hlist, hsteps, hrest⟩
      rw [List.map_eq_nil_iff.mp hrest] at hlist
      rw [hlist] at hnonempty ⊢
      refine found_cons hfiles (hnonempty directory List.mem_cons_self) hsteps hleaves ?_
      intro hbare above name hnearest
      have hnamed := hnearest.named
      rw [List.prefix_nil.mp hnearest.above] at hnamed
      simp [isBare, settle, hnamed] at hbare
  | append_singleton steps last ih =>
      rw [SourcePath.inits_concat, List.reverse_concat] at hdirectories
      rcases List.map_eq_cons_iff.mp hdirectories with ⟨directory, others, hlist, hsteps, hrest⟩
      rw [hlist] at hnonempty ⊢
      have hothers := ih hrest (fun other hmem => hnonempty other (List.mem_cons_of_mem _ hmem))
        hleaves.of_append
      have hproper : ∀ step ∈ steps, SourcePath.isStep step = true := fun step hmem =>
        SourcePath.isStep_of_mem_steps (hsteps ▸ List.mem_append_left [last] hmem)
      refine found_cons hfiles (hnonempty directory List.mem_cons_self) hsteps hleaves ?_
      rw [settle_concat]
      intro hbare
      by_cases hup : last = ".."
      · rcases hleaves steps (by rw [hup]) with ⟨left, hleft, -, hgone⟩
        rw [(entry_of_follow hfiles rfl hproper hleft).1] at hgone
        rw [if_pos hup]
        exact found_congr (fun _ _ => nearest_dropLast_iff hgone) hothers
      · rw [if_neg hup] at hbare ⊢
        exact found_congr (fun _ _ => (nearest_concat_iff hbare).symm) hothers

end

/-!
# The path of the target
-/

/-- The location of a target that is seen from a directory, with every `.` and `..` resolved. -/
def placeOf (here : FileLocation) (target : SourcePath) : FileLocation :=
  settle (if target.isAbsolute then [] else here) target.steps

section

variable {files : FileSystem} {here : FileLocation} {target : SourcePath}

theorem steps_pathTo (hhere : ∀ name ∈ here, isName name = true) :
    (pathTo here).steps = here := by
  have hslash : ∀ name ∈ here, '/' ∉ name.toList := fun name hname hmem =>
    ((isName_iff.mp (hhere name hname)).2.2.2 '/' hmem).1 rfl
  have hspelled : pathTo here = ⟨"" ++ "/" ++ "/".intercalate here⟩ := by simp [pathTo]
  rw [hspelled, SourcePath.steps_append, SourcePath.steps_empty, List.nil_append]
  cases here with
  | nil => decide
  | cons first rest =>
      rw [SourcePath.steps, Text.segments_intercalate hslash]
      exact List.filter_eq_self.mpr fun name hname => (isName_iff.mp (hhere name hname)).1

theorem follow_names (hfiles : files.isTree = true)
    (hhere : (files.entry? here).isSome = true) : files.follow [] here = some here := by
  have hnames := isName_of_entry hfiles hhere
  have hup : ".." ∉ here := fun hmem => (isName_iff.mp (hnames _ hmem)).2.1 rfl
  rw [follow_eq_some_iff hfiles rfl (fun name hname => (isName_iff.mp (hnames name hname)).1)]
  · rw [settle_names hup]
    exact ⟨rfl, hhere⟩
  · intro before hleaves
    exact absurd (hleaves.subset (by simp)) hup

theorem LeavesBare.from_root (hfiles : files.isTree = true)
    (hhere : (files.entry? here).isSome = true) {steps : List String}
    (h : files.LeavesBare here steps) : files.LeavesBare [] (here ++ steps) := by
  have hnames := isName_of_entry hfiles hhere
  have hup : ".." ∉ here := fun hmem => (isName_iff.mp (hnames _ hmem)).2.1 rfl
  intro before hleaves
  -- the `..` is a step of the target, as no name on the way to a directory is one
  rcases List.prefix_or_prefix_of_prefix hleaves (List.prefix_append here steps) with
    hwithin | hbeyond
  · exact absurd (hwithin.subset (by simp)) hup
  rcases List.prefix_concat_iff.mp hbeyond with hself | ⟨more, rfl⟩
  · exact absurd (hself ▸ by simp) hup
  rw [List.append_assoc, List.prefix_append_right_inj] at hleaves
  rw [follow_append, follow_names hfiles hhere, Option.bind_some]
  exact h more hleaves

theorem steps_target (hfiles : files.isTree = true) (hhere : (files.entry? here).isSome = true) :
    ((pathTo here).join target).steps =
      (if target.isAbsolute then [] else here) ++ target.steps := by
  by_cases habsolute : target.isAbsolute = true
  · rw [SourcePath.join, if_pos habsolute, if_pos habsolute, List.nil_append]
  · rw [SourcePath.steps_join (by simp [pathTo]) (by simpa using habsolute),
      steps_pathTo (isName_of_entry hfiles hhere), if_neg habsolute]

theorem isAbsolute_target : ((pathTo here).join target).isAbsolute = true := by
  unfold SourcePath.join
  split
  · assumption
  · split <;> simp [pathTo, SourcePath.isAbsolute, Text.begins]

theorem projectFile?_found (hfiles : files.isTree = true)
    (hhere : (files.entry? here).isSome = true)
    (hleaves : files.LeavesBare (if target.isAbsolute then [] else here) target.steps) :
    files.Found (placeOf here target)
      (ConfigSource.projectFile? files ((pathTo here).join target)) := by
  have hstart : (files.entry? (if target.isAbsolute then [] else here)).isSome = true := by
    split
    · rfl
    · exact hhere
  have hsettled : settle [] (if target.isAbsolute then [] else here) =
      if target.isAbsolute then [] else here :=
    (entry_of_follow hfiles rfl (fun name hname =>
      (isName_iff.mp (isName_of_entry hfiles hstart name hname)).1)
      (follow_names hfiles hstart)).1.symm
  have hwhole := hleaves.from_root hfiles hstart
  have hdirectories := SourcePath.map_steps_ancestors (@isAbsolute_target here target)
  rw [steps_target hfiles hhere] at hdirectories
  have hfound := search_found hfiles hdirectories
    (fun _ hmem => SourcePath.ne_empty_of_mem_ancestors isAbsolute_target hmem) hwhole
  rwa [settle_append, hsettled] at hfound

end

end FileSystem

namespace ConfigSource

open FileSystem

/-- The configuration of a project is the nearest one: that of the target, with every `.` and `..`
resolved, or of the innermost directory above it that has one, but not beyond a repository.  Without
any, the file of the user counts, and after it the defaults.  The directories that a `..` leaves
must exist and must not end the search, which looks at them as well. -/
theorem resolve_nearest {files : FileSystem} (hfiles : files.isTree = true) {here : FileLocation}
    (hhere : files.entry? here = some .directory) (globalDirectory : Option SourcePath)
    (target : SourcePath)
    (hleaves : files.LeavesBare (if target.isAbsolute then [] else here) target.steps) :
    (∀ path, resolve files (pathTo here) globalDirectory target none = .project path →
      ∃ directory name, files.Nearest (placeOf here target) directory name ∧
        files.locate path = .ok (directory ++ [name])) ∧
    (∀ directory name, files.Nearest (placeOf here target) directory name →
      ∃ path, resolve files (pathTo here) globalDirectory target none = .project path ∧
        files.locate path = .ok (directory ++ [name])) ∧
    ((∀ directory name, ¬files.Nearest (placeOf here target) directory name) →
      resolve files (pathTo here) globalDirectory target none =
        match globalDirectory.map (·.join ⟨"config.toml"⟩) with
        | some path => if files.isFile ((pathTo here).join path) then .global path else .builtIn
        | none => .builtIn) := by
  have hfound := projectFile?_found hfiles (by rw [hhere]; rfl) hleaves
  unfold resolve
  cases hproject : projectFile? files ((pathTo here).join target) with
  | some path =>
      rw [hproject] at hfound
      rcases hfound with ⟨directory, name, hnearest, hlocate⟩
      refine ⟨?_, ?_, fun hnone => absurd hnearest (hnone directory name)⟩
      · rintro other hother
        cases hother
        exact ⟨directory, name, hnearest, hlocate⟩
      · intro other otherName hother
        rcases hnearest.unique hother with ⟨rfl, rfl⟩
        exact ⟨path, rfl, hlocate⟩
  | none =>
      rw [hproject] at hfound
      refine ⟨?_, fun directory name hnearest => absurd hnearest (hfound directory name), ?_⟩
      · intro path hpath
        cases hglobal : globalDirectory.map (·.join globalName) with
        | none => simp [hglobal] at hpath
        | some found =>
            simp only [hglobal] at hpath
            split at hpath <;> cases hpath
      · intro _
        cases globalDirectory <;> rfl

def neighbours : FileSystem :=
  ((({} : FileSystem).insert ["a", "unstable-lint.toml"] (.file [])).insert ["a", "b"]
    .directory).insert ["a", "c"] .directory

/-- The way from one neighbour to the other leaves the first one. -/
theorem neighbours_nearest :
    neighbours.LeavesBare ["a", "b"] (SourcePath.steps ⟨"../c/./x"⟩) ∧
    neighbours.Nearest ["a", "c", "x"] ["a"] "unstable-lint.toml" ∧
    ∃ path, resolve neighbours (pathTo ["a", "b"]) none ⟨"../c/./x"⟩ none = .project path ∧
      neighbours.locate path = .ok ["a", "unstable-lint.toml"] := by
  have hsteps : SourcePath.steps ⟨"../c/./x"⟩ = ["..", "c", "x"] := by decide
  have hbefore : ∀ before ∈ ["..", "c", "x"].inits, before ++ [".."] <+: ["..", "c", "x"] →
      ∃ left ∈ neighbours.follow ["a", "b"] before,
        neighbours.entry? left = some .directory ∧ (left = [] ∨ neighbours.isBare left = true) := by
    decide +kernel
  have hleaves : neighbours.LeavesBare ["a", "b"] (SourcePath.steps ⟨"../c/./x"⟩) := by
    rw [hsteps]
    intro before hup
    exact hbefore before ((List.mem_inits before _).mpr ((List.prefix_append _ _).trans hup)) hup
  have hbare : ∀ other ∈ ["a", "c", "x"].inits, ["a"] <+: other → other ≠ ["a"] →
      neighbours.isBare other = true := by
    decide +kernel
  have hnearest : neighbours.Nearest ["a", "c", "x"] ["a"] "unstable-lint.toml" :=
    ⟨by decide, by decide +kernel, fun other hother =>
      hbare other ((List.mem_inits other _).mpr hother)⟩
  have hplace : placeOf ["a", "b"] ⟨"../c/./x"⟩ = ["a", "c", "x"] := by decide
  have hfiles : neighbours.isTree = true := by decide +kernel
  have hhere : neighbours.entry? ["a", "b"] = some .directory := by decide +kernel
  have hresolve := resolve_nearest hfiles hhere none ⟨"../c/./x"⟩ hleaves
  exact ⟨hleaves, hnearest, hresolve.2.1 ["a"] "unstable-lint.toml" (hplace ▸ hnearest)⟩

def inner : FileSystem :=
  ({} : FileSystem).insert ["a", "b", "unstable-lint.toml"] (.file [])

/-- Seen from a directory with a configuration, the directory above it seems to have it too. -/
theorem inner_found_outside :
    placeOf ["a", "b"] ⟨".."⟩ = ["a"] ∧
    (∀ directory name, ¬inner.Nearest ["a"] directory name) ∧
    resolve inner (pathTo ["a", "b"]) none ⟨".."⟩ none = .project ⟨"/a/b/unstable-lint.toml"⟩ := by
  have hnone : ∀ directory ∈ ["a"].inits, inner.configIn? directory = none := by decide +kernel
  refine ⟨by decide, fun directory name hnearest => ?_, by decide +kernel⟩
  have hnamed := hnearest.named
  rw [hnone directory ((List.mem_inits directory _).mpr hnearest.above)] at hnamed
  cases hnamed

end ConfigSource

end RestrictedApi

import Rowsmith.Settings.Arguments

/-!
# Command lines

The names in a list of schemas, and the arguments among which such a list may stand.
-/

namespace Rowsmith

open Text

/-!
# Lists of schemas in one text

The text is cut at its commas, and nothing but commas and blanks is lost on the way to the names. No
name is blank.

## Trimming
-/

theorem count_trimStart {c : Char} (hc : isBlank c = false) (cs : List Char) :
    (trimStart cs).count c = cs.count c := by
  have hblanks : (cs.takeWhile isBlank).count c = 0 := by
    rw [List.count_eq_zero]
    intro hmem
    rw [List.all_eq_true.mp List.all_takeWhile c hmem] at hc
    cases hc
  have hcut : (cs.takeWhile isBlank ++ cs.dropWhile isBlank).count c = cs.count c := by
    rw [List.takeWhile_append_dropWhile]
  rw [List.count_append, hblanks, Nat.zero_add] at hcut
  exact hcut

theorem count_trim {c : Char} (hc : isBlank c = false) (cs : List Char) :
    (trim cs).count c = cs.count c := by
  show (trimStart (trimStart cs).reverse).reverse.count c = _
  rw [List.count_reverse, count_trimStart hc, List.count_reverse, count_trimStart hc]

theorem exists_not_blank_of_trim_ne_nil {cs : List Char} (h : trim cs ≠ []) :
    ∃ c ∈ trim cs, isBlank c = false := by
  have hrest : (trimStart cs).reverse.dropWhile isBlank ≠ [] := by
    intro hnil
    apply h
    rw [trim, trimEnd, hnil]
    rfl
  exact ⟨_, List.mem_reverse.mpr (List.head_mem hrest), List.head_dropWhile_not _ hrest⟩

theorem trim_eq_nil_iff {cs : List Char} : trim cs = [] ↔ ∀ c ∈ cs, isBlank c = true := by
  constructor
  · intro h c hc
    cases hblank : isBlank c with
    | true => rfl
    | false =>
        have hcount := count_trim hblank cs
        rw [h, List.count_nil] at hcount
        exact absurd hc (List.count_eq_zero.mp hcount.symm)
  · intro h
    rcases Decidable.em (trim cs = []) with hnil | hne
    · exact hnil
    · rcases exists_not_blank_of_trim_ne_nil hne with ⟨c, hc, hblank⟩
      have hmem : c ∈ cs := by
        rw [← List.count_pos_iff, ← count_trim hblank]
        exact List.count_pos_iff.mpr hc
      rw [h c hmem] at hblank
      cases hblank

/-!
## Pieces
-/

theorem count_piecesFrom {separator c : Char} (hc : c ≠ separator) (held cs : List Char) :
    (piecesFrom separator held cs).flatten.count c = held.count c + cs.count c := by
  induction cs generalizing held with
  | nil => simp [piecesFrom]
  | cons d rest ih =>
      rw [piecesFrom]
      split
      · next hd =>
          rw [List.flatten_cons, List.count_append, ih, List.count_reverse, List.count_nil,
            Nat.zero_add, List.count_cons_of_ne]
          rw [hd]
          exact Ne.symm hc
      · rw [ih, List.count_cons, List.count_cons]
        omega

theorem count_trimmed {c : Char} (hblank : isBlank c = false) (parts : List (List Char)) :
    (parts.map trim).flatten.count c = parts.flatten.count c := by
  induction parts with
  | nil => rfl
  | cons part parts ih =>
      rw [List.map_cons, List.flatten_cons, List.flatten_cons, List.count_append,
        List.count_append, count_trim hblank, ih]

/-!
## Names
-/

theorem isBlankText_of_mem_schemaNames {s name : String} (h : name ∈ schemaNames s) :
    isBlankText name = false := by
  rcases List.mem_map.mp h with ⟨part, hpart, rfl⟩
  rcases List.mem_filter.mp hpart with ⟨hmem, hne⟩
  rcases List.mem_map.mp hmem with ⟨piece, _, rfl⟩
  have htrimmed : trim piece ≠ [] := by
    intro hnil
    rw [hnil] at hne
    cases hne
  rcases exists_not_blank_of_trim_ne_nil htrimmed with ⟨c, hc, hblank⟩
  unfold isBlankText
  rw [String.toList_ofList, Bool.eq_false_iff]
  intro hall
  rw [List.all_eq_true.mp hall c hc] at hblank
  cases hblank

/-- Somewhere between its commas the text is not blank. -/
def HasEntry (s : String) : Prop :=
  ∃ piece ∈ pieces ',' s.toList, ∃ c ∈ piece, isBlank c = false

theorem schemaNames_ne_nil_iff {s : String} : schemaNames s ≠ [] ↔ HasEntry s := by
  unfold schemaNames HasEntry
  rw [Ne, List.map_eq_nil_iff, List.filter_eq_nil_iff]
  simp only [List.forall_mem_map, Bool.not_eq_true', Bool.not_eq_false, List.isEmpty_iff,
    trim_eq_nil_iff]
  simp only [Classical.not_forall, exists_prop, Bool.not_eq_true]

theorem count_schemaNames {c : Char} (hblank : isBlank c = false) (hcomma : c ≠ ',')
    (s : String) : ((schemaNames s).flatMap String.toList).count c = s.toList.count c := by
  have hflat (parts : List (List Char)) :
      (parts.map String.ofList).flatMap String.toList = parts.flatten := by
    rw [List.flatMap_map]
    simp only [String.toList_ofList]
    exact List.flatMap_id'
  unfold schemaNames
  rw [hflat, List.flatten_filter_not_isEmpty, count_trimmed hblank, pieces,
    count_piecesFrom hcomma, List.count_nil, Nat.zero_add]

/-!
# Arguments read one after the other

The reading of some arguments is at an end with them, or it goes on with the next ones in a state of
its own, unless the last of them is an option that waits for its value. So what two endings mean
does not depend on what stands before them if each state takes them alike.
-/

variable {option : ValueOption} {value : String}

/-!
## Outcomes and states
-/

/-- Both readings give the same command, or both fail. -/
def SameCommand (first second : Except ArgumentError Command) : Prop :=
  first.toOption = second.toOption

/-- After some arguments the reading is at an end, or it goes on in a state of its own. -/
def Proceeds {σ : Type} (read : σ → List String → Except ArgumentError Command) (state : σ)
    (before : List String) : Prop :=
  (∃ outcome, ∀ more, read state (before ++ more) = outcome) ∨
    ∃ later, ∀ more, read state (before ++ more) = read later more

theorem Proceeds.of_step {σ : Type} {read : σ → List String → Except ArgumentError Command}
    {state next : σ} {before rest : List String} (h : Proceeds read next rest)
    (hstep : ∀ more, read state (before ++ more) = read next (rest ++ more)) :
    Proceeds read state before := by
  unfold Proceeds at h ⊢
  simp only [hstep]
  exact h

theorem Proceeds.sameCommand {σ : Type} {read : σ → List String → Except ArgumentError Command}
    {state : σ} {before first second : List String} (h : Proceeds read state before)
    (hnext : ∀ state, SameCommand (read state first) (read state second)) :
    SameCommand (read state (before ++ first)) (read state (before ++ second)) := by
  rcases h with ⟨outcome, houtcome⟩ | ⟨later, hlater⟩
  · rw [houtcome, houtcome]
    rfl
  · rw [hlater, hlater]
    exact hnext later

/-- No option at the end is left without its value. -/
def LacksNoValue (outcome : Except ArgumentError Command) : Prop :=
  ∀ argument, outcome ≠ .error (.missingValue argument)

/-!
## Arguments of a run that generates
-/

section Generate

variable {options : GenerateOptions} {argument : String}

theorem readGenerate_dryRun (h : Argument.ofText generateOptions argument = .dryRun)
    (more : List String) : readGenerate options (argument :: more) =
      readGenerate { options with dryRun := true } more := by
  rw [readGenerate, h]

theorem readGenerate_check (h : Argument.ofText generateOptions argument = .check)
    (more : List String) : readGenerate options (argument :: more) =
      readGenerate { options with check := true } more := by
  rw [readGenerate, h]

theorem readGenerate_assigned
    (h : Argument.ofText generateOptions argument = .assigned option value)
    (more : List String) : readGenerate options (argument :: more) =
      options.set option value >>= fun next => readGenerate next more := by
  rw [readGenerate, h]
  dsimp only
  cases options.set option value <;> rfl

theorem readGenerate_named (h : Argument.ofText generateOptions argument = .named option)
    (more : List String) : readGenerate options (argument :: value :: more) =
      options.set option value >>= fun next => readGenerate next more := by
  rw [readGenerate, h]
  dsimp only
  cases options.set option value <;> rfl

theorem readGenerate_proceeds {before : List String}
    (h : LacksNoValue (readGenerate options before)) : Proceeds readGenerate options before := by
  -- An argument ends the reading, or it is read and the rest decides, or it lacks its value.
  induction options, before using readGenerate.induct with
  | case1 options => exact Or.inr ⟨options, fun _ => rfl⟩
  | case2 options argument rest hargument =>
      refine Or.inl ⟨.ok (.help .root), fun more => ?_⟩
      rw [List.cons_append, readGenerate, hargument]
  | case3 options argument rest hargument ih =>
      rw [readGenerate_dryRun hargument] at h
      exact (ih h).of_step fun more => readGenerate_dryRun hargument (rest ++ more)
  | case4 options argument rest hargument ih =>
      rw [readGenerate_check hargument] at h
      exact (ih h).of_step fun more => readGenerate_check hargument (rest ++ more)
  | case5 options argument rest option value hargument next hset ih =>
      have hstep (more : List String) : readGenerate options (argument :: more) =
          readGenerate next more := by
        rw [readGenerate_assigned hargument, hset]
        rfl
      rw [hstep] at h
      exact (ih h).of_step fun more => hstep (rest ++ more)
  | case6 options argument rest option value hargument error hset =>
      refine Or.inl ⟨.error error, fun more => ?_⟩
      rw [List.cons_append, readGenerate_assigned hargument, hset]
      rfl
  | case7 options argument option hargument =>
      exfalso
      apply h argument
      rw [readGenerate, hargument]
  | case8 options argument option hargument value rest next hset ih =>
      have hstep (more : List String) : readGenerate options (argument :: value :: more) =
          readGenerate next more := by
        rw [readGenerate_named hargument, hset]
        rfl
      rw [hstep] at h
      exact (ih h).of_step fun more => hstep (rest ++ more)
  | case9 options argument option hargument value rest error hset =>
      refine Or.inl ⟨.error error, fun more => ?_⟩
      rw [List.cons_append, List.cons_append, readGenerate_named hargument, hset]
      rfl
  | case10 options argument rest hargument =>
      refine Or.inl ⟨.error (.unknown argument), fun more => ?_⟩
      rw [List.cons_append, readGenerate, hargument]

end Generate

/-!
## Arguments of a run that writes a template
-/

section Init

variable {config argument : String}

theorem readInit_help (h : Argument.ofText initOptions argument = .help) (more : List String) :
    readInit config (argument :: more) = .ok (.help .init) := by
  rw [readInit.eq_def]
  dsimp only
  rw [h]

theorem readInit_assigned (h : Argument.ofText initOptions argument = .assigned option value)
    (more : List String) : readInit config (argument :: more) = readInit value more := by
  rw [readInit.eq_def]
  dsimp only
  rw [h]

theorem readInit_named (h : Argument.ofText initOptions argument = .named option)
    (more : List String) : readInit config (argument :: value :: more) = readInit value more := by
  rw [readInit.eq_def]
  dsimp only
  rw [h]

theorem readInit_alone (h : Argument.ofText initOptions argument = .named option) :
    readInit config [argument] = .error (.missingValue argument) := by
  rw [readInit.eq_def]
  dsimp only
  rw [h]

theorem readInit_unknown (hhelp : Argument.ofText initOptions argument ≠ .help)
    (hassigned : ∀ option value, Argument.ofText initOptions argument ≠ .assigned option value)
    (hnamed : ∀ option, Argument.ofText initOptions argument ≠ .named option)
    (more : List String) :
    readInit config (argument :: more) = .error (.unknown argument) := by
  rw [readInit.eq_def]
  dsimp only
  split
  · next hargument => exact absurd hargument hhelp
  · next hargument => exact absurd hargument (hassigned _ _)
  · next hargument => exact absurd hargument (hnamed _)
  · rfl

theorem readInit_other (h : Argument.ofText initOptions argument = .other) (more : List String) :
    readInit config (argument :: more) = .error (.unknown argument) := by
  apply readInit_unknown
  · rw [h]
    decide
  · intro option value hassigned
    rw [h] at hassigned
    cases hassigned
  · intro option hnamed
    rw [h] at hnamed
    cases hnamed

theorem readInit_proceeds {before : List String} (h : LacksNoValue (readInit config before)) :
    Proceeds readInit config before := by
  induction config, before using readInit.induct with
  | case1 config => exact Or.inr ⟨config, fun _ => rfl⟩
  | case2 config argument rest hargument =>
      exact Or.inl ⟨_, fun more => readInit_help hargument (rest ++ more)⟩
  | case3 config argument rest option value hargument ih =>
      rw [readInit_assigned hargument] at h
      exact (ih h).of_step fun more => readInit_assigned hargument (rest ++ more)
  | case4 config argument option hargument =>
      exact absurd (readInit_alone hargument) (h argument)
  | case5 config argument option hargument value rest ih =>
      rw [readInit_named hargument] at h
      exact (ih h).of_step fun more => readInit_named hargument (rest ++ more)
  | case6 config argument rest hhelp hassigned hnamed =>
      exact Or.inl ⟨_, fun more => readInit_unknown hhelp hassigned hnamed (rest ++ more)⟩

end Init

/-!
## Arguments of either run
-/

theorem parseArguments_init (rest : List String) :
    parseArguments ("init" :: rest) = readInit defaultConfig rest := rfl

theorem parseArguments_of_ne {argument : String} (h : argument ≠ "init") (rest : List String) :
    parseArguments (argument :: rest) = readGenerate {} (argument :: rest) := by
  unfold parseArguments
  split
  · next heq => exact absurd (List.cons.inj heq).left h
  · rfl

/-- What is read alike by both commands is read alike behind any arguments that lack no value. -/
theorem parseArguments_sameCommand {before : List String} {first second : String}
    {more more' : List String} (hbefore : LacksNoValue (parseArguments before))
    (hfirst : first ≠ "init") (hsecond : second ≠ "init")
    (hgenerate : ∀ options,
      SameCommand (readGenerate options (first :: more)) (readGenerate options (second :: more')))
    (hinit : ∀ config,
      SameCommand (readInit config (first :: more)) (readInit config (second :: more'))) :
    SameCommand (parseArguments (before ++ first :: more))
      (parseArguments (before ++ second :: more')) := by
  cases before with
  | nil =>
      rw [List.nil_append, List.nil_append, parseArguments_of_ne hfirst,
        parseArguments_of_ne hsecond]
      exact hgenerate {}
  | cons argument rest =>
      by_cases hargument : argument = "init"
      · rw [hargument, parseArguments_init] at hbefore
        rw [hargument, List.cons_append, List.cons_append, parseArguments_init,
          parseArguments_init]
        exact (readInit_proceeds hbefore).sameCommand hinit
      · rw [parseArguments_of_ne hargument] at hbefore
        rw [List.cons_append, List.cons_append, parseArguments_of_ne hargument,
          parseArguments_of_ne hargument]
        exact (readGenerate_proceeds hbefore).sameCommand hgenerate

end Rowsmith

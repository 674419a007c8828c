import Rowsmith.Failure
import Rowsmith.Proofs.Settings.Reading

/-!
# Two forms of one option

An option stands before its value, or in one argument with it. The two forms mean the same but for
values that begin like the second form: the option with its equals sign may be repeated there, and
what is repeated is lost.
-/

namespace Rowsmith

open Text

/-!
# Marks
-/

def ValueOption.mark (option : ValueOption) : String :=
  option.longName ++ "="

/-- What is left of the value when the repetitions of the mark at its front are cut off. -/
structure ValueOption.Leaves (option : ValueOption) (value rest : String) : Prop where
  repeated : ∃ n, value.toList = (List.replicate n option.mark.toList).flatten ++ rest.toList
  bare : ¬option.mark.toList <+: rest.toList

variable {option : ValueOption} {value rest : String}

theorem mem_generateOptions (option : ValueOption) : option ∈ generateOptions := by
  cases option <;> decide

theorem toList_mark (option : ValueOption) :
    option.mark.toList = option.longName.toList ++ ['='] := by
  rw [ValueOption.mark, String.toList_append]
  rfl

theorem eq_of_mark_leads {other : ValueOption}
    (h : other.mark.toList <+: option.mark.toList) : other = option := by
  have hall : ∀ o ∈ generateOptions, ∀ p ∈ generateOptions,
      o.mark.toList <+: p.mark.toList → o = p := by decide +kernel
  exact hall other (mem_generateOptions other) option (mem_generateOptions option) h

theorem exists_leaves (option : ValueOption) (value : String) :
    ∃ rest, option.Leaves value rest := by
  -- Every mark that is cut off makes the rest shorter.
  have hlist (bound : Nat) (cs : List Char) (hbound : cs.length ≤ bound) :
      ∃ n rest, cs = (List.replicate n option.mark.toList).flatten ++ rest ∧
        ¬option.mark.toList <+: rest := by
    induction bound generalizing cs with
    | zero =>
        refine ⟨0, cs, rfl, ?_⟩
        intro hmark
        have hlength := hmark.length_le
        rw [toList_mark, List.length_append] at hlength
        simp at hlength
        omega
    | succ bound ih =>
        by_cases hmark : option.mark.toList <+: cs
        · rcases hmark with ⟨more, rfl⟩
          rw [toList_mark, List.length_append, List.length_append] at hbound
          rcases ih more (by simp at hbound; omega) with ⟨n, rest, hmore, hrest⟩
          refine ⟨n + 1, rest, ?_, hrest⟩
          rw [List.replicate_succ, List.flatten_cons, List.append_assoc, ← hmore]
        · exact ⟨0, cs, rfl, hmark⟩
  rcases hlist _ value.toList (Nat.le_refl _) with ⟨n, rest, hvalue, hrest⟩
  refine ⟨String.ofList rest, ⟨n, ?_⟩, ?_⟩
  · rw [String.toList_ofList]
    exact hvalue
  · rw [String.toList_ofList]
    exact hrest

theorem leaves_self_iff :
    option.Leaves value value ↔ ¬option.mark.toList <+: value.toList := by
  constructor
  · intro h
    exact h.bare
  · intro h
    exact ⟨⟨0, rfl⟩, h⟩

theorem ValueOption.Leaves.count_lt (h : option.Leaves value rest)
    (hmark : option.mark.toList <+: value.toList) :
    rest.toList.count '=' < value.toList.count '=' := by
  rcases h.repeated with ⟨n, hvalue⟩
  cases n with
  | zero =>
      have hsame : value.toList = rest.toList := hvalue
      rw [hsame] at hmark
      exact absurd hmark h.bare
  | succ n =>
      rw [hvalue, List.replicate_succ, List.flatten_cons, toList_mark]
      simp only [List.count_append, List.count_singleton_self]
      omega

/-!
# Reading one argument
-/

theorem afterMark?_eq_none {mark cs : List Char} (h : ¬mark <+: cs) (bound : Nat) :
    afterMark? mark bound cs = none := by
  cases bound with
  | zero => rfl
  | succ bound => rw [afterMark?, if_neg fun hmark => h (List.isPrefixOf_iff_prefix.mp hmark)]

theorem afterMark?_repeated {mark cs : List Char} {n bound : Nat} (h : ¬mark <+: cs)
    (hbound : n < bound) :
    afterMark? mark bound ((List.replicate (n + 1) mark).flatten ++ cs) = some cs := by
  induction n generalizing bound with
  | zero =>
      cases bound with
      | zero => cases hbound
      | succ bound =>
          rw [List.replicate_succ, List.flatten_cons, List.append_assoc, afterMark?,
            if_pos (List.isPrefixOf_iff_prefix.mpr (List.prefix_append mark _)), List.drop_left]
          show some ((afterMark? mark bound cs).getD cs) = _
          rw [afterMark?_eq_none h]
          rfl
  | succ n ih =>
      cases bound with
      | zero => cases hbound
      | succ bound =>
          rw [List.replicate_succ, List.flatten_cons, List.append_assoc, afterMark?,
            if_pos (List.isPrefixOf_iff_prefix.mpr (List.prefix_append mark _)), List.drop_left]
          dsimp only
          rw [ih (Nat.lt_of_succ_lt_succ hbound)]
          rfl

theorem le_length_repeated (option : ValueOption) (n : Nat) :
    n ≤ (List.replicate n option.mark.toList).flatten.length := by
  induction n with
  | zero => exact Nat.zero_le _
  | succ n ih =>
      rw [List.replicate_succ, List.flatten_cons, List.length_append, toList_mark,
        List.length_append, List.length_singleton]
      rw [toList_mark] at ih
      omega

theorem assigned?_of_leaves (h : option.Leaves value rest) :
    option.assigned? (option.mark ++ value) = some rest := by
  rcases h.repeated with ⟨n, hvalue⟩
  have hargument : (option.mark ++ value).toList =
      (List.replicate (n + 1) option.mark.toList).flatten ++ rest.toList := by
    rw [String.toList_append, hvalue, List.replicate_succ, List.flatten_cons, List.append_assoc]
  have hbound : n < (option.mark ++ value).length := by
    have hlength := le_length_repeated option (n + 1)
    rw [← String.length_toList, hargument, List.length_append]
    omega
  unfold ValueOption.assigned?
  rw [← toList_mark, hargument, afterMark?_repeated h.bare hbound, Option.map_some,
    String.ofList_toList]

theorem assigned?_of_ne {other : ValueOption} (h : other ≠ option) (value : String) :
    other.assigned? (option.mark ++ value) = none := by
  unfold ValueOption.assigned?
  rw [← toList_mark, afterMark?_eq_none, Option.map_none]
  intro hmark
  rw [String.toList_append] at hmark
  rcases List.prefix_or_prefix_of_prefix hmark (List.prefix_append _ _) with hshort | hshort
  · exact h (eq_of_mark_leads hshort)
  · exact h (eq_of_mark_leads hshort).symm

theorem mark_append_ne {word : String} (hword : '=' ∉ word.toList) (option : ValueOption)
    (value : String) : option.mark ++ value ≠ word := by
  intro hsame
  apply hword
  rw [← hsame, String.toList_append, toList_mark]
  simp

theorem ofText_mark (options : List ValueOption) (option : ValueOption) (value : String) :
    Argument.ofText options (option.mark ++ value) =
      (options.findSome? fun other =>
        (other.assigned? (option.mark ++ value)).map (.assigned other)).getD .other := by
  have hne {word : String} (hword : '=' ∉ word.toList) : option.mark ++ value ≠ word :=
    mark_append_ne hword option value
  have hnames :
      options.find? (fun other => other.names.contains (option.mark ++ value)) = none := by
    rw [List.find?_eq_none]
    intro other _ hname
    have hall : ∀ o ∈ generateOptions, ∀ name ∈ o.names, '=' ∉ name.toList := by decide
    exact hne (hall other (mem_generateOptions other) _ (List.contains_iff_mem.mp hname)) rfl
  unfold Argument.ofText
  rw [if_neg, if_neg (hne (by decide)), if_neg (hne (by decide)), hnames]
  rw [not_or]
  exact ⟨hne (by decide), hne (by decide)⟩

theorem ofText_assigned {options : List ValueOption} (h : option.Leaves value rest)
    (hmem : option ∈ options) :
    Argument.ofText options (option.mark ++ value) = .assigned option rest := by
  rw [ofText_mark]
  induction options with
  | nil => cases hmem
  | cons other others ih =>
      rw [List.findSome?_cons]
      by_cases hsame : other = option
      · rw [hsame, assigned?_of_leaves h]
        rfl
      · rw [assigned?_of_ne hsame]
        exact ih ((List.mem_cons.mp hmem).resolve_left (Ne.symm hsame))

theorem ofText_unavailable {options : List ValueOption} (hmem : option ∉ options) (value : String) :
    Argument.ofText options (option.mark ++ value) = .other := by
  have hnone : options.findSome? (fun other =>
      (other.assigned? (option.mark ++ value)).map (Argument.assigned other)) = none := by
    rw [List.findSome?_eq_none_iff]
    intro other hother
    have hne : other ≠ option := by
      intro hsame
      rw [hsame] at hother
      exact hmem hother
    rw [assigned?_of_ne hne, Option.map_none]
  rw [ofText_mark, hnone]
  rfl

theorem ofText_name {name : String} (h : name ∈ option.names) :
    Argument.ofText generateOptions name = .named option := by
  have hall : ∀ o ∈ generateOptions, ∀ name ∈ o.names,
      Argument.ofText generateOptions name = .named o := by decide
  exact hall option (mem_generateOptions option) name h

theorem longName_mem_names (option : ValueOption) : option.longName ∈ option.names := by
  cases option <;> decide

theorem ofText_longName (option : ValueOption) :
    Argument.ofText generateOptions option.longName = .named option :=
  ofText_name (longName_mem_names option)

/-!
# The two forms
-/

theorem name_ne_init {name : String} (h : name ∈ option.names) : name ≠ "init" := by
  intro hsame
  subst hsame
  revert h
  cases option <;> decide

theorem longName_ne_init (option : ValueOption) : option.longName ≠ "init" :=
  name_ne_init (longName_mem_names option)

/-- In one argument with its mark, a value is read like what is left of it. -/
theorem readGenerate_forms (h : option.Leaves value rest) (options : GenerateOptions)
    (more : List String) :
    readGenerate options ((option.mark ++ value) :: more) =
      readGenerate options (option.longName :: rest :: more) := by
  rw [readGenerate_assigned (ofText_assigned h (mem_generateOptions option)),
    readGenerate_named (ofText_longName option)]

theorem readInit_forms (h : option.Leaves value rest) (config : String) (more : List String) :
    SameCommand (readInit config ((option.mark ++ value) :: more))
      (readInit config (option.longName :: rest :: more)) := by
  by_cases hoption : option = .config
  · have hname : Argument.ofText initOptions option.longName = .named .config := by
      rw [hoption]
      decide
    rw [readInit_assigned (ofText_assigned h (by rw [hoption]; decide)), readInit_named hname]
    rfl
  · have hmem : option ∉ initOptions := fun hmem => hoption (List.mem_singleton.mp hmem)
    have hname : Argument.ofText initOptions option.longName = .other := by
      revert hoption
      cases option <;> decide
    rw [readInit_other (ofText_unavailable hmem value), readInit_other hname]
    rfl

theorem parseArguments_forms (h : option.Leaves value rest) {before : List String}
    (hbefore : LacksNoValue (parseArguments before)) (after : List String) :
    SameCommand (parseArguments (before ++ (option.mark ++ value) :: after))
      (parseArguments (before ++ option.longName :: rest :: after)) := by
  apply parseArguments_sameCommand hbefore (mark_append_ne (by decide) option value)
    (longName_ne_init option)
  · intro options
    rw [readGenerate_forms h]
    rfl
  · intro config
    exact readInit_forms h config after

/-!
# Values that differ
-/

theorem parseArguments_separate (option : ValueOption) (value : String) :
    parseArguments [option.longName, value] =
      ({} : GenerateOptions).set option value >>= GenerateOptions.finish := by
  rw [parseArguments_of_ne (longName_ne_init option), readGenerate_named (ofText_longName option)]
  rfl

theorem isBlankText_of_count_lt {s : String} {n : Nat} (h : n < s.toList.count '=') :
    isBlankText s = false := by
  have hmem : '=' ∈ s.toList := List.count_pos_iff.mp (Nat.lt_of_le_of_lt (Nat.zero_le n) h)
  rw [isBlankText, Bool.eq_false_iff]
  intro hall
  have hblank := List.all_eq_true.mp hall '=' hmem
  revert hblank
  decide

theorem separate_tables_differ (h : rest.toList.count '=' < value.toList.count '=') :
    ¬SameCommand (({} : GenerateOptions).set .table rest >>= GenerateOptions.finish)
      (({} : GenerateOptions).set .table value >>= GenerateOptions.finish) := by
  have hfinish (table : String) :
      ({} : GenerateOptions).set .table table >>= GenerateOptions.finish =
        if isBlankText table then .error .emptyTable
        else .ok (.generate { table := some table }) := rfl
  rw [hfinish value, isBlankText_of_count_lt h, hfinish]
  intro hsame
  split at hsame
  · cases hsame
  · cases hsame
    exact Nat.lt_irrefl _ h

theorem separate_schemas_differ (h : rest.toList.count '=' < value.toList.count '=') :
    ¬SameCommand (({} : GenerateOptions).set .schema rest >>= GenerateOptions.finish)
      (({} : GenerateOptions).set .schema value >>= GenerateOptions.finish) := by
  have hfinish (list : String) :
      ({} : GenerateOptions).set .schema list >>= GenerateOptions.finish =
        if (schemaNames list).isEmpty then .error .emptySchema
        else .ok (.generate { schemas := some (schemaNames list) }) := by
    unfold GenerateOptions.set
    dsimp only
    split <;> rfl
  -- A list keeps its equals signs when it is cut into names, so there are some in a name.
  have hcount (list : String) := count_schemaNames (c := '=') (by decide) (by decide) list
  have hlisted : (schemaNames value).isEmpty = false := by
    rw [Bool.eq_false_iff]
    intro hempty
    have hzero := hcount value
    rw [List.isEmpty_iff.mp hempty, List.flatMap_nil, List.count_nil] at hzero
    omega
  rw [hfinish value, hlisted, hfinish]
  intro hsame
  split at hsame
  · cases hsame
  · have hlists : schemaNames rest = schemaNames value :=
      Option.some.inj (congrArg GenerateOptions.schemas
        (Command.generate.inj (Option.some.inj hsame)))
    have hrest := hcount rest
    rw [hlists, hcount value] at hrest
    omega

theorem separate_forms_differ (h : rest.toList.count '=' < value.toList.count '=') :
    ¬SameCommand (parseArguments [option.longName, rest])
      (parseArguments [option.longName, value]) := by
  have hne : rest ≠ value := by
    intro hsame
    rw [hsame] at h
    exact Nat.lt_irrefl _ h
  rw [parseArguments_separate, parseArguments_separate]
  cases option with
  | config =>
      intro hsame
      cases hsame
      exact hne rfl
  | url =>
      intro hsame
      cases hsame
      exact hne rfl
  | directory =>
      intro hsame
      cases hsame
      exact hne rfl
  | table => exact separate_tables_differ h
  | schema => exact separate_schemas_differ h

/-- In one argument with its option a value counts as what is left of it when the repetitions of the
option are cut off its front. So the two forms of the option mean the same wherever an option may
stand exactly if there are none. -/
theorem forms_mean_same_iff (option : ValueOption) (value : String) :
    (∃ rest, option.Leaves value rest ∧
        ∀ before after, LacksNoValue (parseArguments before) →
          SameCommand (parseArguments (before ++ (option.mark ++ value) :: after))
            (parseArguments (before ++ option.longName :: rest :: after))) ∧
      ((∀ before after, LacksNoValue (parseArguments before) →
          SameCommand (parseArguments (before ++ (option.mark ++ value) :: after))
            (parseArguments (before ++ option.longName :: value :: after))) ↔
        ¬option.mark.toList <+: value.toList) := by
  rcases exists_leaves option value with ⟨rest, hrest⟩
  have hlaw : ∀ before after, LacksNoValue (parseArguments before) →
      SameCommand (parseArguments (before ++ (option.mark ++ value) :: after))
        (parseArguments (before ++ option.longName :: rest :: after)) := by
    intro before after hbefore
    exact parseArguments_forms hrest hbefore after
  refine ⟨⟨rest, hrest, hlaw⟩, ?_, ?_⟩
  · intro hsame hmark
    have hnothing : LacksNoValue (parseArguments []) := by
      intro argument hmissing
      cases hmissing
    have hleft := hlaw [] [] hnothing
    have hright := hsame [] [] hnothing
    exact separate_forms_differ (hrest.count_lt hmark) (hleft.symm.trans hright)
  · intro hmark before after hbefore
    exact parseArguments_forms (leaves_self_iff.mpr hmark) hbefore after

/-- A value that looks like another option, after one option and before another. -/
theorem option_as_value_means_same :
    LacksNoValue (parseArguments ["--schema", "public"]) ∧
      ¬ValueOption.url.mark.toList <+: "--dir=x".toList ∧
      SameCommand (parseArguments ["--schema", "public", "--url=--dir=x", "--check"])
        (parseArguments ["--schema", "public", "--url", "--dir=x", "--check"]) := by
  have hread : parseArguments ["--schema", "public"] =
      .ok (.generate { schemas := some ["public"] }) := by decide +kernel
  have hbefore : LacksNoValue (parseArguments ["--schema", "public"]) := by
    intro argument hmissing
    rw [hread] at hmissing
    cases hmissing
  have hmark : ¬ValueOption.url.mark.toList <+: "--dir=x".toList := by decide
  have hargument : ValueOption.url.mark ++ "--dir=x" = "--url=--dir=x" := by decide +kernel
  have hsame := (forms_mean_same_iff .url "--dir=x").right.mpr hmark _ ["--check"] hbefore
  rw [hargument] at hsame
  exact ⟨hbefore, hmark, hsame⟩

/-- What begins like the option itself is cut off an address, off a path, and off the name of a
table, of which nothing is left. -/
theorem repeated_option_is_lost :
    parseArguments ["--url=--url=x"] = .ok (.generate { url := some "x" }) ∧
      parseArguments ["--url", "--url=x"] = .ok (.generate { url := some "--url=x" }) ∧
    parseArguments ["init", "--config=--config=x"] = .ok (.init "x") ∧
      parseArguments ["init", "--config", "--config=x"] = .ok (.init "--config=x") ∧
    parseArguments ["--table=--table="] = .error .emptyTable ∧
      parseArguments ["--table", "--table="] =
        .ok (.generate { table := some "--table=" }) := by
  decide +kernel

end Rowsmith

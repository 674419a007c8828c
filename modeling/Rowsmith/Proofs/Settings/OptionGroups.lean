import Rowsmith.Proofs.Basic
import Rowsmith.Proofs.Settings.Forms

/-!
# Options in any order

Options with their values in the next argument are read in groups, whatever the values look like. Of
the groups of one option only the last counts, so groups of different options may change places.
Lists of schemas are looked at one by one as they are read, and all else is looked at when the last
group has been read.
-/

namespace Rowsmith

open Text

/-- An option with its value in the next argument, or a switch. -/
inductive OptionGroup where
  | valued (option : ValueOption) (name value : String) (named : name ∈ option.names)
  | dryRun
  | check
  deriving DecidableEq

namespace OptionGroup

variable {groups others : List OptionGroup} {group : OptionGroup}

def arguments : OptionGroup → List String
  | valued _ name value _ => [name, value]
  | dryRun => ["--dry-run"]
  | check => ["--check"]

def subject : OptionGroup → Argument
  | valued option _ _ _ => .named option
  | dryRun => .dryRun
  | check => .check

def value? (option : ValueOption) : OptionGroup → Option String
  | valued own _ value _ => if own = option then some value else none
  | dryRun => none
  | check => none

theorem subject_eq_of_value? {option : ValueOption} {value : String}
    (h : group.value? option = some value) : group.subject = .named option := by
  cases group with
  | valued own name said named =>
      rw [value?, Option.ite_none_right_eq_some] at h
      rw [subject, h.left]
  | dryRun => cases h
  | check => cases h

/-- What the last group of each option says. -/
def given (groups : List OptionGroup) : GenerateOptions where
  config := lastGiven (value? .config) groups
  url := lastGiven (value? .url) groups
  directory := lastGiven (value? .directory) groups
  table := lastGiven (value? .table) groups
  schemas := (lastGiven (value? .schema) groups).map schemaNames
  dryRun := decide (dryRun ∈ groups)
  check := decide (check ∈ groups)

/-- No list of schemas is without an entry, not even one that does not count. -/
def SchemasListed (groups : List OptionGroup) : Prop :=
  ∀ group ∈ groups, ∀ list, group.value? .schema = some list → HasEntry list

structure Acceptable (groups : List OptionGroup) : Prop where
  schemas : SchemasListed groups
  switches : ¬(dryRun ∈ groups ∧ check ∈ groups)
  table : ∀ name, lastGiven (value? .table) groups = some name → isBlankText name = false

/-!
# Reading groups
-/

theorem readGenerate_group (h : ∀ list, group.value? .schema = some list → HasEntry list)
    (before : List OptionGroup) (more : List String) :
    readGenerate (given before) (group.arguments ++ more) =
      readGenerate (given (before ++ [group])) more := by
  cases group with
  | dryRun =>
      show readGenerate (given before) ("--dry-run" :: more) = _
      rw [readGenerate_dryRun (by decide)]
      simp [given, lastGiven_concat, value?]
  | check =>
      show readGenerate (given before) ("--check" :: more) = _
      rw [readGenerate_check (by decide)]
      simp [given, lastGiven_concat, value?]
  | valued option name value named =>
      show readGenerate (given before) (name :: value :: more) = _
      have hset : (given before).set option value =
          .ok (given (before ++ [valued option name value named])) := by
        -- Only the option for schemas can refuse its value.
        cases option with
        | schema =>
            have hnames : (schemaNames value).isEmpty = false :=
              List.isEmpty_eq_false_iff.mpr (schemaNames_ne_nil_iff.mpr (h value rfl))
            simp [GenerateOptions.set, hnames, given, lastGiven_concat, value?]
        | _ => simp [GenerateOptions.set, given, lastGiven_concat, value?]
      rw [readGenerate_named (ofText_name named), hset]
      rfl

theorem readGenerate_emptyList {list : String} (h : group.value? .schema = some list)
    (hlist : ¬HasEntry list) (options : GenerateOptions) (more : List String) :
    readGenerate options (group.arguments ++ more) = .error .emptySchema := by
  cases group with
  | dryRun => cases h
  | check => cases h
  | valued option name value named =>
      rcases Option.ite_none_right_eq_some.mp h with ⟨rfl, hvalue⟩
      cases hvalue
      have hnames : (schemaNames list).isEmpty = true := by
        rw [List.isEmpty_iff]
        by_contra hne
        exact hlist (schemaNames_ne_nil_iff.mp hne)
      show readGenerate options (name :: list :: more) = _
      rw [readGenerate_named (ofText_name named), GenerateOptions.set, if_pos hnames]
      rfl

theorem readGenerate_groups (h : SchemasListed groups) (before : List OptionGroup)
    (more : List String) :
    readGenerate (given before) (groups.flatMap arguments ++ more) =
      readGenerate (given (before ++ groups)) more := by
  induction groups generalizing before with
  | nil => rw [List.append_nil, List.flatMap_nil, List.nil_append]
  | cons group rest ih =>
      rcases List.forall_mem_cons.mp h with ⟨hgroup, hrest⟩
      rw [List.flatMap_cons, List.append_assoc, readGenerate_group hgroup, ih hrest,
        List.append_assoc]
      rfl

theorem readGenerate_unlisted (h : ¬SchemasListed groups) (before : List OptionGroup)
    (more : List String) :
    readGenerate (given before) (groups.flatMap arguments ++ more) = .error .emptySchema := by
  induction groups generalizing before with
  | nil =>
      exfalso
      apply h
      intro group hgroup
      cases hgroup
  | cons group rest ih =>
      rw [List.flatMap_cons, List.append_assoc]
      by_cases hgroup : ∀ list, group.value? .schema = some list → HasEntry list
      · rw [readGenerate_group hgroup]
        apply ih
        intro hrest
        exact h (List.forall_mem_cons.mpr ⟨hgroup, hrest⟩)
      · push Not at hgroup
        rcases hgroup with ⟨list, hvalue, hlist⟩
        exact readGenerate_emptyList hvalue hlist _ _

theorem parseArguments_groups (groups : List OptionGroup) (more : List String)
    (h : more.head? ≠ some "init") :
    parseArguments (groups.flatMap arguments ++ more) =
      readGenerate (given []) (groups.flatMap arguments ++ more) := by
  cases groups with
  | nil =>
      cases more with
      | nil => rfl
      | cons word more => exact parseArguments_of_ne (fun hword => h (congrArg some hword)) more
  | cons group rest =>
      cases group with
      | dryRun => exact parseArguments_of_ne (by decide) _
      | check => exact parseArguments_of_ne (by decide) _
      | valued option name value named => exact parseArguments_of_ne (name_ne_init named) _

/-!
# What comes of the groups
-/

theorem parseArguments_of_listed (h : SchemasListed groups) :
    parseArguments (groups.flatMap arguments) = (given groups).finish := by
  have hread := parseArguments_groups groups [] (by simp)
  rw [readGenerate_groups h] at hread
  rwa [List.append_nil] at hread

theorem parseArguments_of_unlisted (h : ¬SchemasListed groups) :
    parseArguments (groups.flatMap arguments) = .error .emptySchema := by
  have hread := parseArguments_groups groups [] (by simp)
  rw [readGenerate_unlisted h] at hread
  rwa [List.append_nil] at hread

theorem finish_given_of_acceptable (h : Acceptable groups) :
    (given groups).finish = .ok (.generate (given groups)) := by
  unfold GenerateOptions.finish
  rw [if_neg, if_neg]
  · intro hblank
    rcases (Option.any_eq_true _ _).mp hblank with ⟨name, hname, hblank⟩
    rw [h.table name hname] at hblank
    cases hblank
  · intro hboth
    apply h.switches
    simpa [given] using hboth

theorem acceptable_of_ok {command : Command}
    (h : parseArguments (groups.flatMap arguments) = .ok command) : Acceptable groups := by
  have hlisted : SchemasListed groups := by
    by_contra hlisted
    rw [parseArguments_of_unlisted hlisted] at h
    cases h
  rw [parseArguments_of_listed hlisted, GenerateOptions.finish] at h
  refine ⟨hlisted, ?_, ?_⟩
  · intro hboth
    rw [if_pos (by simpa [given] using hboth)] at h
    cases h
  · intro name hname
    cases hblank : isBlankText name with
    | false => rfl
    | true =>
        have htable : (given groups).table.any isBlankText = true :=
          (Option.any_eq_true _ _).mpr ⟨name, hname, hblank⟩
        rw [if_pos htable] at h
        split at h <;> cases h

/-!
# Groups in another order
-/

/-- The groups of each option are the same in the same order. -/
def SameBySubject (groups others : List OptionGroup) : Prop :=
  ∀ subject, groups.filter (·.subject = subject) = others.filter (·.subject = subject)

theorem SameBySubject.symm (h : SameBySubject groups others) : SameBySubject others groups :=
  fun subject => (h subject).symm

theorem SameBySubject.mem (h : SameBySubject groups others) (hgroup : group ∈ groups) :
    group ∈ others := by
  have hmem : group ∈ groups.filter (·.subject = group.subject) :=
    List.mem_filter.mpr ⟨hgroup, decide_eq_true rfl⟩
  rw [h] at hmem
  exact (List.mem_filter.mp hmem).left

theorem SameBySubject.mem_iff (h : SameBySubject groups others) :
    group ∈ groups ↔ group ∈ others :=
  ⟨h.mem, h.symm.mem⟩

theorem SameBySubject.lastGiven_eq (h : SameBySubject groups others) (option : ValueOption) :
    lastGiven (value? option) groups = lastGiven (value? option) others := by
  have hkeep : ∀ group : OptionGroup, decide (group.subject = .named option) = false →
      group.value? option = none := by
    intro group hsubject
    rw [Option.eq_none_iff_forall_ne_some]
    intro value hvalue
    exact of_decide_eq_false hsubject (subject_eq_of_value? hvalue)
  rw [← lastGiven_filter hkeep groups, h, lastGiven_filter hkeep others]

theorem SameBySubject.given_eq (h : SameBySubject groups others) : given groups = given others := by
  simp only [given, h.lastGiven_eq, h.mem_iff]

theorem SameBySubject.schemasListed_iff (h : SameBySubject groups others) :
    SchemasListed groups ↔ SchemasListed others := by
  simp only [SchemasListed, h.mem_iff]

theorem SameBySubject.parseArguments_eq (h : SameBySubject groups others) :
    parseArguments (groups.flatMap arguments) = parseArguments (others.flatMap arguments) := by
  by_cases hlisted : SchemasListed groups
  · rw [parseArguments_of_listed hlisted, parseArguments_of_listed (h.schemasListed_iff.mp hlisted),
      h.given_eq]
  · rw [parseArguments_of_unlisted hlisted,
      parseArguments_of_unlisted fun hothers => hlisted (h.schemasListed_iff.mpr hothers)]

/-!
# Help between groups
-/

theorem parseArguments_help_iff {word : String} (h : word ∈ ["-h", "--help"])
    (more : List String) :
    parseArguments (groups.flatMap arguments ++ word :: more) = .ok (.help .root) ↔
      SchemasListed groups := by
  have hword : word ≠ "init" ∧ Argument.ofText generateOptions word = .help := by
    revert word
    decide
  have hinit : (word :: more).head? ≠ some "init" := fun hhead => hword.left (Option.some.inj hhead)
  rw [parseArguments_groups groups _ hinit]
  by_cases hlisted : SchemasListed groups
  · rw [readGenerate_groups hlisted, readGenerate, hword.right]
    exact iff_of_true rfl hlisted
  · rw [readGenerate_unlisted hlisted]
    exact iff_of_false (fun hhelp => by cases hhelp) hlisted

end OptionGroup

open OptionGroup

/-- Options in groups are read if every list of schemas has an entry, the switches are not both
there, and the last table has a name. Then the last group of each option counts, wherever the groups
of other options stand. Help after some groups is given if every list before it has an entry. -/
theorem last_group_of_option_counts (groups : List OptionGroup) :
    ((∃ command, parseArguments (groups.flatMap arguments) = .ok command) ↔ Acceptable groups) ∧
      (Acceptable groups →
        parseArguments (groups.flatMap arguments) = .ok (.generate (given groups))) ∧
      (∀ others, SameBySubject groups others →
        parseArguments (groups.flatMap arguments) = parseArguments (others.flatMap arguments)) ∧
      ∀ word ∈ ["-h", "--help"], ∀ more,
        (parseArguments (groups.flatMap arguments ++ word :: more) = .ok (.help .root) ↔
          SchemasListed groups) := by
  have hread (h : Acceptable groups) :
      parseArguments (groups.flatMap arguments) = .ok (.generate (given groups)) := by
    rw [parseArguments_of_listed h.schemas, finish_given_of_acceptable h]
  refine ⟨⟨?_, ?_⟩, hread, ?_, ?_⟩
  · intro hexists
    rcases hexists with ⟨command, hcommand⟩
    exact acceptable_of_ok hcommand
  · intro hacceptable
    exact ⟨_, hread hacceptable⟩
  · intro others hothers
    exact hothers.parseArguments_eq
  · intro word hword more
    exact parseArguments_help_iff hword more

/-- Values that look like other arguments, a blank table that does not count, and groups that have
changed places. -/
theorem values_like_arguments_count :
    let blank : OptionGroup := .valued .table "-t" " " (by decide)
    let table : OptionGroup := .valued .table "--table" "--dry-run" (by decide)
    let schemas : OptionGroup := .valued .schema "--schema" "init," (by decide)
    let url : OptionGroup := .valued .url "-u" "-h" (by decide)
    let options : GenerateOptions :=
      { url := some "-h", table := some "--dry-run", schemas := some ["init"], check := true }
    Acceptable [blank, schemas, .check, table, url] ∧
      SameBySubject [blank, schemas, .check, table, url] [url, blank, table, .check, schemas] ∧
      parseArguments ["-u", "-h", "-t", " ", "--table", "--dry-run", "--check", "--schema",
        "init,"] = .ok (.generate options) ∧
      parseArguments ["-t", " ", "--schema", "init,", "--check", "--help", "--schema", " "] =
        .ok (.help .root) := by
  intro blank table schemas url options
  have hentry : HasEntry "init," := ⟨['i', 'n', 'i', 't'], by decide, 'i', by decide, by decide⟩
  have hlisted : SchemasListed [blank, schemas, .check, table, url] := by
    intro group hgroup list hlist
    simp only [List.mem_cons, List.not_mem_nil, or_false] at hgroup
    rcases hgroup with rfl | rfl | rfl | rfl | rfl <;> cases hlist
    exact hentry
  have hacceptable : Acceptable [blank, schemas, .check, table, url] := by
    refine ⟨hlisted, by decide, ?_⟩
    intro _ hsome
    cases hsome
    decide
  have hsame : SameBySubject [blank, schemas, .check, table, url]
      [url, blank, table, .check, schemas] := by
    intro subject
    cases subject with
    | named option => cases option <;> rfl
    | _ => rfl
  have hgiven : given [blank, schemas, .check, table, url] = options := by decide +kernel
  rcases last_group_of_option_counts [blank, schemas, .check, table, url] with
    ⟨_, hread, hreorder, _⟩
  refine ⟨hacceptable, hsame, ?_, ?_⟩
  · exact (hreorder _ hsame).symm.trans ((hread hacceptable).trans (by rw [hgiven]))
  · apply ((last_group_of_option_counts [blank, schemas, .check]).right.right.right "--help"
      (by decide) ["--schema", " "]).mpr
    intro group hgroup
    exact hlisted group (List.mem_append_left [table, url] hgroup)

end Rowsmith

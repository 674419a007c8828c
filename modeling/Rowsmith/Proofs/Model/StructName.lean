import Rowsmith.Proofs.Model.Keyword

/-!
# Legal names of structs and constants

A struct is named by the letters and digits of its table, and a constant by those of its column.
Both names are spelled like identifiers and are no keywords. A constant's name is made from
characters that are in ASCII already, so that some of them are left. A struct's name is put into
ASCII at the end, and if it is a single character by then, nothing but an underscore may be left.
-/

namespace Rowsmith

open Text

/-- A word spelled like an identifier that the language does not keep for itself. -/
structure IsFreeName (name : String) : Prop where
  word : IsAsciiWord name.toList
  free : name ∉ languageKeywords

/-- A capital or an underscore, and then any of these and digits. -/
structure IsShoutyWord (word : List Char) : Prop where
  first : ∃ c rest, word = c :: rest ∧ (isCapital c = true ∨ c = '_')
  parts : ∀ c ∈ word, isCapital c = true ∨ c = '_' ∨ isDigit c = true

/-- The text has one letter or digit, and its capital is one character beyond ASCII. -/
def IsLoneForeign (cs : List Char) : Prop :=
  ∃ c d, cs.filter isAlphanumeric = [c] ∧ toUpper c = [d] ∧ isAsciiAlphanumeric d = false

/-!
# Names in upper camel case
-/

theorem toUpper_ne_nil (c : Char) : toUpper c ≠ [] := by
  rcases beginsUpright_toUpper c with ⟨d, rest, hupper, _⟩
  rw [hupper]
  exact List.cons_ne_nil d rest

theorem toLower_ne_nil (c : Char) : toLower c ≠ [] := by
  unfold toLower
  split
  · exact List.cons_ne_nil _ _
  · split
    · exact List.cons_ne_nil _ _
    · exact List.cons_ne_nil _ _

theorem capitalize_ne_nil {word : List Char} (h : word ≠ []) : capitalize word ≠ [] := by
  cases word with
  | nil => exact absurd rfl h
  | cons c rest => exact List.append_ne_nil_of_left_ne_nil (toUpper_ne_nil c) _

theorem flatMap_eq_nil {α : Type} {f : α → List Char} {members : List α}
    (hf : ∀ a ∈ members, f a ≠ []) (h : members.flatMap f = []) : members = [] := by
  cases members with
  | nil => rfl
  | cons a rest =>
      rw [List.flatMap_cons, List.append_eq_nil_iff] at h
      exact absurd h.left (hf a List.mem_cons_self)

theorem flatMap_eq_singleton {α : Type} {f : α → List Char} {members : List α} {d : Char}
    (hf : ∀ a ∈ members, f a ≠ []) (h : members.flatMap f = [d]) :
    ∃ a, members = [a] ∧ f a = [d] := by
  cases members with
  | nil => cases h
  | cons a rest =>
      rcases List.forall_mem_cons.mp hf with ⟨hfirst, hothers⟩
      rw [List.flatMap_cons] at h
      rcases List.append_eq_singleton_iff.mp h with ⟨hnone, _⟩ | ⟨hlone, hrest⟩
      · exact absurd hnone hfirst
      · rw [flatMap_eq_nil hothers hrest]
        exact ⟨a, rfl, hlone⟩

theorem nameWords_eq_singleton_iff {cs : List Char} {c : Char} :
    nameWords cs = [[c]] ↔ cs.filter isAlphanumeric = [c] := by
  rw [← flatten_nameWords]
  constructor
  · intro h
    rw [h]
    rfl
  · intro h
    have hwords : ∀ word ∈ nameWords cs, id word ≠ [] := fun _ => ne_nil_of_mem_nameWords
    rw [← List.flatMap_id] at h
    rcases flatMap_eq_singleton hwords h with ⟨word, hlist, hword⟩
    rw [hlist, show word = [c] from hword]

theorem upperCamelCase_eq_singleton_iff {cs : List Char} {d : Char} :
    upperCamelCase cs = [d] ↔ ∃ c, cs.filter isAlphanumeric = [c] ∧ toUpper c = [d] := by
  constructor
  · intro h
    have hwords : ∀ word ∈ nameWords cs, capitalize word ≠ [] :=
      fun _ hword => capitalize_ne_nil (ne_nil_of_mem_nameWords hword)
    rcases flatMap_eq_singleton hwords h with ⟨word, hlist, hword⟩
    cases word with
    | nil => cases hword
    | cons c more =>
        rcases List.append_eq_singleton_iff.mp hword with ⟨hupper, _⟩ | ⟨hupper, hmore⟩
        · exact absurd hupper (toUpper_ne_nil c)
        · rw [flatMap_eq_nil (fun e _ => toLower_ne_nil e) hmore] at hlist
          exact ⟨c, nameWords_eq_singleton_iff.mp hlist, hupper⟩
  · intro h
    rcases h with ⟨c, hcs, hupper⟩
    unfold upperCamelCase
    rw [nameWords_eq_singleton_iff.mpr hcs]
    show toUpper c ++ [] ++ [] = [d]
    rw [hupper]
    rfl

/-!
# Names of structs
-/

theorem typeWord_eq_underscore_iff {cs : List Char} (hne : cs ≠ []) :
    typeWord cs = ['_'] ↔ ∃ d, cs = [d] ∧ isAsciiAlphanumeric d = false := by
  cases cs with
  | nil => exact absurd rfl hne
  | cons d rest =>
      have hword : typeWord (d :: rest) =
          guardDigit ((if isAsciiAlphanumeric d then d else '_') :: asciiWord rest) := rfl
      rw [hword, guardDigit]
      cases hd : isAsciiAlphanumeric d with
      | false => simp [asciiWord, hd, isDigit]
      | true =>
          have hunderscore : d ≠ '_' := by
            intro hsame
            rw [hsame] at hd
            cases hd
          rw [if_pos rfl]
          constructor
          · intro h
            split at h
            · cases h
            · exact absurd (List.cons.inj h).left hunderscore
          · intro h
            rcases h with ⟨e, he, hforeign⟩
            rw [← (List.cons.inj he).left, hd] at hforeign
            cases hforeign

theorem structName_of_ne_self {table : String} (hne : upperCamelCase table.toList ≠ [])
    (hself : String.ofList (typeWord (upperCamelCase table.toList)) ≠ "Self") :
    structName table = String.ofList (typeWord (upperCamelCase table.toList)) := by
  have hempty : ¬(upperCamelCase table.toList).isEmpty = true :=
    fun h => hne (List.isEmpty_iff.mp h)
  unfold structName
  dsimp only
  rw [if_neg hempty, if_neg hself]

theorem structName_ne_self (table : String) : structName table ≠ "Self" := by
  unfold structName
  dsimp only
  generalize (if (upperCamelCase table.toList).isEmpty then "Table"
    else String.ofList (typeWord (upperCamelCase table.toList))) = word
  split
  · decide
  · next hself => exact hself

/-- Only a single foreign letter or digit leaves nothing but an underscore. -/
theorem structName_eq_underscore_iff (table : String) :
    structName table = "_" ↔ IsLoneForeign table.toList := by
  constructor
  · intro h
    rcases structName_eq table with htable | hself | ⟨hne, hcamel⟩
    · rw [htable] at h
      exact absurd h (by decide)
    · rw [hself] at h
      exact absurd h (by decide)
    · have hword : typeWord (upperCamelCase table.toList) = ['_'] := by
        rw [hcamel] at h
        exact String.ofList_injective h
      rcases (typeWord_eq_underscore_iff hne).mp hword with ⟨d, hd, hforeign⟩
      rcases upperCamelCase_eq_singleton_iff.mp hd with ⟨c, hc, hupper⟩
      exact ⟨c, d, hc, hupper, hforeign⟩
  · intro h
    rcases h with ⟨c, d, hc, hupper, hforeign⟩
    have hcamel : upperCamelCase table.toList = [d] :=
      upperCamelCase_eq_singleton_iff.mpr ⟨c, hc, hupper⟩
    have hne : upperCamelCase table.toList ≠ [] := by
      rw [hcamel]
      exact List.cons_ne_nil d []
    have hword : typeWord (upperCamelCase table.toList) = ['_'] :=
      (typeWord_eq_underscore_iff hne).mpr ⟨d, hcamel, hforeign⟩
    have hname : structName table = String.ofList (typeWord (upperCamelCase table.toList)) := by
      apply structName_of_ne_self hne
      rw [hword]
      decide
    rw [hname, hword]

theorem isFreeName_structName (table : String) : IsFreeName (structName table) := by
  refine ⟨isAsciiWord_structName table, ?_⟩
  intro hkeyword
  have hsmall : ∀ word ∈ languageKeywords, word ≠ "Self" →
      word.toList.head?.any isSmall = true := by decide
  rcases beginsUpright_structName table with ⟨c, rest, hfirst, hc⟩
  have hbegins := hsmall _ hkeyword (structName_ne_self table)
  rw [hfirst] at hbegins
  rw [show isSmall c = true from hbegins] at hc
  cases hc

/-!
# Names of constants
-/

theorem toUpper_wordChar {c : Char} (h : isWordChar c = true) :
    (isAlphanumeric c = true → toUpper c ≠ [] ∧ '_' ∉ toUpper c) ∧
      ∀ d ∈ toUpper c, isSmall d = false := by
  have hall := wordChar_all
    (p := fun c => (!isAlphanumeric c || !(toUpper c).contains '_') &&
      (toUpper c).all fun d => !isSmall d) (by decide) h
  rw [Bool.and_eq_true, List.all_eq_true] at hall
  constructor
  · intro halnum
    refine ⟨toUpper_ne_nil c, ?_⟩
    simpa [halnum] using hall.left
  · intro d hd
    simpa using hall.right d hd

theorem allWordChars_typeWord (name : List Char) : AllWordChars (typeWord name) :=
  allWordChars_guardDigit (allWordChars_orElse (by decide) (allWordChars_asciiWord name))

theorem isSmall_shoutySnakeCase {name : List Char} (h : AllWordChars name) {c : Char}
    (hc : c ∈ shoutySnakeCase name) : isSmall c = false := by
  rcases mem_intercalate hc with hc | ⟨part, hpart, hc⟩
  · rw [List.mem_singleton.mp hc]
    rfl
  · rcases List.mem_map.mp hpart with ⟨word, hword, rfl⟩
    rcases List.mem_flatMap.mp hc with ⟨d, hd, hc⟩
    exact (toUpper_wordChar (h d (mem_nameWords hword hd).left)).right c hc

theorem constantName_eq (column : String) :
    constantName column = "TABLE_COLUMN" ∨ (constantName column).toList =
      guardDigit (orElse "COLUMN" (shoutySnakeCase (typeWord column.toList))) := by
  unfold constantName
  dsimp only
  split
  · exact Or.inl rfl
  · exact Or.inr String.toList_ofList

theorem isSmall_constantName {column : String} {c : Char}
    (h : c ∈ (constantName column).toList) : isSmall c = false := by
  have hfixed : ("COLUMN".toList.all fun d => !isSmall d) = true ∧
      ("TABLE_COLUMN".toList.all fun d => !isSmall d) = true := ⟨rfl, rfl⟩
  simp only [List.all_eq_true, Bool.not_eq_true'] at hfixed
  rcases constantName_eq column with hname | hname
  · rw [hname] at h
    exact hfixed.right c h
  · rw [hname] at h
    rcases mem_guardDigit h with rfl | h
    · rfl
    · rcases mem_orElse h with h | h
      · exact hfixed.left c h
      · exact isSmall_shoutySnakeCase (allWordChars_typeWord _) h

theorem constantName_ne_underscore (column : String) : constantName column ≠ "_" := by
  intro h
  rcases constantName_eq column with hname | hname
  · rw [hname] at h
    exact absurd h (by decide)
  · rw [h] at hname
    revert hname
    apply Ne.symm
    apply guarded_ne_underscore (by decide)
    intro hshouty
    have hchange := fun d (hd : isWordChar d = true) => (toUpper_wordChar hd).left
    exact joined_first hchange (allWordChars_typeWord _) hshouty rfl

theorem isShoutyWord_constantName (column : String) :
    IsShoutyWord (constantName column).toList := by
  have hword := isAsciiWord_constantName column
  have hparts : ∀ c ∈ (constantName column).toList,
      isCapital c = true ∨ c = '_' ∨ isDigit c = true := by
    intro c hc
    rcases wordChar_cases (hword.parts c hc) with hsmall | hother
    · rw [isSmall_constantName hc] at hsmall
      cases hsmall
    · exact hother
  constructor
  · rcases hword.first with ⟨c, rest, hfirst, hdigit⟩
    refine ⟨c, rest, hfirst, ?_⟩
    rcases hparts c (by rw [hfirst]; exact List.mem_cons_self) with hcapital | hother | hdigit'
    · exact Or.inl hcapital
    · exact Or.inr hother
    · rw [hdigit] at hdigit'
      cases hdigit'
  · exact hparts

theorem isFreeName_constantName (column : String) : IsFreeName (constantName column) := by
  refine ⟨isAsciiWord_constantName column, ?_⟩
  intro hkeyword
  have hsmall : ∀ word ∈ languageKeywords, word.toList.any isSmall = true := by decide
  rcases List.any_eq_true.mp (hsmall _ hkeyword) with ⟨c, hc, hcsmall⟩
  rw [isSmall_constantName hc] at hcsmall
  cases hcsmall

/-!
# Both kinds of names
-/

/-- Names of structs and constants are spelled like identifiers and are no keywords, and no constant
is called like the table. An underscore alone is no name; no constant is called so, and a struct is
exactly if its table's name has a single foreign letter or digit. -/
theorem struct_and_constant_names_legal (table column : String) :
    (IsFreeName (TableNames.of table).struct ∧
      ((TableNames.of table).struct = "_" ↔ IsLoneForeign table.toList)) ∧
    IsFreeName (constantName column) ∧ IsShoutyWord (constantName column).toList ∧
      constantName column ≠ "_" ∧ constantName column ≠ "TABLE" := by
  refine ⟨⟨?_, ?_⟩, ?_, ?_, ?_, ?_⟩
  · exact isFreeName_structName table
  · exact structName_eq_underscore_iff table
  · exact isFreeName_constantName column
  · exact isShoutyWord_constantName column
  · exact constantName_ne_underscore column
  · exact constantName_ne_table column

/-- The name of a table with one letter, which is not in ASCII. -/
theorem lone_letter_leaves_underscore :
    (TableNames.of "é").struct = "_" ∧
      ∃ files model, render .empty (.ofTables [⟨"é", []⟩]) none = .ok files ∧
        ⟨(TableNames.of "é").modelPath, model⟩ ∈ files ∧ HasLine model "pub struct _ \x7b" := by
  have hname : structName "é" = "_" :=
    (structName_eq_underscore_iff "é").mpr ⟨'é', 'É', by decide +kernel⟩
  refine ⟨hname, _, _, render_bare "é", List.mem_cons_self, ?_⟩
  show HasLine (Model.text ⟨"é", structName "é", []⟩) "pub struct _ \x7b"
  rw [hname]
  exact ⟨["// @generated by pggo (pggo-cli)", "", "/// _ represents the é table.",
    "#[derive(Debug, Clone, Default, pggo::Entity)]"], ["\x7d"], rfl⟩

end Rowsmith

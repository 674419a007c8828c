import Rowsmith.Proofs.Model.FileList

/-!
# Legal names of fields and modules

What is made from a name of the database is spelled like an identifier, whatever the name is, and a
mark keeps most keywords apart from it. Some words that the language keeps for later get no mark; a
column or a table with such a name makes source code that does not compile, and nothing else does.
-/

namespace Rowsmith

open Text

/-!
# Keywords of the language
-/

/-- The keywords that are in use, in the 2024 edition. -/
def strictKeywords : List String :=
  ["as", "async", "await", "break", "const", "continue", "crate", "dyn", "else", "enum", "extern",
    "false", "fn", "for", "if", "impl", "in", "let", "loop", "match", "mod", "move", "mut", "pub",
    "ref", "return", "self", "Self", "static", "struct", "super", "trait", "true", "type", "unsafe",
    "use", "where", "while"]

/-- The keywords that are kept for later, in the 2024 edition. -/
def reservedKeywords : List String :=
  ["abstract", "become", "box", "do", "final", "gen", "macro", "override", "priv", "try", "typeof",
    "unsized", "virtual", "yield"]

def languageKeywords : List String :=
  strictKeywords ++ reservedKeywords

/-- Keywords that stay keywords when they are marked. -/
def unmarkableKeywords : List String := ["crate", "self", "super", "Self"]

/-- A small letter or an underscore, and then any of these and digits. -/
structure IsSnakeWord (word : List Char) : Prop where
  first : ∃ c rest, word = c :: rest ∧ (isSmall c = true ∨ c = '_')
  parts : ∀ c ∈ word, isSmall c = true ∨ c = '_' ∨ isDigit c = true

/-- A text that may stand where source code declares a field or a module. -/
inductive IsLegalName : String → Prop where
  | plain {word : String} (hword : IsSnakeWord word.toList) (hwild : word ≠ "_")
      (hfree : word ∉ languageKeywords) : IsLegalName word
  | marked {word : String} (hkeyword : word ∈ languageKeywords)
      (hmarkable : word ∉ unmarkableKeywords) : IsLegalName ("r#" ++ word)

/-- The keywords of the language that get neither a mark nor an underscore. -/
def unguardedKeywords : List String :=
  ["abstract", "become", "box", "do", "final", "macro", "override", "priv", "try", "typeof",
    "unsized", "virtual", "yield"]

/-!
# Words in snake case
-/

theorem ne_nil_of_mem_splitByCase {trend : CaseTrend} {held cs word : List Char}
    (hheld : trend = .capital → held ≠ []) (hword : word ∈ splitByCase trend held cs) :
    word ≠ [] := by
  induction trend, held, cs using splitByCase.induct with
  | case1 trend => cases hword
  | case2 trend held hne =>
      rw [splitByCase, List.mem_singleton] at hword
      · rw [hword, ne_eq, List.reverse_eq_nil_iff]
        intro hnil
        exact hne hnil
      · exact hne
  | case3 trend held c =>
      rw [splitByCase, List.mem_singleton] at hword
      simp [hword]
  | case4 trend held c next rest hcut ih =>
      rw [splitByCase, if_pos hcut, List.mem_cons] at hword
      rcases hword with hword | hword
      · simp [hword]
      · exact ih (fun htrend => by cases htrend) hword
  | case5 trend held c next rest hno hcut ih =>
      rw [splitByCase, if_neg hno, if_pos hcut, List.mem_cons] at hword
      rcases hword with hword | hword
      · -- The word ends before the last capital of a run, so there are capitals in it.
        rw [hword, ne_eq, List.reverse_eq_nil_iff]
        exact hheld hcut.left
      · exact ih (fun _ => List.cons_ne_nil c []) hword
  | case6 trend held c next rest hno hno' ih =>
      rw [splitByCase, if_neg hno, if_neg hno'] at hword
      exact ih (fun _ => List.cons_ne_nil c held) hword

theorem ne_nil_of_mem_nameWords {cs word : List Char} (h : word ∈ nameWords cs) : word ≠ [] := by
  rcases List.mem_flatMap.mp h with ⟨run, _, hword⟩
  exact ne_nil_of_mem_splitByCase (fun htrend => by cases htrend) hword

theorem toLower_wordChar {c : Char} (h : isWordChar c = true) (halnum : isAlphanumeric c = true) :
    toLower c ≠ [] ∧ '_' ∉ toLower c := by
  have hall := wordChar_all
    (p := fun c => !isAlphanumeric c || (!(toLower c).isEmpty && !(toLower c).contains '_'))
    (by decide) h
  simpa [halnum] using hall

theorem changed_nameWord {change : Char → List Char} {name word : List Char}
    (hchange : ∀ d, isWordChar d = true → isAlphanumeric d = true →
      change d ≠ [] ∧ '_' ∉ change d) (hname : AllWordChars name) (hword : word ∈ nameWords name) :
    word.flatMap change ≠ [] ∧ '_' ∉ word.flatMap change := by
  have hchanged : ∀ d ∈ word, change d ≠ [] ∧ '_' ∉ change d := by
    intro d hd
    rcases mem_nameWords hword hd with ⟨hmem, halnum⟩
    exact hchange d (hname d hmem) halnum
  constructor
  · cases word with
    | nil => exact absurd rfl (ne_nil_of_mem_nameWords hword)
    | cons d others =>
        rw [List.flatMap_cons]
        exact List.append_ne_nil_of_left_ne_nil (hchanged d (by simp)).left _
  · intro hmem
    rcases List.mem_flatMap.mp hmem with ⟨d, hd, hmem⟩
    exact (hchanged d hd).right hmem

theorem head?_intercalate {first : List Char} (h : first ≠ []) (others : List (List Char)) :
    (['_'].intercalate (first :: others)).head? = first.head? := by
  rcases List.exists_cons_of_ne_nil h with ⟨c, more, rfl⟩
  cases others with
  | nil => rw [List.intercalate_singleton]
  | cons other others =>
      rw [List.intercalate_cons_cons, List.append_assoc]
      rfl

theorem joined_first {change : Char → List Char} {name : List Char} {c : Char} {rest : List Char}
    (hchange : ∀ d, isWordChar d = true → isAlphanumeric d = true →
      change d ≠ [] ∧ '_' ∉ change d) (hname : AllWordChars name)
    (h : ['_'].intercalate ((nameWords name).map (·.flatMap change)) = c :: rest) : c ≠ '_' := by
  cases hlist : nameWords name with
  | nil =>
      rw [hlist] at h
      cases h
  | cons word others =>
      have hword : word ∈ nameWords name := by simp [hlist]
      rcases changed_nameWord hchange hname hword with ⟨hne, hfree⟩
      have hhead := head?_intercalate hne (others.map (·.flatMap change))
      rw [← List.map_cons, ← hlist, h] at hhead
      have hfirst : c ∈ word.flatMap change := List.mem_of_head? hhead.symm
      exact fun hsame => hfree (hsame ▸ hfirst)

theorem guarded_ne_underscore {fallback : String} {word : List Char}
    (hfallback : fallback.toList ≠ ['_']) (hword : word ≠ ['_']) :
    guardDigit (orElse fallback word) ≠ ['_'] := by
  have hplain : orElse fallback word ≠ ['_'] := by
    unfold orElse
    split
    · exact hfallback
    · exact hword
  cases hcase : orElse fallback word with
  | nil => exact fun h => by cases h
  | cons c rest =>
      rw [hcase] at hplain
      rw [guardDigit]
      split
      · exact fun h => by cases h
      · exact hplain

theorem fieldWord_ne_underscore (name : String) : fieldWord name ≠ "_" := by
  intro h
  have hword : guardDigit (orElse "column" (snakeCase (asciiWord name.toList))) = ['_'] := by
    have hchars := congrArg String.toList h
    rwa [fieldWord, String.toList_ofList] at hchars
  revert hword
  apply guarded_ne_underscore (by decide)
  intro hsnake
  exact joined_first (fun _ => toLower_wordChar) (allWordChars_asciiWord _) hsnake rfl

/-!
# Names of fields and modules
-/

theorem wordChar_cases {c : Char} (h : isWordChar c = true) :
    isSmall c = true ∨ isCapital c = true ∨ c = '_' ∨ isDigit c = true := by
  have hall := wordChar_all (p := fun c => isSmall c || (isCapital c || (c = '_' || isDigit c)))
    (by decide) h
  simpa using hall

theorem isSnakeWord_ofName (name : String) :
    IsSnakeWord (Identifier.ofName name).word.toList := by
  have hword := isAsciiWord_ofName name
  have hparts : ∀ c ∈ (Identifier.ofName name).word.toList,
      isSmall c = true ∨ c = '_' ∨ isDigit c = true := by
    intro c hc
    rcases wordChar_cases (hword.parts c hc) with hsmall | hcapital | hother
    · exact Or.inl hsmall
    · rw [isCapital_ofName hc] at hcapital
      cases hcapital
    · exact Or.inr hother
  constructor
  · rcases hword.first with ⟨c, rest, hfirst, hdigit⟩
    refine ⟨c, rest, hfirst, ?_⟩
    rcases hparts c (by simp [hfirst]) with hsmall | hunderscore | hdigit'
    · exact Or.inl hsmall
    · exact Or.inr hunderscore
    · rw [hdigit] at hdigit'
      cases hdigit'
  · exact hparts

theorem not_isSnakeWord_marked (word : String) : ¬IsSnakeWord ("r#" ++ word).toList := by
  intro h
  have hsign := h.parts '#' (by simp)
  revert hsign
  decide

theorem isLegalName_plain_iff {word : String} (hword : IsSnakeWord word.toList) :
    IsLegalName word ↔ word ≠ "_" ∧ word ∉ languageKeywords := by
  constructor
  · intro h
    cases h with
    | plain _ hwild hfree => exact ⟨hwild, hfree⟩
    | marked => exact absurd hword (not_isSnakeWord_marked _)
  · intro h
    exact IsLegalName.plain hword h.left h.right

theorem mem_languageKeywords_iff {word : String} (hself : word ≠ "Self") :
    word ∈ languageKeywords ↔
      word ∈ pathKeywords ∨ word ∈ keywords ∨ word ∈ unguardedKeywords := by
  constructor
  · intro h
    have hall : ∀ word ∈ languageKeywords, word ≠ "Self" →
        word ∈ pathKeywords ∨ word ∈ keywords ∨ word ∈ unguardedKeywords := by decide
    exact hall word h hself
  · intro h
    have hpath : ∀ word ∈ pathKeywords, word ∈ languageKeywords := by decide
    have hmarked : ∀ word ∈ keywords, word ∈ languageKeywords := by decide
    have hleft : ∀ word ∈ unguardedKeywords, word ∈ languageKeywords := by decide
    rcases h with h | h | h
    · exact hpath word h
    · exact hmarked word h
    · exact hleft word h

theorem fieldWord_ne_self (name : String) : fieldWord name ≠ "Self" := by
  intro hsame
  have hmember : 'S' ∈ (fieldWord name).toList := by
    rw [hsame]
    decide
  have hcapital := isCapital_fieldWord hmember
  revert hcapital
  decide

/-- What is made from a name is legal unless its word is one of the unguarded keywords. -/
theorem isLegalName_ofName_iff (name : String) :
    IsLegalName (Identifier.ofName name).text ↔ fieldWord name ∉ unguardedKeywords := by
  have hsnake := isSnakeWord_ofName name
  unfold Identifier.text
  unfold Identifier.ofName at hsnake ⊢
  dsimp only at hsnake ⊢
  by_cases hpath : fieldWord name ∈ pathKeywords
  · rw [if_pos (List.contains_iff_mem.mpr hpath)] at hsnake ⊢
    dsimp only at hsnake ⊢
    rw [if_neg Bool.false_ne_true, isLegalName_plain_iff hsnake]
    have hguarded : ∀ word ∈ pathKeywords,
        word ++ "_" ≠ "_" ∧ word ++ "_" ∉ languageKeywords ∧ word ∉ unguardedKeywords := by decide
    rcases hguarded _ hpath with ⟨hwild, hfree, hnot⟩
    exact ⟨fun _ => hnot, fun _ => ⟨hwild, hfree⟩⟩
  · rw [if_neg fun h => hpath (List.contains_iff_mem.mp h)] at hsnake ⊢
    dsimp only at hsnake ⊢
    by_cases hkeyword : fieldWord name ∈ keywords
    · rw [if_pos (List.contains_iff_mem.mpr hkeyword)]
      have hmarkable : ∀ word ∈ keywords,
          word ∈ languageKeywords ∧ word ∉ unmarkableKeywords ∧ word ∉ unguardedKeywords := by
        decide
      rcases hmarkable _ hkeyword with ⟨hlanguage, hmark, hnot⟩
      exact ⟨fun _ => hnot, fun _ => IsLegalName.marked hlanguage hmark⟩
    · rw [if_neg fun h => hkeyword (List.contains_iff_mem.mp h), isLegalName_plain_iff hsnake,
        mem_languageKeywords_iff (fieldWord_ne_self name)]
      constructor
      · intro h hmem
        exact h.right (Or.inr (Or.inr hmem))
      · intro h
        refine ⟨fieldWord_ne_underscore name, ?_⟩
        intro hmem
        rcases hmem with hmem | hmem | hmem
        · exact hpath hmem
        · exact hkeyword hmem
        · exact h hmem

/-!
# Names in rendered files
-/

/-- The source text consists of lines, and this is one of them. -/
def HasLine (source text : String) : Prop :=
  ∃ before after : List String, source = lines (before ++ text :: after)

theorem lines_append (first second : List String) :
    lines (first ++ second) = lines first ++ lines second := by
  apply String.toList_inj.mp
  rw [String.toList_append]
  simp [lines]

theorem hasLine_lines {texts : List String} {text : String} (h : text ∈ texts) :
    HasLine (lines texts) text := by
  rcases List.append_of_mem h with ⟨before, after, rfl⟩
  exact ⟨before, after, rfl⟩

theorem header_eq : header = lines ["// @generated by pggo (pggo-cli)", ""] := rfl

theorem hasLine_modelText {model : Model} {field : ModelField} (h : field ∈ model.fields) :
    HasLine model.text ("    pub " ++ field.identifier.text ++ ": " ++ field.fieldType ++ ",") := by
  unfold Model.text
  rw [header_eq, ← lines_append]
  apply hasLine_lines
  apply List.mem_append_right
  apply List.mem_append_left
  apply List.mem_append_right
  apply List.mem_flatMap.mpr
  exact ⟨field, h, List.mem_append_right _ (List.mem_singleton.mpr rfl)⟩

theorem indexText_eq (tables : List TableNames) :
    indexText tables = lines (tables.map TableNames.moduleLine ++
      ((if tables.isEmpty then [] else [""]) ++ tables.map TableNames.exportLine)) := by
  unfold indexText
  rw [lines_append, lines_append, ← String.append_assoc]
  split <;> rfl

theorem hasLine_descriptorIndex {tables : List TableNames} {names : TableNames}
    (h : names ∈ tables) : HasLine (descriptorIndex tables) names.moduleLine := by
  unfold descriptorIndex
  rw [header_eq, indexText_eq, ← lines_append]
  apply hasLine_lines
  exact List.mem_append_right _ (List.mem_append_left _ (List.mem_map_of_mem h))

theorem hasLine_modelIndex {tables : List TableNames} {names : TableNames} (h : names ∈ tables) :
    HasLine (modelIndex tables) names.moduleLine := by
  have hfixed : header ++ line "pub mod schema;" ++ blankLine =
      lines ["// @generated by pggo (pggo-cli)", "", "pub mod schema;", ""] := rfl
  unfold modelIndex
  rw [hfixed, indexText_eq, ← lines_append]
  apply hasLine_lines
  exact List.mem_append_right _ (List.mem_append_left _ (List.mem_map_of_mem h))

theorem moduleLine_of (table : String) :
    (TableNames.of table).moduleLine = "pub mod " ++ (Identifier.ofName table).text ++ ";" := by
  rw [TableNames.moduleLine, TableNames.of]

section Rendered

variable {overrides : Overrides} {catalog : Catalog} {target : Option String}
  {files : List GeneratedFile} {table : CatalogTable}

/-- The files have the lines that declare the fields of the table and, in a run over all tables,
its module. -/
structure DeclaresNames (files : List GeneratedFile) (target : Option String)
    (table : CatalogTable) : Prop where
  fields : ∀ column ∈ table.columns, ∃ model fieldType,
    ⟨(TableNames.of table.name).modelPath, model⟩ ∈ files ∧
      HasLine model ("    pub " ++ (Identifier.ofName column.name).text ++ ": " ++ fieldType ++ ",")
  module : target = none → ∃ root nested,
    ⟨"mod.rs", root⟩ ∈ files ∧ ⟨"schema/mod.rs", nested⟩ ∈ files ∧
      HasLine root ("pub mod " ++ (Identifier.ofName table.name).text ++ ";") ∧
      HasLine nested ("pub mod " ++ (Identifier.ofName table.name).text ++ ";")

theorem declaresNames_of_render (h : render overrides catalog target = .ok files)
    (htable : IsTarget catalog target table) : DeclaresNames files target table := by
  constructor
  · intro column hcolumn
    rcases render_mem h htable with ⟨own, hown, hmem⟩
    rcases renderTable_eq_ok_iff.mp hown with ⟨model, descriptor, hmodel, _, rfl⟩
    rcases ofTable_eq_ok_iff.mp hmodel with ⟨_, rfl⟩
    have hfield : ModelField.ofColumn overrides column ∈
        (Model.mk table.name (structName table.name)
          (table.columns.map (ModelField.ofColumn overrides))).fields :=
      List.mem_map_of_mem hcolumn
    have hline := hasLine_modelText hfield
    rw [identifier_ofColumn] at hline
    exact ⟨_, _, hmem _ (List.mem_cons_self ..), hline⟩
  · intro htarget
    subst htarget
    rcases render_none_eq_ok_iff.mp h with ⟨others, _, rfl⟩
    have hmem : table ∈ catalog.tables := htable
    have hnames : TableNames.of table.name ∈
        catalog.tables.map fun table => TableNames.of table.name :=
      List.mem_map_of_mem hmem
    refine ⟨modelIndex (catalog.tables.map fun table => TableNames.of table.name),
      descriptorIndex (catalog.tables.map fun table => TableNames.of table.name), ?_, ?_, ?_, ?_⟩
    · simp [indexFiles]
    · simp [indexFiles]
    · rw [← moduleLine_of]
      exact hasLine_modelIndex hnames
    · rw [← moduleLine_of]
      exact hasLine_descriptorIndex hnames

/-- A name becomes a legal one unless its word is an unguarded keyword, and what it becomes is what
the rendered files declare for every field and every module. -/
theorem declared_names_legal_iff (name : String) :
    (IsLegalName (Identifier.ofName name).text ↔ fieldWord name ∉ unguardedKeywords) ∧
      ∀ overrides catalog target files, render overrides catalog target = .ok files →
        ∀ table, IsTarget catalog target table → DeclaresNames files target table := by
  refine ⟨isLegalName_ofName_iff name, ?_⟩
  intro overrides catalog target files h table htable
  exact declaresNames_of_render h htable

end Rendered

/-- A name with a blank in it, a keyword, and one that cannot be marked. -/
theorem odd_names_legal :
    ∃ files, render .empty (.ofTables [⟨"crate", [⟨"User Name", "text", false⟩,
        ⟨"match", "text", false⟩]⟩]) none = .ok files ∧
      DeclaresNames files none ⟨"crate", [⟨"User Name", "text", false⟩,
        ⟨"match", "text", false⟩]⟩ ∧
      IsLegalName (Identifier.ofName "crate").text ∧
      IsLegalName (Identifier.ofName "User Name").text ∧
      IsLegalName (Identifier.ofName "match").text := by
  have hrender : ∃ files, render .empty (.ofTables [⟨"crate", [⟨"User Name", "text", false⟩,
      ⟨"match", "text", false⟩]⟩]) none = .ok files := ⟨_, rfl⟩
  have htarget : IsTarget (.ofTables [⟨"crate", [⟨"User Name", "text", false⟩,
      ⟨"match", "text", false⟩]⟩]) none ⟨"crate", [⟨"User Name", "text", false⟩,
        ⟨"match", "text", false⟩]⟩ := List.mem_singleton.mpr rfl
  rcases hrender with ⟨files, hrender⟩
  have hdeclares := (declared_names_legal_iff "crate").right _ _ _ _ hrender _ htarget
  refine ⟨files, hrender, hdeclares, ?_, ?_, ?_⟩
  · exact (declared_names_legal_iff "crate").left.mpr (by decide +kernel)
  · exact (declared_names_legal_iff "User Name").left.mpr (by decide +kernel)
  · exact (declared_names_legal_iff "match").left.mpr (by decide +kernel)

/-- A module and a field with words that the language keeps for later. -/
theorem reserved_words_left_unmarked :
    ∃ files root model fieldType,
      render .empty (.ofTables [⟨"yield", [⟨"final", "text", false⟩]⟩]) none = .ok files ∧
      (⟨"mod.rs", root⟩ ∈ files ∧ HasLine root "pub mod yield;" ∧ ¬IsLegalName "yield") ∧
      ⟨"yield.rs", model⟩ ∈ files ∧ HasLine model ("    pub final: " ++ fieldType ++ ",") ∧
        ¬IsLegalName "final" := by
  have hrender : ∃ files, render .empty (.ofTables [⟨"yield", [⟨"final", "text", false⟩]⟩]) none =
      .ok files := ⟨_, rfl⟩
  have htarget : IsTarget (.ofTables [⟨"yield", [⟨"final", "text", false⟩]⟩]) none
      ⟨"yield", [⟨"final", "text", false⟩]⟩ := List.mem_singleton.mpr rfl
  have hyield : (Identifier.ofName "yield").text = "yield" := by decide +kernel
  have hfinal : (Identifier.ofName "final").text = "final" := by decide +kernel
  have hillegal : ¬IsLegalName "yield" ∧ ¬IsLegalName "final" := by
    rw [← hyield, ← hfinal, isLegalName_ofName_iff, isLegalName_ofName_iff]
    decide +kernel
  rcases hrender with ⟨files, hrender⟩
  rcases declaresNames_of_render hrender htarget with ⟨hfields, hmodule⟩
  rcases hmodule rfl with ⟨root, _, hroot, _, hrootLine, _⟩
  rcases hfields ⟨"final", "text", false⟩ (by simp) with ⟨model, fieldType, hmodel, hmodelLine⟩
  dsimp only at hrootLine hmodelLine
  rw [hyield] at hrootLine
  rw [hfinal] at hmodelLine
  exact ⟨files, root, model, fieldType, hrender, ⟨hroot, hrootLine, hillegal.left⟩, hmodel,
    hmodelLine, hillegal.right⟩

end Rowsmith

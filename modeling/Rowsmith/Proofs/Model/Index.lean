import Mathlib.Data.List.Nodup
import Rowsmith.Proofs.Derive.Implementation
import Rowsmith.Proofs.Derive.Listing
import Rowsmith.Proofs.Model.Declaration
import Rowsmith.Proofs.Model.FileList

/-!
# The names that an index declares

An index is read as a list of declarations, and every one of them introduces one name: a module's
or that of an exported struct. Names of modules are told apart when a catalog is rendered; the
names of structs and the name `schema` are not looked at.
-/

namespace Rowsmith

open Text Derive

/-!
# Declarations in source code
-/

/-- The name that a declaration introduces: that of a module, or the last one of what is
exported. -/
def declaredName? : Tokens → Option String
  | .identifier visibility :: .identifier keyword :: rest =>
      if visibility = ⟨"pub", false⟩ ∧ (keyword = ⟨"mod", false⟩ ∨ keyword = ⟨"use", false⟩) then
        match rest.getLast? with
        | some (.identifier name) => some name.word
        | _ => none
      else none
  | _ => none

/-- The names introduced by source code that consists of such declarations only. -/
def declaredNames? (source : String) : Option (List String) := do
  let tokens ← tokensOf source
  (statementsFrom [] tokens).mapM declaredName?

/-!
# Declarations of an index
-/

def moduleDeclaration (name : Identifier) : Tokens :=
  [wordToken "pub", wordToken "mod", .identifier name]

def TableNames.exportDeclaration (names : TableNames) : Tokens :=
  [wordToken "pub", wordToken "use", .identifier names.module] ++ separator ++
    [.identifier ⟨names.struct, false⟩]

def indexDeclarations (tables : List TableNames) : List Tokens :=
  tables.map (fun names => moduleDeclaration names.module) ++
    tables.map TableNames.exportDeclaration

def ended (declarations : List Tokens) : Tokens :=
  declarations.flatMap (· ++ [mark ';'])

def Unended (declaration : Tokens) : Prop :=
  ∀ token ∈ declaration, isSemicolon token = false

theorem statementsFrom_ended {declarations : List Tokens}
    (h : ∀ declaration ∈ declarations, Unended declaration) :
    statementsFrom [] (ended declarations) = declarations := by
  have hstatement {declaration : Tokens} (hfree : Unended declaration) (held rest : Tokens) :
      statementsFrom held (declaration ++ mark ';' :: rest) =
        (held.reverse ++ declaration) :: statementsFrom [] rest := by
    induction declaration generalizing held with
    | nil =>
        rw [List.append_nil]
        rfl
    | cons token more ih =>
        rw [List.cons_append, statementsFrom, if_neg (by rw [hfree token (by simp)]; decide),
          ih fun other hother => hfree other (List.mem_cons_of_mem token hother),
          List.reverse_cons, List.append_assoc]
        rfl
  induction declarations with
  | nil => rfl
  | cons declaration rest ih =>
      have hrest := ih fun other hother => h other (List.mem_cons_of_mem _ hother)
      unfold ended at hrest ⊢
      rw [List.flatMap_cons, List.append_assoc]
      show statementsFrom [] (declaration ++ mark ';' :: _) = _
      rw [hstatement (h declaration (by simp))]
      exact congrArg (declaration :: ·) hrest

/-!
# The text of an index
-/

structure TableNames.Writable (names : TableNames) : Prop where
  module : Derive.Writable names.module
  struct : IsWord names.struct.toList

theorem writable_ofName (name : String) : Derive.Writable (Identifier.ofName name) := by
  constructor
  · exact (isAsciiWord_ofName name).isWord
  · intro hraw
    have hkeyword : (Identifier.ofName name).word ∈ keywords := by
      rw [← List.contains_iff_mem, ← raw_ofName]
      exact hraw
    have hnever : ∀ word ∈ keywords, word ∉ neverRaw := by decide
    exact hnever _ hkeyword

theorem writable_of (table : String) : (TableNames.of table).Writable := by
  unfold TableNames.of
  constructor
  · dsimp only
    exact writable_ofName table
  · exact (isAsciiWord_structName table).isWord

theorem spells_declarationEnd : Spells [';', '\n'] [mark ';'] Anything :=
  Spells.of_listedSteps 2 (by decide) fun _ _ _ => rfl

theorem spells_moduleLine {names : TableNames} (h : names.Writable) :
    Spells (line names.moduleLine).toList (moduleDeclaration names.module ++ [mark ';'])
      Anything := by
  have hhead : Spells "pub mod ".toList [wordToken "pub", wordToken "mod"] Anything :=
    Spells.of_listedSteps 4 (by decide) fun _ _ _ => rfl
  have hname := (spells_identifier h.module).append spells_declarationEnd
    fun rest _ => EndsWord.cons (by decide) _
  have htext : (line names.moduleLine).toList =
      "pub mod ".toList ++ (names.module.text.toList ++ [';', '\n']) := by
    rw [toList_line]
    simp [TableNames.moduleLine]
  rw [htext]
  exact hhead.before hname

theorem spells_exportLine {names : TableNames} (h : names.Writable) :
    Spells (line names.exportLine).toList (names.exportDeclaration ++ [mark ';']) Anything := by
  have hhead : Spells "pub use ".toList [wordToken "pub", wordToken "use"] Anything :=
    Spells.of_listedSteps 4 (by decide) fun _ _ _ => rfl
  have hwritable : ∀ name ∈ [names.module, ⟨names.struct, false⟩], Derive.Writable name := by
    intro name hname
    rcases List.mem_pair.mp hname with rfl | rfl
    · exact h.module
    · exact ⟨h.struct, fun hraw => by cases hraw⟩
  have hpath := (spells_pathText hwritable).append spells_declarationEnd
    fun rest _ => EndsWord.cons (by decide) _
  have htext : (line names.exportLine).toList =
      "pub use ".toList ++ (pathText names.module [⟨names.struct, false⟩] ++ [';', '\n']) := by
    rw [toList_line]
    simp [TableNames.exportLine, pathText, laterText, Identifier.text]
  rw [htext]
  exact hhead.before hpath

theorem spells_lines {α : Type} {text : α → String} {tokens : α → Tokens} {members : List α}
    (h : ∀ a ∈ members, Spells (line (text a)).toList (tokens a) Anything) :
    Spells (lines (members.map text)).toList (members.flatMap tokens) Anything := by
  rw [toList_lines]
  induction members with
  | nil => exact Spells.nil
  | cons a members ih =>
      exact (h a (by simp)).before (ih fun b hb => h b (List.mem_cons_of_mem a hb))

theorem spells_indexText {tables : List TableNames} (h : ∀ names ∈ tables, names.Writable) :
    Spells (indexText tables).toList (ended (indexDeclarations tables)) Anything := by
  have hmodules := spells_lines fun names hnames => spells_moduleLine (h names hnames)
  have hexports := spells_lines fun names hnames => spells_exportLine (h names hnames)
  have hblank : Spells (if tables.isEmpty then "" else blankLine).toList [] Anything := by
    split
    · exact Spells.nil
    · exact spells_lineEnd
  have htokens : ended (indexDeclarations tables) =
      tables.flatMap (fun names => moduleDeclaration names.module ++ [mark ';']) ++ ([] ++
        tables.flatMap fun names => names.exportDeclaration ++ [mark ';']) := by
    simp [ended, indexDeclarations, List.flatMap_map]
  rw [htokens, indexText, String.toList_append, String.toList_append, List.append_assoc]
  exact hmodules.before (hblank.before hexports)

/-!
# The names in an index
-/

theorem unended_moduleDeclaration (name : Identifier) : Unended (moduleDeclaration name) := by
  intro token htoken
  simp only [moduleDeclaration, wordToken, List.mem_cons, List.not_mem_nil, or_false] at htoken
  rcases htoken with rfl | rfl | rfl
  all_goals rfl

theorem unended_exportDeclaration (names : TableNames) : Unended names.exportDeclaration := by
  intro token htoken
  simp only [TableNames.exportDeclaration, wordToken, separator, signTokens, List.cons_append,
    List.nil_append, List.mem_cons, List.not_mem_nil, or_false] at htoken
  rcases htoken with rfl | rfl | rfl | rfl | rfl | rfl
  all_goals rfl

theorem unended_indexDeclarations (tables : List TableNames) :
    ∀ declaration ∈ indexDeclarations tables, Unended declaration := by
  intro declaration hdeclaration
  rcases List.mem_append.mp hdeclaration with h | h
  · rcases List.mem_map.mp h with ⟨names, _, rfl⟩
    exact unended_moduleDeclaration names.module
  · rcases List.mem_map.mp h with ⟨names, _, rfl⟩
    exact unended_exportDeclaration names

theorem mapM_declaredName? {α : Type} {declaration : α → Tokens} {name : α → String}
    (h : ∀ a, declaredName? (declaration a) = some (name a)) (members : List α) :
    (members.map declaration).mapM declaredName? = some (members.map name) := by
  induction members with
  | nil => rfl
  | cons a members ih =>
      rw [List.map_cons, List.mapM_cons, h, ih]
      rfl

theorem mapM_indexDeclarations (tables : List TableNames) :
    (indexDeclarations tables).mapM declaredName? =
      some (tables.map (·.module.word) ++ tables.map (·.struct)) := by
  have hmodules : (tables.map fun names => moduleDeclaration names.module).mapM declaredName? =
      some (tables.map (·.module.word)) := mapM_declaredName? (fun _ => rfl) tables
  have hexports : (tables.map TableNames.exportDeclaration).mapM declaredName? =
      some (tables.map (·.struct)) := mapM_declaredName? (fun _ => rfl) tables
  unfold indexDeclarations
  rw [List.mapM_append, hmodules, hexports]
  rfl

variable {tables : List TableNames}

theorem declaredNames?_descriptorIndex (h : ∀ names ∈ tables, names.Writable) :
    declaredNames? (descriptorIndex tables) =
      some (tables.map (·.module.word) ++ tables.map (·.struct)) := by
  have htokens : tokensOf (descriptorIndex tables) = some (ended (indexDeclarations tables)) := by
    apply tokensOf_of_spells
    · rw [descriptorIndex, String.toList_append]
      exact (spells_header.before (spells_indexText h)).mono fun _ _ => trivial
    · simp [descriptorIndex, header, line]
  unfold declaredNames?
  rw [htokens]
  show (statementsFrom [] (ended (indexDeclarations tables))).mapM declaredName? = _
  rw [statementsFrom_ended (unended_indexDeclarations tables), mapM_indexDeclarations]

theorem declaredNames?_modelIndex (h : ∀ names ∈ tables, names.Writable) :
    declaredNames? (modelIndex tables) =
      some ("schema" :: (tables.map (·.module.word) ++ tables.map (·.struct))) := by
  have hfirst : Spells (line "pub mod schema;" ++ blankLine).toList
      (moduleDeclaration ⟨"schema", false⟩ ++ [mark ';']) Anything :=
    Spells.of_listedSteps 8 (by decide) fun _ _ _ => rfl
  have htokens : tokensOf (modelIndex tables) =
      some (ended (moduleDeclaration ⟨"schema", false⟩ :: indexDeclarations tables)) := by
    apply tokensOf_of_spells
    · rw [modelIndex, String.append_assoc, String.append_assoc, String.toList_append,
        ← String.append_assoc, String.toList_append]
      exact (spells_header.before (hfirst.before (spells_indexText h))).mono fun _ _ => trivial
    · simp [modelIndex, header, line]
  have hunended : ∀ declaration ∈
      moduleDeclaration ⟨"schema", false⟩ :: indexDeclarations tables, Unended declaration := by
    intro declaration hdeclaration
    rcases List.mem_cons.mp hdeclaration with rfl | hdeclaration
    · exact unended_moduleDeclaration _
    · exact unended_indexDeclarations tables declaration hdeclaration
  unfold declaredNames?
  rw [htokens]
  show (statementsFrom [] (ended (_ :: indexDeclarations tables))).mapM declaredName? = _
  rw [statementsFrom_ended hunended, List.mapM_cons, mapM_indexDeclarations]
  rfl

/-!
# Names declared once
-/

def structNames (tables : List CatalogTable) : List String :=
  tables.map fun table => structName table.name

def indexNames (tables : List CatalogTable) : List String :=
  moduleWords tables ++ structNames tables

/-- The structs have different names, and none that could also be a module's is one's. -/
def StructsApart (tables : List CatalogTable) : Prop :=
  (structNames tables).Nodup ∧
    ∀ struct ∈ structNames tables, struct.toList.all (!isCapital ·) = true →
      struct ∉ moduleWords tables

instance (tables : List CatalogTable) : Decidable (StructsApart tables) :=
  inferInstanceAs (Decidable (_ ∧ _))

theorem lacksCapitals_of_mem_moduleWords {tables : List CatalogTable} {word : String}
    (h : word ∈ moduleWords tables) : word.toList.all (!isCapital ·) = true := by
  rcases List.mem_map.mp h with ⟨table, _, rfl⟩
  rw [List.all_eq_true]
  intro c hc
  rw [isCapital_ofName hc]
  rfl

theorem schema_not_mem_structNames (tables : List CatalogTable) :
    "schema" ∉ structNames tables := by
  intro h
  rcases List.mem_map.mp h with ⟨table, _, hname⟩
  rcases beginsUpright_structName table.name with ⟨c, rest, hfirst, hc⟩
  rw [hname] at hfirst
  rw [← (List.cons.inj hfirst).left] at hc
  revert hc
  decide

theorem indexNames_nodup_iff {tables : List CatalogTable} (h : (moduleWords tables).Nodup) :
    (indexNames tables).Nodup ↔ StructsApart tables := by
  unfold indexNames
  rw [List.nodup_append]
  constructor
  · intro hexists
    rcases hexists with ⟨_, hstructs, hapart⟩
    exact ⟨hstructs, fun struct hstruct _ hmodule => hapart struct hmodule struct hstruct rfl⟩
  · intro hboth
    rcases hboth with ⟨hstructs, hapart⟩
    refine ⟨h, hstructs, ?_⟩
    intro word hword struct hstruct hsame
    subst hsame
    exact hapart word hstruct (lacksCapitals_of_mem_moduleWords hword) hword

theorem schema_mem_indexNames_iff {tables : List CatalogTable} :
    "schema" ∈ indexNames tables ↔ "schema" ∈ moduleWords tables := by
  rw [indexNames, List.mem_append]
  exact or_iff_left (schema_not_mem_structNames tables)

section Rendered

variable {overrides : Overrides} {catalog : Catalog} {files : List GeneratedFile}

theorem indexes_of_render (h : render overrides catalog none = .ok files) :
    ∃ others root nested,
      files = others ++ [⟨"mod.rs", root⟩, ⟨"schema/mod.rs", nested⟩] ∧
      declaredNames? root = some ("schema" :: indexNames catalog.tables) ∧
      declaredNames? nested = some (indexNames catalog.tables) := by
  rcases render_none_eq_ok_iff.mp h with ⟨others, _, rfl⟩
  have hwritable : ∀ names ∈ catalog.tables.map fun table => TableNames.of table.name,
      names.Writable := by
    intro names hnames
    rcases List.mem_map.mp hnames with ⟨table, _, rfl⟩
    exact writable_of table.name
  have hroot := declaredNames?_modelIndex hwritable
  have hnested := declaredNames?_descriptorIndex hwritable
  simp only [List.map_map] at hroot hnested
  exact ⟨others, _, _, rfl, hroot, hnested⟩

/-- All names in the indexes are different exactly if the structs keep apart and, for the index of
the models, no table's module is called `schema`. -/
theorem index_names_distinct_iff (h : render overrides catalog none = .ok files) :
    ∃ others root nested,
      files = others ++ [⟨"mod.rs", root⟩, ⟨"schema/mod.rs", nested⟩] ∧
      declaredNames? root = some ("schema" :: indexNames catalog.tables) ∧
      declaredNames? nested = some (indexNames catalog.tables) ∧
      (("schema" :: indexNames catalog.tables).Nodup ↔
        "schema" ∉ moduleWords catalog.tables ∧ StructsApart catalog.tables) ∧
      ((indexNames catalog.tables).Nodup ↔ StructsApart catalog.tables) := by
  rcases indexes_of_render h with ⟨others, root, nested, hfiles, hroot, hnested⟩
  have hwords : (moduleWords catalog.tables).Nodup := render_moduleWords_nodup h
  refine ⟨others, root, nested, hfiles, hroot, hnested, ?_, indexNames_nodup_iff hwords⟩
  rw [List.nodup_cons, schema_mem_indexNames_iff, indexNames_nodup_iff hwords]

end Rendered

/-- Two tables with ordinary names. -/
theorem people_and_pets_declared_once :
    ∃ files others root nested names,
      render .empty (.ofTables [⟨"people", []⟩, ⟨"pets", []⟩]) none = .ok files ∧
      files = others ++ [⟨"mod.rs", root⟩, ⟨"schema/mod.rs", nested⟩] ∧
      declaredNames? root = some ("schema" :: names) ∧ declaredNames? nested = some names ∧
      ("schema" :: names).Nodup ∧ names.Nodup := by
  have hrender : ∃ files,
      render .empty (.ofTables [⟨"people", []⟩, ⟨"pets", []⟩]) none = .ok files := ⟨_, rfl⟩
  have happart : StructsApart (Catalog.ofTables [⟨"people", []⟩, ⟨"pets", []⟩]).tables := by
    decide +kernel
  have hschema : "schema" ∉
      moduleWords (Catalog.ofTables [⟨"people", []⟩, ⟨"pets", []⟩]).tables := by decide +kernel
  rcases hrender with ⟨files, hrender⟩
  rcases index_names_distinct_iff hrender with
    ⟨others, root, nested, hfiles, hroot, hnested, hmodels, hdescriptors⟩
  exact ⟨files, others, root, nested, _, hrender, hfiles, hroot, hnested,
    hmodels.mpr ⟨hschema, happart⟩, hdescriptors.mpr happart⟩

/-- A module of a table beside the fixed one, two structs that differ in an underscore before a
digit, and a struct beside its own module. -/
theorem indexes_may_repeat_names :
    (∃ files root, render .empty (.ofTables [⟨"schema", []⟩]) none = .ok files ∧
      ⟨"mod.rs", root⟩ ∈ files ∧
      declaredNames? root = some ["schema", "schema", "Schema"]) ∧
    (∃ files nested, render .empty (.ofTables [⟨"foo1", []⟩, ⟨"foo_1", []⟩]) none = .ok files ∧
      ⟨"schema/mod.rs", nested⟩ ∈ files ∧
      declaredNames? nested = some ["foo1", "foo_1", "Foo1", "Foo1"]) ∧
    (∃ files nested, render .empty (.ofTables [⟨"1", []⟩]) none = .ok files ∧
      ⟨"schema/mod.rs", nested⟩ ∈ files ∧ declaredNames? nested = some ["_1", "_1"]) := by
  have hschema : indexNames (Catalog.ofTables [⟨"schema", []⟩]).tables =
      ["schema", "Schema"] := by decide +kernel
  have hdigits : indexNames (Catalog.ofTables [⟨"foo1", []⟩, ⟨"foo_1", []⟩]).tables =
      ["foo1", "foo_1", "Foo1", "Foo1"] := by decide +kernel
  have hnumber : indexNames (Catalog.ofTables [⟨"1", []⟩]).tables = ["_1", "_1"] := by
    decide +kernel
  have hpair : ∃ files,
      render .empty (.ofTables [⟨"foo1", []⟩, ⟨"foo_1", []⟩]) none = .ok files := ⟨_, rfl⟩
  rcases hpair with ⟨files, hpair⟩
  refine ⟨?_, ?_, ?_⟩
  · have hrender := render_bare "schema"
    rcases indexes_of_render hrender with ⟨others, root, nested, hfiles, hroot, _⟩
    rw [hschema] at hroot
    exact ⟨_, root, hrender, by rw [hfiles]; simp, hroot⟩
  · rcases indexes_of_render hpair with ⟨others, root, nested, hfiles, _, hnested⟩
    rw [hdigits] at hnested
    exact ⟨_, nested, hpair, by rw [hfiles]; simp, hnested⟩
  · have hrender := render_bare "1"
    rcases indexes_of_render hrender with ⟨others, root, nested, hfiles, _, hnested⟩
    rw [hnumber] at hnested
    exact ⟨_, nested, hrender, by rw [hfiles]; simp, hnested⟩

end Rowsmith

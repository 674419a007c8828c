import Mathlib.Data.List.Forall2
import Rowsmith.Proofs.Model.BareText
import Rowsmith.Proofs.Model.Descriptor
import Rowsmith.Proofs.Model.FieldType
import Rowsmith.Proofs.Model.Rendered
import Rowsmith.Proofs.Model.StructName

/-!
# Names of the database in source texts

The names of a table and its columns are written into the generated files in two ways, between
quotes and into the documentation. Without both, what remains of a file is made of identifiers and
types alone, whatever the names are, if the name of the table fits in the line of documentation. If
it does not, the rest of the name is read as code.
-/

namespace Rowsmith

open Text Derive

/-!
# Outlines
-/

structure ColumnOutline where
  identifier : Identifier
  constant : String
  fieldType : String
  /-- Whether the field has an attribute for its column. -/
  renamed : Bool

structure TableOutline where
  struct : String
  columns : List ColumnOutline

def Column.outline (column : Column) : ColumnOutline :=
  ⟨Identifier.ofName column.name, constantName column.name, Overrides.columnType .empty column,
    (Identifier.ofName column.name).word ≠ column.name⟩

def CatalogTable.outline (table : CatalogTable) : TableOutline :=
  ⟨structName table.name, table.columns.map Column.outline⟩

/-!
# The text of an outline
-/

def ColumnOutline.fieldLines (column : ColumnOutline) : List String :=
  (if column.renamed then ["    #[pggo(column = \"\")]"] else []) ++
    ["    pub " ++ column.identifier.text ++ ": " ++ column.fieldType ++ ","]

def ColumnOutline.constantLine (column : ColumnOutline) : String :=
  "    pub const " ++ column.constant ++ ": &'static str = " ++ "\"\"" ++ ";"

def TableOutline.modelCode (outline : TableOutline) : String :=
  lines
    (["#[derive(Debug, Clone, Default, pggo::Entity)]",
        "pub struct " ++ outline.struct ++ " \x7b"] ++
      outline.columns.flatMap ColumnOutline.fieldLines ++ ["\x7d"])

def TableOutline.tableLine (outline : TableOutline) : String :=
  "    pub const TABLE: pggo::TableDef = pggo::TableDef::new(" ++ "\"\"" ++ ", &[" ++
    ", ".intercalate (outline.columns.map fun _ => "\"\"") ++ "]);"

def TableOutline.constantLines (outline : TableOutline) : List String :=
  if outline.columns.isEmpty then [] else "" :: outline.columns.map ColumnOutline.constantLine

def TableOutline.descriptorCode (outline : TableOutline) : String :=
  lines
    (["#[derive(Debug, Clone, Copy, Default)]", "pub struct " ++ outline.struct ++ ";", "",
        "impl " ++ outline.struct ++ " \x7b", outline.tableLine] ++
      outline.constantLines ++
      ["\x7d", "", "impl pggo::Build for " ++ outline.struct ++ " \x7b",
        "    fn build(&self, sql: &mut String, args: &mut pggo::ParamList) -> pggo::OrmResult<()> \x7b",
        "        pggo::Build::build(&Self::TABLE, sql, args)", "    \x7d", "\x7d", "",
        "impl pggo::Table for " ++ outline.struct ++ " \x7b\x7d"])

/-- The line of documentation is left empty. -/
def TableOutline.modelText (outline : TableOutline) : String :=
  header ++ blankLine ++ outline.modelCode

def TableOutline.descriptorText (outline : TableOutline) : String :=
  header ++ blankLine ++ outline.descriptorCode

/-!
# Pieces without names of the database
-/

theorem isPlainCode_append {cs ds : List Char} (hcs : isPlainCode cs = true)
    (hds : isPlainCode ds = true) : isPlainCode (cs ++ ds) = true := by
  unfold isPlainCode at hcs hds ⊢
  rw [List.all_append, hcs, hds]
  rfl

theorem isPlainCode_of_allWordChars {cs : List Char} (h : AllWordChars cs) :
    isPlainCode cs = true := by
  apply List.all_eq_true.mpr
  intro c hc
  exact wordChar_all (p := fun c => c != '"' && c != '/') (by decide) (h c hc)

theorem isPlainCode_identifier (name : String) :
    isPlainCode (Identifier.ofName name).text.toList = true := by
  have hword := isPlainCode_of_allWordChars (isAsciiWord_ofName name).parts
  unfold Identifier.text
  split
  · rw [String.toList_append]
    exact isPlainCode_append rfl hword
  · exact hword

theorem isPlainCode_typeOf (name : String) :
    isPlainCode (Overrides.typeOf .empty name).toList = true := by
  apply typeOf_empty_induction (p := fun text => isPlainCode text.toList = true)
  · decide
  · decide
  · intro element helement
    unfold listType
    rw [String.toList_append, String.toList_append]
    exact isPlainCode_append (isPlainCode_append rfl helement) rfl

theorem isPlainCode_columnType (column : Column) :
    isPlainCode (Overrides.columnType .empty column).toList = true := by
  unfold Overrides.columnType
  split
  · unfold optionalType
    rw [String.toList_append, String.toList_append]
    exact isPlainCode_append (isPlainCode_append rfl (isPlainCode_typeOf _)) rfl
  · exact isPlainCode_typeOf _

/-!
# Lines of code
-/

abbrev StripsLine (text bare : String) : Prop :=
  Strips (line text) (line bare)

theorem stripsLines_plain {texts : List String}
    (h : ∀ text ∈ texts, isPlainCode text.toList = true) :
    List.Forall₂ StripsLine texts texts := by
  rw [List.forall₂_same]
  exact fun text htext => (Strips.plain (h text htext)).line

theorem isPlainCode_mention (table : String) {before after : String}
    (hbefore : isPlainCode before.toList = true) (hafter : isPlainCode after.toList = true) :
    isPlainCode (before ++ structName table ++ after).toList = true := by
  have hname := isPlainCode_of_allWordChars (isAsciiWord_structName table).parts
  rw [String.toList_append, String.toList_append]
  exact isPlainCode_append (isPlainCode_append hbefore hname) hafter

theorem stripsLines_field (column : Column) :
    List.Forall₂ StripsLine (ModelField.ofColumn .empty column).lines
      column.outline.fieldLines := by
  have hfield : StripsLine
      ("    pub " ++ (Identifier.ofName column.name).text ++ ": " ++
        Overrides.columnType .empty column ++ ",")
      ("    pub " ++ (Identifier.ofName column.name).text ++ ": " ++
        Overrides.columnType .empty column ++ ",") := by
    apply Strips.line
    have hname := Strips.plain (isPlainCode_identifier column.name)
    have htype := Strips.plain (isPlainCode_columnType column)
    exact ((((Strips.plain rfl).append hname).append (.plain rfl)).append
      htype).append (.plain rfl)
  have hattribute : StripsLine ("    #[pggo(column = " ++ quote column.name ++ ")]")
      "    #[pggo(column = \"\")]" := by
    have hbare : "    #[pggo(column = \"\")]" = "    #[pggo(column = " ++ "\"\"" ++ ")]" := rfl
    rw [hbare]
    apply Strips.line
    exact ((Strips.plain rfl).append (.quote column.name)).append (.plain rfl)
  unfold ModelField.lines ColumnOutline.fieldLines
  simp only [identifier_ofColumn, column_ofColumn, fieldType_ofColumn, Column.outline]
  by_cases hsame : (Identifier.ofName column.name).word = column.name
  · simp only [hsame, if_true, ne_eq, not_true_eq_false, decide_false]
    exact .cons hfield .nil
  · simp only [hsame, if_false, ne_eq, not_false_eq_true, decide_true]
    exact .cons hattribute (.cons hfield .nil)

theorem strips_quotedList (columns : List Column) :
    Strips (", ".intercalate (columns.map fun column => quote column.name))
      (", ".intercalate (columns.map fun _ => "\"\"")) := by
  induction columns with
  | nil => exact fun rest => rfl
  | cons column columns ih =>
      cases columns with
      | nil =>
          rw [List.map_cons, List.map_nil, List.map_cons, List.map_nil,
            String.intercalate_singleton, String.intercalate_singleton]
          exact Strips.quote column.name
      | cons next others =>
          rw [List.map_cons, List.map_cons, List.map_cons, List.map_cons,
            String.intercalate_cons_cons, String.intercalate_cons_cons]
          exact ((Strips.quote column.name).append (.plain rfl)).append ih

theorem stripsLine_table (table : CatalogTable) :
    StripsLine table.descriptor.tableLine table.outline.tableLine := by
  have hcolumns : (table.descriptor.columns.map fun column => quote column.column) =
      table.columns.map fun column => quote column.name := by
    simp only [CatalogTable.descriptor, List.map_map, Function.comp_def]
  have hbares : (table.outline.columns.map fun _ => "\"\"") =
      table.columns.map fun _ => "\"\"" := by
    simp only [CatalogTable.outline, List.map_map, Function.comp_def]
  apply Strips.line
  unfold Descriptor.tableLine TableOutline.tableLine
  rw [hcolumns, hbares]
  exact ((((Strips.plain rfl).append (.quote table.name)).append (.plain rfl)).append
    (strips_quotedList table.columns)).append (.plain rfl)

theorem stripsLine_constant (column : Column) :
    StripsLine (DescriptorColumn.line ⟨column.name, constantName column.name⟩)
      column.outline.constantLine := by
  have hname : Strips (constantName column.name) (constantName column.name) :=
    .plain (isPlainCode_of_allWordChars (isAsciiWord_constantName column.name).parts)
  apply Strips.line
  unfold DescriptorColumn.line ColumnOutline.constantLine Column.outline
  dsimp only
  exact ((((Strips.plain rfl).append hname).append (.plain rfl)).append
    (.quote column.name)).append (.plain rfl)

theorem stripsLines_constants (table : CatalogTable) :
    List.Forall₂ StripsLine table.descriptor.constantLines table.outline.constantLines := by
  unfold Descriptor.constantLines TableOutline.constantLines
  simp only [CatalogTable.descriptor, CatalogTable.outline, List.isEmpty_map]
  split
  · exact .nil
  · refine .cons (Strips.plain rfl).line ?_
    rw [List.map_map, List.map_map, List.forall₂_map_left_iff, List.forall₂_map_right_iff,
      List.forall₂_same]
    exact fun column _ => stripsLine_constant column

/-!
# Code of a table
-/

theorem strips_modelCode (table : CatalogTable) :
    Strips (table.model .empty).code table.outline.modelCode := by
  have hstart : ∀ text ∈ ["#[derive(Debug, Clone, Default, pggo::Entity)]",
      "pub struct " ++ structName table.name ++ " \x7b"], isPlainCode text.toList = true := by
    rw [List.forall_mem_cons, List.forall_mem_singleton]
    exact ⟨rfl, isPlainCode_mention _ rfl rfl⟩
  have hfields : List.Forall₂ StripsLine
      ((table.columns.map (ModelField.ofColumn .empty)).flatMap ModelField.lines)
      ((table.columns.map Column.outline).flatMap ColumnOutline.fieldLines) := by
    rw [List.flatMap_map, List.flatMap_map]
    exact List.rel_flatMap (List.forall₂_same.mpr fun _ _ => rfl)
      fun column other hsame => hsame ▸ stripsLines_field column
  have hend : ∀ text ∈ ["\x7d"], isPlainCode text.toList = true :=
    List.forall_mem_singleton.mpr rfl
  have hblock := List.rel_append (stripsLines_plain hstart) hfields
  exact Strips.lines (List.rel_append hblock (stripsLines_plain hend))

theorem strips_descriptorCode (table : CatalogTable) :
    Strips table.descriptor.code table.outline.descriptorCode := by
  have hstart : ∀ text ∈ ["#[derive(Debug, Clone, Copy, Default)]",
      "pub struct " ++ structName table.name ++ ";", "",
      "impl " ++ structName table.name ++ " \x7b"], isPlainCode text.toList = true := by
    simp only [List.forall_mem_cons]
    exact ⟨rfl, isPlainCode_mention _ rfl rfl, rfl, isPlainCode_mention _ rfl rfl,
      List.forall_mem_nil _⟩
  have hend : ∀ text ∈ ["\x7d", "", "impl pggo::Build for " ++ structName table.name ++ " \x7b",
      "    fn build(&self, sql: &mut String, args: &mut pggo::ParamList) -> pggo::OrmResult<()> \x7b",
      "        pggo::Build::build(&Self::TABLE, sql, args)", "    \x7d", "\x7d", "",
      "impl pggo::Table for " ++ structName table.name ++ " \x7b\x7d"],
      isPlainCode text.toList = true := by
    simp only [List.forall_mem_cons]
    exact ⟨rfl, rfl, isPlainCode_mention _ rfl rfl, rfl, rfl, rfl, rfl, rfl,
      isPlainCode_mention _ rfl rfl, List.forall_mem_nil _⟩
  have hblock := List.rel_append (stripsLines_plain hstart)
    (.cons (stripsLine_table table) (stripsLines_constants table))
  exact Strips.lines (List.rel_append hblock (stripsLines_plain hend))

/-!
# Letters and digits of a name
-/

theorem isAlphanumeric_of_ascii {c : Char} (h : isAsciiAlphanumeric c = true) :
    isAlphanumeric c = true := by
  have hword : isWordChar c = true := by
    unfold isWordChar
    rw [h, Bool.true_or]
  have hall := wordChar_all (p := fun c => !isAsciiAlphanumeric c || isAlphanumeric c) (by decide)
    hword
  simpa [h] using hall

theorem countP_le_change (change : Char → List Char)
    (hchange : ∀ n < 128, isWordChar (Char.ofNat n) = true →
      (!isAsciiAlphanumeric (Char.ofNat n) ||
        (change (Char.ofNat n)).any isAsciiAlphanumeric) = true) (c : Char) :
    [c].countP isAsciiAlphanumeric ≤ (change c).countP isAsciiAlphanumeric := by
  rw [List.countP_singleton]
  cases hc : isAsciiAlphanumeric c with
  | false => exact Nat.zero_le _
  | true =>
      have hword : isWordChar c = true := by
        unfold isWordChar
        rw [hc, Bool.true_or]
      have hall := wordChar_all (p := fun c => !isAsciiAlphanumeric c ||
        (change c).any isAsciiAlphanumeric) hchange hword
      rw [hc, Bool.not_true, Bool.false_or, List.any_eq_true] at hall
      exact List.countP_pos_iff.mpr hall

theorem countP_le_flatMap {α : Type} {f g : α → List Char}
    (h : ∀ a, (f a).countP isAsciiAlphanumeric ≤ (g a).countP isAsciiAlphanumeric)
    (members : List α) :
    (members.flatMap f).countP isAsciiAlphanumeric ≤
      (members.flatMap g).countP isAsciiAlphanumeric := by
  induction members with
  | nil => exact Nat.le_refl 0
  | cons a rest ih =>
      rw [List.flatMap_cons, List.flatMap_cons, List.countP_append, List.countP_append]
      exact Nat.add_le_add (h a) ih

theorem countP_le_capitalize (word : List Char) :
    word.countP isAsciiAlphanumeric ≤ (capitalize word).countP isAsciiAlphanumeric := by
  cases word with
  | nil => exact Nat.le_refl 0
  | cons c rest =>
      have hfirst := countP_le_change toUpper (by decide) c
      have hrest := countP_le_flatMap (countP_le_change toLower (by decide)) rest
      rw [List.flatMap_singleton'] at hrest
      rw [capitalize, List.countP_append, List.countP_cons]
      rw [List.countP_singleton] at hfirst
      omega

theorem countP_le_upperCamelCase (cs : List Char) :
    cs.countP isAsciiAlphanumeric ≤ (upperCamelCase cs).countP isAsciiAlphanumeric := by
  have hwords := countP_le_flatMap (f := id) countP_le_capitalize (nameWords cs)
  have hkept : (cs.filter isAlphanumeric).countP isAsciiAlphanumeric =
      cs.countP isAsciiAlphanumeric := by
    rw [List.countP_filter]
    apply List.countP_congr
    intro c _
    rw [Bool.and_eq_true]
    exact ⟨And.left, fun hc => ⟨hc, isAlphanumeric_of_ascii hc⟩⟩
  rw [List.flatMap_id, flatten_nameWords, hkept] at hwords
  exact hwords

theorem countP_guardDigit (word : List Char) :
    (guardDigit word).countP isAsciiAlphanumeric = word.countP isAsciiAlphanumeric := by
  cases word with
  | nil => rfl
  | cons c rest =>
      rw [guardDigit]
      split
      · exact List.countP_cons_of_neg (by decide)
      · rfl

theorem countP_asciiWord (name : List Char) :
    (asciiWord name).countP isAsciiAlphanumeric = name.countP isAsciiAlphanumeric := by
  unfold asciiWord
  rw [List.countP_map]
  apply List.countP_congr
  intro c _
  rw [Function.comp_apply]
  cases hc : isAsciiAlphanumeric c with
  | true => rw [if_pos rfl, hc]
  | false => rw [if_neg Bool.false_ne_true]; decide

theorem countP_typeWord (name : List Char) :
    (typeWord name).countP isAsciiAlphanumeric = name.countP isAsciiAlphanumeric := by
  have hword : (orElse "_" (asciiWord name)).countP isAsciiAlphanumeric =
      (asciiWord name).countP isAsciiAlphanumeric := by
    unfold orElse
    split
    · next hempty =>
        rw [List.isEmpty_iff.mp hempty]
        rfl
    · rfl
  unfold typeWord
  rw [countP_guardDigit, hword, countP_asciiWord]

theorem countP_le_structName (table : String) :
    table.toList.countP isAsciiAlphanumeric ≤
      (structName table).toList.countP isAsciiAlphanumeric := by
  have hcamel := countP_le_upperCamelCase table.toList
  have hself : (typeWord (upperCamelCase table.toList)).countP isAsciiAlphanumeric ≤
      (if String.ofList (typeWord (upperCamelCase table.toList)) = "Self" then "Self_"
        else String.ofList (typeWord (upperCamelCase table.toList))).toList.countP
          isAsciiAlphanumeric := by
    split
    · next hname =>
        rw [← String.toList_ofList (l := typeWord (upperCamelCase table.toList)), hname]
        decide
    · rw [String.toList_ofList]
  unfold structName
  dsimp only
  split
  · next hempty =>
      rw [List.isEmpty_iff.mp hempty, List.countP_nil] at hcamel
      exact Nat.le_trans hcamel (Nat.zero_le _)
  · rw [countP_typeWord] at hself
    exact Nat.le_trans hcamel hself

/-!
# Texts of a table
-/

/-- The documentation of a table is one line if the name of the table is, and code that names the
struct before its first literal shows if it is not. -/
theorem bareText_table_iff (table : String) {verb code start back : String}
    (hverb : IsOneLine verb) (hstart : '"' ∉ start.toList)
    (hcount : 5 < start.toList.countP isAsciiAlphanumeric)
    (hcode : Strips code (start ++ structName table ++ back)) :
    bareText (header ++ line ("/// " ++ (structName table ++ verb ++ table ++ " table.")) ++ code) =
      header ++ blankLine ++ (start ++ structName table ++ back) ↔ '\n' ∉ table.toList := by
  have hname := isAsciiWord_structName table
  have hbefore := isOneLine_append (isOneLine_word hname.isWord) hverb
  apply bareText_documented_iff hbefore.left (by decide) hcode
  · rw [String.toList_append, List.mem_append, not_or]
    exact ⟨hstart, fun hquote => Bool.false_ne_true (hname.parts '"' hquote)⟩
  · have hless := countP_le_structName table
    have hend : " table.".toList.countP isAsciiAlphanumeric = 5 := by decide
    rw [String.toList_append, String.toList_append, List.countP_append, List.countP_append, hend]
    omega

theorem lines_struct (first name after : String) (rest : List String) :
    lines (first :: ("pub struct " ++ name ++ after) :: rest) =
      line first ++ "pub struct " ++ name ++ (after ++ "\n" ++ lines rest) := by
  rw [← String.toList_inj]
  simp [toList_lines, line]

theorem bareText_model_iff (table : CatalogTable) :
    bareText (table.model .empty).text = table.outline.modelText ↔ '\n' ∉ table.name.toList := by
  have hcode := lines_struct "#[derive(Debug, Clone, Default, pggo::Entity)]"
    (structName table.name) " \x7b"
    (table.outline.columns.flatMap ColumnOutline.fieldLines ++ ["\x7d"])
  have hstrips := strips_modelCode table
  unfold TableOutline.modelText
  rw [Model.text_eq]
  rw [show table.outline.modelCode = _ from hcode] at hstrips ⊢
  exact bareText_table_iff table.name (by decide) (by decide) (by decide) hstrips

theorem bareText_descriptor_iff (table : CatalogTable) :
    bareText table.descriptor.text = table.outline.descriptorText ↔ '\n' ∉ table.name.toList := by
  have hcode := lines_struct "#[derive(Debug, Clone, Copy, Default)]" (structName table.name) ";"
  have hstrips := strips_descriptorCode table
  unfold TableOutline.descriptorText
  rw [Descriptor.text_eq]
  rw [show table.outline.descriptorCode = _ from hcode _] at hstrips ⊢
  exact bareText_table_iff table.name (by decide) (by decide) (by decide) hstrips

section Rendered

variable {s t : CatalogTable} {catalog catalog' : Catalog} {target target' : Option String}
  {files files' : List GeneratedFile}

/-- What remains of the files of a table is the text of its outline, and so the same for all tables
with one outline, exactly if the name of the table has no line break. -/
theorem remaining_text_is_outline (h : render .empty catalog target = .ok files)
    (hs : IsTarget catalog target s) (h' : render .empty catalog' target' = .ok files')
    (ht : IsTarget catalog' target' t) (hsame : s.outline = t.outline) :
    ∃ model descriptor model' descriptor',
      HoldsTable files s model descriptor ∧ HoldsTable files' t model' descriptor' ∧
      (bareText model = s.outline.modelText ↔ '\n' ∉ s.name.toList) ∧
      (bareText descriptor = s.outline.descriptorText ↔ '\n' ∉ s.name.toList) ∧
      ('\n' ∉ s.name.toList →
        (bareText model' = bareText model ↔ '\n' ∉ t.name.toList) ∧
        (bareText descriptor' = bareText descriptor ↔ '\n' ∉ t.name.toList)) := by
  refine ⟨_, _, _, _, holdsTable_of_render h hs, holdsTable_of_render h' ht,
    bareText_model_iff s, bareText_descriptor_iff s, ?_⟩
  intro hline
  rw [(bareText_model_iff s).mpr hline, (bareText_descriptor_iff s).mpr hline, hsame]
  exact ⟨bareText_model_iff t, bareText_descriptor_iff t⟩

end Rendered

def closingTable : CatalogTable :=
  ⟨"a b", [⟨"x\"); y", "text", true⟩]⟩

def commentingTable : CatalogTable :=
  ⟨"a/*b", [⟨"x\n/// y\\", "text", true⟩]⟩

theorem outline_closingTable : closingTable.outline = commentingTable.outline := by
  have hstructs : structName "a b" = structName "a/*b" := by decide +kernel
  have hnames : Identifier.ofName "x\"); y" = Identifier.ofName "x\n/// y\\" := by decide +kernel
  have hconstants : constantName "x\"); y" = constantName "x\n/// y\\" := by decide +kernel
  have hrenamed : (Identifier.ofName "x\n/// y\\").word ≠ "x\"); y" ∧
      (Identifier.ofName "x\n/// y\\").word ≠ "x\n/// y\\" := by decide +kernel
  unfold CatalogTable.outline closingTable commentingTable
  simp only [List.map_cons, List.map_nil, Column.outline, hstructs, hnames, hconstants,
    decide_eq_true hrenamed.left, decide_eq_true hrenamed.right]
  rfl

theorem odd_names_leave_same_text :
    ∃ files files' model descriptor model' descriptor',
      render .empty (.ofTables [closingTable]) (some closingTable.name) = .ok files ∧
      render .empty (.ofTables [commentingTable]) (some commentingTable.name) = .ok files' ∧
      HoldsTable files closingTable model descriptor ∧
      HoldsTable files' commentingTable model' descriptor' ∧
      bareText model' = bareText model ∧ bareText descriptor' = bareText descriptor := by
  have hs := table?_ofTables_singleton closingTable
  have ht := table?_ofTables_singleton commentingTable
  have hone : ∃ files, renderTable .empty closingTable = .ok files :=
    exists_renderTable _ (List.nodup_singleton _) (List.nodup_singleton _)
  have hother : ∃ files, renderTable .empty commentingTable = .ok files :=
    exists_renderTable _ (List.nodup_singleton _) (List.nodup_singleton _)
  rcases hone with ⟨files, hfiles⟩
  rcases hother with ⟨files', hfiles'⟩
  rw [← render_some hs] at hfiles
  rw [← render_some ht] at hfiles'
  rcases remaining_text_is_outline hfiles hs hfiles' ht outline_closingTable with
    ⟨model, descriptor, model', descriptor', hholds, hholds', _, _, hbare⟩
  rcases hbare (by decide) with ⟨hmodel, hdescriptor⟩
  exact ⟨files, files', model, descriptor, model', descriptor', hfiles, hfiles', hholds, hholds',
    hmodel.mpr (by decide), hdescriptor.mpr (by decide)⟩

/-- Two tables with one outline. The name of the second ends its line of documentation. -/
theorem line_break_in_name_leaves_text :
    CatalogTable.outline ⟨"a b", []⟩ = CatalogTable.outline ⟨"a\nb", []⟩ ∧
      ∃ files files' model descriptor model' descriptor',
        render .empty (.ofTables [⟨"a b", []⟩]) none = .ok files ∧
        render .empty (.ofTables [⟨"a\nb", []⟩]) none = .ok files' ∧
        HoldsTable files ⟨"a b", []⟩ model descriptor ∧
        HoldsTable files' ⟨"a\nb", []⟩ model' descriptor' ∧
        bareText model ≠ bareText model' ∧ bareText descriptor ≠ bareText descriptor' := by
  have hsame : CatalogTable.outline ⟨"a b", []⟩ = CatalogTable.outline ⟨"a\nb", []⟩ := by
    have hstructs : structName "a b" = structName "a\nb" := by decide +kernel
    show TableOutline.mk (structName "a b") [] = .mk (structName "a\nb") []
    rw [hstructs]
  have hmodel := (bareText_model_iff ⟨"a b", []⟩).mpr (by decide)
  have hdescriptor := (bareText_descriptor_iff ⟨"a b", []⟩).mpr (by decide)
  have hbroken : '\n' ∈ "a\nb".toList := by decide
  refine ⟨hsame, _, _, _, _, _, _, render_bare "a b", render_bare "a\nb",
    holdsTable_of_render (render_bare "a b") (List.mem_singleton.mpr rfl),
    holdsTable_of_render (render_bare "a\nb") (List.mem_singleton.mpr rfl), ?_, ?_⟩
  · rw [hmodel, hsame]
    exact fun hequal => (bareText_model_iff ⟨"a\nb", []⟩).mp hequal.symm hbroken
  · rw [hdescriptor, hsame]
    exact fun hequal => (bareText_descriptor_iff ⟨"a\nb", []⟩).mp hequal.symm hbroken

end Rowsmith

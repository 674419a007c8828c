import Rowsmith.Proofs.Derive.Implementation
import Rowsmith.Proofs.Model.Declaration

/-!
# The constants of a descriptor

The text of a descriptor as tokens. Its constants are the table, with the list of all columns, and
one text for every column, both in the order of the columns.
-/

namespace Rowsmith

open Text Derive

/-!
# Constants
-/

def publicConstant (name : String) : Tokens :=
  [wordToken "pub", wordToken "const", .identifier ⟨name, false⟩, mark ':']

def quoted (text : String) : Token :=
  .literal (quote text) (.text text)

def constantTokens (column : DescriptorColumn) : Tokens :=
  publicConstant column.constant ++
    [.punctuation '&' true, .punctuation '\'' true, wordToken "static", wordToken "str", mark '=',
      quoted column.column, mark ';']

theorem spells_publicConstant : Spells "    pub const ".toList [wordToken "pub", wordToken "const"]
    Anything :=
  Spells.of_listedSteps 8 (by decide) fun _ _ _ => rfl

theorem spells_constantLine {column : DescriptorColumn} (h : IsWord column.constant.toList) :
    Spells (line column.line).toList (constantTokens column) Anything := by
  have htype : Spells ": &'static str = ".toList
      [mark ':', .punctuation '&' true, .punctuation '\'' true, wordToken "static",
        wordToken "str", mark '='] Anything :=
    Spells.of_listedSteps 10 (by decide) fun _ _ _ => rfl
  have hend : Spells [';', '\n'] [mark ';'] Anything :=
    Spells.of_listedSteps 2 (by decide) fun _ _ _ => rfl
  have hvalue := (spells_quote column.column).append hend
    fun rest _ => EndsLiteral.cons (by decide) _
  have hname := (spells_word h).append (htype.before hvalue)
    fun rest _ => EndsWord.cons (by decide) _
  have hall := spells_publicConstant.before hname
  have htext : (line column.line).toList = "    pub const ".toList ++
      (column.constant.toList ++ (": &'static str = ".toList ++
        ((quote column.column).toList ++ [';', '\n']))) := by
    apply (toList_line column.line).trans
    unfold DescriptorColumn.line
    simp only [String.toList_append, List.append_assoc]
    rfl
  rw [String.ofList_toList] at hall
  rw [htext]
  exact hall

theorem spells_constantLines {columns : List DescriptorColumn}
    (h : ∀ column ∈ columns, IsWord column.constant.toList) :
    Spells (columns.flatMap fun column => (line column.line).toList)
      (columns.flatMap constantTokens) Anything := by
  induction columns with
  | nil => exact Spells.nil
  | cons column columns ih =>
      have hmore := ih fun other hother => h other (List.mem_cons_of_mem _ hother)
      exact (spells_constantLine (h column (by simp))).before hmore

/-!
# The table
-/

theorem spells_quotedList (texts : List String) :
    Spells (", ".intercalate (texts.map quote)).toList
      ((texts.map quoted).intersperse (mark ',')) EndsLiteral := by
  have hcomma : Spells ", ".toList [mark ','] Anything :=
    Spells.of_listedSteps 2 (by decide) fun _ _ _ => rfl
  induction texts with
  | nil => exact Spells.nil.mono fun _ _ => trivial
  | cons text texts ih =>
      cases texts with
      | nil =>
          rw [List.map_cons, List.map_nil, String.intercalate_singleton]
          exact spells_quote text
      | cons next others =>
          have hmore := (spells_quote text).append (hcomma.before ih)
            fun rest _ => EndsLiteral.cons (by decide) _
          rw [List.map_cons, List.map_cons, String.intercalate_cons_cons, String.toList_append,
            String.toList_append, List.append_assoc]
          exact hmore

def tableValue (table : String) (columns : List String) : Tokens :=
  wordToken "pggo" :: separator ++ wordToken "TableDef" :: separator ++
    [wordToken "new",
      .group .parenthesis
        [quoted table, mark ',', mark '&',
          .group .bracket ((columns.map quoted).intersperse (mark ','))]]

def tableTokens (table : String) (columns : List String) : Tokens :=
  publicConstant "TABLE" ++ wordToken "pggo" :: separator ++ wordToken "TableDef" :: mark '=' ::
    tableValue table columns ++ [mark ';']

def Descriptor.columnNames (descriptor : Descriptor) : List String :=
  descriptor.columns.map DescriptorColumn.column

theorem toList_line_tableLine (descriptor : Descriptor) :
    (line descriptor.tableLine).toList =
      "    pub const TABLE: pggo::TableDef = ".toList ++
        (pathText ⟨"pggo", false⟩ (plainPath ["TableDef", "new"]) ++
          '(' :: ((quote descriptor.table).toList ++ (", ".toList ++ (['&'] ++
            '[' :: ((", ".intercalate (descriptor.columnNames.map quote)).toList ++ [']']))) ++
              [')'])) ++ [';', '\n'] := by
  have hcolumns : (descriptor.columns.map fun c => quote c.column) =
      descriptor.columnNames.map quote := by
    rw [Descriptor.columnNames, List.map_map]
    rfl
  have hnew : "    pub const TABLE: pggo::TableDef = pggo::TableDef::new(".toList =
      "    pub const TABLE: pggo::TableDef = ".toList ++
        (pathText ⟨"pggo", false⟩ (plainPath ["TableDef", "new"]) ++ ['(']) := by
    decide
  have hlist : ", &[".toList = ", ".toList ++ ['&', '['] := by decide
  have hclose : "]);".toList = [']', ')', ';'] := by decide
  apply (toList_line descriptor.tableLine).trans
  unfold Descriptor.tableLine
  rw [hcolumns]
  simp only [String.toList_append, hnew, hlist, hclose, List.append_assoc, List.cons_append,
    List.nil_append]

theorem spells_tableLine (descriptor : Descriptor) :
    Spells (line descriptor.tableLine).toList
      (tableTokens descriptor.table descriptor.columnNames) Anything := by
  have hpath := writable_plainPath
    (by decide : ∀ word ∈ ["pggo", "TableDef", "new"], isPlainWord word = true)
  have hhead : Spells "    pub const TABLE: pggo::TableDef = ".toList
      (publicConstant "TABLE" ++ wordToken "pggo" :: separator ++
        [wordToken "TableDef", mark '=']) Anything :=
    Spells.of_listedSteps 18 (by decide) fun _ _ _ => rfl
  have hcomma : Spells ", ".toList [mark ','] Anything :=
    Spells.of_listedSteps 2 (by decide) fun _ _ _ => rfl
  have hend : Spells [';', '\n'] [mark ';'] Anything :=
    Spells.of_listedSteps 2 (by decide) fun _ _ _ => rfl
  have hlist := Spells.group .bracket (spells_quotedList descriptor.columnNames)
    (by simp) fun rest => EndsLiteral.cons (by decide) rest
  have hreference := (spells_mark (c := '&') false (by decide)).append hlist fun rest _ => rfl
  have harguments := Spells.group .parenthesis
    ((spells_quote descriptor.table).append (hcomma.before hreference)
      fun rest _ => EndsLiteral.cons (by decide) _)
    (by simp [quote]) fun rest => trivial
  have hcall := (spells_pathText hpath).append harguments fun rest _ => EndsWord.cons (by decide) _
  rw [toList_line_tableLine]
  exact (hhead.before hcall).before hend

/-!
# The whole text
-/

def Descriptor.block (descriptor : Descriptor) : Tokens :=
  tableTokens descriptor.table descriptor.columnNames ++ descriptor.columns.flatMap constantTokens

def Descriptor.blockText (descriptor : Descriptor) : Characters :=
  (line descriptor.tableLine).toList ++
    descriptor.constantLines.flatMap fun s => (line s).toList

theorem spells_blockText {descriptor : Descriptor}
    (h : ∀ column ∈ descriptor.columns, IsWord column.constant.toList) :
    Spells descriptor.blockText descriptor.block Anything := by
  apply (spells_tableLine descriptor).before
  have hlines := spells_constantLines h
  unfold Descriptor.constantLines
  cases hcolumns : descriptor.columns with
  | nil => exact Spells.nil
  | cons column columns =>
      have hall := spells_lineEnd.before hlines
      rw [hcolumns] at hall
      simp only [List.isEmpty_cons, if_neg (by decide : ¬false = true), List.flatMap_cons,
        List.flatMap_map] at hall ⊢
      exact hall

def derivedTokens : Tokens :=
  [mark '#',
    .group .bracket
      [wordToken "derive",
        .group .parenthesis
          [wordToken "Debug", mark ',', wordToken "Clone", mark ',', wordToken "Copy", mark ',',
            wordToken "Default"]]]

/-- The function that a descriptor must have to be part of a statement. -/
def buildTokens : Tokens :=
  wordToken "fn" :: wordToken "build" ::
    .group .parenthesis
      (mark '&' :: wordToken "self" :: mark ',' :: wordToken "sql" :: mark ':' :: mark '&' ::
        wordToken "mut" :: wordToken "String" :: mark ',' :: wordToken "args" :: mark ':' ::
        mark '&' :: wordToken "mut" :: wordToken "pggo" :: separator ++
        [wordToken "ParamList"]) ::
    .punctuation '-' true :: mark '>' :: wordToken "pggo" :: separator ++
    [wordToken "OrmResult", mark '<', .group .parenthesis [], mark '>',
      .group .brace
        (wordToken "pggo" :: separator ++ wordToken "Build" :: separator ++
          [wordToken "build",
            .group .parenthesis
              (mark '&' :: wordToken "Self" :: separator ++
                [wordToken "TABLE", mark ',', wordToken "sql", mark ',', wordToken "args"])])]

def buildText : Characters :=
  "\n    fn build(&self, sql: &mut String, args: &mut pggo::ParamList) -> ".toList ++
    ("pggo::OrmResult<()> ".toList ++
      "\x7b\n        pggo::Build::build(&Self::TABLE, sql, args)\n    \x7d\n".toList)

theorem spells_buildText : Spells buildText buildTokens Anything := by
  have hsignature : Spells
      "\n    fn build(&self, sql: &mut String, args: &mut pggo::ParamList) -> ".toList
      (buildTokens.take 5) Anything := Spells.of_listedSteps 37 (by decide) fun _ _ _ => rfl
  have hresult : Spells "pggo::OrmResult<()> ".toList (buildTokens.drop 5 |>.take 7) Anything :=
    Spells.of_listedSteps 9 (by decide) fun _ _ _ => rfl
  have hcall : Spells
      "\x7b\n        pggo::Build::build(&Self::TABLE, sql, args)\n    \x7d\n".toList
      (buildTokens.drop 12) Anything := Spells.of_listedSteps 37 (by decide) fun _ _ _ => rfl
  exact hsignature.before (hresult.before hcall)

/-- Every name in the descriptor may be declared, no column has the name of the table's constant,
and the table's name fits in a line. -/
structure Descriptor.IsLegal (descriptor : Descriptor) : Prop where
  name : Rowsmith.IsLegal ⟨descriptor.name, false⟩
  constants : ∀ column ∈ descriptor.columns, IsWord column.constant.toList
  distinct : ∀ column ∈ descriptor.columns, column.constant ≠ "TABLE"
  table : IsOneLine descriptor.table

def Descriptor.codeSource (descriptor : Descriptor) : Tokens :=
  derivedTokens ++
    [wordToken "pub", wordToken "struct", .identifier ⟨descriptor.name, false⟩, mark ';',
      wordToken "impl", .identifier ⟨descriptor.name, false⟩, .group .brace descriptor.block,
      wordToken "impl", wordToken "pggo"] ++ separator ++
    [wordToken "Build", wordToken "for", .identifier ⟨descriptor.name, false⟩,
      .group .brace buildTokens, wordToken "impl", wordToken "pggo"] ++ separator ++
    [wordToken "Table", wordToken "for", .identifier ⟨descriptor.name, false⟩, .group .brace []]

def Descriptor.source (descriptor : Descriptor) : Tokens :=
  (documentationAttribute
      (" " ++ (descriptor.name ++ " describes the " ++ descriptor.table ++ " table."))).tokens ++
    derivedTokens ++
    [wordToken "pub", wordToken "struct", .identifier ⟨descriptor.name, false⟩, mark ';',
      wordToken "impl", .identifier ⟨descriptor.name, false⟩, .group .brace descriptor.block,
      wordToken "impl", wordToken "pggo"] ++ separator ++
    [wordToken "Build", wordToken "for", .identifier ⟨descriptor.name, false⟩,
      .group .brace buildTokens, wordToken "impl", wordToken "pggo"] ++ separator ++
    [wordToken "Table", wordToken "for", .identifier ⟨descriptor.name, false⟩, .group .brace []]

def Descriptor.code (descriptor : Descriptor) : String :=
  lines
    (["#[derive(Debug, Clone, Copy, Default)]", "pub struct " ++ descriptor.name ++ ";", "",
        "impl " ++ descriptor.name ++ " \x7b", descriptor.tableLine] ++
      descriptor.constantLines ++
      ["\x7d", "", "impl pggo::Build for " ++ descriptor.name ++ " \x7b",
        "    fn build(&self, sql: &mut String, args: &mut pggo::ParamList) -> pggo::OrmResult<()> \x7b",
        "        pggo::Build::build(&Self::TABLE, sql, args)", "    \x7d", "\x7d", "",
        "impl pggo::Table for " ++ descriptor.name ++ " \x7b\x7d"])

theorem Descriptor.text_eq (descriptor : Descriptor) :
    descriptor.text = header ++
      line ("/// " ++ (descriptor.name ++ " describes the " ++ descriptor.table ++ " table.")) ++
      descriptor.code := by
  unfold Descriptor.text Descriptor.code
  rw [← String.toList_inj]
  simp [toList_lines, String.append_assoc]

theorem toList_descriptorCode (descriptor : Descriptor) :
    descriptor.code.toList = "#[derive(Debug, Clone, Copy, Default)]\npub struct ".toList ++
      (descriptor.name.toList ++ (";\n\nimpl ".toList ++
        (descriptor.name.toList ++ ([' '] ++
          ('\x7b' :: (['\n'] ++ descriptor.blockText ++ ['\x7d']) ++
          ("\n\nimpl pggo::Build for ".toList ++
            (descriptor.name.toList ++ ([' '] ++ ('\x7b' :: (buildText ++ ['\x7d']) ++
              ("\n\nimpl pggo::Table for ".toList ++
                (descriptor.name.toList ++ " \x7b\x7d\n".toList))))))))))) := by
  unfold Descriptor.code Descriptor.blockText buildText
  rw [toList_lines]
  simp only [List.flatMap_append, List.flatMap_cons, List.flatMap_nil, toList_line,
    String.toList_append]
  -- A literal is the text of its characters; the kernel is slow to find them by decoding it.
  repeat rw [String.toList_ofList]
  simp

theorem spells_descriptorCode {descriptor : Descriptor}
    (hname : Writable ⟨descriptor.name, false⟩)
    (hconstants : ∀ column ∈ descriptor.columns, IsWord column.constant.toList) :
    Spells descriptor.code.toList descriptor.codeSource Anything := by
  have hmention : ∀ {text : Characters} {tokens : Tokens}, Spells text tokens Anything →
      (∀ rest, EndsWord (text ++ rest)) →
        Spells (descriptor.name.toList ++ text)
          ([.identifier ⟨descriptor.name, false⟩] ++ tokens) Anything :=
    fun htext hends => (spells_identifier hname).append htext fun rest _ => hends rest
  have hderive : Spells "#[derive(Debug, Clone, Copy, Default)]\npub struct ".toList
      (derivedTokens ++ [wordToken "pub", wordToken "struct"]) Anything :=
    Spells.of_listedSteps 21 (by decide) fun _ _ _ => rfl
  have hstruct : Spells ";\n\nimpl ".toList [mark ';', wordToken "impl"] Anything :=
    Spells.of_listedSteps 5 (by decide) fun _ _ _ => rfl
  have hbuild : Spells "\n\nimpl pggo::Build for ".toList
      (wordToken "impl" :: wordToken "pggo" :: separator ++ [wordToken "Build", wordToken "for"])
      Anything := Spells.of_listedSteps 11 (by decide) fun _ _ _ => rfl
  have htable : Spells "\n\nimpl pggo::Table for ".toList
      (wordToken "impl" :: wordToken "pggo" :: separator ++ [wordToken "Table", wordToken "for"])
      Anything := Spells.of_listedSteps 11 (by decide) fun _ _ _ => rfl
  have hempty : Spells " \x7b\x7d\n".toList [.group .brace []] Anything :=
    Spells.of_listedSteps 4 (by decide) fun _ _ _ => rfl
  have hblock := Spells.group .brace
    (spells_lineEnd.before (spells_blockText hconstants)) (by simp) fun rest => trivial
  have hbody := Spells.group .brace spells_buildText (by simp) fun rest => trivial
  have hlast := htable.before (hmention hempty fun rest => EndsWord.cons (by decide) _)
  have hmiddle := hbuild.before (hmention (spells_blank.before (hbody.before hlast))
    fun rest => EndsWord.cons (by decide) _)
  have hfirst := hstruct.before (hmention (spells_blank.before (hblock.before hmiddle))
    fun rest => EndsWord.cons (by decide) _)
  have hall := hderive.before (hmention hfirst fun rest => EndsWord.cons (by decide) _)
  rw [toList_descriptorCode]
  exact hall

theorem tokensOf_descriptorText {descriptor : Descriptor} (hlegal : descriptor.IsLegal) :
    tokensOf descriptor.text = some descriptor.source := by
  have hline : IsOneLine
      (descriptor.name ++ " describes the " ++ descriptor.table ++ " table.") :=
    isOneLine_sentence hlegal.name.writable.word hlegal.table (by decide)
  have hcode := spells_descriptorCode hlegal.name.writable hlegal.constants
  have hall := (spells_header.before (spells_documentationLine hline)).before hcode
  apply tokensOf_of_spells
  · rw [Descriptor.text_eq, String.toList_append, String.toList_append]
    exact hall.mono fun _ _ => trivial
  · rw [Descriptor.text_eq]
    simp [header, line]

/-!
# The lists in the text
-/

theorem statementsFrom_constants (columns : List DescriptorColumn) :
    (statementsFrom [] (columns.flatMap constantTokens)).filterMap constant? =
      columns.map fun column => (column.constant, [quoted column.column]) := by
  induction columns with
  | nil => rfl
  | cons column columns ih =>
      exact congrArg ((column.constant, [quoted column.column]) :: ·) ih

theorem constants?_source (descriptor : Descriptor) :
    constants? descriptor.source =
      some (("TABLE", tableValue descriptor.table descriptor.columnNames) ::
        descriptor.columns.map fun column => (column.constant, [quoted column.column])) := by
  have hblock : inherentBlock? descriptor.source = some descriptor.block := rfl
  have hconstants : (statementsFrom [] descriptor.block).filterMap constant? =
      ("TABLE", tableValue descriptor.table descriptor.columnNames) ::
        (statementsFrom [] (descriptor.columns.flatMap constantTokens)).filterMap constant? := rfl
  unfold constants?
  rw [hblock, Option.bind_eq_bind, Option.bind_some, hconstants, statementsFrom_constants]
  rfl

theorem tableColumns?_source (descriptor : Descriptor) :
    tableColumns? descriptor.source = some descriptor.columnNames := by
  unfold tableColumns?
  rw [constants?_source]
  show some (textValues ((descriptor.columnNames.map quoted).intersperse (mark ','))) = _
  rw [textValues_intersperse (fun _ => rfl) rfl, List.map_id']

theorem columnConstants?_source {descriptor : Descriptor} (hlegal : descriptor.IsLegal) :
    columnConstants? descriptor.source = some descriptor.columnNames := by
  have hkept : (descriptor.columns.map fun column =>
      (column.constant, [quoted column.column])).filter (·.1 ≠ "TABLE") =
        descriptor.columns.map fun column => (column.constant, [quoted column.column]) := by
    rw [List.filter_eq_self]
    intro constant hconstant
    rcases List.mem_map.mp hconstant with ⟨column, hcolumn, rfl⟩
    exact decide_eq_true (hlegal.distinct column hcolumn)
  unfold columnConstants?
  rw [constants?_source, Option.bind_eq_bind, Option.bind_some,
    List.filter_cons_of_neg (by simp), hkept, List.flatMap_map]
  show some (descriptor.columns.flatMap fun column => [column.column]) = _
  rw [← List.map_eq_flatMap]
  rfl

end Rowsmith

import Rowsmith.Model.Render
import Rowsmith.Proofs.Derive.Declaration
import Rowsmith.Proofs.Derive.TypeText
import Rowsmith.Proofs.Text.Basic

/-!
# The declaration of a model

The text of a model is read as the struct it was printed from: every field has its identifier, the
attribute for its column if it needs one, and the type that its text stands for.
-/

namespace Rowsmith

open Text Derive

structure IsLegal (name : Identifier) : Prop where
  writable : Writable name
  isName : isName name = true

instance (name : Identifier) : Decidable (IsLegal name) :=
  decidable_of_iff (Writable name ∧ Derive.isName name = true)
    ⟨fun h => ⟨h.left, h.right⟩, fun h => ⟨h.writable, h.isName⟩⟩

def IsOneLine (s : String) : Prop :=
  '\n' ∉ s.toList ∧ '\r' ∉ s.toList

instance (s : String) : Decidable (IsOneLine s) :=
  inferInstanceAs (Decidable (_ ∧ _))

/-!
# Lines
-/

theorem spells_header : Spells header.toList [] Anything :=
  Spells.of_listedSteps 3 (by decide) fun _ _ _ => rfl

theorem spells_lineEnd : Spells ['\n'] [] Anything :=
  Spells.of_listedSteps 1 (by decide) fun _ _ _ => rfl

theorem spells_indent : Spells "    ".toList [] Anything :=
  Spells.of_listedSteps 4 (by decide) fun _ _ _ => rfl

theorem isOneLine_append {s t : String} (hs : IsOneLine s) (ht : IsOneLine t) :
    IsOneLine (s ++ t) := by
  constructor
  · rw [String.toList_append, List.mem_append]
    exact fun h => h.elim hs.left ht.left
  · rw [String.toList_append, List.mem_append]
    exact fun h => h.elim hs.right ht.right

theorem isOneLine_word {s : String} (h : IsWord s.toList) : IsOneLine s := by
  constructor
  · intro hmem
    have hpart := h.parts '\n' hmem
    revert hpart
    decide
  · intro hmem
    have hpart := h.parts '\r' hmem
    revert hpart
    decide

theorem isOneLine_sentence {name verb table : String} (hname : IsWord name.toList)
    (htable : IsOneLine table) (hverb : IsOneLine verb) :
    IsOneLine (name ++ verb ++ table ++ " table.") := by
  have hend : IsOneLine " table." := by decide
  have hstart := isOneLine_append (isOneLine_word hname) hverb
  exact isOneLine_append (isOneLine_append hstart htable) hend

def documentationAttribute (text : String) : Attribute :=
  ⟨⟨false, [⟨"doc", false⟩]⟩, .value [.literal (quoteToken text) (.text text)]⟩

theorem spells_documentationLine {text : String} (h : IsOneLine text) :
    Spells (line ("/// " ++ text)).toList (documentationAttribute (" " ++ text)).tokens
      Anything := by
  have hcomment := (spells_documentation h.left h.right).append spells_lineEnd fun rest _ => rfl
  have htext : String.ofList (' ' :: text.toList) = " " ++ text := by
    rw [← String.toList_inj]
    simp
  rw [toList_line, String.toList_append]
  rw [List.append_nil] at hcomment
  unfold documentation at hcomment
  rw [htext] at hcomment
  exact hcomment

/-!
# Fields
-/

theorem spells_columnAttribute (column : String) :
    Spells ("#[pggo(column = " ++ quote column ++ ")]").toList (columnAttribute column).tokens
      Anything := by
  have hpggo : IsWord "pggo".toList := by decide
  have hname : Spells "column = ".toList [wordToken "column", .punctuation '=' false] Anything :=
    Spells.of_listedSteps 4 (by decide) fun _ _ _ => rfl
  have hsetting := Spells.group .parenthesis (hname.before (spells_quote column))
    (by simp) fun rest => EndsLiteral.cons (by decide) rest
  have hcontent := (spells_word hpggo).append hsetting fun rest _ => EndsWord.cons (by decide) _
  have hbracket := Spells.group .bracket hcontent (by simp) fun rest => trivial
  have hsign := (spells_mark (c := '#') false (by decide)).append hbracket fun rest _ => rfl
  have htext : ("#[pggo(column = " ++ quote column ++ ")]").toList =
      ['#'] ++ Delimiter.bracket.opening :: ("pggo".toList ++ Delimiter.parenthesis.opening ::
        ("column = ".toList ++ (quote column).toList ++ [Delimiter.parenthesis.closing]) ++
          [Delimiter.bracket.closing]) := by
    simp [Delimiter.opening, Delimiter.closing]
  rw [htext]
  exact hsign

def fieldText (field : ModelField) : Characters :=
  field.lines.flatMap fun s => (line s).toList

theorem spells_fieldText {field : ModelField} {tokens : Bool → Tokens}
    (hname : Writable field.identifier) (h : LexesAsType field.fieldType tokens) :
    Spells (fieldText field)
      (Reader.fieldHead (columnAttributes field.identifier field.column) field.identifier ++
        tokens true ++ [.punctuation ',' false]) Anything := by
  have hpublic : Spells "    pub ".toList [wordToken "pub"] Anything :=
    Spells.of_listedSteps 6 (by decide) fun _ _ _ => rfl
  have hcolon : Spells ": ".toList [.punctuation ':' false] Anything :=
    Spells.of_listedSteps 2 (by decide) fun _ _ _ => rfl
  have hcomma : Spells [',', '\n'] [.punctuation ',' false] Anything :=
    Spells.of_listedSteps 2 (by decide) fun _ _ _ => rfl
  have htype := (h true).append hcomma fun rest _ => FollowsType.comma _
  have hafter := (spells_identifier hname).append (hcolon.before htype)
    fun rest _ => EndsWord.cons (by decide) _
  have hfield := hpublic.before hafter
  have hattribute := (spells_indent.before (spells_columnAttribute field.column)).before
    spells_lineEnd
  have hlines : fieldText field =
      (if field.identifier.word = field.column then []
        else "    ".toList ++ ("#[pggo(column = " ++ quote field.column ++ ")]").toList ++
          ['\n']) ++
      ("    pub ".toList ++ (field.identifier.text.toList ++
        (": ".toList ++ (field.fieldType.toList ++ [',', '\n'])))) := by
    unfold fieldText ModelField.lines
    split <;> simp [line]
  rw [hlines]
  unfold Reader.fieldHead columnAttributes
  split
  · simpa using hfield
  · simpa using hattribute.before hfield

section Fields

variable {source : ModelField → Bool → Tokens} {type : ModelField → Tokens}

def fieldSource (source : ModelField → Bool → Tokens) (field : ModelField) : Tokens :=
  Reader.fieldHead (columnAttributes field.identifier field.column) field.identifier ++
    source field true

def declaredField (type : ModelField → Tokens) (field : ModelField) : Field :=
  ⟨columnAttributes field.identifier field.column, [wordToken "pub"], field.identifier, type field⟩

theorem spells_fieldTexts {fields : List ModelField}
    (hnames : ∀ field ∈ fields, Writable field.identifier)
    (hlexed : ∀ field ∈ fields, LexesAsType field.fieldType (source field)) :
    Spells (fields.flatMap fieldText)
      (fields.flatMap fun field => fieldSource source field ++ [.punctuation ',' false])
      Anything := by
  induction fields with
  | nil => exact Spells.nil
  | cons field fields ih =>
      have hfield := spells_fieldText (hnames field (by simp)) (hlexed field (by simp))
      have hmore := ih (fun other hother => hnames other (List.mem_cons_of_mem _ hother))
        (fun other hother => hlexed other (List.mem_cons_of_mem _ hother))
      exact hfield.before hmore

theorem readsBack_columnAttributes (read : PhraseReader) (name : Identifier) (column : String) :
    ∀ self ∈ columnAttributes name column, Reader.ReadsBack read self := by
  intro self hself
  unfold columnAttributes at hself
  split at hself
  · cases hself
  · rw [List.mem_singleton] at hself
    rw [hself]
    exact Reader.readsBack_list read (by decide) _ _

theorem run_fieldSource {field : ModelField} {depth : Nat} (hname : IsLegal field.identifier)
    (hreads : ReadsAsType field.fieldType (source field) (type field))
    (hdepth : 16 * (field.fieldType.length + 1) ≤ depth) (rest : Tokens) :
    (Reader.field (Phrase.reader depth)).run
      (fieldSource source field ++ .punctuation ',' false :: rest) =
        some (declaredField type field, .punctuation ',' false :: rest) := by
  have htype : (Reader.type (Phrase.reader depth) true).run
      (source field true ++ .punctuation ',' false :: rest) =
        some (type field, .punctuation ',' false :: rest) :=
    hreads.field hdepth (EndsType.comma false rest)
  unfold fieldSource
  rw [List.append_assoc]
  exact Reader.run_field _ (readsBack_columnAttributes _ _ _) hname.isName htype

end Fields

/-!
# Structs
-/

def deriveAttribute : Attribute :=
  ⟨⟨false, [⟨"derive", false⟩]⟩,
    .list .parenthesis
      [wordToken "Debug", .punctuation ',' false, wordToken "Clone", .punctuation ',' false,
        wordToken "Default", .punctuation ',' false, wordToken "pggo", .punctuation ':' true,
        .punctuation ':' false, wordToken "Entity"]⟩

def Model.attributes (model : Model) : List Attribute :=
  [documentationAttribute
      (" " ++ (model.name ++ " represents the " ++ model.table ++ " table.")), deriveAttribute]

def Model.codeSource (model : Model) (source : ModelField → Bool → Tokens) : Tokens :=
  deriveAttribute.tokens ++
    [wordToken "pub", wordToken "struct", .identifier ⟨model.name, false⟩,
      .group .brace
        (model.fields.flatMap fun field => fieldSource source field ++ [.punctuation ',' false])]

def Model.source (model : Model) (source : ModelField → Bool → Tokens) : Tokens :=
  model.attributes.flatMap Attribute.tokens ++
    [wordToken "pub", wordToken "struct", .identifier ⟨model.name, false⟩,
      .group .brace
        (model.fields.flatMap fun field => fieldSource source field ++ [.punctuation ',' false])]

def Model.item (model : Model) (type : ModelField → Tokens) : Item :=
  ⟨⟨model.name, false⟩, [], [],
    .named (model.fields.map fun field => ⟨declaredField type field, true⟩)⟩

/-- Every name in the model may be declared, and the table's fits in a line. -/
structure Model.IsLegal (model : Model) : Prop where
  name : Rowsmith.IsLegal ⟨model.name, false⟩
  fields : ∀ field ∈ model.fields, Rowsmith.IsLegal field.identifier
  table : IsOneLine model.table

def Model.code (model : Model) : String :=
  lines
    (["#[derive(Debug, Clone, Default, pggo::Entity)]", "pub struct " ++ model.name ++ " \x7b"] ++
      model.fields.flatMap ModelField.lines ++ ["\x7d"])

theorem Model.text_eq (model : Model) :
    model.text = header ++
      line ("/// " ++ (model.name ++ " represents the " ++ model.table ++ " table.")) ++
      model.code := by
  unfold Model.text Model.code
  rw [← String.toList_inj]
  simp [toList_lines, String.append_assoc]

section Text

variable {model : Model} {source : ModelField → Bool → Tokens} {type : ModelField → Tokens}

theorem toList_modelCode (model : Model) :
    model.code.toList = "#[derive(Debug, Clone, Default, pggo::Entity)]\npub struct ".toList ++
      (model.name.toList ++ ([' '] ++ (Delimiter.brace.opening ::
        (['\n'] ++ model.fields.flatMap fieldText ++ [Delimiter.brace.closing]) ++ ['\n']))) := by
  unfold Model.code fieldText
  rw [toList_lines]
  simp [line, Delimiter.opening, Delimiter.closing, List.flatMap_assoc]

theorem spells_modelCode (hname : Writable ⟨model.name, false⟩)
    (hfields : ∀ field ∈ model.fields, Writable field.identifier)
    (hlexed : ∀ field ∈ model.fields, LexesAsType field.fieldType (source field)) :
    Spells model.code.toList (model.codeSource source) Anything := by
  have hderive : Spells "#[derive(Debug, Clone, Default, pggo::Entity)]\npub struct ".toList
      (deriveAttribute.tokens ++ [wordToken "pub", wordToken "struct"]) Anything :=
    Spells.of_listedSteps 24 (by decide) fun _ _ _ => rfl
  have hblank : Spells [' '] [] Anything := Spells.of_listedSteps 1 (by decide) fun _ _ _ => rfl
  have hinner := spells_lineEnd.before (spells_fieldTexts hfields hlexed)
  have hbody := Spells.group .brace hinner (by simp) fun rest => trivial
  have hstruct := (spells_identifier hname).append
    (hblank.before (hbody.before spells_lineEnd)) fun rest _ => EndsWord.cons (by decide) _
  rw [toList_modelCode]
  exact hderive.before hstruct

theorem spells_modelText (hlegal : model.IsLegal)
    (hreads : ∀ field ∈ model.fields,
      ReadsAsType field.fieldType (source field) (type field)) :
    Spells model.text.toList (model.source source) Anything := by
  have hline : IsOneLine (model.name ++ " represents the " ++ model.table ++ " table.") :=
    isOneLine_sentence hlegal.name.writable.word hlegal.table (by decide)
  have hcode := spells_modelCode hlegal.name.writable
    (fun field hfield => (hlegal.fields field hfield).writable)
    fun field hfield => (hreads field hfield).lexed
  have hall := (spells_header.before (spells_documentationLine hline)).before hcode
  rw [Model.text_eq, String.toList_append, String.toList_append]
  exact hall

theorem length_fieldType {field : ModelField} (hfield : field ∈ model.fields) :
    field.fieldType.length + 1 ≤ model.text.length := by
  have htype : field.fieldType.toList.length ≤ (fieldText field).length := by
    unfold fieldText ModelField.lines
    simp only [List.flatMap_append, List.length_append, List.flatMap_cons, toList_line,
      String.toList_append]
    omega
  have hfields : (fieldText field).length ≤ (model.fields.flatMap fieldText).length :=
    (List.sublist_flatten_of_mem (List.mem_map_of_mem hfield)).length_le
  rw [← String.length_toList, ← String.length_toList, Model.text_eq, String.toList_append,
    toList_modelCode]
  simp only [List.length_append, List.length_cons, List.length_nil]
  omega

theorem tokensOf_modelText (hlegal : model.IsLegal)
    (hreads : ∀ field ∈ model.fields,
      ReadsAsType field.fieldType (source field) (type field)) :
    tokensOf model.text = some (model.source source) := by
  apply tokensOf_of_spells
  · exact (spells_modelText hlegal hreads).mono fun _ _ => trivial
  · rw [Model.text_eq]
    simp [header, line]

/-- The text of a model is read as the struct with its fields, attributes and types. -/
theorem ofSource?_modelText (hlegal : model.IsLegal)
    (hreads : ∀ field ∈ model.fields,
      ReadsAsType field.fieldType (source field) (type field)) :
    Item.ofSource? model.text = some (model.item type) := by
  have hattributes : ∀ self ∈ model.attributes,
      Reader.ReadsBack (Phrase.reader (16 * model.text.length + 15 + 1)) self := by
    intro self hself
    simp only [Model.attributes, List.mem_cons, List.not_mem_nil, or_false] at hself
    rcases hself with rfl | rfl
    · exact Reader.readsBack_documentation (16 * model.text.length + 10) _ _
    · exact Reader.readsBack_list _ (by decide) _ _
  have hfield : ∀ field ∈ model.fields, ∀ rest,
      (Reader.field (Phrase.reader (16 * model.text.length + 15))).run
        (fieldSource source field ++ .punctuation ',' false :: rest) =
          some (declaredField type field, .punctuation ',' false :: rest) := by
    intro field hmem rest
    have hlength := length_fieldType hmem
    exact run_fieldSource (hlegal.fields field hmem) (hreads field hmem) (by omega) rest
  have hitem := Reader.run_declarationWithin hattributes hlegal.name.isName
    (Reader.run_fields _ hfield [])
  have hrun : (Reader.declarationWithin (16 * (model.text.length + 1))).run
      (model.source source) = some (model.item type, []) := hitem
  unfold Item.ofSource?
  rw [tokensOf_modelText hlegal hreads]
  simp only [Option.bind_eq_bind, Option.bind_some, hrun]

end Text

end Rowsmith

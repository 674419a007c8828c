import Rowsmith.Proofs.Derive.TypeText
import Rowsmith.Proofs.Model.Descriptor
import Rowsmith.Proofs.Model.FieldType
import Rowsmith.Proofs.Model.Index
import Rowsmith.Proofs.Model.Rendered

/-!
# Structs with the names of types

A struct is in scope in the file that declares it, and a type written there without a path is the
struct if it has its name. The files of a table write few such types: `Option`, `Vec`, `String` and
the primitive ones, which begin with a small letter as no struct does. Nothing keeps a table from
being called like one of the other three.
-/

namespace Rowsmith

open Text Derive

/-!
# Names in the types of columns
-/

def MentionsNames (text : String) (names : List String) : Prop :=
  ∃ tokens, LexesAsType text tokens ∧ NamesTypes tokens names

theorem mentionsNames_generic {text word argument : String} {names : List String}
    (hword : isPlainWord word = true) (htext : text.toList = genericText word.toList argument)
    (h : MentionsNames argument names) : MentionsNames text (word :: names) := by
  rcases h with ⟨tokens, hlexed, hnames⟩
  refine ⟨_, ?_, namesTypes_generic argument (isName_of_isPlainWord hword) hnames⟩
  intro joint
  rw [htext]
  exact spells_genericText (spells_identifier (writable_of_isPlainWord hword)) hlexed joint

theorem mentionsNames_listType {element : String} {names : List String}
    (h : MentionsNames element names) : MentionsNames (listType element) ("Vec" :: names) :=
  mentionsNames_generic (by decide) (by simp [listType, genericText]) h

theorem mentionsNames_optionalType {inner : String} {names : List String}
    (h : MentionsNames inner names) : MentionsNames (optionalType inner) ("Option" :: names) :=
  mentionsNames_generic (by decide) (by simp [optionalType, genericText]) h

theorem mentionsNames_path {text first : String} {later : List String}
    (hwords : ∀ word ∈ first :: later, isPlainWord word = true)
    (htext : text.toList = pathText ⟨first, false⟩ (plainPath later)) :
    MentionsNames text (ownNames ⟨first, false⟩ (plainPath later)) := by
  have hname : isName ⟨first, false⟩ = true := isName_plainPath hwords _ List.mem_cons_self
  refine ⟨_, ?_, namesTypes_path hname (plainPath later)⟩
  intro joint
  rw [htext]
  exact (spells_pathText (writable_plainPath hwords)).mono fun rest hrest => hrest.endsWord

theorem mentionsNames_dateTime : MentionsNames "chrono::DateTime<chrono::Utc>" [] := by
  have hargumentWords : ∀ word ∈ "chrono" :: ["Utc"], isPlainWord word = true := by decide
  have hargument : MentionsNames "chrono::Utc" [] := mentionsNames_path hargumentWords (by decide)
  have hwords : ∀ word ∈ ["chrono", "DateTime"], isPlainWord word = true := by decide
  have htext : "chrono::DateTime<chrono::Utc>".toList =
      genericText (pathText ⟨"chrono", false⟩ (plainPath ["DateTime"])) "chrono::Utc" := by
    decide
  rcases hargument with ⟨tokens, hlexed, hnames⟩
  refine ⟨_, ?_, namesTypes_genericPath "chrono::Utc" ⟨"chrono", false⟩ ⟨"DateTime", false⟩ []
    hnames⟩
  intro joint
  rw [htext]
  exact spells_genericText (spells_pathText (writable_plainPath hwords)) hlexed joint

/-!
# Which names there are
-/

/-- The type of the text has one of the names that begin with a capital: that of optional values, of
lists or of texts, for itself or in what it is made of. -/
inductive UsesType : String → String → Prop where
  | optional (inner : String) : UsesType (optionalType inner) "Option"
  | list (element : String) : UsesType (listType element) "Vec"
  | text : UsesType textType "String"
  | inOptional {inner name : String} (h : UsesType inner name) : UsesType (optionalType inner) name
  | inList {element name : String} (h : UsesType element name) : UsesType (listType element) name

section Names

variable {text inner element name : String}

theorem usesType_cases (h : UsesType text name) :
    (∃ inner, text = optionalType inner ∧ (name = "Option" ∨ UsesType inner name)) ∨
      (∃ element, text = listType element ∧ (name = "Vec" ∨ UsesType element name)) ∨
      (text = textType ∧ name = "String") := by
  cases h with
  | optional inner => exact Or.inl ⟨inner, rfl, Or.inl rfl⟩
  | list element => exact Or.inr (Or.inl ⟨element, rfl, Or.inl rfl⟩)
  | text => exact Or.inr (Or.inr ⟨rfl, rfl⟩)
  | inOptional h => exact Or.inl ⟨_, rfl, Or.inr h⟩
  | inList h => exact Or.inr (Or.inl ⟨_, rfl, Or.inr h⟩)

@[simp] theorem head?_optionalType (inner : String) :
    (optionalType inner).toList.head? = some 'O' := by
  simp [optionalType]

@[simp] theorem head?_listType (element : String) :
    (listType element).toList.head? = some 'V' := by
  simp [listType]

theorem ne_of_head? {s t : String} {c d : Char} (hs : s.toList.head? = some c)
    (ht : t.toList.head? = some d) (h : c ≠ d) : s ≠ t := by
  intro hsame
  rw [hsame] at hs
  exact h (Option.some.inj (hs.symm.trans ht))

theorem usesType_textType_iff : UsesType textType name ↔ name = "String" := by
  constructor
  · intro h
    rcases usesType_cases h with ⟨inner, htext, _⟩ | ⟨element, htext, _⟩ | ⟨_, hname⟩
    · exact absurd htext (ne_of_head? rfl (head?_optionalType inner) (by decide))
    · exact absurd htext (ne_of_head? rfl (head?_listType element) (by decide))
    · exact hname
  · intro hname
    rw [hname]
    exact UsesType.text

theorem usesType_listType_iff :
    UsesType (listType element) name ↔ name = "Vec" ∨ UsesType element name := by
  constructor
  · intro h
    have hhead := head?_listType element
    rcases usesType_cases h with ⟨inner, htext, _⟩ | ⟨other, htext, hname⟩ | ⟨htext, _⟩
    · exact absurd htext (ne_of_head? hhead (head?_optionalType inner) (by decide))
    · have hsame : element = other := by simpa [listType] using htext
      rw [hsame]
      exact hname
    · exact absurd htext (ne_of_head? hhead rfl (by decide))
  · intro h
    rcases h with hname | hinner
    · rw [hname]
      exact UsesType.list element
    · exact UsesType.inList hinner

theorem usesType_optionalType_iff :
    UsesType (optionalType inner) name ↔ name = "Option" ∨ UsesType inner name := by
  constructor
  · intro h
    have hhead := head?_optionalType inner
    rcases usesType_cases h with ⟨other, htext, hname⟩ | ⟨element, htext, _⟩ | ⟨htext, _⟩
    · have hsame : inner = other := by simpa [optionalType] using htext
      rw [hsame]
      exact hname
    · exact absurd htext (ne_of_head? hhead (head?_listType element) (by decide))
    · exact absurd htext (ne_of_head? hhead rfl (by decide))
  · intro h
    rcases h with hname | hinner
    · rw [hname]
      exact UsesType.optional inner
    · exact UsesType.inOptional hinner

theorem name_of_usesType (h : UsesType text name) : name ∈ ["Option", "Vec", "String"] := by
  induction h with
  | optional inner => decide
  | list element => decide
  | text => decide
  | inOptional _ ih => exact ih
  | inList _ ih => exact ih

theorem not_usesType (hhead : text.toList.head?.any isSmall = true) : ¬UsesType text name := by
  intro h
  rcases usesType_cases h with ⟨inner, rfl, _⟩ | ⟨element, rfl, _⟩ | ⟨rfl, _⟩
  · rw [head?_optionalType] at hhead
    exact absurd hhead (by decide)
  · rw [head?_listType] at hhead
    exact absurd hhead (by decide)
  · exact absurd hhead (by decide)

end Names

/-- The names in the text, as far as they may be a struct's, are those that its type uses. -/
def MentionsUsed (text : String) : Prop :=
  ∃ names, MentionsNames text names ∧
    ∀ name, BeginsUpright name.toList → (name ∈ names ↔ UsesType text name)

theorem knownPaths_cases : ∀ path ∈ knownPaths, path = (textType, []) ∨
    path.1.toList.head?.any isSmall = true := by
  decide

theorem head?_pathText {first : Identifier} {later : List Identifier}
    (hplain : first.raw = false) (hsmall : first.word.toList.head?.any isSmall = true) :
    (pathText first later).head?.any isSmall = true := by
  unfold pathText Identifier.text
  rw [hplain, if_neg Bool.false_ne_true, List.head?_append]
  cases hfirst : first.word.toList.head? with
  | none =>
      rw [hfirst] at hsmall
      cases hsmall
  | some c =>
      rw [hfirst] at hsmall
      exact hsmall

theorem not_beginsUpright {name : String} (hsmall : name.toList.head?.any isSmall = true) :
    ¬BeginsUpright name.toList := by
  intro hupright
  rcases hupright with ⟨c, rest, hfirst, hc⟩
  rw [hfirst] at hsmall
  rw [show isSmall c = true from hsmall] at hc
  cases hc

theorem mentionsUsed_path {text : String} (h : IsKnownPath text) : MentionsUsed text := by
  rcases h with ⟨⟨first, later⟩, hpath, htext⟩
  refine ⟨_, mentionsNames_path (isPlainWord_knownPaths _ hpath) htext, ?_⟩
  intro name hupright
  rcases knownPaths_cases _ hpath with hwhole | hsmall
  · cases hwhole
    rw [show text = textType from String.toList_inj.mp htext, usesType_textType_iff]
    exact List.mem_singleton
  · have hhead : text.toList.head?.any isSmall = true := by
      rw [htext]
      exact head?_pathText rfl hsmall
    refine iff_of_false ?_ (not_usesType hhead)
    intro hmem
    unfold ownNames at hmem
    split at hmem
    · rw [List.mem_singleton.mp hmem] at hupright
      exact not_beginsUpright hsmall hupright
    · cases hmem

theorem mentionsUsed_listType {element : String} (h : MentionsUsed element) :
    MentionsUsed (listType element) := by
  rcases h with ⟨names, hmentions, hnames⟩
  refine ⟨"Vec" :: names, mentionsNames_listType hmentions, ?_⟩
  intro name hupright
  rw [List.mem_cons, hnames name hupright, usesType_listType_iff]

theorem mentionsUsed_optionalType {inner : String} (h : MentionsUsed inner) :
    MentionsUsed (optionalType inner) := by
  rcases h with ⟨names, hmentions, hnames⟩
  refine ⟨"Option" :: names, mentionsNames_optionalType hmentions, ?_⟩
  intro name hupright
  rw [List.mem_cons, hnames name hupright, usesType_optionalType_iff]

theorem mentionsUsed_dateTime : MentionsUsed "chrono::DateTime<chrono::Utc>" := by
  refine ⟨[], mentionsNames_dateTime, fun name _ => ?_⟩
  exact iff_of_false List.not_mem_nil (not_usesType (by decide))

theorem mentionsUsed_columnType (column : Column) :
    MentionsUsed (Overrides.columnType .empty column) := by
  have htype : MentionsUsed (Overrides.typeOf .empty column.type) := by
    apply typeOf_empty_induction (p := MentionsUsed)
    · intro entry hentry
      rcases knownTypes_cases entry hentry with hpath | hlist | htime
      · exact mentionsUsed_path hpath
      · rw [hlist]
        exact mentionsUsed_listType (mentionsUsed_path (by decide))
      · rw [htime]
        exact mentionsUsed_dateTime
    · exact mentionsUsed_path (by decide)
    · exact fun element => mentionsUsed_listType
  unfold Overrides.columnType
  split
  · exact mentionsUsed_optionalType htype
  · exact htype

/-!
# Code of a model
-/

section Fields

variable {source : ModelField → Bool → Tokens} {names : ModelField → List String}

theorem typeNames_field {field : ModelField} (h : NamesTypes (source field) (names field))
    (rest : Tokens) :
    typeNames .outside (fieldSource source field ++ .punctuation ',' false :: rest) =
      names field ++ typeNames .outside rest := by
  have htype := h true 0 (.punctuation ',' false :: rest) (.comma false rest)
  unfold fieldSource Reader.fieldHead columnAttributes
  split
  · exact htype
  · exact htype

theorem typeNames_fields {fields : List ModelField}
    (h : ∀ field ∈ fields, NamesTypes (source field) (names field)) :
    typeNames .outside
      (fields.flatMap fun field => fieldSource source field ++ [.punctuation ',' false]) =
        fields.flatMap names := by
  induction fields with
  | nil => rfl
  | cons field fields ih =>
      have hrest := ih fun other hother => h other (List.mem_cons_of_mem _ hother)
      rw [List.flatMap_cons, List.flatMap_cons, List.append_assoc]
      exact (typeNames_field (h field List.mem_cons_self) _).trans (congrArg _ hrest)

theorem typeNames_modelCode {model : Model}
    (h : ∀ field ∈ model.fields, NamesTypes (source field) (names field)) :
    typeNames .outside (model.codeSource source) = model.fields.flatMap names := by
  rw [← typeNames_fields h]
  exact List.append_nil _

theorem declaredStruct?_modelCode (model : Model) :
    declaredStruct? (model.codeSource source) = some model.name := rfl

end Fields

/-!
# Code of a descriptor
-/

theorem typeNames_quotedList (texts : List String) :
    typeNames .outside ((texts.map quoted).intersperse (mark ',')) = [] := by
  induction texts with
  | nil => rfl
  | cons text texts ih =>
      cases texts with
      | nil => rfl
      | cons next others => exact ih

theorem typeNames_table (table : String) (columns : List String) (rest : Tokens) :
    typeNames .outside (tableTokens table columns ++ rest) = typeNames .outside rest := by
  show (typeNames .outside ((columns.map quoted).intersperse (mark ',')) ++ []) ++
    typeNames .outside rest = _
  rw [typeNames_quotedList]
  rfl

theorem typeNames_constants (columns : List DescriptorColumn) :
    typeNames .outside (columns.flatMap constantTokens) = columns.map fun _ => "str" := by
  induction columns with
  | nil => rfl
  | cons column columns ih => exact congrArg ("str" :: ·) ih

theorem typeNames_descriptorCode (descriptor : Descriptor) :
    typeNames .outside descriptor.codeSource =
      (descriptor.columns.map fun _ => "str") ++ ["String"] := by
  have hblock : typeNames .outside descriptor.block = descriptor.columns.map fun _ => "str" := by
    unfold Descriptor.block
    rw [typeNames_table, typeNames_constants]
  rw [← hblock]
  rfl

theorem declaredStruct?_descriptorCode (descriptor : Descriptor) :
    declaredStruct? descriptor.codeSource = some descriptor.name := rfl

/-!
# Files of a table
-/

def HasCode (source sentence : String) (tokens : Tokens) : Prop :=
  ∃ code, source = header ++ line ("/// " ++ sentence) ++ code ∧ tokensOf code = some tokens

section Files

variable {overrides : Overrides} {catalog : Catalog} {target : Option String}
  {files : List GeneratedFile} {table : CatalogTable}

theorem writable_structName (table : String) : Writable ⟨structName table, false⟩ :=
  ⟨(isAsciiWord_structName table).isWord, fun hraw => by cases hraw⟩

theorem hasCode_descriptor (table : CatalogTable) :
    HasCode table.descriptor.text
      (structName table.name ++ " describes the " ++ table.name ++ " table.")
      table.descriptor.codeSource := by
  have hconstants : ∀ column ∈ table.descriptor.columns, IsWord column.constant.toList := by
    intro constant hconstant
    rcases List.mem_map.mp hconstant with ⟨column, _, rfl⟩
    dsimp only
    exact (isAsciiWord_constantName column.name).isWord
  refine ⟨table.descriptor.code, table.descriptor.text_eq, ?_⟩
  apply tokensOf_of_spells
  · exact (spells_descriptorCode (writable_structName table.name) hconstants).mono
      fun _ _ => trivial
  · rw [toList_descriptorCode]
    simp

theorem hasCode_model {source : ModelField → Bool → Tokens}
    (h : ∀ field ∈ (table.model overrides).fields, LexesAsType field.fieldType (source field)) :
    HasCode (table.model overrides).text
      (structName table.name ++ " represents the " ++ table.name ++ " table.")
      ((table.model overrides).codeSource source) := by
  have hfields : ∀ field ∈ (table.model overrides).fields, Writable field.identifier := by
    intro field hfield
    rcases List.mem_map.mp hfield with ⟨column, _, rfl⟩
    rw [identifier_ofColumn]
    exact writable_ofName column.name
  refine ⟨(table.model overrides).code, (table.model overrides).text_eq, ?_⟩
  apply tokensOf_of_spells
  · exact (spells_modelCode (writable_structName table.name) hfields h).mono fun _ _ => trivial
  · rw [toList_modelCode]
    simp

/-- The struct has a name that the type of one of the fields uses. -/
def CatalogTable.HidesFieldType (table : CatalogTable) : Prop :=
  structName table.name ∈ ["Option", "Vec", "String"] ∧
    ∃ column ∈ table.columns,
      UsesType (Overrides.columnType .empty column) (structName table.name)

theorem hidesFieldType_iff (table : CatalogTable) :
    ∃ code, HasCode (table.model .empty).text
        (structName table.name ++ " represents the " ++ table.name ++ " table.") code ∧
      declaredStruct? code = some (structName table.name) ∧
      (structName table.name ∈ typeNames .outside code ↔ table.HidesFieldType) := by
  have hupright := beginsUpright_structName table.name
  have hfields : ∀ field ∈ (table.model .empty).fields, MentionsUsed field.fieldType := by
    intro field hfield
    rcases List.mem_map.mp hfield with ⟨column, _, rfl⟩
    rw [fieldType_ofColumn]
    exact mentionsUsed_columnType column
  unfold MentionsUsed MentionsNames at hfields
  choose! names hmentions hnames using hfields
  choose! tokens hlexed htypes using hmentions
  refine ⟨_, hasCode_model hlexed, declaredStruct?_modelCode _, ?_⟩
  rw [typeNames_modelCode htypes, List.mem_flatMap]
  constructor
  · intro h
    rcases h with ⟨field, hfield, hmem⟩
    have huses := (hnames field hfield _ hupright).mp hmem
    rcases List.mem_map.mp hfield with ⟨column, hcolumn, rfl⟩
    rw [fieldType_ofColumn] at huses
    exact ⟨name_of_usesType huses, column, hcolumn, huses⟩
  · intro h
    rcases h with ⟨_, column, hcolumn, huses⟩
    have hfield : ModelField.ofColumn .empty column ∈ (table.model .empty).fields :=
      List.mem_map_of_mem hcolumn
    refine ⟨_, hfield, (hnames _ hfield _ hupright).mpr ?_⟩
    rw [fieldType_ofColumn]
    exact huses

theorem hidesText_iff (table : CatalogTable) :
    ∃ code, HasCode table.descriptor.text
        (structName table.name ++ " describes the " ++ table.name ++ " table.") code ∧
      declaredStruct? code = some (structName table.name) ∧
      (structName table.name ∈ typeNames .outside code ↔ structName table.name = "String") := by
  have hprimitive : structName table.name ≠ "str" := by
    intro hname
    have hupright := beginsUpright_structName table.name
    rw [hname] at hupright
    exact not_beginsUpright (by decide) hupright
  refine ⟨_, hasCode_descriptor table, declaredStruct?_descriptorCode _, ?_⟩
  rw [typeNames_descriptorCode, List.mem_append, List.mem_singleton]
  constructor
  · intro h
    rcases h with hmem | hname
    · rcases List.mem_map.mp hmem with ⟨_, _, hname⟩
      exact absurd hname.symm hprimitive
    · exact hname
  · exact Or.inr

/-- The struct of a table hides a type in the model's file exactly if the type of a field uses its
name, and in the descriptor's file exactly if it is called `String`. -/
theorem struct_hides_type_iff (h : render .empty catalog target = .ok files)
    (htable : IsTarget catalog target table) :
    ∃ model descriptor modelCode descriptorCode,
      HoldsTable files table model descriptor ∧
      HasCode model (structName table.name ++ " represents the " ++ table.name ++ " table.")
        modelCode ∧
      HasCode descriptor (structName table.name ++ " describes the " ++ table.name ++ " table.")
        descriptorCode ∧
      declaredStruct? modelCode = some (structName table.name) ∧
      declaredStruct? descriptorCode = some (structName table.name) ∧
      (structName table.name ∈ typeNames .outside modelCode ↔ table.HidesFieldType) ∧
      (structName table.name ∈ typeNames .outside descriptorCode ↔
        structName table.name = "String") := by
  rcases hidesFieldType_iff table with ⟨modelCode, hmodel, hstruct, hfields⟩
  rcases hidesText_iff table with ⟨descriptorCode, hdescriptor, hstruct', htext⟩
  exact ⟨_, _, modelCode, descriptorCode, holdsTable_of_render h htable, hmodel, hdescriptor,
    hstruct, hstruct', hfields, htext⟩

end Files

def optionTable : CatalogTable :=
  ⟨"option", [⟨"value", "text[]", false⟩]⟩

/-- A table called like a type that none of its columns needs. -/
theorem unused_type_stays_visible :
    ∃ files model modelCode, render .empty (.ofTables [optionTable]) none = .ok files ∧
      ⟨(TableNames.of optionTable.name).modelPath, model⟩ ∈ files ∧
      HasCode model "Option represents the option table." modelCode ∧
      declaredStruct? modelCode = some "Option" ∧ "Option" ∉ typeNames .outside modelCode := by
  have hrender : ∃ files, render .empty (.ofTables [optionTable]) none = .ok files := ⟨_, rfl⟩
  have htarget : IsTarget (.ofTables [optionTable]) none optionTable := List.mem_singleton.mpr rfl
  have hname : structName optionTable.name = "Option" := by decide +kernel
  have helement : elementName? (normalName "text[]".toList) = some "text".toList := by decide
  have htext : Overrides.typeOfNormal .empty "text".toList = textType :=
    typeOfNormal_single (by decide) (by decide)
  have htype : Overrides.columnType .empty ⟨"value", "text[]", false⟩ = listType textType :=
    (typeOfNormal_element (by decide) helement).trans (congrArg listType htext)
  rcases hrender with ⟨files, hrender⟩
  rcases struct_hides_type_iff hrender htarget with
    ⟨model, _, modelCode, _, hholds, hcode, _, hstruct, _, hfields, _⟩
  rw [hname] at hcode hstruct hfields
  refine ⟨files, model, modelCode, hrender, hholds.model, hcode, hstruct, ?_⟩
  intro hmem
  rcases hfields.mp hmem with ⟨_, column, hcolumn, huses⟩
  rw [List.mem_singleton.mp hcolumn, hname, htype, usesType_listType_iff,
    usesType_textType_iff] at huses
  exact absurd huses (by decide)

def stringTable : CatalogTable :=
  ⟨"string", [⟨"value", "text", false⟩]⟩

/-- A table called like the type of its own column, which the descriptor writes too. -/
theorem string_table_hides_text :
    ∃ files model descriptor modelCode descriptorCode,
      render .empty (.ofTables [stringTable]) none = .ok files ∧
      HoldsTable files stringTable model descriptor ∧
      HasCode model "String represents the string table." modelCode ∧
      HasCode descriptor "String describes the string table." descriptorCode ∧
      (declaredStruct? modelCode = some "String" ∧ "String" ∈ typeNames .outside modelCode) ∧
      (declaredStruct? descriptorCode = some "String" ∧
        "String" ∈ typeNames .outside descriptorCode) := by
  have hrender : ∃ files, render .empty (.ofTables [stringTable]) none = .ok files := ⟨_, rfl⟩
  have htarget : IsTarget (.ofTables [stringTable]) none stringTable := List.mem_singleton.mpr rfl
  have hname : structName stringTable.name = "String" := by decide +kernel
  have htype : Overrides.columnType .empty ⟨"value", "text", false⟩ = textType :=
    typeOfNormal_single (by decide) (by decide)
  have hhides : stringTable.HidesFieldType := by
    unfold CatalogTable.HidesFieldType
    rw [hname]
    refine ⟨by decide, _, List.mem_cons_self, ?_⟩
    rw [htype]
    exact UsesType.text
  rcases hrender with ⟨files, hrender⟩
  rcases hidesFieldType_iff stringTable with ⟨modelCode, hmodel, hstruct, hfields⟩
  rcases hidesText_iff stringTable with ⟨descriptorCode, hdescriptor, hstruct', htext⟩
  rw [hname] at hmodel hstruct hfields hdescriptor hstruct' htext
  exact ⟨files, _, _, modelCode, descriptorCode, hrender, holdsTable_of_render hrender htarget,
    hmodel, hdescriptor, ⟨hstruct, hfields.mpr hhides⟩, hstruct', htext.mpr rfl⟩

end Rowsmith

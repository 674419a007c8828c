import Rowsmith.Derive.Expansion
import Rowsmith.Proofs.Derive.PathType

/-!
# Declarations of structs

The columns that the fields of a struct are bound to, and the tokens from which a struct is read.
-/

namespace Rowsmith
namespace Derive

open Text

/-!
# Columns of fields

A field is bound to the column that its attribute names, or to its own word if it has none. If no
column comes twice, every field gets its binding, in order.

## The attribute of a column
-/

def columnAttribute (column : String) : Attribute :=
  ⟨⟨false, [⟨"pggo", false⟩]⟩,
    .list .parenthesis
      [wordToken "column", .punctuation '=' false, .literal (quote column) (.text column)]⟩

def columnAttributes (name : Identifier) (column : String) : List Attribute :=
  if name.word = column then [] else [columnAttribute column]

theorem column_columnAttributes (name : Identifier) (column : String) (visibility type : Tokens) :
    (Field.mk (columnAttributes name column) visibility name type).column =
      .ok (some column) := by
  unfold columnAttributes
  split
  · next hword =>
      rw [← hword]
      rfl
  · rfl

/-!
## Bindings
-/

theorem bindField_of_not_mem {bindings : List Binding} {field : Field} {column : String}
    (hcolumn : field.column = .ok (some column))
    (hnew : column ∉ bindings.map Binding.column) :
    bindField bindings field = .ok (bindings ++ [⟨column, field.name⟩]) := by
  have hfind : bindings.find? (·.column = column) = none := by
    rw [List.find?_eq_none]
    intro binding hmem hsame
    apply hnew
    rw [← of_decide_eq_true hsame]
    exact List.mem_map_of_mem hmem
  unfold bindField
  rw [hcolumn]
  dsimp only [Except.mapError, bind, Except.bind]
  rw [hfind]
  rfl

section Members

variable {α : Type} {declared : α → Field} {column : α → String}

theorem bindFields_from {members : List α} {bindings : List Binding}
    (hcolumns : ∀ a ∈ members, (declared a).column = .ok (some (column a)))
    (hdistinct : (bindings.map Binding.column ++ members.map column).Nodup) :
    (members.map declared).foldlM bindField bindings =
      .ok (bindings ++ members.map fun a => ⟨column a, (declared a).name⟩) := by
  induction members generalizing bindings with
  | nil =>
      rw [List.map_nil, List.map_nil, List.append_nil]
      rfl
  | cons a members ih =>
      have hfield := hcolumns a (by simp)
      have hothers := fun other hother => hcolumns other (List.mem_cons_of_mem a hother)
      have hnew : column a ∉ bindings.map Binding.column := by
        intro hmem
        exact (List.nodup_append.mp hdistinct).right.right _ hmem _ (by simp) rfl
      have hnext : ((bindings ++ [Binding.mk (column a) (declared a).name]).map Binding.column ++
          members.map column).Nodup := by
        rw [List.map_append, List.append_assoc]
        exact hdistinct
      rw [List.map_cons, List.foldlM_cons, bindField_of_not_mem hfield hnew]
      show (members.map declared).foldlM bindField _ = _
      rw [ih hothers hnext, List.append_assoc]
      rfl

theorem bindFields_of_nodup {members : List α}
    (hcolumns : ∀ a ∈ members, (declared a).column = .ok (some (column a)))
    (hdistinct : (members.map column).Nodup) :
    bindFields (members.map declared) =
      .ok (members.map fun a => ⟨column a, (declared a).name⟩) :=
  bindFields_from hcolumns hdistinct

end Members

/-!
# Reading declarations of structs

A public struct without parameters is read together with its public fields. An attribute is read
back from its own tokens, and so is a list of attributes.
-/

namespace Reader

variable (read : PhraseReader)

/-!
## Attributes
-/

def ReadsBack (self : Attribute) : Prop :=
  ∀ rest, (outerAttribute read).run (self.tokens ++ rest) = some (self, rest)

theorem run_attributePath {name : Identifier} {ts : Tokens} (hname : isName name = true)
    (hend : begins "::" ts = false) :
    attributePath.run (.identifier name :: ts) = some (⟨false, [name]⟩, ts) := by
  have hunsafe := beginsWithWord_of_isName hname (by decide : "unsafe" ∈ reserved) ts
  have hroot : (maybeSign "::").run (.identifier name :: ts) =
      some ([], .identifier name :: ts) := run_maybeSign_of_not rfl
  have hfirst : pathName.run (.identifier name :: ts) = some (name, ts) := by
    unfold pathName
    rw [run_bind (run_sees _), beginsPathName_of_isName hname]
    rfl
  have hnames : (separated (fun _ => false) "::" pathName).run (.identifier name :: ts) =
      some ([⟨name, false⟩], ts) := run_separated (run_separated_last _ rfl hfirst hend)
  unfold attributePath
  rw [run_bind (run_sees _), hunsafe, if_neg Bool.false_ne_true]
  unfold modulePath
  rw [run_bind hroot, run_bind hnames]
  rfl

theorem readsBack_list {name : Identifier} (hname : isName name = true) (delimiter : Delimiter)
    (tokens : Tokens) : ReadsBack read ⟨⟨false, [name]⟩, .list delimiter tokens⟩ := by
  intro rest
  have hpath : attributePath.run [.identifier name, .group delimiter tokens] =
      some (⟨false, [name]⟩, [.group delimiter tokens]) := run_attributePath hname rfl
  have hcontent : (do
      let path ← attributePath
      let arguments ← attributeArguments read
      return Attribute.mk path arguments : Reader Attribute).run
        [.identifier name, .group delimiter tokens] =
      some (⟨⟨false, [name]⟩, .list delimiter tokens⟩, []) := by
    rw [run_bind hpath]
    rfl
  have hsign : begins "#" (.punctuation '#' false ::
      .group .bracket [.identifier name, .group delimiter tokens] :: rest) = true := rfl
  show StateT.run _ (.punctuation '#' false ::
    .group .bracket [.identifier name, .group delimiter tokens] :: rest) = _
  unfold outerAttribute
  rw [run_bind (run_sign hsign)]
  show StateT.run (_ >>= _) (.group .bracket _ :: rest) = _
  rw [run_bind (run_group _ _)]
  exact run_all hcontent

theorem readsBack_documentation (depth : Nat) (spelling text : String) :
    ReadsBack (Phrase.reader (depth + 6))
      ⟨⟨false, [⟨"doc", false⟩]⟩, .value [.literal spelling (.text text)]⟩ := by
  intro rest
  rfl

theorem run_attributes {list : List Attribute} (rest : Tokens)
    (h : ∀ self ∈ list, ReadsBack read self) (hend : begins "#" rest = false) :
    (attributes read).run (list.flatMap Attribute.tokens ++ rest) = some (list, rest) := by
  have hall : (attributes read).run (list.flatMap Attribute.tokens ++ rest) =
      some (list.map id, rest) :=
    run_many_members (by simp [Attribute.tokens, signTokens]) (fun _ _ _ => rfl) h hend
  rw [hall, List.map_id]

/-!
## Fields
-/

def fieldHead (attributes : List Attribute) (name : Identifier) : Tokens :=
  attributes.flatMap Attribute.tokens ++
    [wordToken "pub", .identifier name, .punctuation ':' false]

theorem run_field {attributes : List Attribute} {name : Identifier} {ts rest type : Tokens}
    (hattributes : ∀ self ∈ attributes, ReadsBack read self) (hname : isName name = true)
    (htype : (Reader.type read true).run ts = some (type, rest)) :
    (field read).run (fieldHead attributes name ++ ts) =
      some (⟨attributes, [wordToken "pub"], name, type⟩, rest) := by
  have hread := run_attributes read
    (wordToken "pub" :: .identifier name :: .punctuation ':' false :: ts) hattributes rfl
  have hpublic : visibility.run
      (wordToken "pub" :: .identifier name :: .punctuation ':' false :: ts) =
        some ([wordToken "pub"], .identifier name :: .punctuation ':' false :: ts) := rfl
  have hunnamed := beginsWithWord_of_isName hname (by decide : "_" ∈ reserved)
    (.punctuation ':' false :: ts)
  have hsign : begins ":" (.punctuation ':' false :: ts) = true := rfl
  unfold field fieldHead
  rw [List.append_assoc]
  show StateT.run _ (_ ++ (wordToken "pub" :: .identifier name :: .punctuation ':' false :: ts)) = _
  rw [run_bind hread, run_bind hpublic, run_bind run_get]
  dsimp only
  rw [hunnamed, if_neg Bool.false_ne_true, run_bind (run_name hname), run_bind (run_sign hsign)]
  show StateT.run (_ >>= _) ts = _
  rw [run_bind run_get]
  show StateT.run (Reader.type read true >>= _) ts = _
  rw [run_bind htype]
  rfl

theorem run_fields {α : Type} {members : List α} {source : α → Tokens} {declared : α → Field}
    (h : ∀ a ∈ members, ∀ rest, (field read).run (source a ++ .punctuation ',' false :: rest) =
      some (declared a, .punctuation ',' false :: rest)) (rest : Tokens) :
    (fields read).run
      (.group .brace (members.flatMap fun a => source a ++ [.punctuation ',' false]) :: rest) =
        some (members.map fun a => ⟨declared a, true⟩, rest) := by
  unfold fields
  rw [run_bind (run_group _ _)]
  exact run_all (run_separated_members h)

/-!
## Structs
-/

theorem run_declaration {depth : Nat} {name : Identifier} {inner : Tokens}
    {entries : List (Entry Field)} (hname : isName name = true)
    (hfields : (fields (Phrase.reader depth)).run [.group .brace inner] = some (entries, [])) :
    (declaration (Phrase.reader (depth + 1))).run
      [wordToken "struct", .identifier name, .group .brace inner] =
        some (⟨name, [], [], .named entries⟩, []) := by
  have hkeyword : (oneOf ["struct", "enum", "union"]).run
      [wordToken "struct", .identifier name, .group .brace inner] =
        some ([wordToken "struct"], [.identifier name, .group .brace inner]) := rfl
  have hread : (Phrase.reader (depth + 1) .fields).run [.group .brace inner] =
      some (entries, []) := hfields
  have hparameters : (parameters (Phrase.reader (depth + 1))).run [.group .brace inner] =
      some ([], [.group .brace inner]) := rfl
  have hbody : (structBody (Phrase.reader (depth + 1))).run [.group .brace inner] =
      some (([], .named entries), []) := by
    have hconstraints : (constraints (Phrase.reader (depth + 1))).run [.group .brace inner] =
        some ([], [.group .brace inner]) := rfl
    have hbrace : beginsWithGroup .brace [.group .brace inner] = true := rfl
    have hparenthesis : beginsWithGroup .parenthesis [.group .brace inner] = false := rfl
    unfold structBody
    rw [run_bind (run_sees _), hparenthesis, if_neg Bool.false_ne_true, run_bind hconstraints,
      run_bind (run_sees _), hbrace, if_pos rfl, run_bind hread]
    rfl
  unfold declaration
  rw [run_bind run_get, run_bind hkeyword, run_bind (run_name hname), run_bind hparameters]
  show StateT.run (structBody _ >>= _) [.group .brace inner] = _
  rw [run_bind hbody]
  rfl

theorem run_declarationWithin {depth : Nat} {attributes : List Attribute} {name : Identifier}
    {inner : Tokens} {entries : List (Entry Field)}
    (hattributes : ∀ self ∈ attributes, ReadsBack (Phrase.reader (depth + 1)) self)
    (hname : isName name = true)
    (hfields : (fields (Phrase.reader depth)).run [.group .brace inner] = some (entries, [])) :
    (declarationWithin (depth + 1)).run
      (attributes.flatMap Attribute.tokens ++
        [wordToken "pub", wordToken "struct", .identifier name, .group .brace inner]) =
      some (⟨name, [], [], .named entries⟩, []) := by
  have hread := run_attributes _
    [wordToken "pub", wordToken "struct", .identifier name, .group .brace inner]
    hattributes rfl
  have hpublic : visibility.run
      [wordToken "pub", wordToken "struct", .identifier name, .group .brace inner] =
        some ([wordToken "pub"], [wordToken "struct", .identifier name, .group .brace inner]) := rfl
  unfold declarationWithin
  rw [run_bind hread, run_bind hpublic]
  exact run_declaration hname hfields

end Reader

end Derive
end Rowsmith

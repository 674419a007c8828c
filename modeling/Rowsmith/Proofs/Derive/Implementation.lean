import Rowsmith.Derive.Expansion
import Rowsmith.Proofs.Derive.Lexeme
import Rowsmith.Proofs.Derive.Listing

/-!
# The generated implementations

The code generated for a struct without parameters, as tokens. Its words stand apart by blanks, so
that what each of them spells can be said by itself. All lists in it name the bound columns, in
order.
-/

namespace Rowsmith
namespace Derive

open Text

/-!
# Words apart
-/

def spaced (ws : Words) : Characters :=
  ws.flatMap fun w => w.toList ++ [' ']

theorem spaced_append (vs ws : Words) : spaced (vs ++ ws) = spaced vs ++ spaced ws :=
  List.flatMap_append

theorem toList_intercalate_blank (ws : Words) (last : String) :
    (" ".intercalate (ws ++ [last])).toList = spaced ws ++ last.toList := by
  induction ws with
  | nil => simp [spaced]
  | cons w ws ih =>
      have hnonempty : ws ++ [last] ≠ [] := by simp
      rw [List.cons_append, String.intercalate_cons_of_ne_nil hnonempty, String.toList_append, ih]
      simp [spaced]

/-- The words, set apart, spell the tokens. -/
def SpellsWords (ws : Words) (tokens : Tokens) : Prop :=
  Spells (spaced ws) tokens Anything

namespace SpellsWords

variable {vs ws : Words} {s t : Tokens}

/-- It does not matter where the words are parted. -/
theorem congr (h : SpellsWords vs t) (hspaced : spaced vs = spaced ws) : SpellsWords ws t := by
  unfold SpellsWords
  rw [← hspaced]
  exact h

theorem nil : SpellsWords [] [] := Spells.nil

theorem append (hv : SpellsWords vs s) (hw : SpellsWords ws t) :
    SpellsWords (vs ++ ws) (s ++ t) := by
  unfold SpellsWords
  rw [spaced_append]
  exact hv.before hw

theorem cons {w : String} (hw : SpellsWords [w] s) (hws : SpellsWords ws t) :
    SpellsWords (w :: ws) (s ++ t) :=
  append hw hws

theorem flatten {α : Type} {members : List α} {entry : α → Words} {tokens : α → Tokens}
    (h : ∀ a ∈ members, SpellsWords (entry a) (tokens a)) :
    SpellsWords (members.map entry).flatten (members.flatMap tokens) := by
  induction members with
  | nil => exact nil
  | cons a members ih =>
      have hmore := ih fun other hother => h other (List.mem_cons_of_mem a hother)
      exact append (h a (by simp)) hmore

end SpellsWords

theorem spells_blank : Spells [' '] [] Anything :=
  Spells.of_listedSteps 1 (by decide) fun _ _ _ => rfl

theorem spellsWords_identifier {name : Identifier} (h : Writable name) :
    SpellsWords [name.text] [.identifier name] := by
  have hname := (spells_identifier h).append spells_blank
    fun rest _ => EndsWord.cons (by decide) rest
  simpa [SpellsWords, spaced] using hname

theorem spellsWords_literal (text : String) :
    SpellsWords [quoteToken text] [.literal (quoteToken text) (.text text)] := by
  have hliteral := (spells_quoteToken text).append spells_blank
    fun rest _ => EndsLiteral.cons (by decide) rest
  simpa [SpellsWords, spaced] using hliteral

theorem spellsWords_around {ws : Words} {tokens : Tokens} (delimiter : Delimiter)
    (h : SpellsWords ws tokens) :
    SpellsWords (delimiter.around ws) [.group delimiter tokens] := by
  have hgroup := Spells.group delimiter (spells_blank.before h) (by simp)
    fun rest => trivial
  have htext := hgroup.before spells_blank
  have hchars : spaced (delimiter.around ws) =
      delimiter.opening :: ([' '] ++ spaced ws ++ [delimiter.closing]) ++ [' '] := by
    simp [spaced, Delimiter.around]
  unfold SpellsWords
  rw [hchars]
  exact htext

/-!
# Lists of columns
-/

def mark (c : Char) : Token := .punctuation c false

def key (binding : Binding) : Token :=
  .literal (quoteToken binding.column) (.text binding.column)

theorem spellsWords_comma : SpellsWords [","] [mark ','] :=
  Spells.of_listedSteps 2 (by decide) fun _ _ _ => rfl

theorem spellsWords_keys (bindings : List Binding) :
    SpellsWords ((bindings.map Binding.columnLiteral).intersperse ",")
      ((bindings.map key).intersperse (mark ',')) := by
  induction bindings with
  | nil => exact SpellsWords.nil
  | cons binding bindings ih =>
      cases bindings with
      | nil => exact spellsWords_literal binding.column
      | cons next others =>
          exact (spellsWords_literal binding.column).cons (spellsWords_comma.cons ih)

def columnsNote : Token :=
  .literal "r\" Bound columns, in field order.\"" (.text " Bound columns, in field order.")

def columnsTokens (bindings : List Binding) : Tokens :=
  [mark '#', .group .bracket [wordToken "doc", mark '=', columnsNote], wordToken "pub",
    wordToken "const", wordToken "COLUMNS", mark ':', mark '&', .punctuation '\'' true,
    wordToken "static",
    .group .bracket [mark '&', .punctuation '\'' true, wordToken "static", wordToken "str"],
    mark '=', mark '&', .group .bracket ((bindings.map key).intersperse (mark ',')), mark ';']

def columnsWords (bindings : List Binding) : Words :=
  ["# [ doc = r\" Bound columns, in field order.\" ]",
      "pub const COLUMNS : & 'static [ & 'static str ] = & ["] ++
    (bindings.map Binding.columnLiteral).intersperse "," ++ ["] ;"]

theorem spellsWords_columnsDocumentation :
    SpellsWords ["# [ doc = r\" Bound columns, in field order.\" ]"]
      ((columnsTokens []).take 2) := by
  have hliteral : Spells "r\" Bound columns, in field order.\"".toList
      [columnsNote] EndsLiteral := by
    apply spells_text
    · exact ⟨'r', _, rfl, Or.inr rfl⟩
    · exact fun _ => rfl
  have hname : SpellsWords ["doc ="] [wordToken "doc", mark '='] :=
    Spells.of_listedSteps 4 (by decide) fun _ _ _ => rfl
  have hsign : SpellsWords ["#"] [mark '#'] := Spells.of_listedSteps 2 (by decide) fun _ _ _ => rfl
  have htext : SpellsWords ["r\" Bound columns, in field order.\""] [columnsNote] :=
    hliteral.append spells_blank fun rest _ => EndsLiteral.cons (by decide) rest
  have hall : SpellsWords _ ((columnsTokens []).take 2) :=
    hsign.append (spellsWords_around .bracket (hname.append htext))
  apply hall.congr
  simp [spaced, Delimiter.around, Delimiter.opening, Delimiter.closing]

theorem spellsWords_columns (bindings : List Binding) :
    SpellsWords (columnsWords bindings) (columnsTokens bindings) := by
  have hconstant : SpellsWords ["pub const COLUMNS : & 'static [ & 'static str ] = &"]
      ((columnsTokens []).drop 2 |>.take 10) :=
    Spells.of_listedSteps 28 (by decide) fun _ _ _ => rfl
  have hend : SpellsWords [";"] [mark ';'] := Spells.of_listedSteps 2 (by decide) fun _ _ _ => rfl
  have hlist := spellsWords_around .bracket (spellsWords_keys bindings)
  have hall := spellsWords_columnsDocumentation.append (hconstant.append (hlist.append hend))
  apply SpellsWords.congr hall
  simp [columnsWords, spaced, Delimiter.around, Delimiter.opening, Delimiter.closing]

/-!
# Registrations
-/

def rooted (names : List String) : Tokens :=
  names.flatMap fun name => separator ++ [wordToken name]

def targetTokens (binding : Binding) : Tokens :=
  [mark '.', wordToken "field",
    .group .parenthesis
      [key binding, mark ',', mark '&', wordToken "mut", wordToken "self", mark '.',
        .identifier binding.field]]

def valueTokens (binding : Binding) : Tokens :=
  [mark '.', wordToken "field",
    .group .parenthesis
      (key binding :: mark ',' :: rooted ["std", "clone", "Clone", "clone"] ++
        [.group .parenthesis
          [mark '&', wordToken "self", mark '.', .identifier binding.field]])]

theorem spellsWords_field : SpellsWords [". field"] [mark '.', wordToken "field"] :=
  Spells.of_listedSteps 4 (by decide) fun _ _ _ => rfl

theorem spellsWords_target {binding : Binding} (h : Writable binding.field) :
    SpellsWords binding.target (targetTokens binding) := by
  have hself : SpellsWords [", & mut self ."]
      [mark ',', mark '&', wordToken "mut", wordToken "self", mark '.'] :=
    Spells.of_listedSteps 10 (by decide) fun _ _ _ => rfl
  have hinner := (spellsWords_literal binding.column).append
    (hself.append (spellsWords_identifier h))
  have hall := spellsWords_field.append (spellsWords_around .parenthesis hinner)
  apply SpellsWords.congr hall
  simp [Binding.target, Binding.columnLiteral, spaced, Delimiter.around, Delimiter.opening,
    Delimiter.closing]

theorem spellsWords_value {binding : Binding} (h : Writable binding.field) :
    SpellsWords binding.value (valueTokens binding) := by
  have hclone : SpellsWords [", :: std :: clone :: Clone :: clone"]
      (mark ',' :: rooted ["std", "clone", "Clone", "clone"]) :=
    Spells.of_listedSteps 22 (by decide) fun _ _ _ => rfl
  have hself : SpellsWords ["& self ."] [mark '&', wordToken "self", mark '.'] :=
    Spells.of_listedSteps 6 (by decide) fun _ _ _ => rfl
  have hsubject := spellsWords_around .parenthesis (hself.append (spellsWords_identifier h))
  have hinner := (spellsWords_literal binding.column).append (hclone.append hsubject)
  have hall := spellsWords_field.append (spellsWords_around .parenthesis hinner)
  apply SpellsWords.congr hall
  simp [Binding.value, Binding.columnLiteral, spaced, Delimiter.around, Delimiter.opening,
    Delimiter.closing]

def choosing : Tokens :=
  [mark '.', wordToken "select", .group .parenthesis [wordToken "columns"]]

def bodyTokens (list : String) (entries : Tokens) : Tokens :=
  rooted ["pggo", list, "new"] ++ .group .parenthesis [] :: entries ++ choosing

theorem spellsWords_registration {list : String} {entries : List Words} {tokens : Tokens}
    (hlist : SpellsWords [list] [wordToken list]) (h : SpellsWords entries.flatten tokens) :
    SpellsWords (Expansion.registration list entries)
      [.group .brace (bodyTokens list tokens)] := by
  have hpath : SpellsWords [":: pggo ::"] (rooted ["pggo"] ++ separator) :=
    Spells.of_listedSteps 8 (by decide) fun _ _ _ => rfl
  have hnew : SpellsWords [":: new ( )"] (rooted ["new"] ++ [.group .parenthesis []]) :=
    Spells.of_listedSteps 9 (by decide) fun _ _ _ => rfl
  have hselect : SpellsWords [". select ( columns )"] choosing :=
    Spells.of_listedSteps 10 (by decide) fun _ _ _ => rfl
  have hbody := hpath.append (hlist.append (hnew.append (h.append hselect)))
  have hall := spellsWords_around .brace hbody
  apply SpellsWords.congr hall
  simp [Expansion.registration]

/-!
# The whole code
-/

def subjectLifetime : Tokens := [.punctuation '\'' true, wordToken "__pggo"]

def choiceTokens : Tokens :=
  [mark ',', wordToken "columns", mark ':', mark '&',
    .group .bracket [mark '&', wordToken "str"], mark ',']

def resultTokens : Tokens :=
  .punctuation '-' true :: mark '>' :: rooted ["pggo", "OrmResult"] ++ mark '<' ::
    rooted ["std", "vec", "Vec"] ++ [mark '<']

def pointersHead : Tokens :=
  wordToken "fn" :: wordToken "get_pointers" :: mark '<' :: subjectLifetime ++ mark '>' ::
    .group .parenthesis
      (mark '&' :: subjectLifetime ++ wordToken "mut" :: wordToken "self" :: choiceTokens) ::
    resultTokens ++ mark '&' :: subjectLifetime ++ wordToken "mut" :: wordToken "dyn" ::
    rooted ["pggo", "Scan"] ++ [.punctuation '>' true, mark '>']

def valuesHead : Tokens :=
  wordToken "fn" :: wordToken "get_values" ::
    .group .parenthesis (mark '&' :: wordToken "self" :: choiceTokens) ::
    resultTokens ++ rooted ["pggo", "Param"] ++ [.punctuation '>' true, mark '>']

def entityTokens (bindings : List Binding) : Tokens :=
  pointersHead ++ [.group .brace (bodyTokens "Pointers" (bindings.flatMap targetTokens))] ++
    (valuesHead ++ [.group .brace (bodyTokens "Values" (bindings.flatMap valueTokens))])

def entityWords (bindings : List Binding) : Words :=
  ["fn get_pointers < '__pggo > ( & '__pggo mut self , columns : & [ & str ] , )",
      "-> :: pggo :: OrmResult <",
      ":: std :: vec :: Vec < & '__pggo mut dyn :: pggo :: Scan >>"] ++
    Expansion.registration "Pointers" (bindings.map Binding.target) ++
    (["fn get_values ( & self , columns : & [ & str ] , )",
      "-> :: pggo :: OrmResult <",
      ":: std :: vec :: Vec < :: pggo :: Param >>"] ++
    Expansion.registration "Values" (bindings.map Binding.value))

theorem spellsWords_result :
    SpellsWords ["-> :: pggo :: OrmResult <", ":: std :: vec :: Vec <"] resultTokens := by
  have houter : SpellsWords ["-> :: pggo :: OrmResult <"]
      (.punctuation '-' true :: mark '>' :: rooted ["pggo", "OrmResult"] ++ [mark '<']) :=
    Spells.of_listedSteps 15 (by decide) fun _ _ _ => rfl
  have hinner : SpellsWords [":: std :: vec :: Vec <"]
      (rooted ["std", "vec", "Vec"] ++ [mark '<']) :=
    Spells.of_listedSteps 17 (by decide) fun _ _ _ => rfl
  exact houter.append hinner

theorem spellsWords_pointersHead :
    SpellsWords
      ["fn get_pointers < '__pggo > ( & '__pggo mut self , columns : & [ & str ] , )",
        "-> :: pggo :: OrmResult <",
        ":: std :: vec :: Vec < & '__pggo mut dyn :: pggo :: Scan >>"] pointersHead := by
  have hname : SpellsWords ["fn get_pointers < '__pggo >"]
      (wordToken "fn" :: wordToken "get_pointers" :: mark '<' :: subjectLifetime ++ [mark '>']) :=
    Spells.of_listedSteps 11 (by decide) fun _ _ _ => rfl
  have hparameters : SpellsWords ["( & '__pggo mut self , columns : & [ & str ] , )"]
      [.group .parenthesis
        (mark '&' :: subjectLifetime ++ wordToken "mut" :: wordToken "self" :: choiceTokens)] :=
    Spells.of_listedSteps 31 (by decide) fun _ _ _ => rfl
  have htype : SpellsWords ["& '__pggo mut dyn :: pggo :: Scan >>"]
      (mark '&' :: subjectLifetime ++ wordToken "mut" :: wordToken "dyn" ::
        rooted ["pggo", "Scan"] ++ [.punctuation '>' true, mark '>']) :=
    Spells.of_listedSteps 22 (by decide) fun _ _ _ => rfl
  have hall : SpellsWords _ pointersHead :=
    hname.append (hparameters.append (spellsWords_result.append htype))
  apply hall.congr
  simp [spaced]

theorem spellsWords_valuesHead :
    SpellsWords
      ["fn get_values ( & self , columns : & [ & str ] , )",
        "-> :: pggo :: OrmResult <",
        ":: std :: vec :: Vec < :: pggo :: Param >>"] valuesHead := by
  have hname : SpellsWords ["fn get_values ( & self , columns : & [ & str ] , )"]
      [wordToken "fn", wordToken "get_values",
        .group .parenthesis (mark '&' :: wordToken "self" :: choiceTokens)] :=
    Spells.of_listedSteps 30 (by decide) fun _ _ _ => rfl
  have htype : SpellsWords [":: pggo :: Param >>"]
      (rooted ["pggo", "Param"] ++ [.punctuation '>' true, mark '>']) :=
    Spells.of_listedSteps 13 (by decide) fun _ _ _ => rfl
  have hall : SpellsWords _ valuesHead := hname.append (spellsWords_result.append htype)
  apply hall.congr
  simp [spaced]

theorem spellsWords_entity {bindings : List Binding}
    (h : ∀ binding ∈ bindings, Writable binding.field) :
    SpellsWords (entityWords bindings) (entityTokens bindings) := by
  have htargets := SpellsWords.flatten fun binding hbinding =>
    spellsWords_target (h binding hbinding)
  have hvalues := SpellsWords.flatten fun binding hbinding =>
    spellsWords_value (h binding hbinding)
  have hpointers : SpellsWords ["Pointers"] [wordToken "Pointers"] :=
    Spells.of_listedSteps 2 (by decide) fun _ _ _ => rfl
  have hlist : SpellsWords ["Values"] [wordToken "Values"] :=
    Spells.of_listedSteps 2 (by decide) fun _ _ _ => rfl
  have hfirst := spellsWords_pointersHead.append (spellsWords_registration hpointers htargets)
  have hsecond := spellsWords_valuesHead.append (spellsWords_registration hlist hvalues)
  exact hfirst.append hsecond

section Expansion

variable {name : Identifier} {body : Body} {bindings : List Binding}

def implementationTokens (name : Identifier) (bindings : List Binding) : Tokens :=
  [wordToken "impl", .identifier name, .group .brace (columnsTokens bindings), wordToken "impl"] ++
    rooted ["pggo", "Entity"] ++
    [wordToken "for", .identifier name, .group .brace (entityTokens bindings)]

theorem blocks_without_parameters :
    Expansion.columnsBlock ⟨⟨name, [], [], body⟩, bindings⟩ ++
      Expansion.entityBlock ⟨⟨name, [], [], body⟩, bindings⟩ =
        (["impl"] ++ ([name.text] ++ Delimiter.brace.around (columnsWords bindings)) ++
          (["impl"] ++ ([":: pggo :: Entity for"] ++ [name.text])) ++
            ("\x7b" :: entityWords bindings)) ++ ["\x7d"] := by
  have hnone : words [] = [] := by
    rw [words, wordsFrom]
    rfl
  have hdeclared : words (Item.declaredParameters ⟨name, [], [], body⟩) = [] := hnone
  have happlied : words (Item.appliedParameters ⟨name, [], [], body⟩ ++ []) = [] := hnone
  unfold Expansion.columnsBlock Expansion.entityBlock Expansion.subject
  dsimp only
  rw [hdeclared, happlied]
  simp [Delimiter.around, Delimiter.opening, Delimiter.closing, columnsWords, entityWords]

theorem tokensOf_expansionText (hname : Writable name)
    (hfields : ∀ binding ∈ bindings, Writable binding.field) :
    tokensOf (Expansion.text ⟨⟨name, [], [], body⟩, bindings⟩) =
      some (implementationTokens name bindings) := by
  have himpl : SpellsWords ["impl"] [wordToken "impl"] :=
    Spells.of_listedSteps 2 (by decide) fun _ _ _ => rfl
  have hfor : SpellsWords [":: pggo :: Entity for"]
      (rooted ["pggo", "Entity"] ++ [wordToken "for"]) :=
    Spells.of_listedSteps 12 (by decide) fun _ _ _ => rfl
  have hfirst := himpl.append ((spellsWords_identifier hname).append
    (spellsWords_around .brace (spellsWords_columns bindings)))
  have hfront := hfirst.append (himpl.append (hfor.append (spellsWords_identifier hname)))
  have hgroup := Spells.group .brace
    (spells_blank.before (spellsWords_entity hfields)) (by simp) fun rest => trivial
  have hall := Spells.before hfront hgroup
  have htext : (Expansion.text ⟨⟨name, [], [], body⟩, bindings⟩).toList =
      spaced (["impl"] ++ ([name.text] ++ Delimiter.brace.around (columnsWords bindings)) ++
        (["impl"] ++ ([":: pggo :: Entity for"] ++ [name.text]))) ++
          '\x7b' :: ([' '] ++ spaced (entityWords bindings) ++ ['\x7d']) := by
    unfold Expansion.text
    rw [blocks_without_parameters, toList_intercalate_blank, spaced_append]
    simp [spaced]
  apply tokensOf_of_spells
  · rw [htext]
    exact hall.mono fun _ _ => trivial
  · rw [htext]
    simp [spaced]

/-!
# The lists in the code
-/

theorem boundColumns?_implementation :
    boundColumns? (implementationTokens name bindings) = some (bindings.map Binding.column) := by
  show some (textValues ((bindings.map key).intersperse (mark ','))) = _
  rw [textValues_intersperse (fun _ => rfl) rfl]

theorem fieldKeys_entries {tokens : Binding → Tokens}
    (h : ∀ binding rest, fieldKeys (tokens binding ++ rest) = binding.column :: fieldKeys rest)
    (rest : Tokens) :
    fieldKeys (bindings.flatMap tokens ++ rest) =
      bindings.map Binding.column ++ fieldKeys rest := by
  induction bindings with
  | nil => rfl
  | cons binding bindings ih =>
      rw [List.flatMap_cons, List.append_assoc, h, ih]
      rfl

theorem registeredColumns?_pointers :
    registeredColumns? "Pointers" (implementationTokens name bindings) =
      some (bindings.map Binding.column) := by
  have hentries : fieldKeys (bindings.flatMap targetTokens ++ choosing) =
      bindings.map Binding.column ++ [] := fieldKeys_entries (fun _ _ => rfl) choosing
  show some (fieldKeys (bindings.flatMap targetTokens ++ choosing)) = _
  rw [hentries, List.append_nil]

theorem registeredColumns?_values :
    registeredColumns? "Values" (implementationTokens name bindings) =
      some (bindings.map Binding.column) := by
  have hentries : fieldKeys (bindings.flatMap valueTokens ++ choosing) =
      bindings.map Binding.column ++ [] := fieldKeys_entries (fun _ _ => rfl) choosing
  show some (fieldKeys (bindings.flatMap valueTokens ++ choosing)) = _
  rw [hentries, List.append_nil]

end Expansion

end Derive
end Rowsmith

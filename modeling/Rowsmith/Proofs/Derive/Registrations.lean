import Rowsmith.Proofs.Derive.Implementation

/-!
# Registrations in the generated code

The code for any struct, whatever its parameters: its two implementations begin with what the struct
says about itself, and between their braces stands what depends on the bound fields. Read as source
code, the constant there lists their columns, and the bodies of the two functions register the very
same fields under these columns, in the same order.
-/

namespace Rowsmith
namespace Derive

open Text

/-!
# Reading registrations
-/

def selfField? : Tokens → Option Identifier
  | [word, dot, .identifier name] =>
      if beginsWithWord "self" [word] && begins "." [dot] then some name else none
  | _ => none

def borrowedField? : Tokens → Option Identifier
  | sign :: word :: rest =>
      if begins "&" [sign] && beginsWithWord "mut" [word] then selfField? rest else none
  | _ => none

def clonedField? (tokens : Tokens) : Option Identifier := do
  let (path, rest) ← Reader.modulePath.run tokens
  if path.rooted && path.names = ["std", "clone", "Clone", "clone"].map (⟨·, false⟩) then
    match rest with
    | [.group .parenthesis (sign :: argument)] =>
        if begins "&" [sign] then selfField? argument else none
    | _ => none
  else
    none

def registration? (field? : Tokens → Option Identifier) : Token → Option Binding
  | .group .parenthesis (column :: sign :: rest) => do
      let column ← textValue? column
      if begins "," [sign] then return ⟨column, ← field? rest⟩ else none
  | _ => none

/-- The fields registered by calls in a row, of which the last one selects what the function is
asked for. -/
def chain? (field? : Tokens → Option Identifier) : Tokens → Option (List Binding)
  | dot :: word :: arguments :: rest =>
      if begins "." [dot] && beginsWithWord "field" [word] then do
        let binding ← registration? field? arguments
        let more ← chain? field? rest
        return binding :: more
      else if begins "." [dot] && beginsWithWord "select" [word] then
        match arguments, rest with
        | .group .parenthesis [asked], [] =>
            if beginsWithWord "columns" [asked] then some [] else none
        | _, _ => none
      else
        none
  | _ => none

def registrations? (list : String) (field? : Tokens → Option Identifier) (block : Tokens) :
    Option (List Binding) := do
  let body ← (blocks block).find? (makes list)
  let (_, rest) ← Reader.modulePath.run body
  match rest with
  | .group .parenthesis [] :: calls => chain? field? calls
  | _ => none

def listedColumns? (block : Tokens) : Option (List String) := do
  let value ← ((statementsFrom [] block).filterMap constant?).lookup "COLUMNS"
  let list ← firstGroup? .bracket value
  return textValues list

/-!
# What the code registers
-/

section Lists

variable {bindings : List Binding}

/-- Calls are read one after the other, up to the one that selects. -/
theorem chain?_calls {field? : Tokens → Option Identifier} {tokens : Binding → Tokens}
    (hcall : ∀ binding rest, chain? field? (tokens binding ++ rest) =
      (chain? field? rest).map (binding :: ·)) :
    chain? field? (bindings.flatMap tokens ++ choosing) = some bindings := by
  induction bindings with
  | nil => rfl
  | cons binding bindings ih =>
      rw [List.flatMap_cons, List.append_assoc, hcall, ih]
      rfl

theorem chain?_targetTokens (binding : Binding) (rest : Tokens) :
    chain? borrowedField? (targetTokens binding ++ rest) =
      (chain? borrowedField? rest).map (binding :: ·) := by
  show ((chain? borrowedField? rest).bind fun more => some (binding :: more)) = _
  cases chain? borrowedField? rest <;> rfl

theorem chain?_valueTokens (binding : Binding) (rest : Tokens) :
    chain? clonedField? (valueTokens binding ++ rest) =
      (chain? clonedField? rest).map (binding :: ·) := by
  show ((chain? clonedField? rest).bind fun more => some (binding :: more)) = _
  cases chain? clonedField? rest <;> rfl

theorem registrations?_pointers :
    registrations? "Pointers" borrowedField? (entityTokens bindings) = some bindings := by
  show chain? borrowedField? (bindings.flatMap targetTokens ++ choosing) = _
  exact chain?_calls chain?_targetTokens

theorem registrations?_values :
    registrations? "Values" clonedField? (entityTokens bindings) = some bindings := by
  show chain? clonedField? (bindings.flatMap valueTokens ++ choosing) = _
  exact chain?_calls chain?_valueTokens

theorem listedColumns?_columnsTokens :
    listedColumns? (columnsTokens bindings) = some (bindings.map Binding.column) := by
  show some (textValues ((bindings.map key).intersperse (mark ','))) = _
  rw [textValues_intersperse (fun _ => rfl) rfl]

end Lists

/-!
# The code as a whole
-/

def spacedText (ws : Words) : String :=
  String.ofList (spaced ws)

theorem tokensOf_spacedText {ws : Words} {tokens : Tokens} (h : SpellsWords ws tokens)
    (hmark : (spaced ws).head? ≠ some '\ufeff') : tokensOf (spacedText ws) = some tokens := by
  apply tokensOf_of_spells
  · rw [spacedText, String.toList_ofList]
    exact Spells.mono h fun _ _ => trivial
  · rw [spacedText, String.toList_ofList]
    exact hmark

def Item.inherentHead (item : Item) : String :=
  spacedText ("impl" :: words item.declaredParameters ++ Expansion.subject ⟨item, []⟩)

def Item.entityHead (item : Item) : String :=
  spacedText ("impl" :: words item.declaredParameters ++
    ":: pggo :: Entity for" :: Expansion.subject ⟨item, []⟩)

theorem text_eq_heads_and_blocks (expansion : Expansion) :
    expansion.text = expansion.item.inherentHead ++ "\x7b " ++
      spacedText (columnsWords expansion.bindings) ++ "\x7d " ++
      expansion.item.entityHead ++ "\x7b " ++
      spacedText (entityWords expansion.bindings) ++ "\x7d" := by
  have hwords : expansion.columnsBlock ++ expansion.entityBlock =
      ("impl" :: words expansion.item.declaredParameters ++
          Expansion.subject ⟨expansion.item, []⟩ ++ "\x7b" ::
        columnsWords expansion.bindings ++ "\x7d" ::
          ("impl" :: words expansion.item.declaredParameters ++
            ":: pggo :: Entity for" :: Expansion.subject ⟨expansion.item, []⟩) ++ "\x7b" ::
        entityWords expansion.bindings) ++ ["\x7d"] := by
    simp [Expansion.columnsBlock, Expansion.entityBlock, Expansion.subject, Delimiter.around,
      Delimiter.opening, Delimiter.closing, columnsWords, entityWords]
  apply String.toList_injective
  unfold Expansion.text
  rw [hwords, toList_intercalate_blank]
  simp [spacedText, spaced, Item.inherentHead, Item.entityHead]

/-- Between the braces of the two implementations stand a constant that lists the columns and two
functions that register the fields under them. -/
structure Expansion.Registers (expansion : Expansion) (constants functions : String) : Prop where
  text : expansion.text = expansion.item.inherentHead ++ "\x7b " ++ constants ++ "\x7d " ++
    expansion.item.entityHead ++ "\x7b " ++ functions ++ "\x7d"
  columns : (tokensOf constants).bind listedColumns? =
    some (expansion.bindings.map Binding.column)
  pointers : (tokensOf functions).bind (registrations? "Pointers" borrowedField?) =
    some expansion.bindings
  values : (tokensOf functions).bind (registrations? "Values" clonedField?) =
    some expansion.bindings

theorem registers_of_writable {expansion : Expansion}
    (h : ∀ binding ∈ expansion.bindings, Writable binding.field) :
    expansion.Registers (spacedText (columnsWords expansion.bindings))
      (spacedText (entityWords expansion.bindings)) := by
  have hcolumns : tokensOf (spacedText (columnsWords expansion.bindings)) =
      some (columnsTokens expansion.bindings) := by
    apply tokensOf_spacedText (spellsWords_columns expansion.bindings)
    show some '#' ≠ _
    decide
  have hentity : tokensOf (spacedText (entityWords expansion.bindings)) =
      some (entityTokens expansion.bindings) := by
    apply tokensOf_spacedText (spellsWords_entity h)
    show some 'f' ≠ _
    decide
  refine ⟨text_eq_heads_and_blocks expansion, ?_, ?_, ?_⟩
  · rw [hcolumns]
    exact listedColumns?_columnsTokens
  · rw [hentity]
    exact registrations?_pointers
  · rw [hentity]
    exact registrations?_values

end Derive
end Rowsmith

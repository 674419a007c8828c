import Rowsmith.Derive.Grammar.Attribute

/-!
# Lists in source code

What source code says about columns, found in its tokens: the constants of a type with their values,
the texts in such a value, and the names under which fields are registered with a list.
-/

namespace Rowsmith
namespace Derive

/-!
# Texts
-/

def textValue? : Token → Option String
  | .literal _ (.text value) => some value
  | _ => none

def textValues (tokens : Tokens) : List String :=
  tokens.filterMap textValue?

theorem textValues_intersperse {α : Type} {token : α → Token} {value : α → String}
    {between : Token} (htoken : ∀ a, textValue? (token a) = some (value a))
    (hbetween : textValue? between = none) (members : List α) :
    textValues ((members.map token).intersperse between) = members.map value := by
  induction members with
  | nil => rfl
  | cons a members ih =>
      cases members with
      | nil => simp [textValues, htoken]
      | cons next others =>
          rw [List.map_cons, List.map_cons, List.intersperse_cons_cons]
          rw [List.map_cons] at ih
          unfold textValues at ih ⊢
          rw [List.filterMap_cons_some (htoken a), List.filterMap_cons_none hbetween, ih]
          rfl

def content? (delimiter : Delimiter) : Token → Option Tokens
  | .group d inner => if d = delimiter then some inner else none
  | _ => none

def firstGroup? (delimiter : Delimiter) (tokens : Tokens) : Option Tokens :=
  tokens.findSome? (content? delimiter)

def blocks (tokens : Tokens) : List Tokens :=
  tokens.filterMap (content? .brace)

/-!
# Constants
-/

def inherentBlock? : Tokens → Option Tokens
  | [] => none
  | token :: rest =>
      match token, rest with
      | .identifier keyword, .identifier _ :: .group .brace inner :: _ =>
          if keyword = ⟨"impl", false⟩ then some inner else inherentBlock? rest
      | _, _ => inherentBlock? rest

def isSemicolon : Token → Bool
  | .punctuation ';' _ => true
  | _ => false

def isEqualsSign : Token → Bool
  | .punctuation '=' _ => true
  | _ => false

/-- The tokens before each semicolon. The first argument holds the tokens after the last one, last
token first. -/
def statementsFrom : Tokens → Tokens → List Tokens
  | _, [] => []
  | held, token :: rest =>
      if isSemicolon token then held.reverse :: statementsFrom [] rest
      else statementsFrom (token :: held) rest

def constant? (statement : Tokens) : Option (String × Tokens) :=
  match statement.dropWhile fun token => !beginsWithWord "const" [token] with
  | _ :: .identifier name :: rest =>
      match rest.dropWhile fun token => !isEqualsSign token with
      | _ :: value => some (name.word, value)
      | [] => none
  | _ => none

def constants? (tokens : Tokens) : Option (List (String × Tokens)) := do
  let block ← inherentBlock? tokens
  return (statementsFrom [] block).filterMap constant?

def boundColumns? (tokens : Tokens) : Option (List String) := do
  let constants ← constants? tokens
  let value ← constants.lookup "COLUMNS"
  let list ← firstGroup? .bracket value
  return textValues list

def tableColumns? (tokens : Tokens) : Option (List String) := do
  let constants ← constants? tokens
  let value ← constants.lookup "TABLE"
  let arguments ← firstGroup? .parenthesis value
  let list ← firstGroup? .bracket arguments
  return textValues list

def columnConstants? (tokens : Tokens) : Option (List String) := do
  let constants ← constants? tokens
  return (constants.filter (·.1 ≠ "TABLE")).flatMap fun constant => textValues constant.2

/-!
# Registrations
-/

def makes (list : String) (code : Tokens) : Bool :=
  (Reader.modulePath.run code).any fun (path, _) =>
    path.rooted && path.names = [⟨"pggo", false⟩, ⟨list, false⟩, ⟨"new", false⟩]

def key? : Token → Option String
  | .group .parenthesis (first :: _) => textValue? first
  | _ => none

def fieldKeys : Tokens → List String
  | [] => []
  | token :: rest =>
      (if beginsWithWord "field" [token] then (rest.head?.bind key?).toList else []) ++
        fieldKeys rest

def registeredColumns? (list : String) (tokens : Tokens) : Option (List String) :=
  (((blocks tokens).flatMap blocks).find? (makes list)).map fieldKeys

end Derive
end Rowsmith

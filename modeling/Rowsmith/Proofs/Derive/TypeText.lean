import Rowsmith.Proofs.Derive.Lexeme
import Rowsmith.Proofs.Derive.PathType

/-!
# Texts of types

A text is the text of a type if it is read as one where a field's type stands and where the argument
of a generic type does. Paths of names are, and so are generic paths if their argument is.
-/

namespace Rowsmith
namespace Derive

open Text

inductive FollowsType : Bool → Characters → Prop where
  | finish : FollowsType false []
  | comma (rest : Characters) : FollowsType true (',' :: rest)
  | closing (rest : Characters) : FollowsType true ('>' :: rest)

/-- How a text is read as a type. Its tokens differ in whether the last one is joined to what
follows; the type's own tokens are spaced anew. -/
structure ReadsAsType (text : String) (tokens : Bool → Tokens) (type : Tokens) : Prop where
  lexed : ∀ joint, Spells text.toList (tokens joint) (FollowsType joint)
  field : ∀ {depth joint rest}, 16 * (text.length + 1) ≤ depth → EndsType rest →
    (Reader.type (Phrase.reader depth) true).run (tokens joint ++ rest) = some (type, rest)
  argument : ∀ {depth name joint closing rest}, 16 * (text.length + 1) ≤ depth →
    isName name = true →
    (Reader.segment (Phrase.reader depth) false).run
      (.identifier name :: .punctuation '<' joint ::
        (tokens true ++ .punctuation '>' closing :: rest)) =
      some (Reader.genericSegment name type, rest)

abbrev LexesAsType (text : String) (tokens : Bool → Tokens) : Prop :=
  ∀ joint, Spells text.toList (tokens joint) (FollowsType joint)

/-- The text stands for a type wherever a field or a generic type needs one. -/
def IsTypeText (text : String) : Prop :=
  ∃ tokens type, ReadsAsType text tokens type

theorem FollowsType.endsWord {joint : Bool} {rest : Characters} (h : FollowsType joint rest) :
    EndsWord rest := by
  cases h with
  | finish =>
      intro c hc
      cases hc
  | comma rest => exact EndsWord.cons (by decide) rest
  | closing rest => exact EndsWord.cons (by decide) rest

theorem FollowsType.startsWithMark {joint : Bool} {rest : Characters}
    (h : FollowsType joint rest) : startsWithMark rest = joint := by
  cases h with
  | finish => rfl
  | comma rest => rfl
  | closing rest => rfl

/-!
## Spellings of paths
-/

theorem startsWithMark_identifier {name : Identifier} (h : Writable name) (rest : Characters) :
    startsWithMark (name.text.toList ++ rest) = false := by
  unfold Identifier.text
  cases name.raw with
  | false => exact startsWithMark_word h.word rest
  | true =>
      rw [if_pos rfl, String.toList_append]
      exact startsWithMark_eq_false (by decide)

def laterText (names : List Identifier) : Characters :=
  names.flatMap fun name => ':' :: ':' :: name.text.toList

theorem endsWord_laterText (names : List Identifier) {rest : Characters} (h : EndsWord rest) :
    EndsWord (laterText names ++ rest) := by
  cases names with
  | nil => exact h
  | cons name names => exact EndsWord.cons (by decide) _

theorem spells_laterText {names : List Identifier} (h : ∀ name ∈ names, Writable name) :
    Spells (laterText names) (Reader.laterNames names) EndsWord := by
  induction names with
  | nil => exact Spells.nil.mono fun _ _ => trivial
  | cons name names ih =>
      have hname := h name (by simp)
      have hmore := ih fun n hn => h n (by simp [hn])
      have hword := (spells_identifier hname).append hmore fun rest => endsWord_laterText names
      have hsecond := (spells_mark (c := ':') false (by decide)).append hword
        fun rest _ => by
          rw [List.append_assoc]
          exact startsWithMark_identifier hname _
      exact (spells_mark (c := ':') true (by decide)).append hsecond fun rest _ => rfl

def pathText (first : Identifier) (later : List Identifier) : Characters :=
  first.text.toList ++ laterText later

theorem spells_pathText {first : Identifier} {later : List Identifier}
    (h : ∀ name ∈ first :: later, Writable name) :
    Spells (pathText first later) (.identifier first :: Reader.laterNames later) EndsWord := by
  have hlater := spells_laterText fun name hname => h name (List.mem_cons_of_mem _ hname)
  exact (spells_identifier (h first (by simp))).append hlater
    fun rest => endsWord_laterText later

/-!
## Paths as types
-/

theorem run_type {depth : Nat} {ts rest : Tokens} {t : TypeTokens}
    (h : (Reader.typeTokens (Phrase.reader depth) true).run ts = some (t, rest)) :
    (Reader.type (Phrase.reader (depth + 1)) true).run ts = some (t.tokens, rest) := by
  have hread : (Phrase.reader (depth + 1) (.type true)).run ts = some (t, rest) := h
  unfold Reader.type
  rw [run_bind hread]
  rfl

/-- A text that begins with a name and is read as a path. The path may end in arguments, for which
one step down is left. -/
theorem ReadsAsType.of_path {text : String} {first : Identifier} {more : Bool → Tokens}
    {path : PathTokens} (hname : isName first = true)
    (hlexed : ∀ joint, Spells text.toList (.identifier first :: more joint) (FollowsType joint))
    (hsign : ∀ joint rest, EndsType rest → begins "#" (more joint ++ rest) = false)
    (hpath : ∀ {depth joint rest}, 16 * text.length ≤ depth → EndsType rest →
      (Reader.simplePath (Phrase.reader depth) false).run
        (.identifier first :: (more joint ++ rest)) = some (path, rest))
    (hqualified : path.isQualified = false) :
    ReadsAsType text (fun joint => .identifier first :: more joint) path.tokens := by
  have hread : ∀ {depth joint rest}, 16 * text.length ≤ depth → EndsType rest →
      (Reader.typeTokens (Phrase.reader depth) true).run
        (.identifier first :: (more joint ++ rest)) =
          some (⟨path.tokens, .path path.isSingle⟩, rest) := by
    intro depth joint rest hdepth hrest
    exact Reader.run_typeTokens _ true hname (hsign joint rest hrest) hrest
      (hpath hdepth hrest) hqualified
  constructor
  · exact hlexed
  · intro depth joint rest hdepth hrest
    cases depth with
    | zero => omega
    | succ depth => exact run_type (hread (by omega) hrest)
  · intro depth name joint closing rest hdepth hgeneric
    cases depth with
    | zero => omega
    | succ depth =>
        have hangle : beginsAngle (.punctuation '<' joint :: (.identifier first ::
            (more true ++ .punctuation '>' closing :: rest))) = true := by
          cases joint <;> rfl
        apply Reader.run_genericSegment _ hgeneric hangle rfl
        exact Reader.run_argument _ hname (hread (by omega) (EndsType.closing closing rest))

theorem beginsSign_laterNames {names : List Identifier} {rest : Tokens} (h : EndsType rest) :
    begins "#" (Reader.laterNames names ++ rest) = false := by
  cases names with
  | nil => cases h <;> rfl
  | cons name names => rfl

theorem isTypeText_path {text : String} {first : Identifier} {later : List Identifier}
    (htext : text.toList = pathText first later)
    (hwritable : ∀ name ∈ first :: later, Writable name)
    (hnames : ∀ name ∈ first :: later, isName name = true) : IsTypeText text := by
  have hfirst := hnames first (by simp)
  have hlater : ∀ name ∈ later, isName name = true :=
    fun name hname => hnames name (List.mem_cons_of_mem _ hname)
  have hreads : ReadsAsType text (fun _ => .identifier first :: Reader.laterNames later)
      (Reader.joined (.ofName first) (later.map PathTokens.ofName)).tokens := by
    apply ReadsAsType.of_path hfirst
    · intro joint
      rw [htext]
      exact (spells_pathText hwritable).mono fun rest hrest => hrest.endsWord
    · intro joint rest hrest
      exact beginsSign_laterNames hrest
    · intro depth joint rest hdepth hrest
      exact Reader.run_plainPath _ hfirst hlater hrest
    · rw [Reader.isQualified_joined]
      rfl
  exact ⟨_, _, hreads⟩

/-!
## Generic types
-/

def genericText (names : Characters) (argument : String) : Characters :=
  names ++ '<' :: (argument.toList ++ ['>'])

section Generic

variable {argument : String} {tokens : Bool → Tokens} {type : Tokens}

def bracketed (argument : String) (tokens : Bool → Tokens) (joint : Bool) : Tokens :=
  .punctuation '<' (startsWithMark (argument.toList ++ ['>'])) ::
    (tokens true ++ [.punctuation '>' joint])

theorem startsWithMark_two (c d : Char) (rest : Characters) :
    startsWithMark (c :: d :: rest) = startsWithMark [c, d] := by
  unfold startsWithMark
  split
  · next heq =>
      cases heq
      rfl
  · next heq =>
      cases heq
      rfl
  · next hslash hstar heq =>
      cases heq
      split
      · next heq =>
          cases heq
          exact (hslash rest rfl rfl).elim
      · next heq =>
          cases heq
          exact (hstar rest rfl rfl).elim
      · next heq =>
          cases heq
          rfl
      · next heq => cases heq
  · next heq => cases heq

theorem startsWithMark_closed (cs rest : Characters) :
    startsWithMark (cs ++ ['>'] ++ rest) = startsWithMark (cs ++ ['>']) := by
  cases cs with
  | nil => rfl
  | cons c more =>
      cases more with
      | nil => exact startsWithMark_two c '>' rest
      | cons d others =>
          rw [List.cons_append, List.cons_append, List.cons_append, List.cons_append,
            startsWithMark_two, startsWithMark_two c d (others ++ ['>'])]

theorem spells_bracketed (h : LexesAsType argument tokens) (joint : Bool) :
    Spells ('<' :: (argument.toList ++ ['>'])) (bracketed argument tokens joint)
      (FollowsType joint) := by
  have hclosing : Spells ['>'] [.punctuation '>' joint] (FollowsType joint) :=
    (spells_mark joint (by decide)).mono fun rest hrest => hrest.startsWithMark
  have hinner := (h true).append hclosing fun rest _ => FollowsType.closing rest
  have hopening := spells_mark (c := '<') (startsWithMark (argument.toList ++ ['>'])) (by decide)
  apply hopening.append hinner
  intro rest _
  exact startsWithMark_closed argument.toList rest

theorem spells_genericText {names : Characters} {front : Tokens}
    (hnames : Spells names front EndsWord) (h : LexesAsType argument tokens) (joint : Bool) :
    Spells (genericText names argument) (front ++ bracketed argument tokens joint)
      (FollowsType joint) := by
  apply hnames.append (spells_bracketed h joint)
  intro rest _
  exact EndsWord.cons (by decide) _

theorem run_bracketed (h : ReadsAsType argument tokens type) {depth : Nat} {name : Identifier}
    (hdepth : 16 * (argument.length + 1) ≤ depth) (hname : isName name = true) (joint : Bool)
    (rest : Tokens) :
    (Reader.segment (Phrase.reader depth) false).run
      (.identifier name :: (bracketed argument tokens joint ++ rest)) =
        some (Reader.genericSegment name type, rest) := by
  show StateT.run _ (.identifier name :: .punctuation '<' _ ::
    (tokens true ++ [.punctuation '>' joint] ++ rest)) = _
  rw [List.append_assoc]
  exact h.argument hdepth hname

theorem length_genericText {text : String} {names : Characters}
    (htext : text.toList = genericText names argument) :
    argument.length + 2 ≤ text.length := by
  rw [← String.length_toList, ← String.length_toList, htext]
  simp only [genericText, List.length_append, List.length_cons, List.length_nil]
  omega

theorem isTypeText_generic {text : String} {name : Identifier}
    (htext : text.toList = genericText name.text.toList argument) (hwritable : Writable name)
    (hname : isName name = true) (h : IsTypeText argument) : IsTypeText text := by
  rcases h with ⟨tokens, type, h⟩
  have hlength := length_genericText htext
  have hreads : ReadsAsType text
      (fun joint => .identifier name :: bracketed argument tokens joint)
      (Reader.joined (Reader.genericSegment name type) []).tokens := by
    apply ReadsAsType.of_path hname
    · intro joint
      rw [htext]
      exact spells_genericText (spells_identifier hwritable) h.lexed joint
    · intro joint rest hrest
      rfl
    · intro depth joint rest hdepth hrest
      exact Reader.run_genericName _ (run_bracketed h (by omega) hname joint rest) hrest
    · rfl
  exact ⟨_, _, hreads⟩

theorem isTypeText_genericPath {text : String} {first last : Identifier}
    {later : List Identifier}
    (htext : text.toList = genericText (pathText first (later ++ [last])) argument)
    (hwritable : ∀ name ∈ first :: (later ++ [last]), Writable name)
    (hnames : ∀ name ∈ first :: (later ++ [last]), isName name = true)
    (h : IsTypeText argument) : IsTypeText text := by
  rcases h with ⟨tokens, type, h⟩
  have hlength := length_genericText htext
  have hfirst := hnames first (by simp)
  have hlast := hnames last (by simp)
  have hlater : ∀ name ∈ later, isName name = true :=
    fun name hname => hnames name (by simp [hname])
  have hreads : ReadsAsType text
      (fun joint => .identifier first ::
        (Reader.laterNames (later ++ [last]) ++ bracketed argument tokens joint))
      (Reader.joined (.ofName first)
        (later.map PathTokens.ofName ++ [Reader.genericSegment last type])).tokens := by
    apply ReadsAsType.of_path hfirst
    · intro joint
      rw [htext]
      exact spells_genericText (spells_pathText hwritable) h.lexed joint
    · intro joint rest hrest
      cases later <;> rfl
    · intro depth joint rest hdepth hrest
      have hsegment := run_bracketed h (by omega : _ ≤ depth) hlast joint rest
      rw [← Reader.run_genericPath _ hfirst hlater hsegment hrest]
      simp [Reader.laterNames]
    · rw [Reader.isQualified_joined]
      rfl
  exact ⟨_, _, hreads⟩

end Generic

/-!
## Plain words
-/

def isPlainWord (word : String) : Bool :=
  word.toList.head?.any isIdentifierStart && word.toList.all isIdentifierPart &&
    !reserved.contains word

theorem writable_of_isPlainWord {word : String} (h : isPlainWord word = true) :
    Writable ⟨word, false⟩ := by
  unfold isPlainWord at h
  rw [Bool.and_eq_true, Bool.and_eq_true] at h
  constructor
  · exact isWord_iff.mpr h.left
  · intro hraw
    cases hraw

theorem isName_of_isPlainWord {word : String} (h : isPlainWord word = true) :
    isName ⟨word, false⟩ = true := by
  unfold isPlainWord at h
  rw [Bool.and_eq_true] at h
  exact h.right

def plainPath (words : List String) : List Identifier :=
  words.map fun word => ⟨word, false⟩

theorem writable_plainPath {words : List String}
    (h : ∀ word ∈ words, isPlainWord word = true) : ∀ name ∈ plainPath words, Writable name := by
  intro name hname
  rcases List.mem_map.mp hname with ⟨word, hword, rfl⟩
  exact writable_of_isPlainWord (h word hword)

theorem isName_plainPath {words : List String} (h : ∀ word ∈ words, isPlainWord word = true) :
    ∀ name ∈ plainPath words, isName name = true := by
  intro name hname
  rcases List.mem_map.mp hname with ⟨word, hword, rfl⟩
  exact isName_of_isPlainWord (h word hword)

theorem isTypeText_plainPath {text : String} {first : String} {later : List String}
    (hwords : ∀ word ∈ first :: later, isPlainWord word = true)
    (htext : text.toList = pathText ⟨first, false⟩ (plainPath later)) : IsTypeText text :=
  isTypeText_path htext (writable_plainPath hwords) (isName_plainPath hwords)

/-!
# Names of types in source code

A type begins after a colon or an arrow and goes on to the comma, semicolon or equals sign that ends
it; commas between angle brackets do not. A name in a type refers to whatever is in scope if no path
leads to or from it, and these are the names that are collected.
-/

structure TypePlace where
  /-- In a type, how many angle brackets are open. -/
  depth : Option Nat
  /-- Whether the name that comes next belongs to the marks before it, as part of a path or as a
  lifetime. -/
  bound : Bool

namespace TypePlace

def outside : TypePlace := ⟨none, false⟩

def inside (depth : Nat) : TypePlace := ⟨some depth, false⟩

def depthAfter (place : TypePlace) (mark : Char) (joint : Bool) : Option Nat :=
  match place.depth with
  | none =>
      if mark = ':' ∧ joint = false ∧ place.bound = false ∨ mark = '-' ∧ joint = true then some 0
      else none
  | some depth =>
      if mark = '<' then some (depth + 1)
      else if mark = '>' then some (depth - 1)
      else if mark = ';' ∨ mark = '=' ∨ mark = ',' ∧ depth = 0 then none
      else some depth

def depthAround (place : TypePlace) (delimiter : Delimiter) : Option Nat :=
  if delimiter = .brace then none else place.depth

def after (place : TypePlace) : Token → TypePlace
  | .identifier _ | .literal _ _ => ⟨place.depth, false⟩
  | .group delimiter _ => ⟨place.depthAround delimiter, false⟩
  | .punctuation mark joint =>
      ⟨place.depthAfter mark joint, mark = '\'' || mark = ':' && (joint || place.bound)⟩

end TypePlace

mutual

def Token.typeNames (place : TypePlace) (leads : Bool) : Token → List String
  | .identifier name =>
      if place.depth.isSome && !place.bound && !leads && isName name then [name.word] else []
  | .group delimiter inner => typeNames ⟨place.depthAround delimiter, false⟩ inner
  | .punctuation _ _ | .literal _ _ => []

def typeNames (place : TypePlace) : Tokens → List String
  | [] => []
  | token :: rest => token.typeNames place (begins "::" rest) ++ typeNames (place.after token) rest

end

def declaredStruct? : Tokens → Option String
  | .identifier ⟨"struct", false⟩ :: .identifier name :: _ => some name.word
  | _ :: rest => declaredStruct? rest
  | [] => none

/-!
## Types
-/

def NamesTypes (tokens : Bool → Tokens) (names : List String) : Prop :=
  ∀ joint depth rest, EndsType rest →
    typeNames (.inside depth) (tokens joint ++ rest) = names ++ typeNames (.inside depth) rest

theorem typeNames_laterNames (later : List Identifier) (depth : Nat) (rest : Tokens) :
    typeNames (.inside depth) (Reader.laterNames later ++ rest) =
      typeNames (.inside depth) rest := by
  induction later with
  | nil => rfl
  | cons name later ih => exact ih

theorem typeNames_leading (first next : Identifier) (later : List Identifier) (depth : Nat)
    (rest : Tokens) :
    typeNames (.inside depth) (.identifier first :: (Reader.laterNames (next :: later) ++ rest)) =
      typeNames (.inside depth) rest :=
  typeNames_laterNames (next :: later) depth rest

theorem typeNames_single {name : Identifier} (hname : isName name = true) (depth : Nat)
    {rest : Tokens} (hrest : begins "::" rest = false) :
    typeNames (.inside depth) (.identifier name :: rest) =
      name.word :: typeNames (.inside depth) rest := by
  show Token.typeNames (.inside depth) (begins "::" rest) (.identifier name) ++
    typeNames (.inside depth) rest = _
  rw [hrest]
  show (if isName name then [name.word] else []) ++ _ = _
  rw [if_pos hname]
  rfl

theorem EndsType.begins_separator {rest : Tokens} (h : EndsType rest) :
    begins "::" rest = false := by
  cases h <;> rfl

def ownNames (first : Identifier) (later : List Identifier) : List String :=
  if later.isEmpty then [first.word] else []

theorem namesTypes_path {first : Identifier} (hname : isName first = true)
    (later : List Identifier) :
    NamesTypes (fun _ => .identifier first :: Reader.laterNames later) (ownNames first later) := by
  intro joint depth rest hrest
  cases later with
  | nil => exact typeNames_single hname depth hrest.begins_separator
  | cons next later => exact typeNames_leading first next later depth rest

theorem typeNames_bracketed {argument : String} {tokens : Bool → Tokens} {names : List String}
    (h : NamesTypes tokens names) (joint : Bool) (depth : Nat) (rest : Tokens) :
    typeNames (.inside depth) (bracketed argument tokens joint ++ rest) =
      names ++ typeNames (.inside depth) rest := by
  have hinner := h true (depth + 1) (.punctuation '>' joint :: rest) (.closing joint rest)
  unfold bracketed
  rw [List.cons_append, List.append_assoc]
  exact hinner

theorem namesTypes_generic (argument : String) {tokens : Bool → Tokens} {names : List String}
    {name : Identifier} (hname : isName name = true) (h : NamesTypes tokens names) :
    NamesTypes (fun joint => .identifier name :: bracketed argument tokens joint)
      (name.word :: names) := by
  intro joint depth rest _
  show typeNames (.inside depth) (.identifier name :: (bracketed argument tokens joint ++ rest)) = _
  rw [typeNames_single hname depth rfl, typeNames_bracketed h]
  rfl

theorem namesTypes_genericPath (argument : String) {tokens : Bool → Tokens} {names : List String}
    (first next : Identifier) (later : List Identifier) (h : NamesTypes tokens names) :
    NamesTypes (fun joint => .identifier first ::
      (Reader.laterNames (next :: later) ++ bracketed argument tokens joint)) names := by
  intro joint depth rest _
  rw [List.cons_append, List.append_assoc, typeNames_leading, typeNames_bracketed h]

end Derive
end Rowsmith

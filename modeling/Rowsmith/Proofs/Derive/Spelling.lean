import Rowsmith.Proofs.Derive.TextLiteral

/-!
# Spellings of tokens

A text spells some tokens if the lexer, wherever it stands, takes the text and adds the tokens. What
may follow the text is part of the description: a word, for one, must not go on. Texts with known
spellings are put together by one lemma.
-/

namespace Rowsmith
namespace Derive

open Text

/-!
## Several steps of the lexer
-/

namespace LexState

def steps : Nat → LexState → Characters → Option (LexState × Characters)
  | 0, state, cs => some (state, cs)
  | n + 1, state, cs => do
      let (state, cs) ← state.step cs
      steps n state cs

theorem steps_add {m n : Nat} {first middle last : LexState} {cs ds es : Characters}
    (hm : steps m first cs = some (middle, ds)) (hn : steps n middle ds = some (last, es)) :
    steps (m + n) first cs = some (last, es) := by
  induction m generalizing first cs with
  | zero =>
      cases hm
      rw [Nat.zero_add]
      exact hn
  | succ m ih =>
      rw [Nat.add_right_comm, steps]
      rcases Option.bind_eq_some_iff.mp hm with ⟨⟨next, rest⟩, hstep, hrest⟩
      rw [hstep]
      exact ih hrest

theorem add_add (state : LexState) (s t : Tokens) :
    (state.add s).add t = state.add (s ++ t) := by
  simp [add]

end LexState

theorem lexFrom_of_steps {n bound : Nat} {first last : LexState} {cs : Characters}
    (h : LexState.steps n first cs = some (last, [])) (hbound : n ≤ bound) :
    lexFrom bound first cs = last.finish := by
  induction n generalizing first cs bound with
  | zero =>
      cases h
      cases bound <;> rfl
  | succ n ih =>
      rcases Option.bind_eq_some_iff.mp h with ⟨⟨next, rest⟩, hstep, hrest⟩
      cases bound with
      | zero => simp at hbound
      | succ bound =>
          cases cs with
          | nil => cases hstep
          | cons c more =>
              rw [lexFrom, hstep]
              exact ih hrest (Nat.le_of_succ_le_succ hbound)

/-!
## Spellings
-/

/-- The lexer takes the text, before anything that may follow it, and adds the tokens. -/
def Spells (text : Characters) (tokens : Tokens) (follows : Characters → Prop) : Prop :=
  ∀ (state : LexState) (rest : Characters), follows rest →
    ∃ n ≤ text.length, state.steps n (text ++ rest) = some (state.add tokens, rest)

def Anything (_ : Characters) : Prop := True

namespace Spells

variable {s t : Characters} {a b : Tokens} {F G : Characters → Prop}

theorem mono (h : Spells s a F) (himp : ∀ rest, G rest → F rest) : Spells s a G :=
  fun state rest hrest => h state rest (himp rest hrest)

/-- A text that takes a fixed count of steps, whatever follows. -/
theorem of_steps (n : Nat) (hlength : n ≤ s.length)
    (h : ∀ (state : LexState) (rest : Characters),
      state.steps n (s ++ rest) = some (state.add a, rest)) : Spells s a Anything :=
  fun state rest _ => ⟨n, hlength, h state rest⟩

theorem nil : Spells [] [] Anything :=
  of_steps 0 (Nat.le_refl 0) fun _ _ => rfl

theorem append (hs : Spells s a F) (ht : Spells t b G) (h : ∀ rest, G rest → F (t ++ rest)) :
    Spells (s ++ t) (a ++ b) G := by
  intro state rest hrest
  rcases hs state (t ++ rest) (h rest hrest) with ⟨m, hm, hfirst⟩
  rcases ht (state.add a) rest hrest with ⟨n, hn, hsecond⟩
  refine ⟨m + n, ?_, ?_⟩
  · rw [List.length_append]
    exact Nat.add_le_add hm hn
  · rw [List.append_assoc, LexState.steps_add hfirst hsecond, LexState.add_add]

theorem before (hs : Spells s a Anything) (ht : Spells t b G) : Spells (s ++ t) (a ++ b) G :=
  hs.append ht fun _ _ => trivial

end Spells

theorem lexFrom_of_spells {text : Characters} {tokens : Tokens}
    (h : Spells text tokens (· = [])) : lexFrom text.length {} text = some tokens := by
  rcases h {} [] rfl with ⟨n, hn, hsteps⟩
  rw [List.append_nil] at hsteps
  rw [lexFrom_of_steps hsteps hn]
  simp [LexState.finish, LexState.add]

theorem tokensOf_of_spells {text : String} {tokens : Tokens}
    (h : Spells text.toList tokens (· = [])) (hmark : text.toList.head? ≠ some '\ufeff') :
    tokensOf text = some tokens := by
  unfold tokensOf
  split
  · next rest heq =>
      rw [heq] at hmark
      exact absurd rfl hmark
  · exact lexFrom_of_spells h

/-!
## Groups
-/

theorem unwritable?_eq_none {rest : Characters} (h : rest.head? ≠ some '/') :
    unwritable? ('(' :: rest) = none := by
  have hprefix : ¬unwritable.toList.isPrefixOf ('(' :: rest) = true := by
    rw [List.isPrefixOf_iff_prefix]
    intro hexists
    rcases hexists with ⟨more, hmore⟩
    have hrest := (List.cons.inj hmore).right
    rw [← hrest] at h
    exact h rfl
  unfold unwritable?
  rw [if_neg hprefix]

theorem step_opening (delimiter : Delimiter) (state : LexState) {rest : Characters}
    (h : delimiter = .parenthesis → rest.head? ≠ some '/') :
    state.step (delimiter.opening :: rest) = some (state.openGroup delimiter, rest) := by
  cases delimiter with
  | parenthesis =>
      have htoken : token? ('(' :: rest) = none := by
        unfold token?
        rw [unwritable?_eq_none (h rfl)]
        rfl
      have hcomment : comment? ('(' :: rest) = none := rfl
      have hblank : isSourceBlank '(' = false := by decide
      show LexState.step state ('(' :: rest) = _
      unfold LexState.step
      rw [hcomment]
      dsimp only
      rw [hblank, htoken]
      rfl
  | bracket => rfl
  | brace => rfl

theorem step_closing (delimiter : Delimiter) (before inner : Tokens) (groups : List OpenGroup)
    (rest : Characters) :
    LexState.step ⟨(delimiter, before) :: groups, inner⟩ (delimiter.closing :: rest) =
      some (⟨groups, .group delimiter inner.reverse :: before⟩, rest) := by
  cases delimiter with
  | parenthesis => rfl
  | bracket => rfl
  | brace => rfl

theorem Spells.group (delimiter : Delimiter) {inner : Characters} {tokens : Tokens}
    {F : Characters → Prop} (h : Spells inner tokens F)
    (hopening : delimiter = .parenthesis → inner.head? ≠ some '/')
    (hclosing : ∀ rest, F (delimiter.closing :: rest)) :
    Spells (delimiter.opening :: (inner ++ [delimiter.closing])) [.group delimiter tokens]
      Anything := by
  intro state rest _
  rcases h (state.openGroup delimiter) (delimiter.closing :: rest) (hclosing rest) with
    ⟨n, hn, hinner⟩
  have hopen : LexState.steps 1 state
      (delimiter.opening :: (inner ++ delimiter.closing :: rest)) =
        some (state.openGroup delimiter, inner ++ delimiter.closing :: rest) := by
    have hhead : delimiter = .parenthesis →
        (inner ++ delimiter.closing :: rest).head? ≠ some '/' := by
      intro hsame
      subst hsame
      cases inner with
      | nil => simp [Delimiter.closing]
      | cons c more => exact hopening rfl
    rw [LexState.steps, step_opening delimiter state hhead]
    rfl
  have hclose : LexState.steps 1 ((state.openGroup delimiter).add tokens)
      (delimiter.closing :: rest) = some (state.add [.group delimiter tokens], rest) := by
    show (LexState.step ⟨(delimiter, state.tokens) :: state.groups, tokens.reverse ++ []⟩
      (delimiter.closing :: rest)).bind _ = _
    rw [step_closing]
    simp [LexState.steps, LexState.add]
  refine ⟨1 + (n + 1), ?_, ?_⟩
  · simp only [List.length_cons, List.length_append, List.length_nil]
    omega
  · have htext : delimiter.opening :: (inner ++ [delimiter.closing]) ++ rest =
        delimiter.opening :: (inner ++ delimiter.closing :: rest) := by
      simp
    rw [htext]
    exact LexState.steps_add hopen (LexState.steps_add hinner hclose)

/-!
# Stepping through fixed text

The lexer looks characters up in strings, and it takes long to unfold these. Here are its functions
with the characters in lists. They are equal to the lexer's own, and a fixed text is stepped through
with them.

## Characters in lists
-/

def markCodes : List Nat :=
  [126, 33, 64, 35, 36, 37, 94, 38, 42, 45, 61, 43, 124, 59, 58, 44, 60, 46, 62, 47, 63, 39]

def isListedMark (c : Char) : Bool :=
  markCodes.any (Nat.beq c.toNat)

theorem isMark_eq (c : Char) : isMark c = isListedMark c := by
  have hcodes : "~!@#$%^&*-=+|;:,<.>/?'".toList = markCodes.map Char.ofNat := by decide
  have hvalid : ∀ n ∈ markCodes, (Char.ofNat n).toNat = n := by decide
  rw [Bool.eq_iff_iff]
  unfold isMark isListedMark
  rw [hcodes, List.contains_iff_mem, List.mem_map, List.any_eq_true]
  constructor
  · intro hexists
    rcases hexists with ⟨n, hn, rfl⟩
    exact ⟨n, hn, by rw [hvalid n hn]; exact Nat.beq_refl n⟩
  · intro hexists
    rcases hexists with ⟨n, hn, hbeq⟩
    exact ⟨n, hn, by rw [← Nat.eq_of_beq_eq_true hbeq, Char.ofNat_toNat]⟩

def listedOpenings : List Characters :=
  [['r', '"'], ['r', '#', '"'], ['r', '#', '#'], ['b', '"'], ['b', '\''], ['b', 'r', '"'],
    ['b', 'r', '#'], ['c', '"'], ['c', 'r', '"'], ['c', 'r', '#']]

theorem literalOpenings_eq : literalOpenings.map String.toList = listedOpenings := by
  decide

def listedUnwritable : Characters :=
  ['(', '/', '*', 'E', 'R', 'R', 'O', 'R', '*', '/', ')']

theorem unwritable_eq : unwritable.toList = listedUnwritable := by
  decide

/-!
## The functions of the lexer
-/

def startsWithListedMark : Characters → Bool
  | '/' :: '/' :: _ | '/' :: '*' :: _ => false
  | c :: _ => isListedMark c
  | [] => false

def listedMark? : Characters → Option (Token × Characters)
  | '\'' :: rest =>
      match anyWord? rest with
      | some (_, after) =>
          if after.head? = some '\'' || (after.head? = some '#' && !beginsRaw rest) then none
          else some (.punctuation '\'' true, rest)
      | none => none
  | c :: rest =>
      if startsWithListedMark (c :: rest) then
        some (.punctuation c (startsWithListedMark rest), rest)
      else none
  | [] => none

def listedToken? (cs : Characters) : Option (Token × Characters) :=
  (literal? cs).or ((listedMark? cs).or
    ((if listedOpenings.any (·.isPrefixOf cs) then none
      else (anyWord? cs).map fun (name, rest) => (.identifier name, rest)).or
    (if listedUnwritable.isPrefixOf cs then
      some (.literal unwritable .other, cs.drop unwritable.length)
    else none)))

namespace LexState

def listedStep (state : LexState) (cs : Characters) : Option (LexState × Characters) :=
  match comment? cs with
  | some (.plain, rest) => some (state, rest)
  | some (.documentation inner text, rest) =>
      if returnsAtLineEnds text then some (state.add (documentation inner text), rest) else none
  | none =>
      match cs with
      | [] => none
      | c :: rest =>
          if isSourceBlank c then some (state, rest)
          else
            match listedToken? (c :: rest), opening? c, closing? c with
            | some (token, rest), _, _ => some (⟨state.groups, token :: state.tokens⟩, rest)
            | none, some delimiter, _ => some (state.openGroup delimiter, rest)
            | none, none, some delimiter =>
                (state.closeGroup delimiter).map fun state => (state, rest)
            | none, none, none => none

def listedSteps : Nat → LexState → Characters → Option (LexState × Characters)
  | 0, state, cs => some (state, cs)
  | n + 1, state, cs => do
      let (state, cs) ← state.listedStep cs
      listedSteps n state cs

end LexState

theorem startsWithMark_eq : startsWithMark = startsWithListedMark := by
  funext cs
  unfold startsWithMark
  simp only [isMark_eq]
  rfl

theorem mark?_eq : mark? = listedMark? := by
  funext cs
  unfold mark?
  rw [startsWithMark_eq]
  rfl

theorem token?_eq : token? = listedToken? := by
  funext cs
  have hopenings : literalOpenings.any (·.toList.isPrefixOf cs) =
      listedOpenings.any (·.isPrefixOf cs) := by
    rw [← literalOpenings_eq, List.any_map]
    rfl
  have hword : wordToken? cs = if listedOpenings.any (·.isPrefixOf cs) then none
      else (anyWord? cs).map fun (name, rest) => (.identifier name, rest) := by
    unfold wordToken? word?
    rw [hopenings]
    split <;> rfl
  unfold token? listedToken? unwritable?
  rw [mark?_eq, hword, unwritable_eq]

theorem LexState.step_eq : LexState.step = LexState.listedStep := by
  funext state cs
  unfold step
  rw [token?_eq]
  rfl

theorem LexState.steps_eq (n : Nat) (state : LexState) (cs : Characters) :
    steps n state cs = listedSteps n state cs := by
  induction n generalizing state cs with
  | zero => rfl
  | succ n ih =>
      rw [steps, listedSteps, step_eq]
      congr 1
      funext next
      exact ih next.1 next.2

theorem Spells.of_listedSteps {s : Characters} {a : Tokens} (n : Nat) (hlength : n ≤ s.length)
    (h : ∀ (groups : List OpenGroup) (before : Tokens) (rest : Characters),
      LexState.listedSteps n ⟨groups, before⟩ (s ++ rest) =
        some (⟨groups, a.reverseAux before⟩, rest)) : Spells s a Anything := by
  apply Spells.of_steps n hlength
  intro state rest
  rw [LexState.steps_eq, h state.groups state.tokens rest, List.reverseAux_eq]
  rfl

end Derive
end Rowsmith

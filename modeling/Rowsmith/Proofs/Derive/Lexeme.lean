import Rowsmith.Proofs.Derive.Spelling
import Rowsmith.Proofs.Text.Spacing

/-!
# Spellings of single tokens

Words, punctuation marks and texts, and the documentation comments that stand for an attribute.
-/

namespace Rowsmith
namespace Derive

open Text

/-!
# What may follow
-/

/-- A word ends here, and what stands before is not the opening of a literal. -/
def EndsWord (rest : Characters) : Prop :=
  ∀ c ∈ rest.head?, isIdentifierPart c = false ∧ c ≠ '"' ∧ c ≠ '\'' ∧ c ≠ '#'

def EndsLiteral (rest : Characters) : Prop :=
  ∀ c ∈ rest.head?, isIdentifierStart c = false

theorem EndsWord.cons {c : Char}
    (h : (isIdentifierPart c || c = '"' || c = '\'' || c = '#') = false) (rest : Characters) :
    EndsWord (c :: rest) := by
  intro d hd
  cases hd
  simpa [and_assoc] using h

theorem EndsLiteral.cons {c : Char} (h : isIdentifierStart c = false) (rest : Characters) :
    EndsLiteral (c :: rest) := by
  intro d hd
  cases hd
  exact h

structure IsWord (word : Characters) : Prop where
  first : ∃ c more, word = c :: more ∧ isIdentifierStart c = true
  parts : ∀ c ∈ word, isIdentifierPart c = true

theorem isWord_iff {word : Characters} :
    IsWord word ↔ word.head?.any isIdentifierStart = true ∧ word.all isIdentifierPart = true := by
  constructor
  · intro h
    rcases h.first with ⟨c, more, rfl, hstart⟩
    exact ⟨hstart, List.all_eq_true.mpr h.parts⟩
  · intro hboth
    rcases hboth with ⟨hfirst, hparts⟩
    refine ⟨?_, List.all_eq_true.mp hparts⟩
    cases word with
    | nil => cases hfirst
    | cons c more => exact ⟨c, more, rfl, hfirst⟩

instance (word : Characters) : Decidable (IsWord word) :=
  decidable_of_iff _ isWord_iff.symm

/-!
# One step for one token
-/

theorem step_token {c : Char} {rest after : Characters} {token : Token} (state : LexState)
    (hcomment : comment? (c :: rest) = none) (hblank : isSourceBlank c = false)
    (htoken : token? (c :: rest) = some (token, after)) :
    state.step (c :: rest) = some (state.add [token], after) := by
  unfold LexState.step
  rw [hcomment]
  dsimp only
  rw [hblank, htoken]
  rfl

theorem comment?_of_ne {c : Char} {rest : Characters} (h : c ≠ '/') :
    comment? (c :: rest) = none := by
  unfold comment?
  split
  all_goals first
    | rfl
    | next heq => exact absurd (List.cons.inj heq).left h

/-!
# Texts
-/

theorem spells_text {text : String} {value : String}
    (hquoted : ∃ c inner, text.toList = c :: inner ∧ (c = '"' ∨ c = 'r'))
    (h : ∀ rest, textLiteral? (text.toList ++ rest) = some (.text value, dropSuffix rest)) :
    Spells text.toList [.literal text (.text value)] EndsLiteral := by
  intro state rest hrest
  rcases hquoted with ⟨c, inner, hinner, hc⟩
  have hcomment : c ≠ '/' ∧ isSourceBlank c = false := by
    rcases hc with rfl | rfl <;> decide
  have hsuffix : dropSuffix rest = rest := by
    unfold dropSuffix identifier?
    cases rest with
    | nil => rfl
    | cons d more =>
        have hd : isIdentifierStart d = false := hrest d rfl
        simp only [hd]
        rfl
  have hliteral : literal? (text.toList ++ rest) = some (.literal text (.text value), rest) := by
    unfold literal? literalKind?
    rw [h rest, hsuffix]
    simp
  have htoken : token? (text.toList ++ rest) = some (.literal text (.text value), rest) := by
    unfold token?
    rw [hliteral]
    rfl
  refine ⟨1, ?_, ?_⟩
  · rw [hinner, List.length_cons]
    exact Nat.succ_le_succ (Nat.zero_le _)
  · rw [hinner, List.cons_append] at htoken ⊢
    rw [LexState.steps,
      step_token state (comment?_of_ne hcomment.left) hcomment.right htoken]
    rfl

theorem spells_quote (s : String) :
    Spells (quote s).toList [.literal (quote s) (.text s)] EndsLiteral := by
  apply spells_text
  · exact ⟨'"', escape s.toList ++ ['"'], by simp [quote], Or.inl rfl⟩
  · exact textLiteral?_quote s

theorem spells_quoteToken (s : String) :
    Spells (quoteToken s).toList [.literal (quoteToken s) (.text s)] EndsLiteral := by
  apply spells_text
  · exact ⟨'"', escapeToken s.toList ++ ['"'], by simp [quoteToken], Or.inl rfl⟩
  · exact textLiteral?_quoteToken s

/-!
# Words

A word could be taken for the opening of a literal only if a quote or a number sign came early in
it, and neither is an identifier character.
-/

def opensLiteral (c : Char) : Bool :=
  c = '"' || c = '\'' || c = '#'

theorem isIdentifierPart_mark : ∀ c, opensLiteral c = true → isIdentifierPart c = false := by
  intro c hc
  simp only [opensLiteral, Bool.or_eq_true, decide_eq_true_eq] at hc
  rcases hc with (rfl | rfl) | rfl <;> decide

/-- Neither a mark nor one of the letters of an opening and then a mark. -/
def Unmarked (tail : Characters) : Prop :=
  (∀ c ∈ tail.head?, opensLiteral c = false) ∧
    ∀ more, tail = 'r' :: more → ∀ c ∈ more.head?, opensLiteral c = false

theorem EndsWord.opensLiteral {rest : Characters} (h : EndsWord rest) :
    ∀ c ∈ rest.head?, opensLiteral c = false := by
  intro c hc
  rcases h c hc with ⟨_, hquote, hsingle, hsign⟩
  simp [Derive.opensLiteral, hquote, hsingle, hsign]

theorem head_word_append {word rest : Characters} (hword : ∀ c ∈ word, isIdentifierPart c = true)
    (hrest : EndsWord rest) : ∀ c ∈ (word ++ rest).head?, opensLiteral c = false := by
  cases word with
  | nil => exact hrest.opensLiteral
  | cons d more =>
      intro c hc
      cases hc
      cases hmark : opensLiteral d with
      | false => rfl
      | true =>
          have hpart := hword d (by simp)
          rw [isIdentifierPart_mark d hmark] at hpart
          cases hpart

theorem unmarked_word_append {word rest : Characters}
    (hword : ∀ c ∈ word, isIdentifierPart c = true) (hrest : EndsWord rest) :
    Unmarked (word ++ rest) := by
  refine ⟨head_word_append hword hrest, ?_⟩
  intro more hmore
  cases word with
  | nil =>
      rw [List.nil_append] at hmore
      rw [hmore] at hrest
      have hend := (hrest 'r' rfl).left
      exact absurd hend (by decide)
  | cons d rest' =>
      rw [List.cons_append] at hmore
      rw [← (List.cons.inj hmore).right]
      exact head_word_append (fun c hc => hword c (by simp [hc])) hrest

theorem rawContent?_eq_none {rules : EscapeRules} {cs : Characters}
    (h : ∀ c ∈ cs.head?, opensLiteral c = false) : rawContent? rules cs = none := by
  cases cs with
  | nil => rfl
  | cons c more =>
      have hc : opensLiteral c = false := h c rfl
      simp only [opensLiteral, Bool.or_eq_false_iff, decide_eq_false_iff_not] at hc
      rcases hc with ⟨⟨hquote, _⟩, hsign⟩
      unfold rawContent?
      rw [List.takeWhile_cons_of_neg (by simpa using hsign)]
      dsimp only [List.length_nil, List.drop_zero]
      split
      · next heq => exact absurd (List.cons.inj heq).left hquote
      · rfl

theorem isIdentifierStart_of_digit {c : Char} (h : isDigit c = true) :
    isIdentifierStart c = false := by
  simp only [isDigit, Bool.and_eq_true, decide_eq_true_eq, Char.le_def,
    UInt32.le_iff_toNat_le] at h
  rcases h with ⟨hlow, hhigh⟩
  have hlow' : 48 ≤ c.val.toNat := hlow
  have hhigh' : c.val.toNat ≤ 57 := hhigh
  have hascii : c.val < 128 := by
    rw [UInt32.lt_iff_toNat_lt]
    show c.val.toNat < 128
    omega
  have hunderscore : c ≠ '_' := by
    intro hsame
    subst hsame
    exact absurd hhigh' (by decide)
  unfold isIdentifierStart
  rw [if_pos hascii, decide_eq_false hunderscore, Bool.or_false]
  unfold Char.isAlpha Char.isUpper Char.isLower
  simp only [Bool.or_eq_false_iff, decide_eq_false_iff_not, not_and, UInt32.le_iff_toNat_le,
    ge_iff_le]
  constructor
  · intro hletter
    have hletter' : 65 ≤ c.val.toNat := hletter
    omega
  · rw [Bool.and_eq_false_iff]
    left
    rw [decide_eq_false_iff_not]
    intro hletter
    have hletter' : 97 ≤ c.val.toNat := hletter
    omega

theorem isIdentifierStart_of_mark {c : Char} (h : isMark c = true) :
    isIdentifierStart c = false := by
  have hall : "~!@#$%^&*-=+|;:,<.>/?'".toList.all (!isIdentifierStart ·) = true := by decide
  have hnot := List.all_eq_true.mp hall c (List.contains_iff_mem.mp h)
  rw [Bool.not_eq_true'] at hnot
  exact hnot

theorem isIdentifierStart_of_blank {c : Char} (h : isSourceBlank c = true) :
    isIdentifierStart c = false := by
  unfold isSourceBlank at h
  rw [Bool.or_eq_true, Bool.or_eq_true, decide_eq_true_eq, decide_eq_true_eq] at h
  rcases h with (hblank | hleft) | hright
  · have hall : ∀ n ∈ blankCodes, isIdentifierStart (Char.ofNat n) = false := by
      decide +kernel
    exact of_isBlank (p := (isIdentifierStart · = false)) hall hblank
  · rw [hleft]
    decide +kernel
  · rw [hright]
    decide +kernel

theorem start_ne {c d : Char} (h : isIdentifierStart c = true) (hd : isIdentifierStart d = false) :
    c ≠ d := by
  intro hsame
  subst hsame
  rw [h] at hd
  cases hd

theorem textLiteral?_eq_none {c : Char} {tail : Characters} (hstart : isIdentifierStart c = true)
    (htail : Unmarked tail) : textLiteral? (c :: tail) = none := by
  have hquote : c ≠ '"' := start_ne hstart (by decide)
  unfold textLiteral?
  split
  · next heq => exact absurd (List.cons.inj heq).left hquote
  · next heq =>
      rw [← (List.cons.inj heq).right, rawContent?_eq_none htail.left]
      rfl
  · rfl

theorem octetLiteral?_eq_none {c : Char} {tail : Characters} (htail : Unmarked tail) :
    octetLiteral? (c :: tail) = none := by
  have hquote {rest : Characters} (h : tail = '"' :: rest) : False := by
    have hmark := htail.left '"' (by rw [h]; rfl)
    cases hmark
  unfold octetLiteral?
  split
  · next heq => exact (hquote (List.cons.inj heq).right).elim
  · next heq =>
      rw [rawContent?_eq_none (htail.right _ (List.cons.inj heq).right)]
      rfl
  · next heq => exact (hquote (List.cons.inj heq).right).elim
  · next heq =>
      rw [rawContent?_eq_none (htail.right _ (List.cons.inj heq).right)]
      rfl
  · rfl

theorem characterLiteral?_eq_none {c : Char} {tail : Characters}
    (hstart : isIdentifierStart c = true) (htail : Unmarked tail) :
    characterLiteral? (c :: tail) = none := by
  have hquote : c ≠ '\'' := start_ne hstart (by decide)
  unfold characterLiteral?
  split
  · next heq => exact absurd (List.cons.inj heq).left hquote
  · next heq =>
      have hmark := htail.left '\'' (by rw [(List.cons.inj heq).right]; rfl)
      cases hmark
  · rfl

theorem numberLiteral?_eq_none {c : Char} {tail : Characters}
    (hstart : isIdentifierStart c = true) : numberLiteral? (c :: tail) = none := by
  unfold numberLiteral?
  cases hdigit : isDigit c with
  | true =>
      rw [isIdentifierStart_of_digit hdigit] at hstart
      cases hstart
  | false =>
      rw [List.head?_cons, Option.any_some, hdigit]
      rfl

theorem literal?_eq_none {c : Char} {tail : Characters} (hstart : isIdentifierStart c = true)
    (htail : Unmarked tail) : literal? (c :: tail) = none := by
  unfold literal? literalKind?
  rw [textLiteral?_eq_none hstart htail, octetLiteral?_eq_none htail,
    characterLiteral?_eq_none hstart htail, numberLiteral?_eq_none hstart]
  rfl

theorem startsWithMark_eq_false {c : Char} {tail : Characters}
    (hstart : isIdentifierStart c = true) : startsWithMark (c :: tail) = false := by
  cases hmark : startsWithMark (c :: tail) with
  | false => rfl
  | true =>
      unfold startsWithMark at hmark
      split at hmark
      · cases hmark
      · cases hmark
      · next heq =>
          rw [← (List.cons.inj heq).left] at hmark
          rw [isIdentifierStart_of_mark hmark] at hstart
          cases hstart
      · cases hmark

theorem mark?_eq_none {c : Char} {tail : Characters} (hstart : isIdentifierStart c = true) :
    mark? (c :: tail) = none := by
  have hsingle : c ≠ '\'' := start_ne hstart (by decide)
  unfold mark?
  split
  · next heq => exact absurd (List.cons.inj heq).left hsingle
  · next heq =>
      rw [← heq, startsWithMark_eq_false hstart]
      rfl
  · rfl

theorem identifier?_word {word rest : Characters} (hword : IsWord word)
    (hrest : EndsWord rest) : identifier? (word ++ rest) = some (word, rest) := by
  have hend : ∀ c ∈ rest.head?, isIdentifierPart c = false := fun c hc => (hrest c hc).left
  have htake : (word ++ rest).takeWhile isIdentifierPart = word := by
    rw [List.takeWhile_append_of_pos hword.parts]
    cases rest with
    | nil => simp
    | cons c more => simp [hend c rfl]
  have hdrop : (word ++ rest).dropWhile isIdentifierPart = rest := by
    rw [List.dropWhile_append_of_pos hword.parts]
    cases rest with
    | nil => simp
    | cons c more => simp [hend c rfl]
  rcases hword.first with ⟨c, more, hcons, hstart⟩
  unfold identifier?
  rw [htake, hdrop, hcons]
  exact if_pos hstart

/-- What is no literal, mark, comment or blank is a word if it can be read as one. -/
theorem step_word {c : Char} {tail after : Characters} {name : Identifier} (state : LexState)
    (hstart : isIdentifierStart c = true) (hliteral : literal? (c :: tail) = none)
    (hword : word? (c :: tail) = some (name, after)) :
    state.step (c :: tail) = some (state.add [.identifier name], after) := by
  apply step_token
  · exact comment?_of_ne (start_ne hstart (by decide))
  · cases hblank : isSourceBlank c with
    | false => rfl
    | true =>
        rw [isIdentifierStart_of_blank hblank] at hstart
        cases hstart
  · unfold token? wordToken?
    rw [hliteral, mark?_eq_none hstart, hword]
    rfl

/-- A mark comes second, or after an `r` that comes second, as in every opening of a literal. -/
def isMarkedEarly : Characters → Bool
  | _ :: c :: more => opensLiteral c || (c = 'r' && more.head?.any opensLiteral)
  | _ => false

theorem isMarkedEarly_append {cs : Characters} (h : isMarkedEarly cs = true)
    (rest : Characters) : isMarkedEarly (cs ++ rest) = true := by
  unfold isMarkedEarly at h ⊢
  split at h
  · next letter c more =>
      cases more with
      | nil =>
          simp only [List.head?_nil, Option.any_none, Bool.and_false, Bool.or_false] at h
          simp [h]
      | cons d more => exact h
  · cases h

theorem Unmarked.isMarkedEarly {tail : Characters} (h : Unmarked tail) (c : Char) :
    isMarkedEarly (c :: tail) = false := by
  cases tail with
  | nil => rfl
  | cons d more =>
      have hd : opensLiteral d = false := h.left d rfl
      show (opensLiteral d || (d = 'r' && more.head?.any opensLiteral)) = false
      rw [hd, Bool.false_or, Bool.and_eq_false_iff]
      by_cases hr : d = 'r'
      · right
        have hmore := h.right more (by rw [hr])
        cases more with
        | nil => rfl
        | cons e rest => exact hmore e rfl
      · left
        exact decide_eq_false hr

theorem word?_of_unmarked {c : Char} {tail : Characters} (htail : Unmarked tail) :
    word? (c :: tail) = (identifier? (c :: tail)).map fun (word, after) =>
      (⟨String.ofList word, false⟩, after) := by
  have hopening : literalOpenings.any (·.toList.isPrefixOf (c :: tail)) = false := by
    rw [List.any_eq_false]
    intro opening hmem hprefix
    have hmarked : ∀ opening ∈ literalOpenings, isMarkedEarly opening.toList = true := by decide
    rcases List.isPrefixOf_iff_prefix.mp hprefix with ⟨rest, hrest⟩
    have hearly := isMarkedEarly_append (hmarked opening hmem) rest
    rw [hrest, htail.isMarkedEarly c] at hearly
    cases hearly
  have hraw : beginsRaw (c :: tail) = false := by
    unfold beginsRaw
    split
    · next heq =>
        have hmark := htail.left '#' (by rw [(List.cons.inj heq).right]; rfl)
        cases hmark
    · rfl
  unfold word? anyWord?
  rw [hopening, hraw]
  rfl

theorem spells_word {word : Characters} (hword : IsWord word) :
    Spells word [.identifier ⟨String.ofList word, false⟩] EndsWord := by
  intro state rest hrest
  rcases hword.first with ⟨c, more, rfl, hstart⟩
  have htail : Unmarked (more ++ rest) :=
    unmarked_word_append (fun d hd => hword.parts d (by simp [hd])) hrest
  have hread := identifier?_word hword hrest
  rw [List.cons_append] at hread
  have hfound : word? (c :: (more ++ rest)) = some (⟨String.ofList (c :: more), false⟩, rest) := by
    rw [word?_of_unmarked htail, hread]
    rfl
  refine ⟨1, Nat.succ_le_succ (Nat.zero_le _), ?_⟩
  rw [List.cons_append, LexState.steps,
    step_word state hstart (literal?_eq_none hstart htail) hfound]
  rfl

theorem anyWord?_raw {word rest : Characters} (hword : IsWord word)
    (hraw : String.ofList word ∉ neverRaw) (hrest : EndsWord rest) :
    anyWord? ('r' :: '#' :: (word ++ rest)) = some (⟨String.ofList word, true⟩, rest) := by
  have hnever : neverRaw.contains (String.ofList word) = false := by
    rw [← Bool.not_eq_true, List.contains_iff_mem]
    exact hraw
  unfold anyWord?
  show (identifier? (word ++ rest)).bind _ = _
  rw [identifier?_word hword hrest, Option.bind_some]
  dsimp only
  rw [hnever]
  rfl

theorem literal?_raw_eq_none {c : Char} {tail : Characters} (hstart : isIdentifierStart c = true) :
    literal? ('r' :: '#' :: c :: tail) = none := by
  have hquote : c ≠ '"' := start_ne hstart (by decide)
  have hsign : c ≠ '#' := start_ne hstart (by decide)
  have hcontent : rawContent? textEscapes ('#' :: c :: tail) = none := by
    unfold rawContent?
    rw [List.takeWhile_cons_of_pos (by decide), List.takeWhile_cons_of_neg (by simpa using hsign)]
    dsimp only [List.length_singleton, List.drop_one, List.tail_cons]
    split
    · next heq => exact absurd (List.cons.inj heq).left hquote
    · rfl
  have htext : textLiteral? ('r' :: '#' :: c :: tail) = none := by
    show (rawContent? textEscapes ('#' :: c :: tail)).map _ = none
    rw [hcontent]
    rfl
  unfold literal? literalKind?
  rw [htext]
  rfl

theorem spells_rawWord {word : Characters} (hword : IsWord word)
    (hraw : String.ofList word ∉ neverRaw) :
    Spells ('r' :: '#' :: word) [.identifier ⟨String.ofList word, true⟩] EndsWord := by
  intro state rest hrest
  have hany := anyWord?_raw hword hraw hrest
  rcases hword.first with ⟨c, more, rfl, hstart⟩
  have hquote : c ≠ '"' := start_ne hstart (by decide)
  have hsign : c ≠ '#' := start_ne hstart (by decide)
  have hfound : word? ('r' :: '#' :: (c :: more ++ rest)) =
      some (⟨String.ofList (c :: more), true⟩, rest) := by
    have hopening : literalOpenings.any
        (·.toList.isPrefixOf ('r' :: '#' :: (c :: more ++ rest))) = false := by
      simp [literalOpenings, List.isPrefixOf, hquote.symm, hsign.symm]
    unfold word?
    rw [hopening]
    exact hany
  have hliteral : literal? ('r' :: '#' :: (c :: more ++ rest)) = none :=
    literal?_raw_eq_none hstart
  refine ⟨1, Nat.succ_le_succ (Nat.zero_le _), ?_⟩
  rw [List.cons_append, List.cons_append, LexState.steps,
    step_word state (by decide) hliteral hfound]
  rfl

/-- An identifier that can be written down: its word is one, and it is raw only if it may be. -/
structure Writable (name : Identifier) : Prop where
  word : IsWord name.word.toList
  raw : name.raw = true → name.word ∉ neverRaw

instance (name : Identifier) : Decidable (Writable name) :=
  decidable_of_iff (IsWord name.word.toList ∧ (name.raw = true → name.word ∉ neverRaw))
    ⟨fun h => ⟨h.left, h.right⟩, fun h => ⟨h.word, h.raw⟩⟩

theorem spells_identifier {name : Identifier} (h : Writable name) :
    Spells name.text.toList [.identifier name] EndsWord := by
  rcases name with ⟨word, raw⟩
  cases raw with
  | false =>
      have hword := spells_word h.word
      rw [String.ofList_toList] at hword
      exact hword
  | true =>
      have hnever : String.ofList word.toList ∉ neverRaw := by
        rw [String.ofList_toList]
        exact h.raw rfl
      have hword := spells_rawWord h.word hnever
      rw [String.ofList_toList] at hword
      simpa [Identifier.text] using hword

/-!
# Marks
-/

theorem spells_mark {c : Char} (joint : Bool) (hc : c ∈ [':', ',', '<', '>', '#', '&', ';']) :
    Spells [c] [.punctuation c joint] (fun rest => startsWithMark rest = joint) := by
  intro state rest hsame
  subst hsame
  refine ⟨1, Nat.le_refl 1, ?_⟩
  simp only [List.mem_cons, List.not_mem_nil, or_false] at hc
  rcases hc with rfl | rfl | rfl | rfl | rfl | rfl | rfl <;> rfl

theorem startsWithMark_word {word : Characters} (hword : IsWord word) (rest : Characters) :
    startsWithMark (word ++ rest) = false := by
  rcases hword.first with ⟨c, more, rfl, hstart⟩
  exact startsWithMark_eq_false hstart

/-!
# Documentation
-/

theorem untilLineEnd_append {text rest : Characters} (hbreak : '\n' ∉ text)
    (hreturn : '\r' ∉ text) : untilLineEnd (text ++ '\n' :: rest) = (text, '\n' :: rest) := by
  have hkept : ∀ c ∈ text, (c != '\n') = true := by
    intro c hc
    rw [bne_iff_ne]
    intro hsame
    subst hsame
    exact hbreak hc
  have hlast : text.getLast? ≠ some '\r' := fun h => hreturn (List.mem_of_getLast? h)
  unfold untilLineEnd
  rw [List.takeWhile_append_of_pos hkept, List.dropWhile_append_of_pos hkept]
  simp [hlast]

theorem spells_documentation {text : Characters} (hbreak : '\n' ∉ text) (hreturn : '\r' ∉ text) :
    Spells ('/' :: '/' :: '/' :: ' ' :: text) (documentation false (' ' :: text))
      (fun rest => rest.head? = some '\n') := by
  intro state rest hrest
  refine ⟨1, Nat.succ_le_succ (Nat.zero_le _), ?_⟩
  rcases List.head?_eq_some_iff.mp hrest with ⟨more, rfl⟩
  have hline : untilLineEnd (' ' :: text ++ '\n' :: more) = (' ' :: text, '\n' :: more) :=
    untilLineEnd_append (by simpa using hbreak) (by simpa using hreturn)
  have hcomment : comment? ('/' :: '/' :: '/' :: ' ' :: text ++ '\n' :: more) =
      some (.documentation false (' ' :: text), '\n' :: more) := by
    show some (Comment.documentation false (untilLineEnd (' ' :: text ++ '\n' :: more)).1,
      (untilLineEnd (' ' :: text ++ '\n' :: more)).2) = _
    rw [hline]
  have hreturns : returnsAtLineEnds (' ' :: text) = true :=
    returnsAtLineEnds_of_not_mem (by simpa using hreturn)
  rw [LexState.steps]
  unfold LexState.step
  rw [hcomment]
  dsimp only
  rw [hreturns]
  rfl

end Derive
end Rowsmith

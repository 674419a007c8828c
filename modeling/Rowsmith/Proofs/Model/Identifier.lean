import Rowsmith.Proofs.Derive.Lexeme

/-!
# Identifiers from names

The characters of an identifier are ASCII letters, digits and underscores, whatever is in the name
it is made from, and no digit comes first.
-/

namespace Rowsmith

open Text Derive

/-!
# Characters
-/

def isWordChar (c : Char) : Bool :=
  isAsciiAlphanumeric c || c = '_'

theorem isWordChar_lt {c : Char} (h : isWordChar c = true) : c.toNat < 128 := by
  simp only [isWordChar, isAsciiAlphanumeric, isDigit, Bool.or_eq_true, Bool.and_eq_true,
    decide_eq_true_eq, Char.le_def, UInt32.le_iff_toNat_le] at h
  have hval : c.val.toNat = c.toNat := rfl
  rw [hval] at h
  rcases h with ((⟨_, h⟩ | ⟨_, h⟩) | ⟨_, h⟩) | rfl
  · exact Nat.lt_of_le_of_lt h (by decide)
  · exact Nat.lt_of_le_of_lt h (by decide)
  · exact Nat.lt_of_le_of_lt h (by decide)
  · decide

theorem wordChar_all {p : Char → Bool}
    (h : ∀ n < 128, isWordChar (Char.ofNat n) = true → p (Char.ofNat n) = true) {c : Char}
    (hc : isWordChar c = true) : p c = true := by
  have hcode := h c.toNat (isWordChar_lt hc)
  rw [Char.ofNat_toNat] at hcode
  exact hcode hc

theorem isIdentifierPart_of_isWordChar {c : Char} (h : isWordChar c = true) :
    isIdentifierPart c = true :=
  wordChar_all (p := isIdentifierPart) (by decide) h

theorem isIdentifierStart_of_isWordChar {c : Char} (h : isWordChar c = true)
    (hdigit : isDigit c = false) : isIdentifierStart c = true := by
  have hall := wordChar_all (p := fun c => isIdentifierStart c || isDigit c) (by decide) h
  rw [hdigit, Bool.or_false] at hall
  exact hall

theorem isWordChar_toUpper {c : Char} (h : isWordChar c = true) :
    ∀ d ∈ toUpper c, isWordChar d = true := by
  have hall := wordChar_all (p := fun c => (toUpper c).all isWordChar) (by decide) h
  exact List.all_eq_true.mp hall

/-!
# Words of a name
-/

/-- A word is cut without a loss, whatever is held back at the cut. -/
theorem flatten_splitByCase (trend : CaseTrend) (held cs : List Char) :
    (splitByCase trend held cs).flatten = held.reverse ++ cs := by
  induction trend, held, cs using splitByCase.induct with
  | case1 trend => rfl
  | case2 trend held hne =>
      rw [splitByCase]
      · simp
      · exact hne
  | case3 trend held c => simp [splitByCase]
  | case4 trend held c next rest hcut ih =>
      rw [splitByCase, if_pos hcut, List.flatten_cons, ih]
      simp
  | case5 trend held c next rest hno hcut ih =>
      rw [splitByCase, if_neg hno, if_pos hcut, List.flatten_cons, ih]
      simp
  | case6 trend held c next rest hno hno' ih =>
      rw [splitByCase, if_neg hno, if_neg hno', ih]
      simp

theorem flatten_alphanumericRuns (held cs : List Char) :
    (alphanumericRuns held cs).flatten = held.reverse ++ cs.filter isAlphanumeric := by
  induction held, cs using alphanumericRuns.induct with
  | case1 => rfl
  | case2 held hne =>
      rw [alphanumericRuns]
      · simp
      · exact hne
  | case3 held c rest hc ih =>
      rw [alphanumericRuns, if_pos hc, ih, List.filter_cons_of_pos hc]
      simp
  | case4 held c rest hc hempty ih =>
      rw [alphanumericRuns, if_neg hc, if_pos hempty, ih, List.filter_cons_of_neg hc,
        List.isEmpty_iff.mp hempty]
  | case5 held c rest hc hempty ih =>
      rw [alphanumericRuns, if_neg hc, if_neg hempty, List.flatten_cons, ih,
        List.filter_cons_of_neg hc]
      rfl

theorem flatten_nameWords (cs : List Char) :
    (nameWords cs).flatten = cs.filter isAlphanumeric := by
  have hruns : ∀ runs : List (List Char),
      (runs.flatMap (splitByCase .unknown [])).flatten = runs.flatten := by
    intro runs
    induction runs with
    | nil => rfl
    | cons run runs ih =>
        rw [List.flatMap_cons, List.flatten_append, flatten_splitByCase, ih]
        rfl
  unfold nameWords
  rw [hruns, flatten_alphanumericRuns]
  rfl

theorem mem_nameWords {cs word : List Char} {c : Char} (hword : word ∈ nameWords cs)
    (hc : c ∈ word) : c ∈ cs ∧ isAlphanumeric c = true := by
  have hmem : c ∈ (nameWords cs).flatten := List.mem_flatten_of_mem hword hc
  rw [flatten_nameWords] at hmem
  exact List.mem_filter.mp hmem

theorem mem_intercalate {between : List Char} {parts : List (List Char)} {c : Char}
    (h : c ∈ between.intercalate parts) : c ∈ between ∨ ∃ part ∈ parts, c ∈ part := by
  induction parts with
  | nil => cases h
  | cons part parts ih =>
      cases parts with
      | nil =>
          rw [List.intercalate_singleton] at h
          exact Or.inr ⟨part, by simp, h⟩
      | cons next others =>
          rw [List.intercalate_cons_cons, List.mem_append, List.mem_append] at h
          rcases h with (h | h) | h
          · exact Or.inr ⟨part, by simp, h⟩
          · exact Or.inl h
          · rcases ih h with h | ⟨other, hother, h⟩
            · exact Or.inl h
            · exact Or.inr ⟨other, List.mem_cons_of_mem part hother, h⟩

/-!
# Words of an identifier
-/

def AllWordChars (cs : List Char) : Prop :=
  ∀ c ∈ cs, isWordChar c = true

instance (cs : List Char) : Decidable (AllWordChars cs) :=
  decidable_of_iff _ List.all_eq_true

theorem allWordChars_asciiWord (name : List Char) : AllWordChars (asciiWord name) := by
  intro c hc
  rcases List.mem_map.mp hc with ⟨d, _, rfl⟩
  split
  · next hd => simp [isWordChar, hd]
  · decide

theorem allWordChars_guardDigit {word : List Char} (h : AllWordChars word) :
    AllWordChars (guardDigit word) := by
  cases word with
  | nil => exact h
  | cons c rest =>
      rw [guardDigit]
      cases isDigit c with
      | false => exact h
      | true =>
          intro d hd
          rcases List.mem_cons.mp hd with rfl | hd
          · decide
          · exact h d hd

theorem allWordChars_orElse {fallback : String} {word : List Char}
    (hfallback : AllWordChars fallback.toList) (h : AllWordChars word) :
    AllWordChars (orElse fallback word) := by
  unfold orElse
  split
  · exact hfallback
  · exact h

theorem allWordChars_joined {change : Char → List Char} {name : List Char}
    (hchange : ∀ c, isWordChar c = true → AllWordChars (change c)) (h : AllWordChars name) :
    AllWordChars (['_'].intercalate ((nameWords name).map (·.flatMap change))) := by
  intro c hc
  rcases mem_intercalate hc with hc | ⟨part, hpart, hc⟩
  · rw [List.mem_singleton.mp hc]
    decide
  · rcases List.mem_map.mp hpart with ⟨word, hword, rfl⟩
    rcases List.mem_flatMap.mp hc with ⟨d, hd, hc⟩
    exact hchange d (h d (mem_nameWords hword hd).left) c hc

/-- A word that is not empty and in which no digit comes first. -/
structure IsAsciiWord (word : List Char) : Prop where
  first : ∃ c rest, word = c :: rest ∧ isDigit c = false
  parts : AllWordChars word

theorem IsAsciiWord.isWord {word : List Char} (h : IsAsciiWord word) : IsWord word := by
  constructor
  · rcases h.first with ⟨c, rest, rfl, hdigit⟩
    exact ⟨c, rest, rfl, isIdentifierStart_of_isWordChar (h.parts c (by simp)) hdigit⟩
  · intro c hc
    exact isIdentifierPart_of_isWordChar (h.parts c hc)

theorem isAsciiWord_guarded {fallback : String} {word : List Char}
    (hfallback : AllWordChars fallback.toList) (hne : fallback.toList ≠ [])
    (h : AllWordChars word) : IsAsciiWord (guardDigit (orElse fallback word)) := by
  constructor
  · cases hword : orElse fallback word with
    | nil =>
        unfold orElse at hword
        split at hword
        · exact absurd hword hne
        · next hempty =>
            rw [hword] at hempty
            exact absurd rfl hempty
    | cons c rest =>
        rw [guardDigit]
        cases hdigit : isDigit c with
        | false => exact ⟨c, rest, rfl, hdigit⟩
        | true => exact ⟨'_', c :: rest, rfl, by decide⟩
  · exact allWordChars_guardDigit (allWordChars_orElse hfallback h)

theorem isAsciiWord_constantName (column : String) : IsAsciiWord (constantName column).toList := by
  have htype : AllWordChars (typeWord column.toList) :=
    allWordChars_guardDigit
      (allWordChars_orElse (by decide) (allWordChars_asciiWord _))
  have hshouty : AllWordChars (shoutySnakeCase (typeWord column.toList)) :=
    allWordChars_joined (fun c hc => isWordChar_toUpper hc) htype
  have hword : IsAsciiWord
      (guardDigit (orElse "COLUMN" (shoutySnakeCase (typeWord column.toList)))) :=
    isAsciiWord_guarded (by decide) (by decide) hshouty
  unfold constantName
  dsimp only
  split
  · constructor
    · exact ⟨'T', _, rfl, by decide⟩
    · decide
  · rw [String.toList_ofList]
    exact hword

theorem constantName_ne_table (column : String) : constantName column ≠ "TABLE" := by
  unfold constantName
  dsimp only
  split
  · decide
  · next hne => exact hne

end Rowsmith

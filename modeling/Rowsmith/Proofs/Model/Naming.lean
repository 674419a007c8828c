import Rowsmith.Proofs.Model.Identifier

/-!
# Names of modules and structs

A module is named by a word without capitals, and its identifier is told by that word alone. A
struct's name never begins with a small letter, so the two kinds of names meet only in words that
have no letter case.
-/

namespace Rowsmith

open Text

/-!
# Modules
-/

def isCapital (c : Char) : Bool :=
  'A' ≤ c && c ≤ 'Z'

theorem isWordChar_toLower {c : Char} (h : isWordChar c = true) :
    ∀ d ∈ toLower c, isWordChar d = true := by
  have hall := wordChar_all (p := fun c => (toLower c).all isWordChar) (by decide) h
  exact List.all_eq_true.mp hall

theorem isCapital_toLower {c : Char} (h : isWordChar c = true) :
    ∀ d ∈ toLower c, isCapital d = false := by
  have hall := wordChar_all (p := fun c => (toLower c).all fun d => !isCapital d) (by decide) h
  intro d hd
  simpa using List.all_eq_true.mp hall d hd

theorem mem_orElse {fallback : String} {word : List Char} {c : Char}
    (h : c ∈ orElse fallback word) : c ∈ fallback.toList ∨ c ∈ word := by
  unfold orElse at h
  split at h
  · exact Or.inl h
  · exact Or.inr h

theorem mem_guardDigit {word : List Char} {c : Char} (h : c ∈ guardDigit word) :
    c = '_' ∨ c ∈ word := by
  cases word with
  | nil => exact Or.inr h
  | cons d rest =>
      rw [guardDigit] at h
      split at h
      · exact List.mem_cons.mp h
      · exact Or.inr h

theorem isAsciiWord_fieldWord (name : String) : IsAsciiWord (fieldWord name).toList := by
  unfold fieldWord
  rw [String.toList_ofList]
  apply isAsciiWord_guarded (by decide) (by decide)
  exact allWordChars_joined (fun c hc => isWordChar_toLower hc) (allWordChars_asciiWord _)

theorem isCapital_fieldWord {name : String} {c : Char} (h : c ∈ (fieldWord name).toList) :
    isCapital c = false := by
  unfold fieldWord at h
  rw [String.toList_ofList] at h
  rcases mem_guardDigit h with rfl | h
  · decide
  · rcases mem_orElse h with h | h
    · have hfallback : "column".toList.all (fun d => !isCapital d) = true := by decide
      simpa using List.all_eq_true.mp hfallback c h
    · rcases mem_intercalate h with h | ⟨part, hpart, h⟩
      · rw [List.mem_singleton.mp h]
        decide
      · rcases List.mem_map.mp hpart with ⟨word, hword, rfl⟩
        rcases List.mem_flatMap.mp h with ⟨d, hd, h⟩
        exact isCapital_toLower (allWordChars_asciiWord _ d (mem_nameWords hword hd).left) c h

theorem word_ofName (name : String) :
    (Identifier.ofName name).word = fieldWord name ∨
      (Identifier.ofName name).word = fieldWord name ++ "_" := by
  unfold Identifier.ofName
  dsimp only
  split
  · exact Or.inr rfl
  · exact Or.inl rfl

theorem isAsciiWord_ofName (name : String) :
    IsAsciiWord (Identifier.ofName name).word.toList := by
  have hword := isAsciiWord_fieldWord name
  rcases word_ofName name with h | h
  · rw [h]
    exact hword
  · rw [h, String.toList_append]
    rcases hword.first with ⟨c, rest, hfirst, hdigit⟩
    constructor
    · exact ⟨c, rest ++ "_".toList, by rw [hfirst]; rfl, hdigit⟩
    · intro d hd
      rcases List.mem_append.mp hd with hd | hd
      · exact hword.parts d hd
      · rw [List.mem_singleton.mp hd]
        decide

theorem isCapital_ofName {name : String} {c : Char}
    (h : c ∈ (Identifier.ofName name).word.toList) : isCapital c = false := by
  rcases word_ofName name with hword | hword
  · rw [hword] at h
    exact isCapital_fieldWord h
  · rw [hword, String.toList_append] at h
    rcases List.mem_append.mp h with h | h
    · exact isCapital_fieldWord h
    · rw [List.mem_singleton.mp h]
      decide

theorem raw_ofName (name : String) :
    (Identifier.ofName name).raw = keywords.contains (Identifier.ofName name).word := by
  unfold Identifier.ofName
  dsimp only
  split
  · next hpath =>
      have hnone : ∀ word ∈ pathKeywords, keywords.contains (word ++ "_") = false := by decide
      exact (hnone _ (List.contains_iff_mem.mp hpath)).symm
  · dsimp only

theorem ofName_eq_iff {name other : String} :
    Identifier.ofName name = Identifier.ofName other ↔
      (Identifier.ofName name).word = (Identifier.ofName other).word := by
  constructor
  · intro h
    rw [h]
  · intro h
    have hraw : (Identifier.ofName name).raw = (Identifier.ofName other).raw := by
      rw [raw_ofName, raw_ofName, h]
    cases hname : Identifier.ofName name
    cases hother : Identifier.ofName other
    rw [hname, hother] at h hraw
    cases h
    cases hraw
    rfl

/-!
# Structs
-/

def isSmall (c : Char) : Bool :=
  'a' ≤ c && c ≤ 'z'

theorem isSmall_iff {c : Char} : isSmall c = true ↔ 0x61 ≤ c.toNat ∧ c.toNat ≤ 0x7A := by
  unfold isSmall
  simp only [Bool.and_eq_true, decide_eq_true_eq, Char.le_def, UInt32.le_iff_toNat_le]
  rfl

theorem isSmall_ofNat {n : Nat} (h : n < 0x61 ∨ 0x7A < n) : isSmall (Char.ofNat n) = false := by
  rw [Bool.eq_false_iff]
  intro hsmall
  rw [isSmall_iff] at hsmall
  by_cases hvalid : n.isValidChar
  · have hcode : (Char.ofNat n).toNat = n := congrArg Char.toNat (dif_pos hvalid)
    omega
  · have hcode : (Char.ofNat n).toNat = 0 := congrArg Char.toNat (dif_neg hvalid)
    omega

theorem isSmall_apply {c : Char} {runs : List Shift}
    (hruns : ∀ run ∈ runs, 0x7A < run.first + run.distance ∨ run.last + run.distance < 0x61)
    (hc : isSmall c = false) : isSmall (Shift.apply c runs) = false := by
  induction runs with
  | nil => exact hc
  | cons run rest ih =>
      rw [Shift.apply]
      split
      · next hin =>
          have hrun := hruns run (by simp)
          simp only [Bool.and_eq_true, decide_eq_true_eq] at hin
          apply isSmall_ofNat
          omega
      · exact ih fun other hother => hruns other (List.mem_cons_of_mem run hother)

/-- The word is not empty and begins with something else than a small letter. -/
def BeginsUpright (word : List Char) : Prop :=
  ∃ c rest, word = c :: rest ∧ isSmall c = false

theorem BeginsUpright.append {word : List Char} (h : BeginsUpright word) (rest : List Char) :
    BeginsUpright (word ++ rest) := by
  rcases h with ⟨c, others, rfl, hc⟩
  exact ⟨c, others ++ rest, rfl, hc⟩

theorem beginsUpright_toUpper (c : Char) : BeginsUpright (toUpper c) := by
  unfold toUpper
  split
  · next hascii =>
      have hall : ∀ n < 128, isSmall (Char.ofNat n).toUpper = false := by decide
      have hupper := hall c.toNat (UInt32.lt_iff_toNat_lt.mp hascii)
      rw [Char.ofNat_toNat] at hupper
      exact ⟨c.toUpper, [], rfl, hupper⟩
  · next hbeyond =>
      have hcode : ¬c.toNat < 128 := fun h => hbeyond (UInt32.lt_iff_toNat_lt.mpr h)
      split
      · next expansion hexpansion =>
          have hall : ∀ entry ∈ upperExpansions,
              ∃ code ∈ entry.2.head?, code < 0x61 ∨ 0x7A < code := by decide +kernel
          rcases List.lookup_eq_some_iff.mp hexpansion with ⟨before, after, hentries, _⟩
          rcases hall (c.toNat, expansion) (by rw [hentries]; simp) with ⟨code, hhead, hcode⟩
          rcases List.head?_eq_some_iff.mp hhead with ⟨rest, hrest⟩
          exact ⟨Char.ofNat code, rest.map Char.ofNat, by rw [show expansion = _ from hrest]; rfl,
            isSmall_ofNat hcode⟩
      · refine ⟨_, [], rfl, isSmall_apply (by decide +kernel) ?_⟩
        rw [Bool.eq_false_iff, ne_eq, isSmall_iff]
        omega

theorem beginsUpright_upperCamelCase {cs : List Char} (h : upperCamelCase cs ≠ []) :
    BeginsUpright (upperCamelCase cs) := by
  unfold upperCamelCase at h ⊢
  generalize nameWords cs = words at h ⊢
  induction words with
  | nil => exact absurd rfl h
  | cons word words ih =>
      rw [List.flatMap_cons] at h ⊢
      cases word with
      | nil => exact ih h
      | cons c rest =>
          rw [capitalize, List.append_assoc]
          exact (beginsUpright_toUpper c).append _

theorem beginsUpright_typeWord {name : List Char} (h : BeginsUpright name) :
    BeginsUpright (typeWord name) := by
  rcases h with ⟨c, rest, rfl, hc⟩
  have hfirst : isSmall (if isAsciiAlphanumeric c then c else '_') = false := by
    split
    · exact hc
    · rfl
  have hword : typeWord (c :: rest) = guardDigit (asciiWord (c :: rest)) := rfl
  rw [hword, asciiWord, List.map_cons]
  generalize (if isAsciiAlphanumeric c then c else '_') = first at hfirst ⊢
  rw [guardDigit]
  split
  · exact ⟨'_', _, rfl, rfl⟩
  · exact ⟨first, _, rfl, hfirst⟩

/-- A struct is named by what the table's words make, or by one of two fixed names. -/
theorem structName_eq (table : String) :
    structName table = "Table" ∨ structName table = "Self_" ∨
      upperCamelCase table.toList ≠ [] ∧
        structName table = String.ofList (typeWord (upperCamelCase table.toList)) := by
  unfold structName
  dsimp only
  by_cases hempty : (upperCamelCase table.toList).isEmpty
  · rw [if_pos hempty]
    exact Or.inl rfl
  · rw [if_neg hempty]
    split
    · exact Or.inr (Or.inl rfl)
    · exact Or.inr (Or.inr ⟨fun hnil => hempty (by rw [hnil]; rfl), rfl⟩)

theorem beginsUpright_structName (table : String) : BeginsUpright (structName table).toList := by
  rcases structName_eq table with h | h | ⟨hne, h⟩
  · rw [h]
    exact ⟨'T', "able".toList, by decide, by decide⟩
  · rw [h]
    exact ⟨'S', "elf_".toList, by decide, by decide⟩
  · rw [h, String.toList_ofList]
    exact beginsUpright_typeWord (beginsUpright_upperCamelCase hne)

theorem isAsciiWord_structName (table : String) : IsAsciiWord (structName table).toList := by
  rcases structName_eq table with h | h | ⟨_, h⟩
  · rw [h]
    exact ⟨⟨'T', "able".toList, by decide, by decide⟩, by decide⟩
  · rw [h]
    exact ⟨⟨'S', "elf_".toList, by decide, by decide⟩, by decide⟩
  · rw [h, String.toList_ofList]
    exact isAsciiWord_guarded (by decide) (by decide) (allWordChars_asciiWord _)

end Rowsmith

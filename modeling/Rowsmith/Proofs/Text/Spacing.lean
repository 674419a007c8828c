import Mathlib.Data.List.Chain
import Mathlib.Tactic.IntervalCases
import Rowsmith.Text.Basic

/-!
# Spacing of texts

A text whose runs of blanks are made single spaces is evenly spaced, and an evenly spaced text only
loses what is blank at its end when that is done again. What is put behind a text comes behind its
words, at a distance if the text ends with blanks.
-/

namespace Rowsmith
namespace Text

/-!
# Blanks by their codes
-/

def blankCodes : List Nat :=
  [9, 10, 11, 12, 13, 0x20, 0x85, 0xA0, 0x1680, 0x2000, 0x2001, 0x2002, 0x2003, 0x2004, 0x2005,
    0x2006, 0x2007, 0x2008, 0x2009, 0x200A, 0x2028, 0x2029, 0x202F, 0x205F, 0x3000]

theorem mem_blankCodes {c : Char} (h : isBlank c = true) : c.toNat ∈ blankCodes := by
  simp only [isBlank, Bool.or_eq_true, Bool.and_eq_true, decide_eq_true_eq,
    UInt32.le_iff_toNat_le, ← UInt32.toNat_inj] at h
  have hval : c.val.toNat = c.toNat := rfl
  rw [hval] at h
  generalize c.toNat = n at h ⊢
  rcases h with (((((((((h | h) | h) | h) | h) | h) | h) | h) | h) | h) | h
  · have hlow : 9 ≤ n := h.left
    have hhigh : n ≤ 13 := h.right
    interval_cases n <;> decide
  all_goals first
    | rw [h]
      decide
    | have hlow : 0x2000 ≤ n := h.left
      have hhigh : n ≤ 0x200A := h.right
      interval_cases n <;> decide

/-- What holds of the blanks by their codes holds of every blank. -/
theorem of_isBlank {p : Char → Prop} (hall : ∀ n ∈ blankCodes, p (Char.ofNat n)) {c : Char}
    (h : isBlank c = true) : p c := by
  have hc := hall c.toNat (mem_blankCodes h)
  rwa [Char.ofNat_toNat] at hc

/-!
# Trimming
-/

theorem trimEnd_append (front rest : List Char) :
    trimEnd (front ++ rest) =
      if trimEnd rest = [] then trimEnd front else front ++ trimEnd rest := by
  unfold trimEnd
  rw [List.reverse_append, List.dropWhile_append]
  simp only [List.isEmpty_iff, List.reverse_eq_nil_iff]
  split
  · rfl
  · rw [List.reverse_append, List.reverse_reverse]

theorem trimEnd_concat {c : Char} (hc : isBlank c = false) (front : List Char) :
    trimEnd (front ++ [c]) = front ++ [c] := by
  have hlast : trimEnd [c] = [c] := by
    unfold trimEnd
    rw [List.reverse_singleton, List.dropWhile_cons_of_neg (by simp [hc]),
      List.reverse_singleton]
  rw [trimEnd_append, hlast, if_neg (List.cons_ne_nil c [])]

theorem trimEnd_append_of_solid {front tail : List Char} (hne : tail ≠ [])
    (htail : ∀ c ∈ tail, isBlank c = false) : trimEnd (front ++ tail) = front ++ tail := by
  have hlast := trimEnd_concat (htail _ (List.getLast_mem hne)) (front ++ tail.dropLast)
  rw [List.append_assoc, List.dropLast_append_getLast] at hlast
  exact hlast

theorem trimEnd_of_solid {cs : List Char} (h : ∀ c ∈ cs, isBlank c = false) :
    trimEnd cs = cs := by
  cases cs with
  | nil => rfl
  | cons c rest => exact @trimEnd_append_of_solid [] _ (List.cons_ne_nil c rest) h

theorem exists_blanks_after_trimEnd (cs : List Char) :
    ∃ blanks, cs = trimEnd cs ++ blanks ∧ ∀ c ∈ blanks, isBlank c = true := by
  refine ⟨(cs.reverse.takeWhile isBlank).reverse, ?_, ?_⟩
  · have hcut : cs.reverse.takeWhile isBlank ++ cs.reverse.dropWhile isBlank = cs.reverse :=
      List.takeWhile_append_dropWhile
    have hreverse := congrArg List.reverse hcut
    rw [List.reverse_append, List.reverse_reverse] at hreverse
    exact hreverse.symm
  · intro c hc
    exact List.all_eq_true.mp List.all_takeWhile c (List.mem_reverse.mp hc)

theorem trimStart_append_of_solid {cs tail : List Char} (hne : tail ≠ [])
    (htail : ∀ c ∈ tail, isBlank c = false) : trimStart (cs ++ tail) = trimStart cs ++ tail := by
  have hstart : tail.dropWhile isBlank = tail := by
    cases tail with
    | nil => rfl
    | cons c rest =>
        exact List.dropWhile_cons_of_neg (by simp [htail c List.mem_cons_self])
  unfold trimStart
  rw [List.dropWhile_append, hstart]
  split
  · next hempty =>
      rw [List.isEmpty_iff] at hempty
      rw [hempty, List.nil_append]
  · rfl

/-!
# Words between blanks
-/

section Words

variable {c : Char} {word cs : List Char}

theorem wordsFrom_end (hne : word ≠ []) : wordsFrom word [] = [word.reverse] := by
  cases word with
  | nil => exact absurd rfl hne
  | cons d before => rfl

theorem wordsFrom_cons (word : List Char) (c : Char) (rest : List Char) :
    wordsFrom word (c :: rest) =
      if isBlank c then
        if word.isEmpty then wordsFrom [] rest else word.reverse :: wordsFrom [] rest
      else
        wordsFrom (c :: word) rest := by
  cases word with
  | nil => rfl
  | cons d before => rfl

theorem wordsFrom_solid (hc : isBlank c = false) (word rest : List Char) :
    wordsFrom word (c :: rest) = wordsFrom (c :: word) rest := by
  simp [wordsFrom_cons, hc]

theorem wordsFrom_blank_outside (hc : isBlank c = true) (rest : List Char) :
    wordsFrom [] (c :: rest) = wordsFrom [] rest := by
  simp [wordsFrom_cons, hc]

theorem wordsFrom_blank (hc : isBlank c = true) (hne : word ≠ []) (rest : List Char) :
    wordsFrom word (c :: rest) = word.reverse :: wordsFrom [] rest := by
  simp [wordsFrom_cons, hc, hne]

theorem wordsFrom_append_of_solid {tail : List Char} (htail : ∀ c ∈ tail, isBlank c = false)
    (word : List Char) : wordsFrom word tail = wordsFrom (tail.reverse ++ word) [] := by
  induction tail generalizing word with
  | nil => rfl
  | cons c rest ih =>
      rw [List.forall_mem_cons] at htail
      rw [wordsFrom_solid htail.left, ih htail.right, List.reverse_cons, List.append_assoc,
        List.singleton_append]

theorem wordsFrom_append_blanks {blanks : List Char} (h : ∀ c ∈ blanks, isBlank c = true)
    (word cs : List Char) : wordsFrom word (cs ++ blanks) = wordsFrom word cs := by
  induction cs generalizing word with
  | nil =>
      rw [List.nil_append]
      induction blanks generalizing word with
      | nil => rfl
      | cons c rest ih =>
          rw [List.forall_mem_cons] at h
          by_cases hne : word = []
          · rw [hne, wordsFrom_blank_outside h.left, ih h.right]
          · rw [wordsFrom_blank h.left hne, ih h.right, wordsFrom_end hne]
            rfl
  | cons c rest ih =>
      cases hc : isBlank c with
      | false => rw [List.cons_append, wordsFrom_solid hc, wordsFrom_solid hc, ih]
      | true =>
          by_cases hne : word = []
          · rw [hne, List.cons_append, wordsFrom_blank_outside hc, wordsFrom_blank_outside hc, ih]
          · rw [List.cons_append, wordsFrom_blank hc hne, wordsFrom_blank hc hne, ih]

theorem ne_nil_of_mem_wordsFrom : ∀ w ∈ wordsFrom word cs, w ≠ [] := by
  induction cs generalizing word with
  | nil =>
      intro w hw
      by_cases hne : word = []
      · rw [hne] at hw
        cases hw
      · rw [wordsFrom_end hne, List.mem_singleton] at hw
        rwa [hw, Ne, List.reverse_eq_nil_iff]
  | cons c rest ih =>
      cases hc : isBlank c with
      | false =>
          rw [wordsFrom_solid hc]
          exact ih
      | true =>
          by_cases hne : word = []
          · rw [hne, wordsFrom_blank_outside hc]
            exact ih
          · rw [wordsFrom_blank hc hne, List.forall_mem_cons]
            exact ⟨by rwa [Ne, List.reverse_eq_nil_iff], ih⟩

theorem solid_of_mem_wordsFrom (hword : ∀ c ∈ word, isBlank c = false) :
    ∀ w ∈ wordsFrom word cs, ∀ c ∈ w, isBlank c = false := by
  induction cs generalizing word with
  | nil =>
      intro w hw c hc
      by_cases hne : word = []
      · rw [hne] at hw
        cases hw
      · rw [wordsFrom_end hne, List.mem_singleton] at hw
        rw [hw, List.mem_reverse] at hc
        exact hword c hc
  | cons c rest ih =>
      cases hc : isBlank c with
      | false =>
          rw [wordsFrom_solid hc]
          exact ih (List.forall_mem_cons.mpr ⟨hc, hword⟩)
      | true =>
          have hrest := @ih [] fun _ hc => absurd hc List.not_mem_nil
          by_cases hne : word = []
          · rw [hne, wordsFrom_blank_outside hc]
            exact hrest
          · rw [wordsFrom_blank hc hne, List.forall_mem_cons]
            exact ⟨fun d hd => hword d (List.mem_reverse.mp hd), hrest⟩

theorem flatten_wordsFrom : (wordsFrom word cs).flatten =
    word.reverse ++ cs.filter fun c => !isBlank c := by
  induction cs generalizing word with
  | nil =>
      by_cases hne : word = []
      · rw [hne]
        rfl
      · rw [wordsFrom_end hne, List.flatten_singleton, List.filter_nil, List.append_nil]
  | cons c rest ih =>
      cases hc : isBlank c with
      | false =>
          rw [wordsFrom_solid hc, ih, List.filter_cons_of_pos (by simp [hc]), List.reverse_cons,
            List.append_assoc, List.singleton_append]
      | true =>
          rw [List.filter_cons_of_neg (by simp [hc])]
          by_cases hne : word = []
          · rw [hne, wordsFrom_blank_outside hc, ih]
          · rw [wordsFrom_blank hc hne, List.flatten_cons, ih, List.reverse_nil, List.nil_append]

theorem intercalate_cons_eq_trimEnd {w text : List Char} {ws : List (List Char)}
    (hw : ∀ c ∈ w, isBlank c = false) (hws : ∀ v ∈ ws, v ≠ [])
    (htext : [' '].intercalate ws = trimEnd text) :
    [' '].intercalate (w :: ws) = trimEnd (w ++ ' ' :: text) := by
  have hspace : trimEnd (' ' :: text) =
      if trimEnd text = [] then [] else ' ' :: trimEnd text := trimEnd_append [' '] text
  rw [trimEnd_append, hspace, ← htext]
  cases ws with
  | nil =>
      rw [List.intercalate_singleton]
      exact (trimEnd_of_solid hw).symm
  | cons v vs =>
      have hv := hws v List.mem_cons_self
      have hjoined : [' '].intercalate (v :: vs) ≠ [] := by
        cases vs with
        | nil => rwa [List.intercalate_singleton]
        | cons u us =>
            rw [List.intercalate_cons_cons]
            simp
      rw [if_neg hjoined, if_neg (List.cons_ne_nil _ _), List.intercalate_cons_cons,
        List.append_assoc, List.singleton_append]

/-- The words of a text with a text of no blanks put behind it. Where the last word begins does not
depend on what is put there. -/
theorem exists_front_of_wordsFrom (hword : ∀ c ∈ word, isBlank c = false) (cs : List Char) :
    ∃ front, [' '].intercalate (wordsFrom word cs) = trimEnd front ∧
      ∀ tail, tail ≠ [] → (∀ c ∈ tail, isBlank c = false) →
        wordsFrom word (cs ++ tail) ≠ [] ∧
          [' '].intercalate (wordsFrom word (cs ++ tail)) = front ++ tail := by
  -- The front is found without the tail, so the induction is over the text before it.
  induction cs generalizing word with
  | nil =>
      refine ⟨word.reverse, ?_, ?_⟩
      · rw [trimEnd_of_solid fun c hc => hword c (List.mem_reverse.mp hc)]
        by_cases hne : word = []
        · rw [hne]
          rfl
        · rw [wordsFrom_end hne, List.intercalate_singleton]
      · intro tail hne htail
        have hwhole : tail.reverse ++ word ≠ [] := by simp [hne]
        rw [List.nil_append, wordsFrom_append_of_solid htail, wordsFrom_end hwhole]
        refine ⟨List.cons_ne_nil _ _, ?_⟩
        rw [List.intercalate_singleton, List.reverse_append, List.reverse_reverse]
  | cons c rest ih =>
      cases hc : isBlank c with
      | false =>
          have hsolid : ∀ d ∈ c :: word, isBlank d = false := List.forall_mem_cons.mpr ⟨hc, hword⟩
          simp only [List.cons_append, wordsFrom_solid hc]
          exact ih hsolid
      | true =>
          have hrest := @ih [] fun _ hc => absurd hc List.not_mem_nil
          by_cases hne : word = []
          · simp only [hne, List.cons_append, wordsFrom_blank_outside hc]
            exact hrest
          · rcases hrest with ⟨front, hfront, hput⟩
            have hreverse : ∀ c ∈ word.reverse, isBlank c = false :=
              fun c hc => hword c (List.mem_reverse.mp hc)
            refine ⟨word.reverse ++ ' ' :: front, ?_, ?_⟩
            · rw [wordsFrom_blank hc hne]
              exact intercalate_cons_eq_trimEnd hreverse ne_nil_of_mem_wordsFrom hfront
            · intro tail hne' htail
              rcases hput tail hne' htail with ⟨hwords, hjoined⟩
              rw [List.cons_append, wordsFrom_blank hc hne]
              refine ⟨List.cons_ne_nil _ _, ?_⟩
              rw [List.intercalate_cons_of_ne_nil hwords, hjoined, List.append_assoc,
                List.append_assoc, List.singleton_append, List.cons_append]

end Words

theorem collapseBlanks_append_blanks {blanks : List Char} (h : ∀ c ∈ blanks, isBlank c = true)
    (cs : List Char) : collapseBlanks (cs ++ blanks) = collapseBlanks cs := by
  unfold collapseBlanks blankWords
  rw [wordsFrom_append_blanks h]

theorem collapseBlanks_trimEnd (cs : List Char) :
    collapseBlanks (trimEnd cs) = collapseBlanks cs := by
  rcases exists_blanks_after_trimEnd cs with ⟨blanks, hcs, hblanks⟩
  have hall := collapseBlanks_append_blanks hblanks (trimEnd cs)
  rw [← hcs] at hall
  exact hall.symm

theorem exists_front_of_collapseBlanks (cs : List Char) :
    ∃ front, collapseBlanks cs = trimEnd front ∧
      ∀ tail, tail ≠ [] → (∀ c ∈ tail, isBlank c = false) →
        collapseBlanks (cs ++ tail) = front ++ tail := by
  rcases @exists_front_of_wordsFrom [] (fun _ hc => absurd hc List.not_mem_nil) cs with
    ⟨front, hfront, hput⟩
  exact ⟨front, hfront, fun tail hne htail => (hput tail hne htail).right⟩

/-!
# Evenly spaced texts
-/

def Alternate (c d : Char) : Prop :=
  isBlank c = true → isBlank d = false

/-- Blanks are single spaces behind other characters. -/
structure IsSpaced (cs : List Char) : Prop where
  plain : ∀ c ∈ cs, isBlank c = true → c = ' '
  alternate : (' ' :: cs).IsChain Alternate

theorem IsSpaced.left {front rest : List Char} (h : IsSpaced (front ++ rest)) :
    IsSpaced front where
  plain c hc := h.plain c (List.mem_append_left rest hc)
  alternate := by
    have hall : ((' ' :: front) ++ rest).IsChain Alternate := h.alternate
    exact hall.left_of_append

theorem isChain_of_solid {cs : List Char} (h : ∀ c ∈ cs, isBlank c = false) (c : Char) :
    (c :: cs).IsChain Alternate := by
  induction cs generalizing c with
  | nil => exact List.isChain_singleton c
  | cons d rest ih =>
      rw [List.forall_mem_cons] at h
      exact List.isChain_cons_cons.mpr ⟨fun _ => h.left, ih h.right d⟩

theorem isSpaced_intercalate {ws : List (List Char)} (hne : ∀ w ∈ ws, w ≠ [])
    (hsolid : ∀ w ∈ ws, ∀ c ∈ w, isBlank c = false) : IsSpaced ([' '].intercalate ws) := by
  induction ws with
  | nil => exact ⟨fun _ hc => absurd hc List.not_mem_nil, List.isChain_singleton ' '⟩
  | cons w rest ih =>
      rw [List.forall_mem_cons] at hne hsolid
      have hword : IsSpaced w := by
        refine ⟨fun c hc hblank => ?_, isChain_of_solid hsolid.left ' '⟩
        rw [hsolid.left c hc] at hblank
        cases hblank
      cases rest with
      | nil =>
          rw [List.intercalate_singleton]
          exact hword
      | cons v vs =>
          have hrest := ih hne.right hsolid.right
          have hlast : ∀ c ∈ (' ' :: w).getLast?, ∀ d ∈ (' ' :: [' '].intercalate (v :: vs)).head?,
              Alternate c d := by
            intro c hc d _ hblank
            have hmem : c ∈ w := by
              rw [List.getLast?_cons, List.getLast?_eq_some_getLast hne.left] at hc
              cases hc
              exact List.getLast_mem hne.left
            rw [hsolid.left c hmem] at hblank
            cases hblank
          rw [List.intercalate_cons_cons, List.append_assoc, List.singleton_append]
          refine ⟨?_, hword.alternate.append hrest.alternate hlast⟩
          intro c hc
          rw [List.mem_append, List.mem_cons] at hc
          rcases hc with hfront | rfl | hback
          · exact hword.plain c hfront
          · exact fun _ => rfl
          · exact hrest.plain c hback

theorem filter_intercalate {ws : List (List Char)}
    (hsolid : ∀ w ∈ ws, ∀ c ∈ w, isBlank c = false) :
    ([' '].intercalate ws).filter (fun c => !isBlank c) = ws.flatten := by
  induction ws with
  | nil => rfl
  | cons w rest ih =>
      rw [List.forall_mem_cons] at hsolid
      have hword : w.filter (fun c => !isBlank c) = w := by
        rw [List.filter_eq_self]
        intro c hc
        rw [hsolid.left c hc]
        rfl
      cases rest with
      | nil => rw [List.intercalate_singleton, List.flatten_singleton, hword]
      | cons v vs =>
          rw [List.intercalate_cons_cons, List.filter_append, List.filter_append, hword,
            ih hsolid.right, List.flatten_cons]
          simp [isBlank]

theorem isSpaced_collapseBlanks (cs : List Char) : IsSpaced (collapseBlanks cs) :=
  isSpaced_intercalate ne_nil_of_mem_wordsFrom
    (solid_of_mem_wordsFrom fun _ hc => absurd hc List.not_mem_nil)

theorem filter_collapseBlanks (cs : List Char) :
    (collapseBlanks cs).filter (fun c => !isBlank c) = cs.filter fun c => !isBlank c := by
  unfold collapseBlanks blankWords
  rw [filter_intercalate (solid_of_mem_wordsFrom fun _ hc => absurd hc List.not_mem_nil),
    flatten_wordsFrom, List.reverse_nil, List.nil_append]

theorem trimStart_of_isSpaced {cs : List Char} (h : IsSpaced cs) : trimStart cs = cs := by
  cases cs with
  | nil => rfl
  | cons c rest =>
      have hc := (List.isChain_cons_cons.mp h.alternate).left (by decide)
      exact List.dropWhile_cons_of_neg (by simp [hc])

theorem intercalate_wordsFrom {word cs : List Char} (hword : ∀ c ∈ word, isBlank c = false)
    (hplain : ∀ c ∈ cs, isBlank c = true → c = ' ')
    (halternate : (word.headD ' ' :: cs).IsChain Alternate) :
    [' '].intercalate (wordsFrom word cs) = trimEnd (word.reverse ++ cs) := by
  -- The word being read is the end of what stands before, so that a blank ends a word.
  induction cs generalizing word with
  | nil =>
      rw [List.append_nil, trimEnd_of_solid fun c hc => hword c (List.mem_reverse.mp hc)]
      by_cases hne : word = []
      · rw [hne]
        rfl
      · rw [wordsFrom_end hne, List.intercalate_singleton]
  | cons c rest ih =>
      rw [List.forall_mem_cons] at hplain
      rcases List.isChain_cons_cons.mp halternate with ⟨hfirst, hchain⟩
      cases hc : isBlank c with
      | false =>
          have hsolid : ∀ d ∈ c :: word, isBlank d = false := List.forall_mem_cons.mpr ⟨hc, hword⟩
          rw [wordsFrom_solid hc, ih hsolid hplain.right hchain, List.reverse_cons,
            List.append_assoc, List.singleton_append]
      | true =>
          have hspace := hplain.left hc
          subst hspace
          have hne : word ≠ [] := by
            intro hsame
            subst hsame
            have hnot := hfirst rfl
            cases hnot
          have hreverse : ∀ c ∈ word.reverse, isBlank c = false :=
            fun c hc => hword c (List.mem_reverse.mp hc)
          have hrest := @ih [] (fun _ hc => absurd hc List.not_mem_nil) hplain.right hchain
          rw [wordsFrom_blank hc hne]
          exact intercalate_cons_eq_trimEnd hreverse ne_nil_of_mem_wordsFrom hrest

theorem collapseBlanks_of_isSpaced {cs : List Char} (h : IsSpaced cs) :
    collapseBlanks cs = trimEnd cs :=
  intercalate_wordsFrom (fun _ hc => absurd hc List.not_mem_nil) h.plain h.alternate

end Text
end Rowsmith

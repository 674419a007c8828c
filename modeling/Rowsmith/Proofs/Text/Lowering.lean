import Rowsmith.Proofs.Text.Spacing
import Rowsmith.Text.CaseMapping

/-!
# Texts in lower case

A text in lower case stays as it is when it is lowered again, cut up or put together anew: no
character of it is changed, and none of them is the capital sigma, the one letter that is lowered by
what stands around it. Blanks and brackets take no part in letter case, so that a text is lowered
alike with them behind it and without them.
-/

namespace Rowsmith
namespace Text

/-!
# Runs of characters that move together
-/

namespace Shift

def Covers (run : Shift) (code : Nat) : Prop :=
  run.first ≤ code ∧ code ≤ run.last ∧ (code - run.first) % run.step = 0

instance (run : Shift) (code : Nat) : Decidable (run.Covers code) :=
  inferInstanceAs (Decidable (_ ∧ _ ∧ _))

theorem apply_cons (c : Char) (run : Shift) (rest : List Shift) :
    apply c (run :: rest) =
      if run.Covers c.toNat then Char.ofNat (c.toNat + run.distance).toNat else apply c rest := by
  have hcovers : run.Covers c.toNat ↔ (run.first ≤ c.toNat && c.toNat ≤ run.last &&
      (c.toNat - run.first) % run.step == 0) = true := by
    simp [Covers, and_assoc]
  rw [apply]
  split
  · next hin => rw [if_pos (hcovers.mpr hin)]
  · next hout => rw [if_neg fun h => hout (hcovers.mp h)]

theorem apply_of_not_covers {c : Char} {runs : List Shift}
    (h : ∀ run ∈ runs, ¬ run.Covers c.toNat) : apply c runs = c := by
  induction runs with
  | nil => rfl
  | cons run rest ih =>
      rw [apply_cons, if_neg (h run List.mem_cons_self)]
      exact ih fun other hother => h other (List.mem_cons_of_mem run hother)

theorem apply_eq_or_covers (c : Char) (runs : List Shift) :
    (apply c runs = c ∧ ∀ run ∈ runs, ¬ run.Covers c.toNat) ∨
      ∃ run ∈ runs, run.Covers c.toNat ∧
        apply c runs = Char.ofNat (c.toNat + run.distance).toNat := by
  induction runs with
  | nil => exact Or.inl ⟨rfl, fun run hrun => absurd hrun List.not_mem_nil⟩
  | cons run rest ih =>
      rw [apply_cons]
      by_cases hcovers : run.Covers c.toNat
      · rw [if_pos hcovers]
        exact Or.inr ⟨run, List.mem_cons_self, hcovers, rfl⟩
      · rw [if_neg hcovers]
        rcases ih with ⟨hsame, hrest⟩ | ⟨other, hother, hfound⟩
        · refine Or.inl ⟨hsame, ?_⟩
          rw [List.forall_mem_cons]
          exact ⟨hcovers, hrest⟩
        · exact Or.inr ⟨other, List.mem_cons_of_mem run hother, hfound⟩

def target (run : Shift) : Nat :=
  (run.first + run.distance).toNat

def targetEnd (run : Shift) : Nat :=
  run.target + (run.last - run.first)

/-- No character of the run lands in the other one: it is elsewhere, or takes every second place
and never the places where this one lands. -/
def misses (run other : Shift) : Bool :=
  run.targetEnd < other.first || other.last < run.target ||
    (other.step == 2 && (run.step == 2 || run.last == run.first) &&
      (run.target + other.first) % 2 == 1)

/-- The characters of the run land on characters, beyond the codes that have rules of their own. -/
structure LandsWell (run : Shift) : Prop where
  start : 0 ≤ run.first + run.distance
  valid : run.targetEnd < 0xD800 ∨ (0xDFFF < run.target ∧ run.targetEnd < 0x110000)
  ascii : 0x80 ≤ run.target ∨ (0x5A < run.target ∧ run.targetEnd < 0x80)
  dotted : run.targetEnd < 0x130 ∨ 0x130 < run.target

instance (run : Shift) : Decidable run.LandsWell :=
  decidable_of_iff
    (0 ≤ run.first + run.distance ∧
      (run.targetEnd < 0xD800 ∨ (0xDFFF < run.target ∧ run.targetEnd < 0x110000)) ∧
      (0x80 ≤ run.target ∨ (0x5A < run.target ∧ run.targetEnd < 0x80)) ∧
      (run.targetEnd < 0x130 ∨ 0x130 < run.target))
    ⟨fun ⟨h₁, h₂, h₃, h₄⟩ => ⟨h₁, h₂, h₃, h₄⟩, fun h => ⟨h.start, h.valid, h.ascii, h.dotted⟩⟩

variable {run other : Shift} {code : Nat}

theorem landing_eq (hstart : 0 ≤ run.first + run.distance) (h : run.Covers code) :
    ((code : Int) + run.distance).toNat = run.target + (code - run.first) := by
  have hfirst := h.left
  unfold target
  omega

theorem landing_le (hstart : 0 ≤ run.first + run.distance) (h : run.Covers code) :
    run.target ≤ ((code : Int) + run.distance).toNat ∧
      ((code : Int) + run.distance).toNat ≤ run.targetEnd := by
  have hlast := h.right.left
  rw [landing_eq hstart h]
  unfold targetEnd
  omega

theorem not_covers_landing (hmisses : run.misses other = true)
    (hstart : 0 ≤ run.first + run.distance) (h : run.Covers code) :
    ¬ other.Covers ((code : Int) + run.distance).toNat := by
  intro hcovers
  have hbounds := landing_le hstart h
  have hlanding := landing_eq hstart h
  rcases h with ⟨hfirst, hlast, hplace⟩
  rcases hcovers with ⟨hlow, hhigh, hevery⟩
  simp only [misses, Bool.or_eq_true, Bool.and_eq_true, decide_eq_true_eq, beq_iff_eq] at hmisses
  rcases hmisses with (hbefore | hafter) | ⟨⟨hstep, hown⟩, hparity⟩
  · omega
  · omega
  · have heven : (code - run.first) % 2 = 0 := by
      rcases hown with htwo | hsingle
      · rw [htwo] at hplace
        exact hplace
      · omega
    rw [hstep] at hevery
    omega

theorem toNat_landing (hlands : run.LandsWell) (h : run.Covers code) :
    (Char.ofNat ((code : Int) + run.distance).toNat).toNat =
      ((code : Int) + run.distance).toNat := by
  have hbounds := landing_le hlands.start h
  have hvalid : ((code : Int) + run.distance).toNat.isValidChar := by
    rcases hlands.valid with hlow | ⟨hhigh, hend⟩
    · exact Or.inl (by omega)
    · exact Or.inr ⟨by omega, by omega⟩
  exact congrArg Char.toNat (dif_pos hvalid)

end Shift

theorem landsWell_lowerShifts : ∀ run ∈ lowerShifts, run.LandsWell := by
  decide +kernel

theorem misses_lowerShifts :
    (lowerShifts.all fun run => lowerShifts.all run.misses) = true := by
  -- There are many pairs, and the kernel compares two numbers faster than it decides the order.
  have hcompare (m n : Nat) : decide (m < n) = m.blt n := by
    rw [Bool.eq_iff_iff, Nat.blt_eq, decide_eq_true_eq]
  unfold Shift.misses
  simp only [hcompare]
  decide +kernel

theorem capitalSigma_covered : ∃ run ∈ lowerShifts, run.Covers capitalSigma.toNat := by
  decide +kernel

/-!
# Characters in lower case
-/

/-- The character stays as it is wherever it stands in a text that is lowered. -/
structure IsLowered (c : Char) : Prop where
  ne_sigma : c ≠ capitalSigma
  toLower_eq : toLower c = [c]

instance (c : Char) : Decidable (IsLowered c) :=
  decidable_of_iff (c ≠ capitalSigma ∧ toLower c = [c])
    ⟨fun h => ⟨h.left, h.right⟩, fun h => ⟨h.ne_sigma, h.toLower_eq⟩⟩

theorem isLowered_of_ascii {c : Char} (hascii : c.toNat < 128)
    (hcapital : c.toNat < 0x41 ∨ 0x5A < c.toNat) : IsLowered c := by
  have hall : ∀ n < 128, (n < 0x41 ∨ 0x5A < n) → IsLowered (Char.ofNat n) := by
    decide +kernel
  have hc := hall c.toNat hascii hcapital
  rwa [Char.ofNat_toNat] at hc

theorem isLowered_of_not_covers {c : Char} (hascii : 128 ≤ c.toNat) (hdotted : c.toNat ≠ 0x130)
    (h : ∀ run ∈ lowerShifts, ¬ run.Covers c.toNat) : IsLowered c where
  ne_sigma := by
    intro hsame
    subst hsame
    rcases capitalSigma_covered with ⟨run, hrun, hcovers⟩
    exact h run hrun hcovers
  toLower_eq := by
    have hbeyond : ¬ c.val < 128 := by
      rw [UInt32.lt_iff_toNat_lt]
      exact Nat.not_lt.mpr hascii
    unfold toLower
    rw [if_neg hbeyond, if_neg hdotted, Shift.apply_of_not_covers h]

theorem isLowered_landing {run : Shift} {code : Nat} (hrun : run ∈ lowerShifts)
    (h : run.Covers code) : IsLowered (Char.ofNat ((code : Int) + run.distance).toNat) := by
  have hlands := landsWell_lowerShifts run hrun
  have hcode := Shift.toNat_landing hlands h
  have hbounds := Shift.landing_le hlands.start h
  rcases hlands.ascii with hbeyond | ⟨hlow, hhigh⟩
  · apply isLowered_of_not_covers
    · omega
    · rcases hlands.dotted with hbefore | hafter
      · omega
      · omega
    · intro other hother
      have hmisses := List.all_eq_true.mp (List.all_eq_true.mp misses_lowerShifts run hrun) other
        hother
      rw [hcode]
      exact Shift.not_covers_landing hmisses hlands.start h
  · apply isLowered_of_ascii
    · omega
    · omega

theorem isLowered_toLower {c : Char} : ∀ d ∈ toLower c, IsLowered d := by
  intro d hd
  -- ASCII is checked letter by letter, the one letter that becomes two by itself, the rest by runs.
  unfold toLower at hd
  split at hd
  · next hascii =>
      have hall : ∀ n < 128, IsLowered (Char.ofNat n).toLower := by
        decide +kernel
      have hc := hall c.toNat (UInt32.lt_iff_toNat_lt.mp hascii)
      rw [Char.ofNat_toNat] at hc
      rw [List.mem_singleton] at hd
      rw [hd]
      exact hc
  · next hbeyond =>
      have hcode : 128 ≤ c.toNat := by
        rw [UInt32.lt_iff_toNat_lt] at hbeyond
        exact Nat.not_lt.mp hbeyond
      split at hd
      · rw [List.mem_cons, List.mem_singleton] at hd
        rcases hd with hletter | hdot
        · rw [hletter]
          decide +kernel
        · rw [hdot]
          decide +kernel
      · next hplain =>
          rw [List.mem_singleton] at hd
          rcases Shift.apply_eq_or_covers c lowerShifts with ⟨hsame, houtside⟩ | ⟨run, hrun, h⟩
          · rw [hd, hsame]
            exact isLowered_of_not_covers hcode hplain houtside
          · rw [hd, h.right]
            exact isLowered_landing hrun h.left

/-!
# Texts in lower case
-/

theorem isLowered_lowerAfter {passed cs : List Char} : ∀ c ∈ lowerAfter passed cs, IsLowered c := by
  induction cs generalizing passed with
  | nil => exact fun c hc => absurd hc List.not_mem_nil
  | cons d rest ih =>
      intro c hc
      rw [lowerAfter, List.mem_append] at hc
      rcases hc with hfirst | hrest
      · split at hfirst
        · rw [List.mem_singleton] at hfirst
          split at hfirst
          · rw [hfirst]
            decide +kernel
          · rw [hfirst]
            decide +kernel
        · exact isLowered_toLower c hfirst
      · exact ih c hrest

theorem isLowered_lower {cs : List Char} : ∀ c ∈ lower cs, IsLowered c :=
  isLowered_lowerAfter

theorem lowerAfter_of_isLowered {passed cs : List Char} (h : ∀ c ∈ cs, IsLowered c) :
    lowerAfter passed cs = cs := by
  induction cs generalizing passed with
  | nil => rfl
  | cons c rest ih =>
      rw [List.forall_mem_cons] at h
      rw [lowerAfter, if_neg h.left.ne_sigma, h.left.toLower_eq, ih h.right, List.singleton_append]

theorem lower_of_isLowered {cs : List Char} (h : ∀ c ∈ cs, IsLowered c) : lower cs = cs :=
  lowerAfter_of_isLowered h

/-!
# What takes no part in letter case
-/

/-- The character is no letter, and no mark that can stand in the middle of a word. -/
structure IsCaseless (c : Char) : Prop where
  lowered : IsLowered c
  cased : isCased c = false
  ignorable : isCaseIgnorable c = false

instance (c : Char) : Decidable (IsCaseless c) :=
  decidable_of_iff (IsLowered c ∧ isCased c = false ∧ isCaseIgnorable c = false)
    ⟨fun ⟨hlowered, hcased, hignorable⟩ => ⟨hlowered, hcased, hignorable⟩,
      fun h => ⟨h.lowered, h.cased, h.ignorable⟩⟩

theorem isCaseless_of_isBlank {c : Char} (h : isBlank c = true) : IsCaseless c := by
  have hall : ∀ n ∈ blankCodes, IsCaseless (Char.ofNat n) := by
    decide +kernel
  exact of_isBlank hall h

theorem meetsCased_append {cs tail : List Char} (h : ∀ c ∈ tail.head?, IsCaseless c) :
    meetsCased (cs ++ tail) = meetsCased cs := by
  unfold meetsCased
  induction cs with
  | nil =>
      cases tail with
      | nil => rfl
      -- The search ends at the first character behind the text.
      | cons c rest =>
          have hc := h c rfl
          rw [List.nil_append, List.dropWhile_cons_of_neg (by simp [hc.ignorable])]
          exact hc.cased
  | cons c rest ih =>
      cases hignorable : isCaseIgnorable c with
      | true =>
          rw [List.cons_append, List.dropWhile_cons_of_pos hignorable,
            List.dropWhile_cons_of_pos hignorable]
          exact ih
      | false =>
          rw [List.cons_append, List.dropWhile_cons_of_neg (by simp [hignorable]),
            List.dropWhile_cons_of_neg (by simp [hignorable])]

theorem lowerAfter_append {passed cs tail : List Char} (h : ∀ c ∈ tail, IsCaseless c) :
    lowerAfter passed (cs ++ tail) = lowerAfter passed cs ++ tail := by
  induction cs generalizing passed with
  | nil => exact lowerAfter_of_isLowered fun c hc => (h c hc).lowered
  | cons c rest ih =>
      have hhead : ∀ c ∈ tail.head?, IsCaseless c := fun c hc => h c (List.mem_of_head? hc)
      rw [List.cons_append, lowerAfter, lowerAfter, meetsCased_append hhead, ih,
        List.append_assoc]

/-- Caseless characters behind a text stay as they are and change nothing before them. -/
theorem lower_append {cs tail : List Char} (h : ∀ c ∈ tail, IsCaseless c) :
    lower (cs ++ tail) = lower cs ++ tail :=
  lowerAfter_append h

theorem lowerAfter_passed_append {passed cs before : List Char}
    (h : ∀ c ∈ before.head?, IsCaseless c) :
    lowerAfter (passed ++ before) cs = lowerAfter passed cs := by
  induction cs generalizing passed with
  | nil => rfl
  | cons c rest ih =>
      rw [lowerAfter, lowerAfter, meetsCased_append h, ← List.cons_append, ih]

theorem lower_append_left {front cs : List Char} (h : ∀ c ∈ front, IsCaseless c) :
    lower (front ++ cs) = front ++ lower cs := by
  have hpassed : ∀ passed : List Char, (∀ c ∈ passed.head?, IsCaseless c) →
      lowerAfter passed (front ++ cs) = front ++ lower cs := by
    induction front with
    | nil =>
        intro passed hhead
        exact @lowerAfter_passed_append [] _ _ hhead
    | cons c rest ih =>
        intro passed _
        rcases List.forall_mem_cons.mp h with ⟨hc, hrest⟩
        have hfollowing := ih hrest (c :: passed) fun d hd => by
          rw [← Option.some.inj hd]
          exact hc
        rw [List.cons_append, lowerAfter, if_neg hc.lowered.ne_sigma, hc.lowered.toLower_eq,
          hfollowing]
        rfl
  exact hpassed [] fun c hc => nomatch hc

end Text
end Rowsmith

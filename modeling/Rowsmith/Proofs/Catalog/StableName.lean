import Mathlib.Data.List.DropRight
import Mathlib.Data.List.TakeWhile
import Rowsmith.Proofs.Catalog.NormalName

/-!
# Normal names are stable

The groups of a name can also be removed one at a time, always the first one, until none is closed
any more. Every removal makes the name shorter, and what joins up around the gap opens no group
before the next one, so in the end the same is left as after one reading from left to right. What is
left has nothing more to remove, and no blanks at its end: a name in normal form is its own normal
form.
-/

namespace Rowsmith

open Text

/-!
# Removing groups one by one
-/

/-- The name without its first group. There is none if nothing opens it, or nothing behind that
closes it. -/
def withoutFirstGroup? (cs : List Char) : Option (List Char) :=
  match cs.dropWhile (· ≠ '(') with
  | [] => none
  | _ :: inside =>
      match inside.dropWhile (· ≠ ')') with
      | [] => none
      | _ :: behind => some (cs.takeWhile (· ≠ '(') ++ behind)

section Groups

variable {cs front inside behind : List Char}

theorem passes_of_not_mem {stop : Char} (h : stop ∉ cs) : ∀ c ∈ cs, decide (c ≠ stop) = true := by
  intro c hc
  rw [decide_eq_true_eq]
  intro hsame
  subst hsame
  exact h hc

theorem withoutFirstGroup?_of_group (hfront : '(' ∉ front) (hinside : ')' ∉ inside) :
    withoutFirstGroup? (front ++ '(' :: (inside ++ ')' :: behind)) = some (front ++ behind) := by
  have hpass := passes_of_not_mem hfront
  have hpass' := passes_of_not_mem hinside
  unfold withoutFirstGroup?
  rw [List.dropWhile_append_of_pos hpass, List.takeWhile_append_of_pos hpass,
    List.dropWhile_cons_of_neg (by decide), List.takeWhile_cons_of_neg (by decide),
    List.append_nil]
  dsimp only
  rw [List.dropWhile_append_of_pos hpass', List.dropWhile_cons_of_neg (by decide)]

theorem withoutFirstGroup?_of_isUngrouped (h : IsUngrouped cs) : withoutFirstGroup? cs = none := by
  unfold withoutFirstGroup?
  by_cases hopening : '(' ∈ cs
  · rcases List.eq_append_cons_of_mem hopening with ⟨front, inside, rfl, hfront⟩
    have hbehind := (List.pairwise_cons.mp (List.pairwise_append.mp h).right.left).left
    have hclosing : ')' ∉ inside := fun hmem => hbehind _ hmem rfl rfl
    rw [List.dropWhile_append_of_pos (passes_of_not_mem hfront),
      List.dropWhile_cons_of_neg (by decide)]
    dsimp only
    rw [List.dropWhile_eq_nil_iff.mpr (passes_of_not_mem hclosing)]
  · rw [List.dropWhile_eq_nil_iff.mpr (passes_of_not_mem hopening)]

theorem isUngrouped_append (hfront : '(' ∉ front) (h : IsUngrouped cs) :
    IsUngrouped (front ++ cs) := by
  have hopening : ∀ c ∈ front, c ≠ '(' := by
    intro c hc hequal
    subst hequal
    exact hfront hc
  refine List.pairwise_append.mpr ⟨?_, h, ?_⟩
  · exact List.pairwise_of_forall_mem_list fun c hc _ _ hsame => absurd hsame (hopening c hc)
  · exact fun c hc _ _ hsame => absurd hsame (hopening c hc)

theorem isUngrouped_or_exists_group (cs : List Char) :
    IsUngrouped cs ∨ ∃ front inside behind, cs = front ++ '(' :: (inside ++ ')' :: behind) ∧
      '(' ∉ front ∧ ')' ∉ inside := by
  by_cases hopening : '(' ∈ cs
  · rcases List.eq_append_cons_of_mem hopening with ⟨front, inside, rfl, hfront⟩
    by_cases hclosing : ')' ∈ inside
    · rcases List.eq_append_cons_of_mem hclosing with ⟨inside, behind, rfl, hinside⟩
      exact Or.inr ⟨front, inside, behind, rfl, hfront, hinside⟩
    · left
      apply isUngrouped_append hfront
      apply isUngrouped_of_not_mem
      simp [hclosing]
  · left
    have hall := isUngrouped_append hopening (List.Pairwise.nil : IsUngrouped [])
    rwa [List.append_nil] at hall

theorem length_withoutFirstGroup {rest : List Char} (h : withoutFirstGroup? cs = some rest) :
    rest.length < cs.length := by
  rcases isUngrouped_or_exists_group cs with hungrouped | ⟨front, inside, behind, rfl, hf, hi⟩
  · rw [withoutFirstGroup?_of_isUngrouped hungrouped] at h
    cases h
  · rw [withoutFirstGroup?_of_group hf hi] at h
    cases h
    simp only [List.length_append, List.length_cons]
    omega

def removeGroups (cs : List Char) : List Char :=
  match _h : withoutFirstGroup? cs with
  | none => cs
  | some rest => removeGroups rest
termination_by cs.length
decreasing_by exact length_withoutFirstGroup _h

theorem withoutGroups_of_withoutFirstGroup {rest : List Char}
    (h : withoutFirstGroup? cs = some rest) : withoutGroups none cs = withoutGroups none rest := by
  -- Up to the first closing parenthesis everything is taken into the group that is held.
  have hread (held inside behind : List Char) (hinside : ')' ∉ inside) :
      withoutGroups (some held) (inside ++ ')' :: behind) = withoutGroups none behind := by
    induction inside generalizing held with
    | nil => rw [List.nil_append, withoutGroups, if_pos rfl]
    | cons c inside ih =>
        rcases List.ne_and_not_mem_of_not_mem_cons hinside with ⟨hne, hrest⟩
        rw [List.cons_append, withoutGroups, if_neg (Ne.symm hne), ih _ hrest]
  rcases isUngrouped_or_exists_group cs with hungrouped | ⟨front, inside, behind, rfl, hf, hi⟩
  · rw [withoutFirstGroup?_of_isUngrouped hungrouped] at h
    cases h
  · rw [withoutFirstGroup?_of_group hf hi] at h
    cases h
    rw [withoutGroups_append_left hf, withoutGroups_append_left hf, withoutGroups, if_pos rfl,
      hread _ _ _ hi]

theorem isUngrouped_of_withoutFirstGroup (h : withoutFirstGroup? cs = none) : IsUngrouped cs := by
  rcases isUngrouped_or_exists_group cs with hungrouped | ⟨front, inside, behind, rfl, hf, hi⟩
  · exact hungrouped
  · rw [withoutFirstGroup?_of_group hf hi] at h
    cases h

theorem removeGroups_eq_withoutGroups (cs : List Char) :
    removeGroups cs = withoutGroups none cs := by
  fun_induction removeGroups cs with
  | case1 cs hnone =>
      exact (withoutGroups_of_isUngrouped (isUngrouped_of_withoutFirstGroup hnone)).symm
  | case2 cs rest hfirst ih =>
      rw [ih, withoutGroups_of_withoutFirstGroup hfirst]

end Groups

/-!
# Normal names as they are
-/

theorem trimEnd_trimEnd (cs : List Char) : trimEnd (trimEnd cs) = trimEnd cs :=
  List.rdropWhile_idempotent isBlank cs

theorem isBlank_getLast?_trimEnd (cs : List Char) :
    ∀ c ∈ (trimEnd cs).getLast?, isBlank c = false := by
  intro c hc
  unfold trimEnd at hc
  rw [List.getLast?_reverse] at hc
  have hhead := List.head?_dropWhile_not isBlank cs.reverse
  rw [hc] at hhead
  exact hhead

theorem trimEnd_collapseBlanks (cs : List Char) :
    trimEnd (collapseBlanks cs) = collapseBlanks cs := by
  rcases exists_front_of_collapseBlanks cs with ⟨front, hfront, _⟩
  rw [hfront, trimEnd_trimEnd]

theorem stable_short : ∀ short ∈ longNames.map Prod.snd,
    trimEnd short = short ∧ shortName short = short := by
  decide +kernel

theorem shortName_shortName (name : List Char) : shortName (shortName name) = shortName name := by
  rcases shortName_cases name with hsame | hshort
  · rw [hsame, hsame]
  · exact (stable_short _ hshort).right

theorem trimEnd_normalName (name : List Char) : trimEnd (normalName name) = normalName name := by
  unfold normalName
  rcases shortName_cases (collapseBlanks (withoutGroups none (lower (trim name)))) with h | h
  · rw [h]
    exact trimEnd_collapseBlanks _
  · exact (stable_short _ h).left

theorem normalName_normalName (name : List Char) :
    normalName (normalName name) = normalName name := by
  rw [normalName_of_isTidy (isTidy_normalName name), trimEnd_normalName]
  exact shortName_shortName _

theorem normalTypeName_normalTypeName (name : String) :
    normalTypeName (normalTypeName name) = normalTypeName name := by
  unfold normalTypeName
  rw [String.toList_ofList, normalName_normalName]

theorem normalName_eq_removeGroups (name : List Char) :
    normalName name = shortName (collapseBlanks (removeGroups (lower (trim name)))) := by
  rw [removeGroups_eq_withoutGroups]
  rfl

/-- No blanks at either end, and nowhere two of them. -/
structure IsTrim (cs : List Char) : Prop where
  start : ∀ c ∈ cs.head?, isBlank c = false
  finish : ∀ c ∈ cs.getLast?, isBlank c = false
  single : cs.IsChain fun c d => ¬ (isBlank c = true ∧ isBlank d = true)

theorem isTrim_normalName (name : List Char) : IsTrim (normalName name) where
  start := by
    have hchain := (isTidy_normalName name).spaced.alternate
    intro c hc
    rcases List.head?_eq_some_iff.mp hc with ⟨rest, hname⟩
    rw [hname] at hchain
    exact (List.isChain_cons_cons.mp hchain).left (by decide)
  finish := by
    rw [← trimEnd_normalName]
    exact isBlank_getLast?_trimEnd _
  single := by
    have hchain := (isTidy_normalName name).spaced.alternate.tail
    refine hchain.imp fun c d halternate hboth => ?_
    rw [halternate hboth.left] at hboth
    cases hboth.right

end Rowsmith

import Rowsmith.Model.FieldType
import Rowsmith.Proofs.Text.Lowering

/-!
# Normal names of types

A name in normal form is tidy: in small letters, evenly spaced and without groups in parentheses.
Any part of it from its beginning is tidy too, and is in normal form but for blanks at its end and
for a name that has a shorter one. So the element type of an array is found by taking the brackets
off the normal name of the array.
-/

namespace Rowsmith

open Text

/-!
# Groups in parentheses
-/

/-- No parenthesis that opens comes before one that closes. -/
def IsUngrouped (cs : List Char) : Prop :=
  cs.Pairwise fun c d => c = '(' → d ≠ ')'

theorem isUngrouped_of_not_mem {cs : List Char} (h : ')' ∉ cs) : IsUngrouped cs := by
  apply List.pairwise_of_forall_mem_list
  intro c _ d hd _ hclosing
  rw [hclosing] at hd
  exact h hd

theorem isUngrouped_withoutGroups {held : Option (List Char)} {cs : List Char}
    (hheld : ∀ group ∈ held, ')' ∉ group) : IsUngrouped (withoutGroups held cs) := by
  -- The group being read has not been closed, which is what each step keeps.
  induction cs generalizing held with
  | nil =>
      cases held with
      | none => exact List.Pairwise.nil
      | some group =>
          apply isUngrouped_of_not_mem
          rw [withoutGroups, List.mem_reverse]
          exact hheld group rfl
  | cons c rest ih =>
      cases held with
      | none =>
          rw [withoutGroups]
          split
          · next hopening =>
              apply ih
              intro _ hsome
              cases hsome
              rw [hopening]
              decide
          · next hopening =>
              refine List.Pairwise.cons (fun _ _ h => absurd h hopening) (ih ?_)
              intro _ hsome
              cases hsome
      | some group =>
          rw [withoutGroups]
          split
          · apply ih
            intro _ hsome
            cases hsome
          · next hclosing =>
              apply ih
              intro _ hsome
              cases hsome
              rw [List.mem_cons, not_or]
              exact ⟨Ne.symm hclosing, hheld group rfl⟩

theorem mem_withoutGroups {held : Option (List Char)} {cs : List Char} {c : Char}
    (h : c ∈ withoutGroups held cs) : c ∈ cs ∨ ∃ group ∈ held, c ∈ group := by
  induction cs generalizing held with
  | nil =>
      cases held with
      | none => cases h
      | some group => exact Or.inr ⟨group, rfl, List.mem_reverse.mp h⟩
  | cons d rest ih =>
      cases held with
      | none =>
          rw [withoutGroups] at h
          split at h
          · rcases ih h with hrest | ⟨group, hgroup, hc⟩
            · exact Or.inl (List.mem_cons_of_mem d hrest)
            · cases hgroup
              rw [List.mem_singleton] at hc
              exact Or.inl (List.mem_cons.mpr (Or.inl hc))
          · rcases List.mem_cons.mp h with hfirst | hrest
            · exact Or.inl (List.mem_cons.mpr (Or.inl hfirst))
            · rcases ih hrest with hmem | ⟨_, ⟨⟩, _⟩
              exact Or.inl (List.mem_cons_of_mem d hmem)
      | some group =>
          rw [withoutGroups] at h
          split at h
          · rcases ih h with hrest | ⟨_, ⟨⟩, _⟩
            exact Or.inl (List.mem_cons_of_mem d hrest)
          · rcases ih h with hrest | ⟨_, hlonger, hc⟩
            · exact Or.inl (List.mem_cons_of_mem d hrest)
            · cases hlonger
              rcases List.mem_cons.mp hc with hfirst | hbefore
              · exact Or.inl (List.mem_cons.mpr (Or.inl hfirst))
              · exact Or.inr ⟨group, rfl, hbefore⟩

theorem withoutGroups_unclosed {cs : List Char} (h : ')' ∉ cs) (group : List Char) :
    withoutGroups (some group) cs = group.reverse ++ cs := by
  induction cs generalizing group with
  | nil => exact (List.append_nil _).symm
  | cons c rest ih =>
      rw [List.mem_cons, not_or] at h
      rw [withoutGroups, if_neg (Ne.symm h.left), ih h.right, List.reverse_cons,
        List.append_assoc, List.singleton_append]

theorem withoutGroups_of_isUngrouped {cs : List Char} (h : IsUngrouped cs) :
    withoutGroups none cs = cs := by
  induction cs with
  | nil => rfl
  | cons c rest ih =>
      rcases List.pairwise_cons.mp h with ⟨hfirst, hrest⟩
      rw [withoutGroups]
      split
      · next hopening =>
          rw [withoutGroups_unclosed fun hmem => hfirst _ hmem hopening rfl]
          rfl
      · rw [ih hrest]

theorem withoutGroups_append {tail : List Char} (hclosing : ')' ∉ tail)
    (held : Option (List Char)) (cs : List Char) :
    withoutGroups held (cs ++ tail) = withoutGroups held cs ++ tail := by
  induction cs generalizing held with
  | nil =>
      cases held with
      | none =>
          apply withoutGroups_of_isUngrouped
          exact isUngrouped_of_not_mem hclosing
      | some group => exact withoutGroups_unclosed hclosing group
  | cons c rest ih =>
      cases held with
      | none =>
          rw [List.cons_append, withoutGroups, withoutGroups]
          split
          · exact ih _
          · rw [ih, List.cons_append]
      | some group =>
          rw [List.cons_append, withoutGroups, withoutGroups]
          split
          · exact ih _
          · exact ih _

theorem withoutGroups_append_left {front : List Char} (hopening : '(' ∉ front) (cs : List Char) :
    withoutGroups none (front ++ cs) = front ++ withoutGroups none cs := by
  induction front with
  | nil => rfl
  | cons c rest ih =>
      rw [List.mem_cons, not_or] at hopening
      rw [List.cons_append, withoutGroups, if_neg (Ne.symm hopening.left), ih hopening.right,
        List.cons_append]

theorem isUngrouped_collapseBlanks {cs : List Char} (h : IsUngrouped cs) :
    IsUngrouped (collapseBlanks cs) := by
  have hfilter : ((collapseBlanks cs).filter fun c => !isBlank c).Pairwise
      fun c d => c = '(' → d ≠ ')' := by
    rw [filter_collapseBlanks]
    exact List.Pairwise.filter _ h
  rw [List.pairwise_filter] at hfilter
  apply hfilter.imp
  intro c d hpair hopening hclosing
  subst hopening hclosing
  exact hpair rfl rfl rfl rfl

/-!
# Short names
-/

theorem shortName_of_not_mem {name : List Char} (h : name ∉ longNames.map Prod.fst) :
    shortName name = name := by
  have hlookup : longNames.lookup name = none := by
    rw [List.lookup_eq_none_iff]
    intro entry hentry
    rw [bne_iff_ne]
    intro hsame
    subst hsame
    exact h (List.mem_map_of_mem hentry)
  unfold shortName
  rw [hlookup]
  rfl

theorem shortName_of_mem {name : List Char} (h : name ∈ longNames.map Prod.fst) :
    shortName name ∈ longNames.map Prod.snd := by
  have hall : ∀ long ∈ longNames.map Prod.fst, shortName long ∈ longNames.map Prod.snd := by
    decide
  exact hall name h

theorem shortName_cases (name : List Char) :
    shortName name = name ∨ shortName name ∈ longNames.map Prod.snd := by
  by_cases hmem : name ∈ longNames.map Prod.fst
  · exact Or.inr (shortName_of_mem hmem)
  · exact Or.inl (shortName_of_not_mem hmem)

/-!
# Tidy names
-/

/-- In small letters, evenly spaced and without groups in parentheses. -/
structure IsTidy (name : List Char) : Prop where
  lowered : ∀ c ∈ name, IsLowered c
  ungrouped : IsUngrouped name
  spaced : IsSpaced name

theorem IsTidy.left {front rest : List Char} (h : IsTidy (front ++ rest)) : IsTidy front where
  lowered c hc := h.lowered c (List.mem_append_left rest hc)
  ungrouped := (List.pairwise_append.mp h.ungrouped).left
  spaced := h.spaced.left

theorem IsTidy.trimEnd {name : List Char} (h : IsTidy name) : IsTidy (trimEnd name) := by
  rcases exists_blanks_after_trimEnd name with ⟨blanks, hname, _⟩
  rw [hname] at h
  exact h.left

theorem isTidy_short : ∀ short ∈ longNames.map Prod.snd, IsTidy short := by
  intro short hshort
  have hshorts : ∀ short ∈ longNames.map Prod.snd,
      short.all (fun c => decide (IsLowered c ∧ isBlank c = false ∧ c ≠ ')')) = true := by
    decide +kernel
  have hall : ∀ c ∈ short, IsLowered c ∧ isBlank c = false ∧ c ≠ ')' := fun c hc =>
    of_decide_eq_true (List.all_eq_true.mp (hshorts short hshort) c hc)
  refine ⟨fun c hc => (hall c hc).left, ?_, ?_, ?_⟩
  · exact isUngrouped_of_not_mem fun hmem => (hall _ hmem).right.right rfl
  · intro c hc hblank
    rw [(hall c hc).right.left] at hblank
    cases hblank
  · exact isChain_of_solid (fun c hc => (hall c hc).right.left) ' '

theorem isTidy_collapseBlanks {cs : List Char} (hlowered : ∀ c ∈ cs, IsLowered c)
    (hungrouped : IsUngrouped cs) : IsTidy (collapseBlanks cs) where
  lowered := by
    intro c hc
    cases hblank : isBlank c with
    | true => exact (isCaseless_of_isBlank hblank).lowered
    | false =>
        have hmem : c ∈ (collapseBlanks cs).filter fun c => !isBlank c :=
          List.mem_filter.mpr ⟨hc, by rw [hblank]; rfl⟩
        rw [filter_collapseBlanks] at hmem
        exact hlowered c (List.mem_filter.mp hmem).left
  ungrouped := isUngrouped_collapseBlanks hungrouped
  spaced := isSpaced_collapseBlanks cs

theorem isTidy_normalName (name : List Char) : IsTidy (normalName name) := by
  have htidy : IsTidy (collapseBlanks (withoutGroups none (lower (trim name)))) := by
    apply isTidy_collapseBlanks
    · intro c hc
      rcases mem_withoutGroups hc with hmem | ⟨_, ⟨⟩, _⟩
      exact isLowered_lower c hmem
    · apply isUngrouped_withoutGroups
      intro _ hsome
      cases hsome
  unfold normalName
  rcases shortName_cases (collapseBlanks (withoutGroups none (lower (trim name)))) with h | h
  · rw [h]
    exact htidy
  · exact isTidy_short _ h

theorem normalName_of_isTidy {name : List Char} (h : IsTidy name) :
    normalName name = shortName (trimEnd name) := by
  have htrimmed := h.trimEnd
  have htrim : trim name = trimEnd name := by
    unfold trim
    rw [trimStart_of_isSpaced h.spaced]
  unfold normalName
  rw [htrim, lower_of_isLowered htrimmed.lowered,
    withoutGroups_of_isUngrouped htrimmed.ungrouped, collapseBlanks_trimEnd,
    collapseBlanks_of_isSpaced h.spaced]

/-!
# Brackets behind a name
-/

def brackets : List Char := ['[', ']']

theorem elementSpelling?_eq_some_iff {name element : List Char} :
    elementSpelling? name = some element ↔ name = element ++ brackets := by
  unfold elementSpelling? brackets
  constructor
  · intro h
    split at h
    · next rest hreverse =>
        cases h
        rw [← List.reverse_inj, hreverse]
        simp
    · cases h
  · intro hsame
    subst hsame
    rw [List.reverse_append]
    show some element.reverse.reverse = _
    rw [List.reverse_reverse]

theorem shortName_append_brackets (name : List Char) :
    shortName (name ++ brackets) = name ++ brackets := by
  apply shortName_of_not_mem
  intro hmem
  have hall : ∀ long ∈ longNames.map Prod.fst, elementSpelling? long = none := by
    decide
  have hnone := hall _ hmem
  rw [elementSpelling?_eq_some_iff.mpr rfl] at hnone
  cases hnone

/-- The element of an array is spelled by a tidy name, so that taking its normal form anew does no
more than what the reader of element types does. -/
theorem elementName?_normalName (name : List Char) :
    elementName? (normalName name) = (elementSpelling? (normalName name)).map normalName := by
  unfold elementName?
  cases hspelling : elementSpelling? (normalName name) with
  | none => rfl
  | some element =>
      have htidy := isTidy_normalName name
      rw [elementSpelling?_eq_some_iff.mp hspelling] at htidy
      rw [Option.map_some, Option.map_some, normalName_of_isTidy htidy.left]

theorem normalName_eq (name : List Char) :
    normalName name =
      shortName (collapseBlanks (withoutGroups none (lower (trimStart name)))) := by
  rcases exists_blanks_after_trimEnd (trimStart name) with ⟨blanks, hname, hblanks⟩
  have hclosing : ')' ∉ blanks := fun hmem => by cases hblanks _ hmem
  have hlower := @lower_append (trim name) _ fun c hc => isCaseless_of_isBlank (hblanks c hc)
  unfold normalName
  rw [hname]
  show _ = shortName (collapseBlanks (withoutGroups none (lower (trim name ++ blanks))))
  rw [hlower, withoutGroups_append hclosing, collapseBlanks_append_blanks hblanks]

structure IsMark (c : Char) : Prop where
  caseless : IsCaseless c
  solid : isBlank c = false
  ne_closing : c ≠ ')'

theorem isMark_of_mem_brackets : ∀ c ∈ brackets, IsMark c := by
  intro c hc
  unfold brackets at hc
  rw [List.mem_cons, List.mem_singleton] at hc
  rcases hc with hopening | hclosing
  · rw [hopening]
    exact ⟨by decide +kernel, rfl, by decide⟩
  · rw [hclosing]
    exact ⟨by decide +kernel, rfl, by decide⟩

/-- Marks behind a name stand behind its normal form too, at a distance if the name ends with blanks
once its groups are gone, and behind the long name of a type that has a short one. -/
theorem exists_front_of_normalName (name : List Char) :
    ∃ front, normalName name = shortName (trimEnd front) ∧
      ∀ tail, tail ≠ [] → (∀ c ∈ tail, IsMark c) →
        normalName (name ++ tail) = shortName (front ++ tail) := by
  rcases exists_front_of_collapseBlanks (withoutGroups none (lower (trimStart name))) with
    ⟨front, hfront, hput⟩
  refine ⟨front, ?_, ?_⟩
  · rw [normalName_eq, hfront]
  · intro tail hne htail
    have hsolid : ∀ c ∈ tail, isBlank c = false := fun c hc => (htail c hc).solid
    rw [normalName_eq, trimStart_append_of_solid hne hsolid,
      lower_append fun c hc => (htail c hc).caseless,
      withoutGroups_append fun h => (htail _ h).ne_closing rfl, hput tail hne hsolid]

theorem elementName?_append_brackets (name : List Char) :
    elementName? (normalName (name ++ brackets)) = some (normalName name) := by
  rcases exists_front_of_normalName name with ⟨front, hfront, hput⟩
  rw [hput brackets (by decide) isMark_of_mem_brackets, shortName_append_brackets, hfront]
  unfold elementName?
  rw [elementSpelling?_eq_some_iff.mpr rfl, Option.map_some]

theorem normalName_append_brackets (name : List Char) :
    normalName (name ++ brackets ++ brackets) = normalName (name ++ brackets) ++ brackets := by
  rcases exists_front_of_normalName name with ⟨front, _, hput⟩
  have htail : ∀ c ∈ brackets ++ brackets, IsMark c := by
    intro c hc
    rw [List.mem_append, or_self] at hc
    exact isMark_of_mem_brackets c hc
  rw [List.append_assoc, hput _ (by decide) htail, hput _ (by decide) isMark_of_mem_brackets,
    ← List.append_assoc, shortName_append_brackets, shortName_append_brackets]

end Rowsmith

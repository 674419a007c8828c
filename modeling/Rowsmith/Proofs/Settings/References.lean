import Mathlib.Data.List.Chain
import Rowsmith.Proofs.Basic
import Rowsmith.Settings.Config

/-!
# References in a text

A text is read in one way only: runs of characters that stand for themselves, references to
variables between them, and at its end perhaps a reference that is never closed. A text expands to
what its parts stand for, and the leftmost reference that stands for nothing makes it fail.
-/

namespace Rowsmith

/-!
# Parts of a text
-/

def referenceMark : List Char := ['$', '\x7b']

inductive TextPart where
  | plain (cs : List Char)
  | reference (name : List Char)
  deriving DecidableEq, Repr

namespace TextPart

def text : TextPart → List Char
  | plain cs => cs
  | reference name => referenceMark ++ (name ++ ['\x7d'])

def IsPlain : TextPart → Prop
  | plain _ => True
  | reference _ => False

/-- No reference begins in a run of plain characters, and a name ends at the first closing
brace. -/
def Legal : TextPart → Prop
  | plain cs => cs ≠ [] ∧ ¬referenceMark <:+: cs
  | reference name => '\x7d' ∉ name

/-- A variable's value is what it is, whatever it looks like. -/
def value (environment : Variables) : TextPart → List Char
  | plain cs => cs
  | reference name => ((environment.find? (String.ofList name)).getD "").toList

def fault? (environment : Variables) : TextPart → Option ExpansionError
  | plain _ => none
  | reference name =>
      if name = [] then some .unnamed
      else if environment.find? (String.ofList name) = none then
        some (.missing (String.ofList name))
      else none

end TextPart

/-- The parts of a text from left to right, and the name in a reference that is not closed. -/
structure Interpolation where
  parts : List TextPart
  unclosed : Option (List Char) := none
  deriving DecidableEq, Repr

namespace Interpolation

variable {environment : Variables} {reading : Interpolation}

def text (reading : Interpolation) : List Char :=
  reading.parts.flatMap TextPart.text ++ (reading.unclosed.map (referenceMark ++ ·)).getD []

/-- Plain characters that follow each other are in one part. -/
structure Legal (reading : Interpolation) : Prop where
  parts : ∀ part ∈ reading.parts, part.Legal
  apart : reading.parts.IsChain fun part next => part.IsPlain → ¬next.IsPlain
  unclosed : ∀ name ∈ reading.unclosed, '\x7d' ∉ name

def value (environment : Variables) (reading : Interpolation) : List Char :=
  reading.parts.flatMap (TextPart.value environment)

def fault? (environment : Variables) (reading : Interpolation) : Option ExpansionError :=
  (reading.parts.findSome? (TextPart.fault? environment)).or
    (reading.unclosed.map fun name => .unterminated (String.ofList name))

def outcome (environment : Variables) (reading : Interpolation) :
    Except ExpansionError (List Char) :=
  match reading.fault? environment with
  | none => .ok (reading.value environment)
  | some error => .error error

/-!
# Reading
-/

def withPart (reading : Interpolation) (part : TextPart) : Interpolation :=
  { reading with parts := part :: reading.parts }

def withChar (reading : Interpolation) (c : Char) : Interpolation :=
  match reading.parts with
  | .plain cs :: rest => { reading with parts := .plain (c :: cs) :: rest }
  | _ => reading.withPart (.plain [c])

/-- The first argument is the name being read, last character first, inside a reference. -/
def readFrom : Option (List Char) → List Char → Interpolation
  | none, [] => ⟨[], none⟩
  | none, '$' :: '\x7b' :: rest => readFrom (some []) rest
  | none, c :: rest => (readFrom none rest).withChar c
  | some name, [] => ⟨[], some name.reverse⟩
  | some name, c :: rest =>
      if c = '\x7d' then (readFrom none rest).withPart (.reference name.reverse)
      else readFrom (some (c :: name)) rest

def read (cs : List Char) : Interpolation :=
  readFrom none cs

theorem withChar_cases (reading : Interpolation) (c : Char) :
    (∃ cs rest, reading = ⟨.plain cs :: rest, reading.unclosed⟩ ∧
        reading.withChar c = ⟨.plain (c :: cs) :: rest, reading.unclosed⟩) ∨
      (∀ part ∈ reading.parts.head?, ¬part.IsPlain) ∧
        reading.withChar c = reading.withPart (.plain [c]) := by
  rcases reading with ⟨_ | ⟨cs | name, rest⟩, unclosed⟩
  · exact Or.inr ⟨by simp, rfl⟩
  · exact Or.inl ⟨cs, rest, rfl, rfl⟩
  · refine Or.inr ⟨?_, rfl⟩
    intro _ hsome hplain
    cases hsome
    exact hplain.elim

theorem text_withPart (reading : Interpolation) (part : TextPart) :
    (reading.withPart part).text = part.text ++ reading.text := by
  simp [withPart, text]

theorem text_withChar (reading : Interpolation) (c : Char) :
    (reading.withChar c).text = c :: reading.text := by
  rcases reading.withChar_cases c with ⟨cs, rest, hreading, h⟩ | ⟨_, h⟩
  · rw [h, hreading]
    rfl
  · rw [h, text_withPart]
    rfl

/-- The text that was read before, inside a reference. -/
def held (name : Option (List Char)) : List Char :=
  (name.map fun name => referenceMark ++ name.reverse).getD []

theorem text_readFrom (name : Option (List Char)) (cs : List Char) :
    (readFrom name cs).text = held name ++ cs := by
  fun_induction readFrom name cs with
  | case1 => rfl
  | case2 rest ih => rw [ih]; rfl
  | case3 c rest _ ih => rw [text_withChar, ih]; rfl
  | case4 name => simp [text, held]
  | case5 name rest ih =>
      rw [text_withPart, ih]
      simp [TextPart.text, held]
  | case6 name c rest _ ih =>
      rw [ih]
      simp [held]

theorem text_read (cs : List Char) : (read cs).text = cs :=
  text_readFrom none cs

/-!
# One way to read
-/

def Opens (c : Char) (rest : List Char) : Prop :=
  c = '$' ∧ rest.head? = some '{'

theorem referenceMark_infix_cons_iff {c : Char} {cs : List Char} :
    referenceMark <:+: c :: cs ↔ Opens c cs ∨ referenceMark <:+: cs := by
  rw [List.infix_cons_iff]
  refine or_congr_left ?_
  unfold referenceMark Opens
  rw [List.cons_prefix_cons]
  cases cs with
  | nil => simp
  | cons d rest => simp [List.cons_prefix_cons, eq_comm]

theorem legal_plain_singleton (c : Char) : (TextPart.plain [c]).Legal := by
  refine ⟨List.cons_ne_nil c [], ?_⟩
  rw [referenceMark_infix_cons_iff]
  simp [Opens, referenceMark]

theorem head?_text_plain {cs : List Char} (hcs : cs ≠ []) (rest : List TextPart)
    (unclosed : Option (List Char)) :
    (Interpolation.mk (.plain cs :: rest) unclosed).text.head? = cs.head? := by
  unfold text
  rw [List.flatMap_cons, List.append_assoc]
  exact List.head?_append_of_ne_nil _ hcs

theorem Legal.withPart (h : reading.Legal) {part : TextPart} (hpart : part.Legal)
    (hapart : ∀ next ∈ reading.parts.head?, part.IsPlain → ¬next.IsPlain) :
    (reading.withPart part).Legal := by
  constructor
  · intro other hother
    rcases List.mem_cons.mp hother with rfl | hother
    · exact hpart
    · exact h.parts other hother
  · exact List.isChain_cons.mpr ⟨hapart, h.apart⟩
  · exact h.unclosed

theorem Legal.withChar (h : reading.Legal) {c : Char} (hopens : ¬Opens c reading.text) :
    (reading.withChar c).Legal := by
  rcases reading.withChar_cases c with ⟨cs, rest, hreading, hchar⟩ | ⟨hplain, hchar⟩
  · rw [hreading] at h hopens
    rw [hchar]
    have hfirst := h.parts (.plain cs) (List.mem_cons_self ..)
    have hchain := List.isChain_cons.mp h.apart
    have hlonger : (TextPart.plain (c :: cs)).Legal := by
      refine ⟨List.cons_ne_nil c cs, ?_⟩
      rw [referenceMark_infix_cons_iff, not_or]
      refine ⟨?_, hfirst.right⟩
      intro hboth
      rcases hboth with ⟨hc, hhead⟩
      exact hopens ⟨hc, (head?_text_plain hfirst.left _ _).trans hhead⟩
    constructor
    · intro part hpart
      rcases List.mem_cons.mp hpart with rfl | hpart
      · exact hlonger
      · exact h.parts part (List.mem_cons_of_mem _ hpart)
    · exact List.isChain_cons.mpr ⟨hchain.left, hchain.right⟩
    · exact h.unclosed
  · rw [hchar]
    exact h.withPart (legal_plain_singleton c) fun next hnext _ => hplain next hnext

theorem not_opens {c : Char} {rest : List Char}
    (h : ∀ more, c = '$' → rest = '\x7b' :: more → False) : ¬Opens c rest := by
  intro hboth
  rcases hboth with ⟨hc, hhead⟩
  rcases List.head?_eq_some_iff.mp hhead with ⟨more, hrest⟩
  exact h more hc hrest

theorem legal_readFrom (name : Option (List Char)) (cs : List Char)
    (hname : ∀ cs ∈ name, '\x7d' ∉ cs) : (readFrom name cs).Legal := by
  fun_induction readFrom name cs with
  | case1 => exact ⟨by simp, .nil, by simp⟩
  | case2 rest ih => exact ih (by simp)
  | case3 c rest hopens ih =>
      refine (ih (by simp)).withChar ?_
      rw [text_readFrom]
      exact not_opens hopens
  | case4 name => exact ⟨by simp, .nil, by simpa using hname⟩
  | case5 name rest ih =>
      have hclosed : (TextPart.reference name.reverse).Legal := by
        simpa [TextPart.Legal] using hname
      exact (ih (by simp)).withPart hclosed fun _ _ hplain => hplain.elim
  | case6 name c rest hc ih =>
      apply ih
      intro _ hsome
      cases hsome
      simpa [Ne.symm hc] using hname

theorem legal_read (cs : List Char) : (read cs).Legal :=
  legal_readFrom none cs (by simp)

theorem read_cons {c : Char} {rest : List Char} (h : ¬Opens c rest) :
    read (c :: rest) = (read rest).withChar c := by
  unfold read
  rw [readFrom]
  intro more hc hrest
  exact h ⟨hc, by rw [hrest]; rfl⟩

theorem read_referenceMark (rest : List Char) :
    read (referenceMark ++ rest) = readFrom (some []) rest := rfl

theorem readFrom_closed {cs : List Char} (hcs : '\x7d' ∉ cs) (name rest : List Char) :
    readFrom (some name) (cs ++ '\x7d' :: rest) =
      (read rest).withPart (.reference (name.reverse ++ cs)) := by
  induction cs generalizing name with
  | nil => rw [List.nil_append, readFrom, if_pos rfl, List.append_nil, read]
  | cons c more ih =>
      rcases not_or.mp (mt List.mem_cons.mpr hcs) with ⟨hc, hmore⟩
      rw [List.cons_append, readFrom, if_neg (Ne.symm hc), ih hmore]
      simp

theorem readFrom_unclosed {cs : List Char} (hcs : '\x7d' ∉ cs) (name : List Char) :
    readFrom (some name) cs = ⟨[], some (name.reverse ++ cs)⟩ := by
  induction cs generalizing name with
  | nil => rw [readFrom, List.append_nil]
  | cons c more ih =>
      rcases not_or.mp (mt List.mem_cons.mpr hcs) with ⟨hc, hmore⟩
      rw [readFrom, if_neg (Ne.symm hc), ih hmore]
      simp

theorem read_plain_append {cs rest : List Char} (hcs : cs ≠ []) (hplain : ¬referenceMark <:+: cs)
    (hrest : rest.head? ≠ some '\x7b') (hnext : ∀ part ∈ (read rest).parts.head?, ¬part.IsPlain) :
    read (cs ++ rest) = (read rest).withPart (.plain cs) := by
  induction cs with
  | nil => exact absurd rfl hcs
  | cons c more ih =>
      rw [referenceMark_infix_cons_iff, not_or] at hplain
      cases more with
      | nil =>
          have hopens : ¬Opens c rest := fun hopens => hrest hopens.right
          rcases (read rest).withChar_cases c with ⟨cs, others, hreading, _⟩ | ⟨_, hchar⟩
          · rw [hreading] at hnext
            exact absurd trivial (hnext (.plain cs) rfl)
          · rw [List.singleton_append, read_cons hopens, hchar]
      | cons d others =>
          have hopens : ¬Opens c (d :: others ++ rest) := hplain.left
          rw [List.cons_append, read_cons hopens, ih (List.cons_ne_nil d others) hplain.right]
          rfl

theorem head?_text_of_not_plain (hnext : ∀ part ∈ reading.parts.head?, ¬part.IsPlain) :
    reading.text.head? ≠ some '\x7b' := by
  rcases reading with ⟨_ | ⟨cs | name, rest⟩, _ | unclosed⟩
  · simp [text]
  · simp [text, referenceMark]
  · exact absurd trivial (hnext (.plain cs) rfl)
  · exact absurd trivial (hnext (.plain cs) rfl)
  · simp [text, TextPart.text, referenceMark]
  · simp [text, TextPart.text, referenceMark]

theorem read_text (h : reading.Legal) : read reading.text = reading := by
  rcases reading with ⟨parts, unclosed⟩
  induction parts with
  | nil =>
      cases unclosed with
      | none => rfl
      | some name =>
          show read (referenceMark ++ name) = _
          rw [read_referenceMark, readFrom_unclosed (h.unclosed name rfl)]
          rfl
  | cons part rest ih =>
      rcases List.isChain_cons.mp h.apart with ⟨hnext, hchain⟩
      have hpart := h.parts part (List.mem_cons_self ..)
      have hrest := ih ⟨fun other hother => h.parts other (List.mem_cons_of_mem _ hother), hchain,
        h.unclosed⟩
      have htext := text_withPart ⟨rest, unclosed⟩ part
      unfold withPart at htext
      rw [htext]
      cases part with
      | plain cs =>
          have hapart : ∀ next ∈ rest.head?, ¬next.IsPlain :=
            fun next hmem => hnext next hmem trivial
          rw [TextPart.text, read_plain_append hpart.left hpart.right
            (head?_text_of_not_plain hapart) (by rwa [hrest]), hrest]
          rfl
      | reference name =>
          rw [TextPart.text, List.append_assoc, read_referenceMark, List.append_assoc,
            List.singleton_append, readFrom_closed hpart, hrest]
          rfl

/-!
# Expanding
-/

theorem outcome_withPart (environment : Variables) (reading : Interpolation) (part : TextPart) :
    (reading.withPart part).outcome environment =
      match part.fault? environment with
      | some error => .error error
      | none => (part.value environment ++ ·) <$> reading.outcome environment := by
  unfold outcome fault? value withPart
  dsimp only
  rw [List.findSome?_cons, List.flatMap_cons]
  cases part.fault? environment with
  | some error => rfl
  | none =>
      dsimp only
      cases (reading.parts.findSome? (TextPart.fault? environment)).or
        (reading.unclosed.map fun name => .unterminated (String.ofList name)) <;> rfl

theorem outcome_withChar (environment : Variables) (reading : Interpolation) (c : Char) :
    (reading.withChar c).outcome environment = (c :: ·) <$> reading.outcome environment := by
  rcases reading.withChar_cases c with ⟨cs, rest, hreading, h⟩ | ⟨_, h⟩
  · have hlonger := outcome_withPart environment ⟨rest, reading.unclosed⟩ (.plain (c :: cs))
    have hshorter := outcome_withPart environment ⟨rest, reading.unclosed⟩ (.plain cs)
    unfold withPart at hlonger hshorter
    rw [h, hlonger, hreading, hshorter]
    dsimp only [TextPart.fault?]
    cases outcome environment ⟨rest, reading.unclosed⟩ <;> rfl
  · rw [h, outcome_withPart]
    rfl

theorem reference_eq (environment : Variables) (name : List Char) :
    environment.reference name =
      match (TextPart.reference name).fault? environment with
      | some error => .error error
      | none => .ok ((TextPart.reference name).value environment) := by
  unfold Variables.reference TextPart.fault? TextPart.value
  cases name with
  | nil => rfl
  | cons c rest =>
      dsimp only [List.isEmpty_cons]
      rw [if_neg Bool.false_ne_true, if_neg (List.cons_ne_nil c rest)]
      cases environment.find? (String.ofList (c :: rest)) with
      | none => rfl
      | some value => rfl

theorem expandFrom_eq_outcome (environment : Variables) (name : Option (List Char))
    (cs : List Char) : expandFrom environment name cs = (readFrom name cs).outcome environment := by
  fun_induction readFrom name cs with
  | case1 => rfl
  | case2 rest ih => exact ih
  | case3 c rest hopens ih =>
      rw [expandFrom, ih, outcome_withChar]
      exact hopens
  | case4 name => rfl
  | case5 name rest ih =>
      rw [expandFrom, if_pos rfl, reference_eq, outcome_withPart, ih]
      cases (TextPart.reference name.reverse).fault? environment <;> rfl
  | case6 name c rest hc ih => rw [expandFrom, if_neg hc, ih]

theorem expand_eq_outcome (environment : Variables) (s : String) :
    expand environment s = String.ofList <$> (read s.toList).outcome environment := by
  rw [expand, expandFrom_eq_outcome, read]

/-!
# Texts one after the other
-/

theorem unclosed_withChar (reading : Interpolation) (c : Char) :
    (reading.withChar c).unclosed = reading.unclosed := by
  rcases reading.withChar_cases c with ⟨cs, rest, _, h⟩ | ⟨_, h⟩
  · rw [h]
  · rw [h]
    rfl

def joined (first second : Except ExpansionError (List Char)) :
    Except ExpansionError (List Char) := do
  let cs ← first
  let more ← second
  return cs ++ more

theorem joined_map_append (cs : List Char) (first second : Except ExpansionError (List Char)) :
    joined ((cs ++ ·) <$> first) second = (cs ++ ·) <$> joined first second := by
  cases first with
  | error error => rfl
  | ok more =>
      cases second with
      | error error => rfl
      | ok others => exact congrArg Except.ok (List.append_assoc cs more others)

theorem getLast?_ne_of_cons {c d : Char} {cs : List Char} (h : (c :: cs).getLast? ≠ some d) :
    cs.getLast? ≠ some d := by
  cases cs with
  | nil => simp
  | cons first more => rwa [List.getLast?_cons_cons] at h

/-- What comes after a text begins anew, unless the text ends within a reference or where one may
begin. -/
theorem expandFrom_append (environment : Variables) (name : Option (List Char))
    (cs rest : List Char) (hclosed : (readFrom name cs).unclosed = none)
    (hlast : cs.getLast? ≠ some '$') :
    expandFrom environment name (cs ++ rest) =
      joined (expandFrom environment name cs) (expandFrom environment none rest) := by
  -- The cases are those of reading the first text, whose end is where the second one begins anew.
  fun_induction readFrom name cs with
  | case1 =>
      show expandFrom environment none rest = _
      cases expandFrom environment none rest <;> rfl
  | case2 more ih => exact ih hclosed (getLast?_ne_of_cons (getLast?_ne_of_cons hlast))
  | case3 c more hopens ih =>
      have hlater : ∀ others, c = '$' → more ++ rest = '\x7b' :: others → False := by
        intro others hc hmore
        cases more with
        | nil => exact hlast (by rw [hc]; rfl)
        | cons d last => exact hopens last hc (by rw [(List.cons.inj hmore).left])
      rw [unclosed_withChar] at hclosed
      have htail := ih hclosed (getLast?_ne_of_cons hlast)
      rw [List.cons_append, expandFrom, expandFrom, htail]
      · exact (joined_map_append [c] _ _).symm
      · exact hopens
      · exact hlater
  | case4 name => cases hclosed
  | case5 name more ih =>
      have htail := ih hclosed (getLast?_ne_of_cons hlast)
      rw [List.cons_append, expandFrom, if_pos rfl, expandFrom, if_pos rfl, htail]
      cases environment.reference name.reverse with
      | error error => rfl
      | ok value => exact (joined_map_append value _ _).symm
  | case6 name c more hc ih =>
      have htail := ih hclosed (getLast?_ne_of_cons hlast)
      rw [List.cons_append, expandFrom, if_neg hc, expandFrom, if_neg hc, htail]

end Interpolation

/-!
# The grammar of references
-/

theorem TextPart.fault?_eq_none_iff {environment : Variables} {part : TextPart} :
    part.fault? environment = none ↔
      ∀ name, part = .reference name →
        name ≠ [] ∧ ∃ value, environment.find? (String.ofList name) = some value := by
  cases part with
  | plain cs => simp [fault?]
  | reference name =>
      by_cases hname : name = []
      · simp [fault?, hname]
      · cases hfind : environment.find? (String.ofList name) with
        | none => simp [fault?, hname, hfind]
        | some value => simp [fault?, hname, hfind]

/-- Every reference is closed, and it has a name, which is that of a variable. -/
structure Interpolation.Resolves (reading : Interpolation) (environment : Variables) : Prop where
  closed : reading.unclosed = none
  named : ∀ name, .reference name ∈ reading.parts →
    name ≠ [] ∧ ∃ value, environment.find? (String.ofList name) = some value

theorem Interpolation.fault?_eq_none_iff {environment : Variables} {reading : Interpolation} :
    reading.fault? environment = none ↔ reading.Resolves environment := by
  unfold fault?
  rw [Option.or_eq_none_iff, Option.map_eq_none_iff, List.findSome?_eq_none_iff]
  simp only [TextPart.fault?_eq_none_iff]
  constructor
  · intro hboth
    rcases hboth with ⟨hparts, hclosed⟩
    exact ⟨hclosed, fun name hname => hparts _ hname name rfl⟩
  · intro hboth
    rcases hboth with ⟨hclosed, hnamed⟩
    refine ⟨?_, hclosed⟩
    intro part hpart name hsame
    subst hsame
    exact hnamed name hpart

theorem Interpolation.read_of_no_referenceMark {cs : List Char} (h : ¬referenceMark <:+: cs) :
    read cs = ⟨if cs = [] then [] else [.plain cs], none⟩ := by
  by_cases hcs : cs = []
  · rw [hcs]
    rfl
  · rw [if_neg hcs]
    have hplain : read (cs ++ []) = (read []).withPart (.plain cs) :=
      read_plain_append hcs h (by simp) (by simp [read, readFrom])
    rwa [List.append_nil] at hplain

/-- A text is read in one way as plain parts and references from left to right. If all references
resolve, it expands to its plain parts and the values of the variables as they are; else it fails
with the fault of the leftmost one that does not. A text after it expands as if it stood alone,
unless the first one leaves a reference open or could begin one with its last character. -/
theorem expansion_follows_references (environment : Variables) (s : String) :
    (∃ reading : Interpolation, (reading.Legal ∧ reading.text = s.toList) ∧
      (∀ other : Interpolation, other.Legal → other.text = s.toList → other = reading) ∧
      (reading.Resolves environment →
        expand environment s = .ok (String.ofList (reading.value environment))) ∧
      (∀ error, reading.fault? environment = some error → expand environment s = .error error) ∧
      (reading.fault? environment = none ↔ reading.Resolves environment) ∧
      (reading.unclosed = none → s.toList.getLast? ≠ some '$' → ∀ t,
        expand environment (s ++ t) = do
          let first ← expand environment s
          let second ← expand environment t
          return first ++ second)) ∧
    (¬referenceMark <:+: s.toList → expand environment s = .ok s) := by
  have hexpand := Interpolation.expand_eq_outcome environment s
  constructor
  · refine ⟨.read s.toList, ⟨Interpolation.legal_read _, Interpolation.text_read _⟩, ?_, ?_, ?_,
      Interpolation.fault?_eq_none_iff, ?_⟩
    · intro other hlegal htext
      rw [← htext, Interpolation.read_text hlegal]
    · intro hresolves
      rw [hexpand, Interpolation.outcome, Interpolation.fault?_eq_none_iff.mpr hresolves]
      rfl
    · intro error hfault
      rw [hexpand, Interpolation.outcome, hfault]
      rfl
    · intro hclosed hlast t
      have hlists :=
        Interpolation.expandFrom_append environment none s.toList t.toList hclosed hlast
      unfold expand
      rw [String.toList_append, hlists]
      cases expandFrom environment none s.toList with
      | error error => rfl
      | ok cs =>
          cases expandFrom environment none t.toList with
          | error error => rfl
          | ok more => exact congrArg Except.ok String.ofList_append
  · intro hplain
    rw [hexpand, Interpolation.read_of_no_referenceMark hplain]
    by_cases hs : s.toList = []
    · rw [if_pos hs, String.toList_eq_nil_iff.mp hs]
      rfl
    · rw [if_neg hs]
      show Except.ok (String.ofList ([TextPart.plain s.toList].flatMap _)) = _
      rw [List.flatMap_singleton]
      exact congrArg Except.ok String.ofList_toList

/-- A dollar sign before a reference stands for itself, and a value that looks like a reference is
not looked at again. -/
theorem value_is_not_read_again :
    let environment : Variables := .ofList [("X", "$\x7bY\x7d")]
    let reading : Interpolation := ⟨[.plain ['a', '$'], .reference ['X'], .plain ['$', 'b']], none⟩
    reading.Legal ∧ reading.text = "a$$\x7bX\x7d$b".toList ∧ reading.Resolves environment ∧
      expand environment "a$$\x7bX\x7d$b" = .ok "a$$\x7bY\x7d$b" ∧
      expand environment ("a$$\x7bX\x7d$b" ++ "$\x7bY\x7d$\x7b") = .error (.missing "Y") := by
  intro environment reading
  have hread : Interpolation.read "a$$\x7bX\x7d$b".toList = reading := by decide
  have hlegal : reading.Legal := by
    rw [← hread]
    exact Interpolation.legal_read _
  have htext : reading.text = "a$$\x7bX\x7d$b".toList := by decide
  have hresolves : reading.Resolves environment := Interpolation.fault?_eq_none_iff.mp (by decide)
  rcases (expansion_follows_references environment "a$$\x7bX\x7d$b").left with
    ⟨own, _, hunique, hvalue, _, _, happend⟩
  cases hunique reading hlegal htext
  have hexpand : expand environment "a$$\x7bX\x7d$b" = .ok "a$$\x7bY\x7d$b" := by
    rw [hvalue hresolves]
    decide
  refine ⟨hlegal, htext, hresolves, hexpand, ?_⟩
  rw [happend hresolves.closed (by decide), hexpand]
  decide

end Rowsmith

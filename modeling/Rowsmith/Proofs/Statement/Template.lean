import Rowsmith.Proofs.Statement.FragmentLaw
import Rowsmith.Proofs.Statement.ReadBack

/-!
# Templates

What a fragment writes is a template: characters, and among them the values that it binds. Numbers
come in only when a template is spelled after some count of earlier values. Read with its arguments
in their places, a text gives the template back, whatever numbers it was spelled with.
-/

namespace Rowsmith

open Text

/-!
# Texts with numbered slots
-/

inductive Lexeme where
  | sign (c : Char)
  | slot (number : Nat)
  deriving DecidableEq, Repr

namespace Lexeme

def spelling : Lexeme → List Char
  | .sign c => [c]
  | .slot number => spelledToken number

def later (n : Nat) : Lexeme → Lexeme
  | .sign c => .sign c
  | .slot number => .slot (number + n)

end Lexeme

/-- The digits of a slot, the last one first. A dollar sign alone is only a sign. -/
def closedSlot (digits : List Char) : Lexeme :=
  if digits.isEmpty then .sign '$' else .slot (Nat.ofDigitChars 10 digits.reverse 0)

/-- The first argument holds the digits of the slot being read, the last digit first. -/
def lexemesFrom : Option (List Char) → List Char → List Lexeme
  | none, [] => []
  | some digits, [] => [closedSlot digits]
  | none, c :: rest =>
      if c = '$' then lexemesFrom (some []) rest else .sign c :: lexemesFrom none rest
  | some digits, c :: rest =>
      if isDigit c then lexemesFrom (some (c :: digits)) rest
      else
        closedSlot digits ::
          if c = '$' then lexemesFrom (some []) rest else .sign c :: lexemesFrom none rest

def lexemes (text : String) : List Lexeme :=
  lexemesFrom none text.toList

def renumber (n : Nat) (text : String) : String :=
  String.ofList (((lexemes text).map (Lexeme.later n)).flatMap Lexeme.spelling)

/-!
# Templates
-/

inductive Mark where
  | sign (c : Char)
  | bound (v : Value)
  deriving DecidableEq, Repr

abbrev Template := List Mark

def Lexeme.mark? (arguments : List Value) : Lexeme → Option Mark
  | .sign c => some (.sign c)
  | .slot number => (argument? arguments number).map .bound

/-- The text with its arguments in the place of their numbers. -/
def meaning? (arguments : List Value) (text : String) : Option Template :=
  (lexemes text).mapM (Lexeme.mark? arguments)

namespace Template

def ofText (s : String) : Template :=
  s.toList.map .sign

def values : Template → List Value
  | [] => []
  | .sign _ :: rest => values rest
  | .bound v :: rest => v :: values rest

def numbered : Nat → Template → List Lexeme
  | _, [] => []
  | n, .sign c :: rest => .sign c :: numbered n rest
  | n, .bound _ :: rest => .slot (n + 1) :: numbered (n + 1) rest

def text (n : Nat) (template : Template) : String :=
  String.ofList ((numbered n template).flatMap Lexeme.spelling)

/-- What begins so can be told from a number before it. -/
def Clear (template : Template) : Prop :=
  ∀ c, template.head? = some (.sign c) → isDigit c = false

/-- The slots can be found again once they are numbered. -/
def Legible : Template → Prop
  | [] => True
  | .sign c :: rest => c ≠ '$' ∧ Legible rest
  | .bound _ :: rest => Clear rest ∧ Legible rest

/-!
# Templates put together
-/

theorem values_append (s t : Template) : values (s ++ t) = values s ++ values t := by
  induction s with
  | nil => rfl
  | cons mark rest ih =>
      cases mark with
      | sign c => exact ih
      | bound v => exact congrArg (v :: ·) ih

theorem numbered_append (n : Nat) (s t : Template) :
    numbered n (s ++ t) = numbered n s ++ numbered (n + (values s).length) t := by
  induction s generalizing n with
  | nil => rfl
  | cons mark rest ih =>
      cases mark with
      | sign c => exact congrArg (_ :: ·) (ih n)
      | bound v =>
          have hcount : n + (values (.bound v :: rest)).length = n + 1 + (values rest).length := by
            rw [values, List.length_cons]
            omega
          rw [hcount]
          exact congrArg (_ :: ·) (ih (n + 1))

theorem text_append (n : Nat) (s t : Template) :
    text n (s ++ t) = text n s ++ text (n + (values s).length) t := by
  unfold text
  rw [numbered_append, List.flatMap_append, String.ofList_append]

theorem values_ofText (s : String) : values (ofText s) = [] := by
  unfold ofText
  induction s.toList with
  | nil => rfl
  | cons c rest ih => exact ih

theorem text_ofText (n : Nat) (s : String) : text n (ofText s) = s := by
  unfold text ofText
  have hspelled : (numbered n (s.toList.map Mark.sign)).flatMap Lexeme.spelling = s.toList := by
    induction s.toList with
    | nil => rfl
    | cons c rest ih => exact congrArg (c :: ·) ih
  rw [hspelled, String.ofList_toList]

theorem Legible.append {s t : Template} (hs : Legible s) (ht : Legible t) (hclear : Clear t) :
    Legible (s ++ t) := by
  induction s with
  | nil => exact ht
  | cons mark rest ih =>
      cases mark with
      | sign c => exact ⟨hs.left, ih hs.right⟩
      | bound v =>
          refine ⟨?_, ih hs.right⟩
          cases rest with
          | nil => exact hclear
          | cons next more => exact hs.left

theorem legible_ofText_append {s : String} (hs : DollarFree s) {t : Template} (ht : Legible t) :
    Legible (ofText s ++ t) := by
  unfold DollarFree at hs
  unfold ofText
  generalize s.toList = cs at hs
  induction cs with
  | nil => exact ht
  | cons c rest ih =>
      rcases List.ne_and_not_mem_of_not_mem_cons hs with ⟨hc, hrest⟩
      exact ⟨Ne.symm hc, ih hrest⟩

theorem clear_ofText {s : String} (h : StartsClear s) : Clear (ofText s) := by
  intro c hc
  apply h c
  unfold ofText at hc
  cases hs : s.toList with
  | nil =>
      rw [hs] at hc
      cases hc
  | cons d rest =>
      rw [hs] at hc
      cases hc
      rfl

theorem clear_ofText_append {s : String} {c : Char} {rest : List Char}
    (hfirst : s.toList = c :: rest) (hc : isDigit c = false) (t : Template) :
    Clear (ofText s ++ t) := by
  intro d hd
  unfold ofText at hd
  rw [hfirst] at hd
  cases hd
  exact hc

/-!
# Templates read back
-/

theorem lexemesFrom_digits (digits run rest : List Char) (hrun : ∀ c ∈ run, isDigit c = true) :
    lexemesFrom (some digits) (run ++ rest) = lexemesFrom (some (run.reverse ++ digits)) rest := by
  induction run generalizing digits with
  | nil => rfl
  | cons c more ih =>
      rw [List.cons_append, lexemesFrom, if_pos (hrun c (by simp)),
        ih _ fun d hd => hrun d (by simp [hd])]
      simp

theorem lexemesFrom_some (digits : List Char) {rest : List Char}
    (hrest : ∀ c ∈ rest.head?, isDigit c = false) :
    lexemesFrom (some digits) rest = closedSlot digits :: lexemesFrom none rest := by
  cases rest with
  | nil => rfl
  | cons c more =>
      have hc : ¬ isDigit c = true := by simp [hrest c rfl]
      show (if isDigit c then _ else _) = _
      rw [if_neg hc]
      rfl

theorem closedSlot_toDigits (number : Nat) :
    closedSlot (Nat.toDigits 10 number).reverse = .slot number := by
  unfold closedSlot
  rw [if_neg (by simp), List.reverse_reverse, Nat.ofDigitChars_ten_toDigits]

theorem lexemesFrom_slot (number : Nat) {rest : List Char}
    (hrest : ∀ c ∈ rest.head?, isDigit c = false) :
    lexemesFrom none (spelledToken number ++ rest) =
      .slot number :: lexemesFrom none rest := by
  have hdigits : ∀ c ∈ Nat.toDigits 10 number, isDigit c = true :=
    fun c hc => isDigit_of_mem_toDigits hc
  rw [spelledToken, List.cons_append, lexemesFrom, if_pos rfl, lexemesFrom_digits _ _ _ hdigits,
    List.append_nil, lexemesFrom_some _ hrest, closedSlot_toDigits]

theorem head?_spelled {n : Nat} {template : Template} (hclear : Clear template) :
    ∀ c ∈ ((numbered n template).flatMap Lexeme.spelling).head?, isDigit c = false := by
  intro c hc
  cases template with
  | nil => cases hc
  | cons mark rest =>
      cases mark with
      | sign d =>
          cases hc
          exact hclear c rfl
      | bound v =>
          cases hc
          decide

theorem lexemes_text {template : Template} (h : Legible template) (n : Nat) :
    lexemes (text n template) = numbered n template := by
  unfold lexemes text
  rw [String.toList_ofList]
  -- The count grows with every value that is passed, so it is general in the induction.
  induction template generalizing n with
  | nil => rfl
  | cons mark rest ih =>
      cases mark with
      | sign c =>
          rw [numbered, List.flatMap_cons, Lexeme.spelling, List.singleton_append, lexemesFrom,
            if_neg h.left, ih h.right]
      | bound v =>
          rw [numbered, List.flatMap_cons, Lexeme.spelling,
            lexemesFrom_slot _ (head?_spelled h.left), ih h.right]

theorem numbered_later (m n : Nat) (template : Template) :
    (numbered n template).map (Lexeme.later m) = numbered (n + m) template := by
  induction template generalizing n with
  | nil => rfl
  | cons mark rest ih =>
      cases mark with
      | sign c => exact congrArg (_ :: ·) (ih n)
      | bound v =>
          rw [numbered, numbered, List.map_cons, ih, Lexeme.later]
          rw [show n + 1 + m = n + m + 1 by omega]

/-- Renumbering a text spells its template after more values. -/
theorem renumber_text {template : Template} (h : Legible template) (m n : Nat) :
    renumber m (text n template) = text (n + m) template := by
  unfold renumber
  rw [lexemes_text h, numbered_later]
  rfl

example : renumber 9 "(a = $1) OR (b = $12)" = "(a = $10) OR (b = $21)" := by decide +kernel

/-- Whatever numbers the values got, a text means its template. -/
theorem meaning?_text {template : Template} (h : Legible template) (before after : List Value) :
    meaning? (before ++ (template.values ++ after)) (text before.length template) =
      some template := by
  unfold meaning?
  rw [lexemes_text h]
  -- Nothing depends on the letters any more, and the values passed so far grow in the induction.
  clear h
  induction template generalizing before with
  | nil => rfl
  | cons mark rest ih =>
      cases mark with
      | sign c =>
          rw [numbered, values, List.mapM_cons, ih]
          rfl
      | bound v =>
          have hv : argument? (before ++ (v :: (values rest ++ after))) (before.length + 1) =
              some v := by
            simp [argument?]
          have hrest := ih (before ++ [v])
          rw [List.length_append, List.length_singleton, List.append_assoc,
            List.singleton_append] at hrest
          rw [numbered, values, List.mapM_cons, Lexeme.mark?, List.cons_append, hv, hrest]
          rfl

end Template

end Rowsmith

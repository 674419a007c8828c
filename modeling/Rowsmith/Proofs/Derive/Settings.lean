import Mathlib.Data.List.Forall2
import Rowsmith.Derive.Expansion
import Rowsmith.Proofs.Basic

/-!
# Well-formed settings

The settings of a field as a grammar, apart from how they are read: an attribute holds any number of
settings with commas between them, of which there may be one more at the end. What can be read is
exactly what the grammar derives.
-/

namespace Rowsmith
namespace Derive

/-!
# The grammar
-/

inductive SaysSetting : Tokens → Setting → Prop where
  | column (joint : Bool) (spelling name : String) :
      SaysSetting [wordToken "column", .punctuation '=' joint, .literal spelling (.text name)]
        (.column name)
  | skip : SaysSetting [wordToken "skip"] .skip

inductive ListsSettings : Tokens → List Setting → Prop where
  | nil : ListsSettings [] []
  | last {tokens : Tokens} {setting : Setting} : SaysSetting tokens setting →
      ListsSettings tokens [setting]
  | cons {tokens rest : Tokens} {setting : Setting} {settings : List Setting} (joint : Bool) :
      SaysSetting tokens setting → ListsSettings rest settings →
      ListsSettings (tokens ++ .punctuation ',' joint :: rest) (setting :: settings)

/-- Attributes of other names say nothing, whatever is in them. -/
inductive Attribute.Declares : Attribute → List Setting → Prop where
  | own {path : NamePath} {delimiter : Delimiter} {tokens : Tokens} {settings : List Setting} :
      path.isWord "pggo" = true → ListsSettings tokens settings →
      Attribute.Declares ⟨path, .list delimiter tokens⟩ settings
  | foreign {self : Attribute} : self.path.isWord "pggo" = false → self.Declares []

def Field.Declares (field : Field) (settings : List Setting) : Prop :=
  ∃ parts, List.Forall₂ Attribute.Declares field.attributes parts ∧ parts.flatten = settings

/-!
# One setting
-/

section Setting

variable {piece : Piece} {tokens rest : Tokens} {setting : Setting}

theorem laterNames_eq_nil (h : piece.laterNames tokens = .ok ([], rest)) : rest = tokens := by
  unfold Piece.laterNames at h
  split at h
  · rcases bind_eq_ok_iff.mp h with ⟨⟨names, later⟩, _, hnames⟩
    cases hnames
  · cases h
  · cases h
    rfl

theorem tokens_of_path {path : NamePath} {word : String} (h : piece.path = .ok (path, rest))
    (hword : path.isWord word = true) : piece.tokens = wordToken word :: rest := by
  unfold Piece.path at h
  dsimp only at h
  generalize htokens : (if begins "::" piece.tokens then piece.tokens.drop 2 else piece.tokens) =
    tokens at h
  split at h
  · next name following =>
      rcases bind_eq_ok_iff.mp h with ⟨⟨names, later⟩, hlater, hpath⟩
      cases hpath
      have hparts : begins "::" piece.tokens = false ∧ name = ⟨word, false⟩ ∧ names = [] := by
        simpa [NamePath.isWord] using hword
      rcases hparts with ⟨hrooted, rfl, rfl⟩
      rw [hrooted, if_neg Bool.false_ne_true] at htokens
      rw [htokens, laterNames_eq_nil hlater]
      rfl
  · split at h
    · cases h
    · split at h
      · cases h
      · cases h

theorem tokens_of_columnName {name : String} (h : piece.columnName tokens = .ok (name, rest)) :
    ∃ joint spelling,
      tokens = .punctuation '=' joint :: .literal spelling (.text name) :: rest := by
  unfold Piece.columnName at h
  split at h
  · cases h
    exact ⟨_, _, rfl⟩
  · cases h
  · cases h

theorem setting_of_saysSetting (comma : Bool) (h : SaysSetting tokens setting) :
    Piece.setting ⟨tokens, comma⟩ = .ok setting := by
  cases h with
  | column joint spelling name => rfl
  | skip => rfl

theorem saysSetting_of_setting (h : piece.setting = .ok setting) :
    SaysSetting piece.tokens setting := by
  unfold Piece.setting at h
  rcases bind_eq_ok_iff.mp h with ⟨⟨path, following⟩, hpath, hrest⟩
  dsimp only at hrest
  split at hrest
  · next hcolumn =>
      rcases bind_eq_ok_iff.mp hrest with ⟨⟨name, last⟩, hname, hend⟩
      rcases tokens_of_columnName hname with ⟨joint, spelling, rfl⟩
      rw [tokens_of_path hpath hcolumn]
      cases last with
      | nil =>
          cases hend
          exact SaysSetting.column joint spelling name
      | cons token last => cases hend
  · split at hrest
    · next hskip =>
        rw [tokens_of_path hpath hskip]
        cases following with
        | nil =>
            cases hrest
            exact SaysSetting.skip
        | cons token following => cases hrest
    · cases hrest

theorem setting_eq_ok_iff : piece.setting = .ok setting ↔ SaysSetting piece.tokens setting :=
  ⟨saysSetting_of_setting, setting_of_saysSetting piece.comma⟩

end Setting

/-!
# Settings between commas
-/

def IsUnparted (tokens : Tokens) : Prop :=
  ∀ joint, Token.punctuation ',' joint ∉ tokens

theorem SaysSetting.isUnparted {tokens : Tokens} {setting : Setting}
    (h : SaysSetting tokens setting) : IsUnparted tokens := by
  intro joint
  cases h with
  | column => simp [wordToken]
  | skip => simp [wordToken]

theorem SaysSetting.ne_nil {tokens : Tokens} {setting : Setting}
    (h : SaysSetting tokens setting) : tokens ≠ [] := by
  cases h with
  | column => exact List.cons_ne_nil _ _
  | skip => exact List.cons_ne_nil _ _

theorem parted_inj {front other rest more : Tokens} {joint joint' : Bool}
    (hfront : IsUnparted front) (hother : IsUnparted other)
    (h : front ++ .punctuation ',' joint :: rest = other ++ .punctuation ',' joint' :: more) :
    front = other ∧ rest = more := by
  induction front generalizing other with
  | nil =>
      cases other with
      | nil =>
          cases h
          exact ⟨rfl, rfl⟩
      | cons token other =>
          cases h
          exact absurd List.mem_cons_self (hother joint)
  | cons token front ih =>
      cases other with
      | nil =>
          cases h
          exact absurd List.mem_cons_self (hfront joint')
      | cons first other =>
          rw [List.cons_append, List.cons_append, List.cons.injEq] at h
          rcases h with ⟨rfl, h⟩
          have hparts := ih (fun j hj => hfront j (List.mem_cons_of_mem _ hj))
            (fun j hj => hother j (List.mem_cons_of_mem _ hj)) h
          rw [hparts.left]
          exact ⟨rfl, hparts.right⟩

theorem listsSettings_unparted_iff {tokens : Tokens} {settings : List Setting}
    (h : IsUnparted tokens) (hne : tokens ≠ []) : ListsSettings tokens settings ↔
      ∃ setting, settings = [setting] ∧ SaysSetting tokens setting := by
  constructor
  · intro hlists
    cases hlists with
    | nil => exact absurd rfl hne
    | last hsaid => exact ⟨_, rfl, hsaid⟩
    | cons joint _ _ => exact absurd (by simp) (h joint)
  · intro hexists
    rcases hexists with ⟨setting, rfl, hsaid⟩
    exact ListsSettings.last hsaid

theorem listsSettings_parted_iff {front rest : Tokens} {joint : Bool} {settings : List Setting}
    (h : IsUnparted front) : ListsSettings (front ++ .punctuation ',' joint :: rest) settings ↔
      ∃ setting others, settings = setting :: others ∧ SaysSetting front setting ∧
        ListsSettings rest others := by
  constructor
  · intro hlists
    generalize hall : front ++ .punctuation ',' joint :: rest = all at hlists
    cases hlists with
    | nil => simp at hall
    | last hsaid =>
        rw [← hall] at hsaid
        exact absurd (by simp) (hsaid.isUnparted joint)
    | cons joint' hsaid hrest =>
        rcases parted_inj h hsaid.isUnparted hall with ⟨rfl, rfl⟩
        exact ⟨_, _, rfl, hsaid, hrest⟩
  · intro hexists
    rcases hexists with ⟨setting, others, rfl, hsaid, hrest⟩
    exact ListsSettings.cons joint hsaid hrest

theorem listsSettings_nil_iff {settings : List Setting} :
    ListsSettings [] settings ↔ settings = [] := by
  constructor
  · intro h
    generalize hnone : ([] : Tokens) = none at h
    cases h with
    | nil => rfl
    | last hsaid => exact absurd hnone.symm hsaid.ne_nil
    | cons joint _ _ => simp at hnone
  · intro hsame
    subst hsame
    exact ListsSettings.nil

theorem settings_piecesFrom_nil_iff {held : Tokens} {settings : List Setting}
    (hheld : IsUnparted held.reverse) :
    (piecesFrom held []).mapM Piece.setting = .ok settings ↔
      ListsSettings held.reverse settings := by
  cases held with
  | nil =>
      rw [List.reverse_nil, listsSettings_nil_iff]
      exact ⟨fun h => by cases h; rfl, fun h => by cases h; rfl⟩
  | cons token held =>
      have hpieces : piecesFrom (token :: held) [] = [⟨(token :: held).reverse, false⟩] := by
        rw [piecesFrom]
        exact List.cons_ne_nil _ _
      rw [listsSettings_unparted_iff hheld (by simp), hpieces, List.mapM_cons, bind_eq_ok_iff]
      simp only [List.mapM_nil, setting_eq_ok_iff]
      constructor
      · intro hexists
        rcases hexists with ⟨setting, hsaid, h⟩
        cases h
        exact ⟨setting, rfl, hsaid⟩
      · intro hexists
        rcases hexists with ⟨setting, rfl, hsaid⟩
        exact ⟨setting, hsaid, rfl⟩

theorem settings_piecesFrom_iff {held tokens : Tokens} {settings : List Setting}
    (hheld : IsUnparted held.reverse) :
    (piecesFrom held tokens).mapM Piece.setting = .ok settings ↔
      ListsSettings (held.reverse ++ tokens) settings := by
  -- The reader holds the tokens since the last comma, the last one first.
  induction tokens generalizing held settings with
  | nil =>
      rw [List.append_nil]
      exact settings_piecesFrom_nil_iff hheld
  | cons token rest ih =>
      have hcases : (∃ joint, token = .punctuation ',' joint) ∨
          ∀ joint, token ≠ .punctuation ',' joint := by
        by_cases hcomma : ∃ joint, token = .punctuation ',' joint
        · exact Or.inl hcomma
        · exact Or.inr fun joint hjoint => hcomma ⟨joint, hjoint⟩
      rcases hcases with ⟨joint, rfl⟩ | hother
      · have hnone : IsUnparted (List.reverse []) := fun _ => List.not_mem_nil
        have hrest := fun others => @ih [] others hnone
        rw [listsSettings_parted_iff hheld, piecesFrom, List.mapM_cons, both_eq_ok_iff]
        simp only [setting_eq_ok_iff, hrest, List.reverse_nil, List.nil_append]
        constructor
        · intro hexists
          rcases hexists with ⟨setting, others, hsaid, hothers, h⟩
          exact ⟨setting, others, h, hsaid, hothers⟩
        · intro hexists
          rcases hexists with ⟨setting, others, h, hsaid, hothers⟩
          exact ⟨setting, others, hsaid, hothers, h⟩
      · have hlonger : IsUnparted (token :: held).reverse := by
          intro joint hmem
          rw [List.reverse_cons, List.mem_append, List.mem_singleton] at hmem
          rcases hmem with hmem | hlast
          · exact hheld joint hmem
          · exact hother joint hlast.symm
        have hpieces : piecesFrom held (token :: rest) = piecesFrom (token :: held) rest := by
          rw [piecesFrom]
          exact hother
        rw [hpieces, ih hlonger, List.reverse_cons, List.append_assoc, List.singleton_append]

theorem settings_pieces_iff {tokens : Tokens} {settings : List Setting} :
    (pieces tokens).mapM Piece.setting = .ok settings ↔ ListsSettings tokens settings :=
  settings_piecesFrom_iff fun _ => List.not_mem_nil

/-!
# Attributes and fields
-/

theorem mapM_eq_ok_iff_forall₂ {α β ε : Type} {f : α → Except ε β} {members : List α}
    {results : List β} : members.mapM f = .ok results ↔
      List.Forall₂ (fun a b => f a = .ok b) members results := by
  induction members generalizing results with
  | nil =>
      rw [List.mapM_nil, List.forall₂_nil_left_iff]
      constructor
      · intro h
        cases h
        rfl
      · intro hsame
        subst hsame
        rfl
  | cons a members ih =>
      rw [List.mapM_cons, both_eq_ok_iff, List.forall₂_cons_left_iff]
      simp only [ih]

theorem Attribute.settings_eq_ok_iff {self : Attribute} {settings : List Setting} :
    self.settings = .ok settings ↔ self.Declares settings := by
  constructor
  · intro h
    unfold Attribute.settings at h
    split at h
    · next hown =>
        rcases self with ⟨path, arguments⟩
        cases arguments with
        | absent => cases h
        | value tokens => cases h
        | list delimiter tokens => exact Declares.own hown (settings_pieces_iff.mp h)
    · next hforeign =>
        cases h
        exact Declares.foreign (Bool.eq_false_iff.mpr hforeign)
  · intro h
    unfold Attribute.settings
    cases h with
    | own hown hlists =>
        rw [if_pos hown]
        exact settings_pieces_iff.mpr hlists
    | foreign hforeign =>
        rw [if_neg (Bool.eq_false_iff.mp hforeign)]
        rfl

theorem Field.settings_eq_ok_iff {field : Field} {settings : List Setting} :
    field.settings = .ok settings ↔ field.Declares settings := by
  unfold Field.settings Field.Declares
  simp only [bind_eq_ok_iff, mapM_eq_ok_iff_forall₂, Attribute.settings_eq_ok_iff]
  constructor
  · intro hexists
    rcases hexists with ⟨parts, hparts, h⟩
    cases h
    exact ⟨parts, hparts, rfl⟩
  · intro hexists
    rcases hexists with ⟨parts, hparts, rfl⟩
    exact ⟨parts, hparts, rfl⟩

end Derive
end Rowsmith

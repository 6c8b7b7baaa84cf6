import Mathlib.Data.List.Infix
import Mathlib.Data.List.Basic

/-! Patterns of `LIKE`: what they match, and that text with its special characters escaped stands for
itself. -/

namespace CareerProjects.Library.Like

inductive Token where
  | sequence
  | single
  | literal (c : Char)

/-- The parts of a pattern; nothing where it ends in an escape character. -/
def tokens (escape : Char) : List Char → Option (List Token)
  | [] => some []
  | c :: rest =>
    if c = escape then
      match rest with
      | [] => none
      | d :: rest => (tokens escape rest).map (.literal d :: ·)
    else if c = '%' then (tokens escape rest).map (.sequence :: ·)
    else if c = '_' then (tokens escape rest).map (.single :: ·)
    else (tokens escape rest).map (.literal c :: ·)

def accepts : List Token → List Char → Bool
  | [], text => text.isEmpty
  | .sequence :: pattern, text => text.tails.any (accepts pattern)
  | .single :: pattern, _ :: text => accepts pattern text
  | .literal c :: pattern, d :: text => c = d && accepts pattern text
  | .single :: _, [] => false
  | .literal _ :: _, [] => false

/-- `text LIKE pattern ESCAPE escape`; nothing where it raises an error. -/
def like (escape : Char) (pattern text : List Char) : Option Bool :=
  (tokens escape pattern).map fun pattern => accepts pattern text

def escapeChar (escape c : Char) : List Char :=
  if c = escape ∨ c = '%' ∨ c = '_' then [escape, c] else [c]

theorem tokens_cons {escape c : Char} (plain : c ≠ escape) (rest : List Char) :
    tokens escape (c :: rest) = (tokens escape rest).map
      ((if c = '%' then .sequence else if c = '_' then .single else .literal c) :: ·) := by
  rw [tokens.eq_def]
  simp only [if_neg plain]
  split_ifs <;> rfl

theorem tokens_escapeChar (escape c : Char) (rest : List Char) :
    tokens escape (escapeChar escape c ++ rest) = (tokens escape rest).map (.literal c :: ·) := by
  unfold escapeChar
  by_cases special : c = escape ∨ c = '%' ∨ c = '_'
  · rw [if_pos special]
    simp [tokens]
  · rw [if_neg special]
    rw [not_or, not_or] at special
    rw [List.singleton_append, tokens_cons special.1, if_neg special.2.1, if_neg special.2.2]

theorem tokens_escaped (escape : Char) (text rest : List Char) :
    tokens escape (text.flatMap (escapeChar escape) ++ rest) =
      (tokens escape rest).map (text.map Token.literal ++ ·) := by
  induction text with
  | nil => simp
  | cons c text ih =>
    rw [List.flatMap_cons, List.append_assoc, tokens_escapeChar, ih, Option.map_map]
    rfl

theorem accepts_sequence {pattern : List Token} {text : List Char} :
    accepts (.sequence :: pattern) text = true ↔ ∃ rest, rest <:+ text ∧ accepts pattern rest = true := by
  rw [accepts, List.any_eq_true]
  simp only [List.mem_tails]

theorem accepts_literals {text : List Char} {pattern : List Token} {subject : List Char} :
    accepts (text.map Token.literal ++ pattern) subject = true ↔
      ∃ rest, subject = text ++ rest ∧ accepts pattern rest = true := by
  induction text generalizing subject with
  | nil => simp
  | cons c text ih =>
    cases subject with
    | nil => simp [accepts]
    | cons d subject =>
      rw [List.map_cons, List.cons_append, accepts, Bool.and_eq_true, decide_eq_true_iff, ih]
      simp only [List.cons_append, List.cons.injEq]
      grind

theorem accepts_between {text subject : List Char} :
    accepts (.sequence :: (text.map Token.literal ++ [.sequence])) subject = true ↔ text <:+: subject := by
  have all : ∀ rest, accepts [.sequence] rest = true := fun rest =>
    accepts_sequence.mpr ⟨[], List.nil_suffix, rfl⟩
  rw [accepts_sequence, List.infix_iff_prefix_suffix]
  constructor
  · rintro ⟨suffix, inside, accepted⟩
    obtain ⟨rest, shape, -⟩ := accepts_literals.mp accepted
    exact ⟨suffix, ⟨rest, shape.symm⟩, inside⟩
  · rintro ⟨suffix, ⟨rest, shape⟩, inside⟩
    exact ⟨suffix, inside, accepts_literals.mpr ⟨rest, shape.symm, all rest⟩⟩

theorem like_between {escape : Char} (apart : escape ≠ '%') (text subject : List Char) :
    like escape ('%' :: (text.flatMap (escapeChar escape) ++ ['%'])) subject = some (decide (text <:+: subject)) := by
  have last : tokens escape ['%'] = some [.sequence] := by
    rw [tokens_cons apart.symm]
    rfl
  have whole : tokens escape ('%' :: (text.flatMap (escapeChar escape) ++ ['%'])) =
      some (.sequence :: (text.map Token.literal ++ [.sequence])) := by
    rw [tokens_cons apart.symm, if_pos rfl, tokens_escaped, last]
    rfl
  rw [like, whole, Option.map_some, Option.some.injEq, Bool.eq_iff_iff, decide_eq_true_iff]
  exact accepts_between

end CareerProjects.Library.Like

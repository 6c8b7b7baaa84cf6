import Mathlib.Data.List.Basic
import Mathlib.Data.List.DropRight

/-! Texts taken apart: into lines that a mark ends, at the first occurrence of a separator, and from the
white space around them. -/

namespace CareerProjects.Library

variable {α : Type*} [DecidableEq α] {mark : α} {line text rest separator : List α} {lines : List (List α)}

def splitLines (mark : α) : List α → List (List α)
  | [] => []
  | a :: rest =>
    if a = mark then [] :: splitLines mark rest
    else
      match splitLines mark rest with
      | [] => [[a]]
      | line :: lines => (a :: line) :: lines

theorem splitLines_append (plain : mark ∉ line) :
    splitLines mark (line ++ mark :: rest) = line :: splitLines mark rest := by
  induction line with
  | nil => simp [splitLines]
  | cons a line ih =>
    rw [List.mem_cons, not_or] at plain
    rw [List.cons_append, splitLines, if_neg (Ne.symm plain.1), ih plain.2]

theorem splitLines_flatMap (plain : ∀ line ∈ lines, mark ∉ line) :
    splitLines mark (lines.flatMap fun line => line ++ [mark]) = lines := by
  induction lines with
  | nil => rfl
  | cons line lines ih =>
    rw [List.forall_mem_cons] at plain
    rw [List.flatMap_cons, List.append_assoc, List.singleton_append, splitLines_append plain.1, ih plain.2]

theorem count_le_length_splitLines (text : List α) : text.count mark ≤ (splitLines mark text).length := by
  induction text with
  | nil => simp
  | cons a text ih =>
    unfold splitLines
    rw [List.count_cons]
    by_cases ends : a = mark
    · simp only [ends, beq_self_eq_true, if_true, List.length_cons]
      omega
    · rw [if_neg ends]
      simp only [beq_iff_eq, ends, if_false]
      split
      · next none =>
        rw [none] at ih
        simp only [List.length_nil] at ih
        simp only [List.length_singleton]
        omega
      · next line lines found =>
        rw [found] at ih
        simpa using ih

/-- What comes before the first occurrence of a separator, and what comes after it. -/
def cut (separator : List α) : List α → Option (List α × List α)
  | [] => none
  | a :: rest =>
    if separator.isPrefixOf (a :: rest) then some ([], (a :: rest).drop separator.length)
    else (cut separator rest).map fun parts => (a :: parts.1, parts.2)

theorem cut_append {front back : List α} (shape : separator = front ++ mark :: back) (apart : mark ∉ front)
    (plain : mark ∉ text) : cut separator (text ++ (separator ++ rest)) = some (text, rest) := by
  induction text with
  | nil =>
    rw [List.nil_append]
    obtain ⟨a, others, same⟩ := List.exists_cons_of_ne_nil (show separator ≠ [] by simp [shape])
    rw [same, List.cons_append, cut, if_pos]
    · simp
    · simp
  | cons a text ih =>
    have inside : ¬separator <+: a :: text ++ (separator ++ rest) := by
      -- the mark of the separator would stand at a place before the one it has
      rintro ⟨others, same⟩
      have place := congrArg (fun whole => whole[front.length]?) same
      have left : (separator ++ others)[front.length]? = some mark := by simp [shape]
      have right : (a :: text ++ (separator ++ rest))[front.length]? =
          (a :: text ++ front)[front.length]? := by
        rw [shape, List.append_assoc front, ← List.append_assoc (a :: text),
          List.getElem?_append_left (by simp only [List.length_append, List.length_cons]; omega)]
      have member := List.mem_of_getElem? ((right.symm.trans place.symm).trans left)
      rw [List.mem_append] at member
      exact member.elim plain apart
    rw [List.mem_cons, not_or] at plain
    rw [List.cons_append, cut, if_neg (by rwa [List.isPrefixOf_iff_prefix]), ih plain.2]
    rfl

/-- The parts of a text that a mark ends; what comes after the last mark is none of them. -/
def terminated (mark : α) (text : List α) : List (List α) := (text.splitOn mark).dropLast

theorem terminated_of_not_mem (plain : mark ∉ text) : terminated mark text = [] := by
  rw [terminated, List.splitOn_eq_singleton plain]
  rfl

theorem terminated_append (plain : mark ∉ line) :
    terminated mark (line ++ mark :: rest) = line :: terminated mark rest := by
  rw [terminated, List.splitOn_append_cons_self_of_not_mem plain,
    List.dropLast_cons_of_ne_nil (List.splitOn_ne_nil _ _), terminated]

def isSpace (c : Char) : Bool :=
  (9 ≤ c.toNat ∧ c.toNat ≤ 13) ∨ (28 ≤ c.toNat ∧ c.toNat ≤ 32) ∨ (0x2000 ≤ c.toNat ∧ c.toNat ≤ 0x200A) ∨
    c.toNat ∈ [0x85, 0xA0, 0x1680, 0x2028, 0x2029, 0x202F, 0x205F, 0x3000]

def strip (text : List Char) : List Char := (text.dropWhile isSpace).rdropWhile isSpace

end CareerProjects.Library

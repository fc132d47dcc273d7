import EtcdClient.Text.Cut
import Mathlib.Data.List.Infix

/-
# Where texts are cut

The pieces of a text that is put together at a separator are the pieces of its two parts
(`pieces_append_cons`), and a text without the separator is one piece. So a text has as many pieces
as the reader who joined them put in, and no other reading is left (`pieces_eq_triple`). A text that
is looked for as a whole is found at its first place, and it is found if it stands anywhere
(`cutAt_append_of_not_mem`, `cutAt_eq_none_iff`).
-/

namespace EtcdClient
namespace Text

/-! ### Pieces -/

section Pieces

variable {sep : Char}

/-- Cutting at every separator is what the library calls splitting. -/
theorem pieces_eq_splitOn (sep : Char) (cs : List Char) : pieces sep cs = cs.splitOn sep := by
  induction cs with
  | nil => rfl
  | cons c cs ih =>
    rw [pieces, List.splitOn_cons_eq_if_modifyHead, ← ih]
    by_cases hc : c = sep
    · rw [if_pos hc, if_pos (beq_iff_eq.2 hc)]
    · rw [if_neg hc, if_neg (mt beq_iff_eq.1 hc)]
      cases hp : pieces sep cs with
      | nil => exact absurd hp (pieces_ne_nil sep cs)
      | cons p ps => rfl

/-- A separator cuts a text in two, and the pieces of both follow one another. -/
theorem pieces_append_cons (as bs : List Char) :
    pieces sep (as ++ sep :: bs) = pieces sep as ++ pieces sep bs := by
  rw [pieces_eq_splitOn, pieces_eq_splitOn, pieces_eq_splitOn]
  exact List.splitOn_append_cons_self as bs

/-- A text without a separator is one piece. -/
theorem pieces_of_not_mem {cs : List Char} (h : sep ∉ cs) : pieces sep cs = [cs] := by
  rw [pieces_eq_splitOn]
  exact List.splitOn_eq_singleton h

/-- Three pieces come of two separators and no other text. -/
theorem pieces_eq_triple {cs a b c : List Char} : pieces sep cs = [a, b, c] ↔
    cs = a ++ sep :: (b ++ sep :: c) ∧ sep ∉ a ∧ sep ∉ b ∧ sep ∉ c := by
  constructor
  · intro h
    have hjoin := join_pieces sep cs
    have hmem : ∀ p ∈ [a, b, c], sep ∉ p := fun p hp => not_mem_of_mem_pieces (h ▸ hp)
    rw [h] at hjoin
    refine ⟨?_, hmem a (by simp), hmem b (by simp), hmem c (by simp)⟩
    rw [← hjoin]
    simp [List.intersperse]
  · rintro ⟨rfl, ha, hb, hc⟩
    rw [pieces_append_cons, pieces_append_cons, pieces_of_not_mem ha, pieces_of_not_mem hb,
      pieces_of_not_mem hc]
    rfl

end Pieces

/-! ### A whole text -/

/-- The first place is found where the first character stands for the first time. -/
theorem cutAt_append_of_not_mem {c : Char} {sep a : List Char} (h : c ∉ a) (b : List Char) :
    cutAt (c :: sep) (a ++ (c :: sep) ++ b) = some (a, b) := by
  induction a with
  | nil =>
    have hfound : (c :: sep).isPrefixOf (c :: (sep ++ b)) = true :=
      List.isPrefixOf_iff_prefix.2 (List.prefix_append (c :: sep) b)
    rw [List.nil_append, List.cons_append, cutAt, if_pos hfound, List.length_cons,
      List.drop_succ_cons, List.drop_left]
  | cons d a ih =>
    have hd : c ≠ d := fun hcd => h (hcd ▸ List.mem_cons_self)
    have ha : c ∉ a := fun hmem => h (List.mem_cons_of_mem d hmem)
    have hother : ¬ (c :: sep).isPrefixOf (d :: (a ++ (c :: sep) ++ b)) = true := by
      intro hprefix
      obtain ⟨hcd, -⟩ := List.cons_prefix_cons.1 (List.isPrefixOf_iff_prefix.1 hprefix)
      exact hd hcd
    rw [List.cons_append, List.cons_append, cutAt, if_neg hother, ih ha]
    rfl

/-- Nothing is cut just if the text stands nowhere. -/
theorem cutAt_eq_none_iff {sep cs : List Char} (hsep : sep ≠ []) :
    cutAt sep cs = none ↔ ¬ sep <:+: cs := by
  induction cs with
  | nil => rw [cutAt, if_neg hsep, List.infix_nil, iff_true_left rfl]; exact hsep
  | cons c cs ih =>
    rw [cutAt, List.infix_cons_iff, not_or, ← ih, ← List.isPrefixOf_iff_prefix]
    by_cases hprefix : sep.isPrefixOf (c :: cs) = true
    · rw [if_pos hprefix]
      exact iff_of_false (Option.some_ne_none _) fun h => h.1 hprefix
    · rw [if_neg hprefix, Option.map_eq_none_iff, and_iff_right hprefix]

end Text
end EtcdClient

/-
# Cutting texts at separators

`cutFirst` and `cutLast` split a text at the first and at the last place where a character stands,
`cutAt` at the first place where a whole text stands, `pieces` at every place where a character
stands. Each of them loses the separators and nothing else: the parts joined by the separator are
the text that was cut (`cutFirst_eq_some`, `cutLast_eq_some`, `cutAt_eq_some`, `join_pieces`).
-/

namespace EtcdClient
namespace Text

/-- The parts before and after the first `sep`. -/
def cutFirst (sep : Char) : List Char → Option (List Char × List Char)
  | [] => none
  | c :: cs => if c = sep then some ([], cs) else (cutFirst sep cs).map fun (a, b) => (c :: a, b)

/-- The parts before and after the last `sep`. -/
def cutLast (sep : Char) : List Char → Option (List Char × List Char)
  | [] => none
  | c :: cs =>
    match cutLast sep cs with
    | some (a, b) => some (c :: a, b)
    | none => if c = sep then some ([], cs) else none

/-- The parts before and after the first place where all of `sep` stands. -/
def cutAt (sep : List Char) : List Char → Option (List Char × List Char)
  | [] => if sep = [] then some ([], []) else none
  | c :: cs =>
    if sep.isPrefixOf (c :: cs) then some ([], (c :: cs).drop sep.length)
    else (cutAt sep cs).map fun (a, b) => (c :: a, b)

/-- The parts between the separators, one more than there are separators. -/
def pieces (sep : Char) : List Char → List (List Char)
  | [] => [[]]
  | c :: cs =>
    if c = sep then [] :: pieces sep cs
    else
      match pieces sep cs with
      | [] => [[c]]
      | p :: ps => (c :: p) :: ps

theorem cutFirst_eq_some {sep : Char} {cs a b : List Char} :
    cutFirst sep cs = some (a, b) ↔ cs = a ++ sep :: b ∧ sep ∉ a := by
  induction cs generalizing a b with
  | nil => simp [cutFirst]
  | cons c cs ih =>
    by_cases h : c = sep
    · subst h
      simp only [cutFirst, if_pos, Option.some.injEq, Prod.mk.injEq]
      constructor
      · rintro ⟨rfl, rfl⟩; simp
      · rintro ⟨h, hs⟩
        cases a with
        | nil => simpa [eq_comm] using h
        | cons x xs =>
          simp only [List.cons_append, List.cons.injEq] at h
          exact absurd (h.1 ▸ List.mem_cons_self) hs
    · simp only [cutFirst, if_neg h, Option.map_eq_some_iff, Prod.mk.injEq, Prod.exists]
      constructor
      · rintro ⟨x, y, hx, rfl, rfl⟩
        obtain ⟨rfl, hs⟩ := ih.1 hx
        exact ⟨rfl, by simpa [Ne.symm h] using hs⟩
      · rintro ⟨h', hs⟩
        cases a with
        | nil =>
          simp only [List.nil_append, List.cons.injEq] at h'
          exact absurd h'.1 h
        | cons x xs =>
          simp only [List.cons_append, List.cons.injEq] at h'
          obtain ⟨rfl, rfl⟩ := h'
          exact ⟨xs, b, ih.2 ⟨rfl, fun hm => hs (List.mem_cons_of_mem _ hm)⟩, rfl, rfl⟩

theorem cutFirst_eq_none {sep : Char} {cs : List Char} : cutFirst sep cs = none ↔ sep ∉ cs := by
  induction cs with
  | nil => simp [cutFirst]
  | cons c cs ih =>
    by_cases h : c = sep
    · simp [cutFirst, h]
    · simp [cutFirst, h, ih, Ne.symm h]

theorem cutLast_eq_none {sep : Char} {cs : List Char} : cutLast sep cs = none ↔ sep ∉ cs := by
  induction cs with
  | nil => simp [cutLast]
  | cons c cs ih =>
    rcases h : cutLast sep cs with _ | ⟨a, b⟩
    · have := ih.1 h
      by_cases hc : c = sep
      · simp [cutLast, h, hc]
      · simp [cutLast, h, hc, Ne.symm hc, this]
    · have : sep ∈ cs := by
        by_cases hm : sep ∈ cs
        · exact hm
        · rw [ih.2 hm] at h; exact absurd h nofun
      simp [cutLast, h, this]

theorem cutLast_eq_some {sep : Char} {cs a b : List Char} :
    cutLast sep cs = some (a, b) ↔ cs = a ++ sep :: b ∧ sep ∉ b := by
  induction cs generalizing a b with
  | nil => simp [cutLast]
  | cons c cs ih =>
    rcases h : cutLast sep cs with _ | ⟨x, y⟩
    · have hn := cutLast_eq_none.1 h
      by_cases hc : c = sep
      · subst hc
        simp only [cutLast, h, if_pos, Option.some.injEq, Prod.mk.injEq]
        constructor
        · rintro ⟨rfl, rfl⟩; exact ⟨rfl, hn⟩
        · rintro ⟨h', -⟩
          cases a with
          | nil => simpa [eq_comm] using h'
          | cons z zs =>
            simp only [List.cons_append, List.cons.injEq] at h'
            exact absurd (h'.2 ▸ (by simp)) hn
      · simp only [cutLast, h, if_neg hc]
        constructor
        · exact nofun
        · rintro ⟨h', -⟩
          cases a with
          | nil =>
            simp only [List.nil_append, List.cons.injEq] at h'
            exact absurd h'.1 hc
          | cons z zs =>
            simp only [List.cons_append, List.cons.injEq] at h'
            exact absurd (h'.2 ▸ (by simp)) hn
    · obtain ⟨hcs, hy⟩ := ih.1 h
      simp only [cutLast, h, Option.some.injEq, Prod.mk.injEq]
      constructor
      · rintro ⟨rfl, rfl⟩; exact ⟨by rw [hcs]; rfl, hy⟩
      · rintro ⟨h', hb⟩
        cases a with
        | nil =>
          simp only [List.nil_append, List.cons.injEq] at h'
          exact absurd (h'.2 ▸ hcs ▸ (by simp)) hb
        | cons z zs =>
          simp only [List.cons_append, List.cons.injEq] at h'
          obtain ⟨rfl, h'⟩ := h'
          have := (ih (a := zs) (b := b)).2 ⟨h', hb⟩
          rw [h] at this
          simp only [Option.some.injEq, Prod.mk.injEq] at this
          exact ⟨by rw [this.1], this.2⟩

theorem cutAt_eq_some {sep cs a b : List Char} (h : cutAt sep cs = some (a, b)) :
    cs = a ++ sep ++ b := by
  induction cs generalizing a b with
  | nil =>
    by_cases hs : sep = []
    · simp only [cutAt, if_pos hs, Option.some.injEq, Prod.mk.injEq] at h
      simp [← h.1, ← h.2, hs]
    · simp [cutAt, hs] at h
  | cons c cs ih =>
    by_cases hp : sep.isPrefixOf (c :: cs) = true
    · simp only [cutAt, hp, if_true, Option.some.injEq, Prod.mk.injEq] at h
      obtain ⟨t, ht⟩ := List.isPrefixOf_iff_prefix.1 hp
      rw [← h.1, ← h.2, ← ht]
      simp
    · simp only [cutAt, hp, Bool.false_eq_true, if_false, Option.map_eq_some_iff, Prod.mk.injEq,
        Prod.exists] at h
      obtain ⟨x, y, hx, rfl, rfl⟩ := h
      simp [ih hx]

@[simp] theorem pieces_ne_nil (sep : Char) (cs : List Char) : pieces sep cs ≠ [] := by
  cases cs with
  | nil => simp [pieces]
  | cons c cs =>
    by_cases h : c = sep
    · simp [pieces, h]
    · rcases hp : pieces sep cs with _ | ⟨p, ps⟩ <;> simp [pieces, h, hp]

/-- No piece holds the separator. -/
theorem not_mem_of_mem_pieces {sep : Char} {cs p : List Char} (h : p ∈ pieces sep cs) :
    sep ∉ p := by
  induction cs generalizing p with
  | nil => simp_all [pieces]
  | cons c cs ih =>
    by_cases hc : c = sep
    · simp only [pieces, if_pos hc, List.mem_cons] at h
      rcases h with rfl | h
      · simp
      · exact ih h
    · rcases hp : pieces sep cs with _ | ⟨q, qs⟩
      · exact absurd hp (pieces_ne_nil sep cs)
      · simp only [pieces, if_neg hc, hp, List.mem_cons] at h
        rcases h with rfl | h
        · simpa [Ne.symm hc] using ih (p := q) (by simp [hp])
        · exact ih (by simp [hp, h])

/-- What stands in a piece stands in the text. -/
theorem mem_of_mem_pieces {sep c : Char} {cs p : List Char} (h : p ∈ pieces sep cs)
    (hc : c ∈ p) : c ∈ cs := by
  induction cs generalizing p with
  | nil => simp_all [pieces]
  | cons d cs ih =>
    by_cases hd : d = sep
    · simp only [pieces, if_pos hd, List.mem_cons] at h
      rcases h with rfl | h
      · exact absurd hc List.not_mem_nil
      · exact List.mem_cons_of_mem d (ih h hc)
    · rcases hp : pieces sep cs with _ | ⟨q, qs⟩
      · exact absurd hp (pieces_ne_nil sep cs)
      · simp only [pieces, if_neg hd, hp, List.mem_cons] at h
        rcases h with rfl | h
        · rcases List.mem_cons.1 hc with rfl | hc
          · exact List.mem_cons_self
          · exact List.mem_cons_of_mem d (ih (p := q) (by simp [hp]) hc)
        · exact List.mem_cons_of_mem d (ih (by simp [hp, h]) hc)

/-- The pieces joined by the separator are the text. -/
theorem join_pieces (sep : Char) (cs : List Char) :
    ((pieces sep cs).intersperse [sep]).flatten = cs := by
  induction cs with
  | nil => rfl
  | cons c cs ih =>
    rcases hp : pieces sep cs with _ | ⟨p, ps⟩
    · exact absurd hp (pieces_ne_nil sep cs)
    · rw [hp] at ih
      by_cases hc : c = sep
      · simp only [pieces, if_pos hc, hp]
        simp only [List.intersperse, List.flatten_cons, List.nil_append, ih, hc]
        rfl
      · simp only [pieces, if_neg hc, hp]
        cases ps with
        | nil => simpa [List.intersperse] using ih
        | cons q qs =>
          simp only [List.intersperse, List.flatten_cons, List.cons_append] at ih ⊢
          rw [ih]

end Text
end EtcdClient

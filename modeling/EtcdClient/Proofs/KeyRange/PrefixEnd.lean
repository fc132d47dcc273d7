import EtcdClient.KeyRange

/-
# The end of a prefix

The keys that begin with a byte string `p` stand next to each other in the order of keys: they are
those at or after `p` and before `prefixEnd p`, or all at or after `p` if `p` has no end
(`isPrefix_iff`). The end is found byte by byte as the order is:

| `p` | its end |
| --- | --- |
| bytes 255 alone | none |
| `b :: bs`, where `bs` has the end `e` | `b :: e` |
| `b :: bs`, where `bs` has none and `b` is below 255 | `b + 1` alone |

An end never has 0 as its last byte, so it is not mistaken for the range end that stands for all
keys (`prefixEnd_ne_endOfKeys`). It is the least byte string above all that begin with `p`
(`prefixEnd_least_bound`), because whatever lies between `p` and its end begins with `p`.

Source: `SPEC_FULL.md` §6: the smallest byte string greater than all that share the prefix.
-/

namespace EtcdClient

/-- A byte is less than the next one just if it is at most the byte itself. -/
theorem byte_lt_succ_iff {b : UInt8} (hb : b ≠ 255) (c : UInt8) : c < b + 1 ↔ c ≤ b := by
  have hne : b.toNat ≠ 255 := fun h => hb (UInt8.toNat_inj.1 h)
  have hlt := b.toNat_lt
  rw [UInt8.lt_iff_toNat_lt, UInt8.le_iff_toNat_le, UInt8.toNat_add, UInt8.toNat_one]
  omega

/-- The next byte of one that is not the last is not zero: nothing wraps around. -/
theorem byte_succ_ne_zero {b : UInt8} (hb : b ≠ 255) : b + 1 ≠ 0 := by
  intro h
  have hlt : b < b + 1 := (byte_lt_succ_iff hb b).2 (UInt8.le_refl b)
  rw [h] at hlt
  exact absurd hlt UInt8.not_lt_zero

/-- The cases of the end of a prefix with a first byte. -/
theorem prefixEnd_cons_cases (b : UInt8) (bs : Bytes) :
    (prefixEnd bs = [] ∧ b = 255 ∧ prefixEnd (b :: bs) = []) ∨
      (prefixEnd bs = [] ∧ b ≠ 255 ∧ prefixEnd (b :: bs) = [b + 1]) ∨
        (prefixEnd bs ≠ [] ∧ prefixEnd (b :: bs) = b :: prefixEnd bs) := by
  rw [prefixEnd]
  cases hbs : prefixEnd bs with
  | nil =>
    by_cases hb : b = 255
    · exact .inl ⟨rfl, hb, if_pos hb⟩
    · exact .inr (.inl ⟨rfl, hb, if_neg hb⟩)
  | cons e es => exact .inr (.inr ⟨List.cons_ne_nil e es, rfl⟩)

/-- Only bytes 255 leave nothing above all continuations. -/
theorem prefixEnd_eq_nil_iff (p : Bytes) : prefixEnd p = [] ↔ ∀ b ∈ p, b = 255 := by
  induction p with
  | nil => simp [prefixEnd]
  | cons b bs ih =>
    rw [List.forall_mem_cons, ← ih]
    obtain ⟨hbs, hb, h⟩ | ⟨hbs, hb, h⟩ | ⟨hbs, h⟩ := prefixEnd_cons_cases b bs
    · exact iff_of_true h ⟨hb, hbs⟩
    · exact iff_of_false (by simp [h]) fun h' => hb h'.1
    · exact iff_of_false (by simp [h]) fun h' => hbs h'.2

/-- The last byte of an end is a byte that was incremented. -/
theorem zero_ne_of_getLast?_prefixEnd (p : Bytes) : (prefixEnd p).getLast? ≠ some 0 := by
  induction p with
  | nil => simp [prefixEnd]
  | cons b bs ih =>
    obtain ⟨-, -, h⟩ | ⟨-, hb, h⟩ | ⟨hbs, h⟩ := prefixEnd_cons_cases b bs
    · simp [h]
    · simp [h, byte_succ_ne_zero hb]
    · rw [h, List.getLast?_cons_of_ne_nil hbs]
      exact ih

/-- The end of a prefix is never taken for the end that stands for no end. -/
theorem prefixEnd_ne_endOfKeys (p : Bytes) : prefixEnd p ≠ endOfKeys := by
  intro h
  exact zero_ne_of_getLast?_prefixEnd p (by rw [h]; rfl)

/-- **The keys that begin with `p` are those from `p` up to its end**, or all from `p` onwards if
it has none. -/
theorem isPrefix_iff (p k : Bytes) :
    p <+: k ↔ p ≤ k ∧ (prefixEnd p = [] ∨ k < prefixEnd p) := by
  induction p generalizing k with
  | nil => simp [prefixEnd, List.nil_le]
  | cons b bs ih =>
    cases k with
    | nil => simp
    | cons c cs =>
      -- Both sides are read off the first bytes, then off the rest, by what the end of the prefix
      -- is.
      rw [List.cons_prefix_cons, ih, List.cons_le_cons_iff]
      obtain ⟨hbs, rfl, h⟩ | ⟨hbs, hb, h⟩ | ⟨hbs, h⟩ := prefixEnd_cons_cases b bs
      · -- No byte is above 255, so a key at or after `p` has it as well.
        have hnone : ¬ (255 : UInt8) < c := by
          rw [UInt8.not_lt]
          exact UInt8.le_iff_toNat_le.2 (by have := c.toNat_lt; simpa using by omega)
        simp [h, hbs, hnone]
      -- The rest has no end, so the first byte is raised and a key before it has at most the byte
      -- `b`.
      · have hlt : c :: cs < [b + 1] ↔ c ≤ b := by
          rw [List.cons_lt_cons_iff, byte_lt_succ_iff hb]
          simp
        rw [h, hlt]
        simp only [hbs, true_or, and_true, List.cons_ne_nil, false_or]
        constructor
        · rintro ⟨rfl, hle⟩
          exact ⟨.inr ⟨rfl, hle⟩, UInt8.le_refl b⟩
        · rintro ⟨hlt' | ⟨rfl, hle⟩, hcb⟩
          · exact absurd hlt' (UInt8.not_lt.2 hcb)
          · exact ⟨rfl, hle⟩
      -- The rest has an end, so the key has the byte `b` and its rest lies before that end.
      · rw [h, List.cons_lt_cons_iff]
        simp only [hbs, List.cons_ne_nil, false_or]
        constructor
        · rintro ⟨rfl, hle, hlt⟩
          exact ⟨.inr ⟨rfl, hle⟩, .inr ⟨rfl, hlt⟩⟩
        · rintro ⟨hbc | ⟨rfl, hle⟩, hcb | ⟨hcb, hlt⟩⟩
          · exact absurd (UInt8.lt_trans hbc hcb) (UInt8.lt_irrefl b)
          · exact absurd (hcb ▸ hbc) (UInt8.lt_irrefl b)
          · exact absurd hcb (UInt8.lt_irrefl b)
          · exact ⟨rfl, hle, hlt⟩

/-! ### The bound above a prefix -/

/-- All keys with the prefix lie before its end, if it has one. -/
theorem lt_prefixEnd {p k : Bytes} (hend : prefixEnd p ≠ []) (hk : p <+: k) : k < prefixEnd p :=
  ((isPrefix_iff p k).1 hk).2.resolve_left hend

/-- No byte string below the end is above all that begin with `p`, since it would begin with `p`
itself. -/
theorem prefixEnd_le {p q : Bytes} (h : ∀ k, p <+: k → k < q) : prefixEnd p ≤ q := by
  refine List.not_lt.1 fun hlt => ?_
  -- Otherwise `q` would be at or after the prefix and before its end, and so begin with the prefix.
  have hpq : p ≤ q := List.le_of_lt (h p (List.prefix_refl p))
  have hq : p <+: q := (isPrefix_iff p q).2 ⟨hpq, .inr hlt⟩
  exact List.lt_irrefl q (h q hq)

/-- Byte strings that begin with a prefix without an end go beyond any bound. -/
theorem exists_le_of_prefixEnd_eq_nil {p : Bytes} (hend : prefixEnd p = []) (q : Bytes) :
    ∃ k, p <+: k ∧ q ≤ k := by
  rcases List.le_total p q with hpq | hqp
  · exact ⟨q, (isPrefix_iff p q).2 ⟨hpq, .inl hend⟩, List.le_refl q⟩
  · exact ⟨p, List.prefix_refl p, hqp⟩

/-- The end of a prefix is no longer than the prefix. -/
theorem length_prefixEnd_le (p : Bytes) : (prefixEnd p).length ≤ p.length := by
  induction p with
  | nil => exact Nat.le_refl 0
  | cons b bs ih =>
    rw [List.length_cons]
    obtain ⟨-, -, h⟩ | ⟨-, -, h⟩ | ⟨-, h⟩ := prefixEnd_cons_cases b bs
    · rw [h]
      exact Nat.zero_le _
    · rw [h]
      exact Nat.succ_le_succ (Nat.zero_le _)
    · rw [h]
      exact Nat.succ_le_succ ih

/-- **The end of a prefix is the least bound above what begins with it.** It is empty if and only if
all bytes are 255, and then there is no bound at all. Otherwise it is above every byte string that
begins with `p`, every other such bound is at or after it, it is no longer than `p`, and its last
byte is not 0. -/
theorem prefixEnd_least_bound (p : Bytes) :
    (prefixEnd p = [] ↔ ∀ b ∈ p, b = 255) ∧
      (prefixEnd p = [] → ∀ q, ∃ k, p <+: k ∧ q ≤ k) ∧
        (prefixEnd p ≠ [] →
          (∀ k, p <+: k → k < prefixEnd p) ∧
            (∀ q, (∀ k, p <+: k → k < q) → prefixEnd p ≤ q) ∧
              (prefixEnd p).length ≤ p.length ∧ (prefixEnd p).getLast? ≠ some 0 ∧
                prefixEnd p ≠ endOfKeys) :=
  ⟨prefixEnd_eq_nil_iff p, exists_le_of_prefixEnd_eq_nil, fun hend =>
    ⟨fun _ => lt_prefixEnd hend, fun _ => prefixEnd_le, length_prefixEnd_le p,
      zero_ne_of_getLast?_prefixEnd p, prefixEnd_ne_endOfKeys p⟩⟩

/-- All that begins with `115, 254, 255` is before `115, 255`, which is a tighter bound than `116`;
what begins with `255` has no bound. -/
theorem prefixEnd_least_bound_of_late_bytes :
    prefixEnd [115, 254, 255] ≠ [] ∧ ([115, 254, 255] : Bytes) <+: [115, 254, 255, 0] ∧
      ([115, 254, 255, 0] : Bytes) < prefixEnd [115, 254, 255] ∧
        (∀ k : Bytes, [115, 254, 255] <+: k → k < [116]) ∧ prefixEnd [115, 254, 255] ≤ [116] ∧
          prefixEnd [255] = [] ∧ ∃ k : Bytes, [255] <+: k ∧ [255, 255, 1] ≤ k := by
  have hend : prefixEnd [115, 254, 255] ≠ [] := by decide
  obtain ⟨-, -, hbound⟩ := prefixEnd_least_bound [115, 254, 255]
  obtain ⟨habove, hleast, -⟩ := hbound hend
  have hkey : ([115, 254, 255] : Bytes) <+: [115, 254, 255, 0] := ⟨[0], rfl⟩
  have hlater (k : Bytes) (hk : [115, 254, 255] <+: k) : k < [116] := by
    obtain ⟨rest, rfl⟩ := hk
    exact List.cons_lt_cons_iff.2 (.inl (by decide))
  have hnone : prefixEnd [255] = [] := by decide
  exact ⟨hend, hkey, habove _ hkey, hlater, hleast _ hlater, hnone,
    (prefixEnd_least_bound [255]).2.1 hnone _⟩

end EtcdClient

import EtcdClient.Text.Numeral

/-
# What numerals write

A text writes a natural number if it is a run of ASCII digits, perhaps with a plus sign in front.
`Writes` says so without a reader, and `readNatural_eq_ok_iff` says that the reader accepts exactly
these texts, up to its largest value. A number has many texts, `7`, `007` and `+7` for instance, but
only one without a sign and without leading zeros, which is the one that `decimal` gives
(`decimal_ofDigitChars`). All others are this one behind zeros, with or without a sign
(`writes_iff_sign_zeros`).

Source: the numbers in versions, ports and variables.
-/

namespace EtcdClient
namespace Text

/-- A text writes a natural number in ASCII digits, a plus sign allowed. -/
def Writes (cs : List Char) (n : Nat) : Prop :=
  ∃ ds, (cs = ds ∨ cs = '+' :: ds) ∧ ds ≠ [] ∧ (∀ d ∈ ds, d.isDigit = true) ∧
    Nat.ofDigitChars 10 ds 0 = n

/-! ### Reading -/

/-- Further digits make a number no smaller, so a value that is too large on the way is too large at
the end. -/
theorem le_ofDigitChars (cs : List Char) (n : Nat) : n ≤ Nat.ofDigitChars 10 cs n := by
  induction cs generalizing n with
  | nil => exact Nat.le_of_eq Nat.ofDigitChars_nil.symm
  | cons c cs ih =>
    rw [Nat.ofDigitChars_cons]
    have hrest := ih (10 * n + (c.toNat - '0'.toNat))
    omega

/-- Digits are read to the end if their value fits. What is read on the way is no larger, so it is
the last value alone that decides. -/
theorem readDigits_eq_ok_iff {max n m : Nat} {beyond : NumeralFault} {cs : List Char}
    (hn : n ≤ max) : readDigits max beyond n cs = .ok m ↔
      (∀ c ∈ cs, c.isDigit = true) ∧ Nat.ofDigitChars 10 cs n = m ∧ m ≤ max := by
  induction cs generalizing n with
  | nil =>
    rw [readDigits, Nat.ofDigitChars_nil]
    constructor
    · intro h
      obtain rfl := Except.ok.inj h
      exact ⟨fun c hc => absurd hc List.not_mem_nil, rfl, hn⟩
    · rintro ⟨-, rfl, -⟩
      rfl
  | cons c cs ih =>
    rw [readDigits, Nat.ofDigitChars_cons, List.forall_mem_cons]
    by_cases hc : c.isDigit = true
    · rw [if_pos hc]
      by_cases hnext : 10 * n + (c.toNat - 48) ≤ max
      · rw [if_pos hnext, ih hnext, and_iff_right hc]
        rfl
      · rw [if_neg hnext]
        refine iff_of_false (by simp) ?_
        rintro ⟨-, hvalue, hm⟩
        have hgrows : 10 * n + (c.toNat - 48) ≤ m :=
          hvalue ▸ le_ofDigitChars cs (10 * n + (c.toNat - 48))
        omega
    · rw [if_neg hc]
      exact iff_of_false (by simp) fun h => hc h.1.1

/-- The plus sign is no digit, so at most one is read. -/
theorem not_isDigit_plus : ¬ '+'.isDigit = true := by decide

/-- After a plus sign there are digits alone, and at least one of them. -/
theorem writes_cons_plus_iff {cs : List Char} {n : Nat} : Writes ('+' :: cs) n ↔
    cs ≠ [] ∧ (∀ c ∈ cs, c.isDigit = true) ∧ Nat.ofDigitChars 10 cs 0 = n := by
  constructor
  · rintro ⟨ds, rfl | hcs, hne, hdigits, hvalue⟩
    · exact absurd (hdigits _ List.mem_cons_self) not_isDigit_plus
    · obtain rfl := (List.cons.inj hcs).2
      exact ⟨hne, hdigits, hvalue⟩
  · rintro ⟨hne, hdigits, hvalue⟩
    exact ⟨cs, .inr rfl, hne, hdigits, hvalue⟩

/-- Without a plus sign there are digits from the beginning. -/
theorem writes_iff_of_ne_plus {c : Char} {cs : List Char} {n : Nat} (hc : c ≠ '+') :
    Writes (c :: cs) n ↔
      (∀ d ∈ c :: cs, d.isDigit = true) ∧ Nat.ofDigitChars 10 (c :: cs) 0 = n := by
  constructor
  · rintro ⟨ds, rfl | hcs, -, hdigits, hvalue⟩
    · exact ⟨hdigits, hvalue⟩
    · exact absurd (List.cons.inj hcs).1 hc
  · rintro ⟨hdigits, hvalue⟩
    exact ⟨_, .inl rfl, List.cons_ne_nil _ _, hdigits, hvalue⟩

/-- A text without digits writes no number. -/
theorem not_writes_nil (n : Nat) : ¬ Writes [] n := by
  rintro ⟨ds, hds | hds, hne, -, -⟩
  · exact hne hds.symm
  · exact absurd hds nofun

/-- **The reader accepts what writes a number that fits.** -/
theorem readNatural_eq_ok_iff {max n : Nat} {cs : List Char} :
    readNatural max cs = .ok n ↔ Writes cs n ∧ n ≤ max := by
  unfold readNatural
  split
  · exact iff_of_false nofun fun h => not_writes_nil n h.1
  · rw [writes_cons_plus_iff]
    exact iff_of_false nofun fun h => h.1.1 rfl
  · next cs hcs =>
    have hne : cs ≠ [] := fun h => hcs (by rw [h])
    rw [readDigits_eq_ok_iff (Nat.zero_le max), writes_cons_plus_iff, and_iff_right hne, and_assoc]
  · next hnil hplus hsigned =>
    cases cs with
    | nil => exact absurd rfl hnil
    | cons c cs =>
      have hc : c ≠ '+' := fun h => hsigned cs (by rw [h])
      rw [readDigits_eq_ok_iff (Nat.zero_le max), writes_iff_of_ne_plus hc, and_assoc]

/-- A text writes one number at most. -/
theorem Writes.unique {cs : List Char} {m n : Nat} (hm : Writes cs m) (hn : Writes cs n) :
    m = n := by
  have hreadm := readNatural_eq_ok_iff.2 ⟨hm, Nat.le_max_left m n⟩
  have hreadn := readNatural_eq_ok_iff.2 ⟨hn, Nat.le_max_right m n⟩
  exact Except.ok.inj (hreadm.symm.trans hreadn)

/-! ### Leading zeros -/

/-- Digits that could be written shorter. -/
def HasLeadingZero (cs : List Char) : Prop :=
  ∃ ds, ds ≠ [] ∧ cs = '0' :: ds ∧ ∀ d ∈ ds, d.isDigit = true

/-- A digit is the digit of its own value, and that of zero is `0`. -/
theorem digitChar_of_isDigit {c : Char} (hc : c.isDigit = true) :
    Nat.digitChar (c.toNat - 48) = c ∧ c.toNat - 48 < 10 ∧ (c.toNat - 48 = 0 → c = '0') := by
  have hbounds : 48 ≤ c.toNat ∧ c.toNat ≤ 57 := by
    simpa [Char.isDigit, UInt32.le_iff_toNat_le] using hc
  refine ⟨?_, by omega, fun h => Char.toNat_inj.1 ?_⟩
  · apply Char.toNat_inj.1
    rw [Nat.toNat_digitChar_of_lt_ten (by omega)]
    omega
  · show c.toNat = 48
    omega

/-- Digits behind a number that is not zero continue its decimal digits. -/
theorem decimal_append_digits {n : Nat} (hn : 0 < n) {ds : List Char}
    (hds : ∀ d ∈ ds, d.isDigit = true) : decimal n ++ ds = decimal (Nat.ofDigitChars 10 ds n) := by
  induction ds generalizing n with
  | nil => rw [Nat.ofDigitChars_nil, List.append_nil]
  | cons d ds ih =>
    obtain ⟨hd, hrest⟩ := List.forall_mem_cons.1 hds
    obtain ⟨hchar, hlt, -⟩ := digitChar_of_isDigit hd
    have hpos : 0 < 10 * n + (d.toNat - 48) := by omega
    have hstep : decimal n ++ [d] = decimal (10 * n + (d.toNat - 48)) := by
      have happend := Nat.toDigits_append_toDigits (by decide : 1 < 10) hn hlt
      rwa [Nat.toDigits_of_lt_base hlt, hchar] at happend
    calc decimal n ++ d :: ds = (decimal n ++ [d]) ++ ds := by rw [List.append_assoc]; rfl
      _ = decimal (10 * n + (d.toNat - 48)) ++ ds := by rw [hstep]
      _ = decimal (Nat.ofDigitChars 10 (d :: ds) n) := by
        rw [ih hpos hrest, Nat.ofDigitChars_cons]
        rfl

/-- **Digits without leading zeros are the decimal digits of their value.** -/
theorem decimal_ofDigitChars {ds : List Char} (hne : ds ≠ [])
    (hds : ∀ d ∈ ds, d.isDigit = true) (hzero : ¬ HasLeadingZero ds) :
    decimal (Nat.ofDigitChars 10 ds 0) = ds := by
  cases ds with
  | nil => exact absurd rfl hne
  | cons d ds =>
    obtain ⟨hd, hrest⟩ := List.forall_mem_cons.1 hds
    obtain ⟨hchar, hlt, hd0⟩ := digitChar_of_isDigit hd
    have hsingle : decimal (d.toNat - 48) = [d] := by
      rw [decimal, Nat.toDigits_of_lt_base hlt, hchar]
    have hvalue : Nat.ofDigitChars 10 (d :: ds) 0 = Nat.ofDigitChars 10 ds (d.toNat - 48) := by
      rw [Nat.ofDigitChars_cons, Nat.mul_zero, Nat.zero_add]
      rfl
    rw [hvalue]
    by_cases hpos : 0 < d.toNat - 48
    · rw [← decimal_append_digits hpos hrest, hsingle]
      rfl
    · -- a zero in front is the whole text
      have hds0 : ds = [] := Classical.byContradiction fun hmore =>
        hzero ⟨ds, hmore, by rw [hd0 (by omega)], hrest⟩
      rw [hds0, Nat.ofDigitChars_nil, hsingle]

/-- Any digits are the decimal digits of their value behind some zeros. -/
theorem eq_zeros_append_decimal {ds : List Char} (hne : ds ≠ [])
    (hds : ∀ d ∈ ds, d.isDigit = true) :
    ∃ i, ds = List.replicate i '0' ++ decimal (Nat.ofDigitChars 10 ds 0) := by
  -- A leading zero is taken off, and the value of the rest is the same.
  induction ds with
  | nil => exact absurd rfl hne
  | cons d ds ih =>
    by_cases hzero : HasLeadingZero (d :: ds)
    · obtain ⟨ds', hne', hcons, hds'⟩ := hzero
      obtain ⟨rfl, rfl⟩ := List.cons.inj hcons
      obtain ⟨i, hi⟩ := ih hne' hds'
      have hvalue : Nat.ofDigitChars 10 ('0' :: ds) 0 = Nat.ofDigitChars 10 ds 0 := by
        rw [Nat.ofDigitChars_cons]
        rfl
      exact ⟨i + 1, by rw [hvalue, List.replicate_succ, List.cons_append, ← hi]⟩
    · exact ⟨0, (decimal_ofDigitChars hne hds hzero).symm⟩

/-! ### Spellings -/

/-- A text is digits for a natural number, without a sign. -/
def Digits (cs : List Char) (n : Nat) : Prop :=
  cs ≠ [] ∧ (∀ c ∈ cs, c.isDigit = true) ∧ Nat.ofDigitChars 10 cs 0 = n

/-- What a text writes is digits, or digits behind a plus sign. -/
theorem writes_iff {cs : List Char} {n : Nat} :
    Writes cs n ↔ Digits cs n ∨ ∃ ds, cs = '+' :: ds ∧ Digits ds n := by
  constructor
  · rintro ⟨ds, rfl | rfl, hds⟩
    · exact .inl hds
    · exact .inr ⟨ds, rfl, hds⟩
  · rintro (hcs | ⟨ds, rfl, hds⟩)
    · exact ⟨cs, .inl rfl, hcs⟩
    · exact ⟨ds, .inr rfl, hds⟩

/-- A text without a plus sign writes a number just if it consists of the digits of it. -/
theorem writes_iff_digits {cs : List Char} (hplus : '+' ∉ cs) {n : Nat} :
    Writes cs n ↔ Digits cs n := by
  rw [writes_iff, or_iff_left]
  rintro ⟨ds, rfl, -⟩
  exact hplus List.mem_cons_self

/-- Digits for a number are its decimal digits behind any zeros. -/
theorem digits_iff_zeros {cs : List Char} {n : Nat} :
    Digits cs n ↔ ∃ i, cs = List.replicate i '0' ++ decimal n := by
  constructor
  · rintro ⟨hne, hdigits, rfl⟩
    exact eq_zeros_append_decimal hne hdigits
  · rintro ⟨i, rfl⟩
    refine ⟨?_, fun d hd => ?_, ?_⟩
    · exact List.append_ne_nil_of_right_ne_nil _ Nat.toDigits_ne_nil
    · rcases List.mem_append.1 hd with hd | hd
      · rw [List.eq_of_mem_replicate hd]
        decide
      · exact Nat.isDigit_of_mem_toDigits (by decide) (by decide) hd
    · rw [Nat.ofDigitChars_append, Nat.ofDigitChars_replicate_zero, Nat.mul_zero]
      exact Nat.ofDigitChars_ten_toDigits

/-- The decimal spelling of a number writes it. -/
theorem digits_decimal (n : Nat) : Digits (decimal n) n := digits_iff_zeros.2 ⟨0, rfl⟩

/-- Digits contain no other character, such as one that separates. -/
theorem Digits.not_mem {cs : List Char} {n : Nat} (h : Digits cs n) {c : Char}
    (hc : c.isDigit = false) : c ∉ cs := by
  intro hmem
  rw [h.2.1 c hmem] at hc
  exact Bool.noConfusion hc

/-- No digits for a number are fewer than its decimal digits. -/
theorem Digits.length_decimal_le {cs : List Char} {n : Nat} (h : Digits cs n) :
    (decimal n).length ≤ cs.length := by
  obtain ⟨i, rfl⟩ := digits_iff_zeros.1 h
  rw [List.length_append]
  exact Nat.le_add_left _ _

/-- **A number is written by its decimal digits behind any zeros, a plus sign allowed.** -/
theorem writes_iff_sign_zeros {cs : List Char} {n : Nat} : Writes cs n ↔
    ∃ sign i, (sign = [] ∨ sign = ['+']) ∧ cs = sign ++ List.replicate i '0' ++ decimal n := by
  rw [writes_iff]
  constructor
  · rintro (hcs | ⟨ds, rfl, hds⟩)
    · obtain ⟨i, rfl⟩ := digits_iff_zeros.1 hcs
      exact ⟨[], i, .inl rfl, rfl⟩
    · obtain ⟨i, rfl⟩ := digits_iff_zeros.1 hds
      exact ⟨['+'], i, .inr rfl, rfl⟩
  · rintro ⟨sign, i, rfl | rfl, rfl⟩
    · exact .inl (digits_iff_zeros.2 ⟨i, rfl⟩)
    · exact .inr ⟨_, rfl, digits_iff_zeros.2 ⟨i, rfl⟩⟩

/-- A number is written by its decimal digits behind any zeros. -/
theorem writes_zeros_append_decimal (i n : Nat) :
    Writes (List.replicate i '0' ++ decimal n) n :=
  writes_iff.2 (.inl (digits_iff_zeros.2 ⟨i, rfl⟩))

/-- Only digits and a plus sign stand in a number that is written. -/
theorem Writes.mem {cs : List Char} {n : Nat} (h : Writes cs n) {c : Char} (hc : c ∈ cs) :
    c = '+' ∨ c.isDigit = true := by
  obtain ⟨ds, rfl | rfl, -, hdigits, -⟩ := h
  · exact .inr (hdigits c hc)
  · rcases List.mem_cons.1 hc with rfl | hc
    · exact .inl rfl
    · exact .inr (hdigits c hc)

/-! ### Fixed widths -/

/-- A type whose values are the numbers up to `max` is read from what writes one of these. -/
theorem map_readNatural_eq_ok_iff {α : Type} {max : Nat} {ofNat : Nat → α} {toNat : α → Nat}
    (hmax : ∀ a, toNat a ≤ max) (hofNat : ∀ n ≤ max, ∀ a, ofNat n = a ↔ n = toNat a)
    {cs : List Char} {a : α} :
    (readNatural max cs).map ofNat = .ok a ↔ Writes cs (toNat a) := by
  constructor
  · intro h
    cases hread : readNatural max cs with
    | error fault =>
      rw [hread] at h
      exact absurd h nofun
    | ok n =>
      obtain ⟨hwrites, hn⟩ := readNatural_eq_ok_iff.1 hread
      rw [hread] at h
      rwa [← (hofNat n hn a).1 (Except.ok.inj h)]
  · intro h
    rw [readNatural_eq_ok_iff.2 ⟨h, hmax a⟩]
    exact congrArg Except.ok ((hofNat _ (hmax a) a).2 rfl)

/-- A number of 64 bits is read just where one is written: its size is the only other condition. -/
theorem readUInt64_eq_ok_iff {cs : List Char} {n : UInt64} :
    readUInt64 cs = .ok n ↔ Writes cs n.toNat := by
  have hofNat (m : Nat) (hm : m ≤ UInt64.size - 1) (a : UInt64) :
      UInt64.ofNat m = a ↔ m = a.toNat := by
    rw [← UInt64.toNat_inj, UInt64.toNat_ofNat_of_lt' (Nat.lt_of_le_pred (by decide) hm)]
  exact map_readNatural_eq_ok_iff (fun a => Nat.le_pred_of_lt (UInt64.toNat_lt_size a)) hofNat

/-- The same for a number of 16 bits. -/
theorem readUInt16_eq_ok_iff {cs : List Char} {n : UInt16} :
    readUInt16 cs = .ok n ↔ Writes cs n.toNat := by
  have hofNat (m : Nat) (hm : m ≤ UInt16.size - 1) (a : UInt16) :
      UInt16.ofNat m = a ↔ m = a.toNat := by
    rw [← UInt16.toNat_inj, UInt16.toNat_ofNat_of_lt' (Nat.lt_of_le_pred (by decide) hm)]
  exact map_readNatural_eq_ok_iff (fun a => Nat.le_pred_of_lt (UInt16.toNat_lt_size a)) hofNat

end Text
end EtcdClient

import EtcdClient.Text.Blank
import Mathlib.Data.List.DropRight

/-
# What trimming leaves

A text is trimmed if no blank stands at either of its ends. `trimChars` gives the trimmed text that
stands between blanks, and there is only one (`trimChars_eq_iff`): what is blank at an end of the
text is never seen, and what is not is never lost.
-/

namespace EtcdClient
namespace Text

/-- All characters of a text are blank. -/
def Blanks (cs : List Char) : Prop := ∀ c ∈ cs, isBlank c = true

instance (cs : List Char) : Decidable (Blanks cs) :=
  decidable_of_iff (cs.all isBlank = true) List.all_eq_true

/-- No blank stands at either end of a text. -/
structure Trimmed (cs : List Char) : Prop where
  head : ∀ c, cs.head? = some c → isBlank c = false
  last : ∀ c, cs.getLast? = some c → isBlank c = false

instance (cs : List Char) : Decidable (Trimmed cs) :=
  decidable_of_iff (cs.head?.all (isBlank · = false) = true ∧
      cs.getLast?.all (isBlank · = false) = true) <| by
    simp only [Option.all_eq_true, decide_eq_true_eq]
    exact ⟨fun ⟨hhead, hlast⟩ => ⟨hhead, hlast⟩, fun h => ⟨h.head, h.last⟩⟩

/-- A text without characters has none that is not blank. -/
theorem blanks_nil : Blanks [] := fun _ h => absurd h List.not_mem_nil

/-- It is trimmed as well, so a text of blanks trims to one that is. -/
theorem trimmed_nil : Trimmed [] := ⟨nofun, nofun⟩

/-- What is not blank is found in no text of blanks. -/
theorem Blanks.not_mem {cs : List Char} (h : Blanks cs) {c : Char} (hc : isBlank c = false) :
    c ∉ cs := by
  intro hmem
  rw [h c hmem] at hc
  exact Bool.noConfusion hc

/-- The space is the last blank of ASCII. -/
theorem isBlank_of_ascii {c : Char} (hlow : 0x20 < c.toNat) (hhigh : c.toNat < 0x80) :
    isBlank c = false := by
  simp only [isBlank, Bool.or_eq_false_iff, Bool.and_eq_false_iff, decide_eq_false_iff_not,
    beq_eq_false_iff_ne]
  omega

/-- Digits are not blank, so trimming never touches a number. -/
theorem isBlank_of_isDigit {c : Char} (hc : c.isDigit = true) : isBlank c = false := by
  have hbounds : 48 ≤ c.toNat ∧ c.toNat ≤ 57 := by
    simpa [Char.isDigit, UInt32.le_iff_toNat_le] using hc
  exact isBlank_of_ascii (by omega) (by omega)

/-- A text without blanks is trimmed. -/
theorem trimmed_of_forall {cs : List Char} (h : ∀ c ∈ cs, isBlank c = false) : Trimmed cs :=
  ⟨fun c hc => h c (List.mem_of_head? hc), fun c hc => h c (List.mem_of_getLast? hc)⟩

/-- Trimmed texts may be joined. -/
theorem Trimmed.append {cs ds : List Char} (hcs : Trimmed cs) (hds : Trimmed ds) :
    Trimmed (cs ++ ds) := by
  constructor
  · intro c hc
    rw [List.head?_append, Option.or_eq_some_iff] at hc
    rcases hc with hc | ⟨-, hc⟩
    · exact hcs.head c hc
    · exact hds.head c hc
  · intro c hc
    rw [List.getLast?_append, Option.or_eq_some_iff] at hc
    rcases hc with hc | ⟨-, hc⟩
    · exact hds.last c hc
    · exact hcs.last c hc

/-- Of two texts the ends of the whole count, not those between them. -/
theorem Trimmed.append_of_head {cs ds : List Char} (hds : Trimmed ds) (hne : ds ≠ [])
    (hcs : ∀ c, cs.head? = some c → isBlank c = false) : Trimmed (cs ++ ds) := by
  constructor
  · intro c hc
    rw [List.head?_append, Option.or_eq_some_iff] at hc
    rcases hc with hc | ⟨-, hc⟩
    · exact hcs c hc
    · exact hds.head c hc
  · intro c hc
    rw [List.getLast?_append_of_ne_nil cs hne] at hc
    exact hds.last c hc

/-! ### Runs at one end -/

section Runs

variable {p : Char → Bool} {cs ds : List Char}

/-- A text that does not begin with a run of `p` loses nothing in front. -/
theorem dropWhile_eq_self (h : ∀ c, cs.head? = some c → p c = false) : cs.dropWhile p = cs := by
  cases cs with
  | nil => rfl
  | cons c cs => rw [List.dropWhile_cons_of_neg (by rw [h c rfl]; exact Bool.false_ne_true)]

/-- What is left of a text without a run in front of it. -/
theorem dropWhile_eq_iff : cs.dropWhile p = ds ↔ (∀ d, ds.head? = some d → p d = false) ∧
    ∃ front, (∀ c ∈ front, p c = true) ∧ cs = front ++ ds := by
  constructor
  · rintro rfl
    refine ⟨fun d hd => ?_, cs.takeWhile p, fun c hc => List.mem_takeWhile_imp hc,
      List.takeWhile_append_dropWhile.symm⟩
    have hfirst := List.head?_dropWhile_not p cs
    rwa [hd] at hfirst
  · rintro ⟨hds, front, hfront, rfl⟩
    rw [List.dropWhile_append_of_pos hfront, dropWhile_eq_self hds]

/-- A run at the end is dropped as far as the text in front of it goes on. -/
theorem dropTrailing_append_of_forall (h : ∀ d ∈ ds, p d = true) :
    dropTrailing p (cs ++ ds) = dropTrailing p cs := by
  rw [dropTrailing, List.reverse_append,
    List.dropWhile_append_of_pos fun d hd => h d (List.mem_reverse.1 hd), dropTrailing]

/-- Nothing is dropped in front of a character without `p`. -/
theorem dropTrailing_append_of_last (h : ∀ c, cs.getLast? = some c → p c = false) :
    dropTrailing p (cs ++ ds) = cs ++ dropTrailing p ds := by
  have hkept : cs.reverse.dropWhile p = cs.reverse :=
    dropWhile_eq_self fun c hc => h c (List.head?_reverse.symm.trans hc)
  rw [dropTrailing, List.reverse_append, List.dropWhile_append, hkept, dropTrailing]
  split
  · next hds => rw [List.isEmpty_iff.1 hds, List.reverse_reverse, List.reverse_nil, List.append_nil]
  · rw [List.reverse_append, List.reverse_reverse]

/-- A text that does not end with a run of `p` loses nothing at its end. -/
theorem dropTrailing_eq_self (h : ∀ c, cs.getLast? = some c → p c = false) :
    dropTrailing p cs = cs := by
  rw [← List.append_nil cs, dropTrailing_append_of_last h, dropTrailing_nil]

/-- A text that is all one run is lost. -/
theorem dropTrailing_eq_nil (h : ∀ c ∈ cs, p c = true) : dropTrailing p cs = [] := by
  rw [← List.nil_append cs, dropTrailing_append_of_forall h, dropTrailing_nil]

/-- What is dropped at the end is a run of `p` and nothing else. -/
theorem exists_eq_dropTrailing_append (p : Char → Bool) (cs : List Char) :
    ∃ ds, cs = dropTrailing p cs ++ ds ∧ ∀ d ∈ ds, p d = true :=
  ⟨cs.rtakeWhile p, List.rdropWhile_append_rtakeWhile.symm, fun _ => List.mem_rtakeWhile_imp⟩

/-- The run at the end is dropped as a whole. -/
theorem last_dropTrailing (p : Char → Bool) (cs : List Char) {c : Char}
    (hc : (dropTrailing p cs).getLast? = some c) : p c = false := by
  have hfirst := List.head?_dropWhile_not p cs.reverse
  rw [dropTrailing, List.getLast?_reverse] at hc
  rwa [hc] at hfirst

end Runs

/-! ### Trimming -/

section Trimming

variable {cs ds : List Char}

/-- Blanks in front of a text are not seen. -/
theorem trimChars_blanks_append (h : Blanks ds) : trimChars (ds ++ cs) = trimChars cs := by
  rw [trimChars, List.dropWhile_append_of_pos h, trimChars]

/-- Nor are blanks behind it. -/
theorem trimChars_append_blanks (h : Blanks ds) : trimChars (cs ++ ds) = trimChars cs := by
  rw [trimChars, trimChars, List.dropWhile_append]
  split
  · next hcs =>
    rw [List.isEmpty_iff.1 hcs, dropTrailing_nil]
    exact dropTrailing_eq_nil fun c hc => h c (List.dropWhile_sublist _ |>.mem hc)
  · rw [dropTrailing_append_of_forall h]

/-- Nothing is left of a text of blanks. -/
theorem trimChars_blanks (h : Blanks cs) : trimChars cs = [] := by
  rw [← List.nil_append cs, trimChars_append_blanks h]
  rfl

/-- Nothing is lost of a text that is trimmed. -/
theorem trimChars_of_trimmed (h : Trimmed cs) : trimChars cs = cs := by
  rw [trimChars, dropWhile_eq_self h.head, dropTrailing_eq_self h.last]

/-- What is left stands between no blanks of its own. -/
theorem trimmed_trimChars (cs : List Char) : Trimmed (trimChars cs) := by
  refine ⟨fun c hc => ?_, fun c hc => last_dropTrailing isBlank _ hc⟩
  obtain ⟨ds, hds, -⟩ := exists_eq_dropTrailing_append isBlank (cs.dropWhile isBlank)
  refine (dropWhile_eq_iff.1 hds).1 c ?_
  rw [List.head?_append]
  exact Option.or_eq_some_iff.2 (.inl hc)

/-- Only blanks are taken away, at either end. -/
theorem exists_eq_blanks_append (cs : List Char) :
    ∃ front back, Blanks front ∧ Blanks back ∧ cs = front ++ trimChars cs ++ back := by
  obtain ⟨back, hback, hblank⟩ := exists_eq_dropTrailing_append isBlank (cs.dropWhile isBlank)
  obtain ⟨-, front, hfront, hcs⟩ := dropWhile_eq_iff.1 hback
  exact ⟨front, back, hfront, hblank, by rw [List.append_assoc]; exact hcs⟩

/-- **Trimming finds the trimmed text between blanks.** -/
theorem trimChars_eq_iff {t : List Char} : trimChars cs = t ↔
    Trimmed t ∧ ∃ front back, Blanks front ∧ Blanks back ∧ cs = front ++ t ++ back := by
  constructor
  · rintro rfl
    exact ⟨trimmed_trimChars cs, exists_eq_blanks_append cs⟩
  · rintro ⟨ht, front, back, hfront, hback, rfl⟩
    rw [trimChars_append_blanks hback, trimChars_blanks_append hfront, trimChars_of_trimmed ht]

end Trimming

/-! ### Texts -/

/-- A text is trimmed character by character. -/
theorem toList_trim (s : String) : (trim s).toList = trimChars s.toList := by
  rw [trim, String.toList_ofList]

/-- The text that is left is the one trimmed text that stands between blanks. -/
theorem trim_eq_iff {s t : String} : trim s = t ↔ Trimmed t.toList ∧
    ∃ front back, Blanks front ∧ Blanks back ∧ s = String.ofList (front ++ t.toList ++ back) := by
  rw [← String.toList_inj, toList_trim, trimChars_eq_iff]
  simp only [← String.toList_inj, String.toList_ofList]

/-- Nothing is left just of a text of blanks. -/
theorem trim_eq_empty_iff {s : String} : trim s = "" ↔ Blanks s.toList := by
  rw [← String.toList_inj, toList_trim]
  constructor
  · intro h
    obtain ⟨front, back, hfront, hback, hs⟩ := exists_eq_blanks_append s.toList
    rw [hs, h]
    intro c hc
    rw [String.toList_empty, List.append_nil] at hc
    exact (List.mem_append.1 hc).elim (hfront c) (hback c)
  · exact trimChars_blanks

/-- Trimming twice is trimming once. -/
theorem trim_trim (s : String) : trim (trim s) = trim s := by
  rw [← String.toList_inj, toList_trim, toList_trim,
    trimChars_of_trimmed (trimmed_trimChars s.toList)]

end Text
end EtcdClient

import EtcdClient.Error
import EtcdClient.Proofs.Version.Precedence

/-
# Versions that differ in spelling alone

Versions are equal if they have the same numbers and the same text for a pre-release. The order
reads the parts of a pre-release, and `01` reads as the number that `1` reads as, so it can rank
two versions alike that are not equal:

| versions | the order says | equal |
| --- | --- | --- |
| `1.0.0-1`, `1.0.0-1` | alike | yes |
| `1.0.0-01`, `1.0.0-1` | alike | no |
| `1.0.0-a1`, `1.0.0-a01` | the second first | no |

Leading zeros are all that does it: a version that was read has no plus sign left, and without
leading zeros a number is written in one way only (`alike_iff_equal_but_zeros`).

Source: `SPEC_FULL.md` §10.7, by which versions are totally ordered, and the equality of
`EtcdVersion`.
-/

namespace EtcdClient
namespace Version

/-! ### What reading leaves -/

/-- What is kept of a text has no plus sign: all from the first one on is build metadata. -/
theorem plus_not_mem_significant (cs : List Char) : '+' ∉ significant cs := by
  rw [significant]
  split
  · next hcut => exact (Text.cutFirst_eq_some.1 hcut).2
  · next hcut => exact Text.cutFirst_eq_none.1 hcut

/-- The pre-release is kept as it stands. -/
theorem preRelease_of_readNumbers {cs : List Char} {p : Option String} {v : Version}
    (h : readNumbers cs p = .ok v) : v.preRelease = p := by
  rw [readNumbers] at h
  split at h
  · split at h
    · rw [← Except.ok.inj h]
    · exact absurd h nofun
  · exact absurd h nofun

/-- All from the first plus sign on is cut off before the pre-release is. -/
theorem plus_not_mem_preRelease {s : String} {v : Version} (h : read s = .ok v) {p : String}
    (hp : v.preRelease = some p) : '+' ∉ p.toList := by
  rw [read] at h
  split at h
  · exact absurd h nofun
  · next pre hcut =>
    have hkept := preRelease_of_readNumbers h
    rw [hp] at hkept
    obtain rfl := Option.some.inj hkept
    obtain ⟨hbody, -⟩ := Text.cutFirst_eq_some.1 hcut
    intro hplus
    rw [String.toList_ofList] at hplus
    have hmem := plus_not_mem_significant s.toList
    rw [hbody] at hmem
    exact hmem (List.mem_append_right _ (List.mem_cons_of_mem _ hplus))
  · rw [preRelease_of_readNumbers h] at hp
    exact absurd hp nofun

/-- A version is read from the text that was parsed. -/
theorem read_of_parse {s : String} {v : Version} (h : Version.parse s = .ok v) :
    read s = .ok v := by
  rw [Version.parse] at h
  cases hread : read s with
  | error fault =>
    rw [hread] at h
    exact absurd h nofun
  | ok w =>
    rw [hread] at h
    exact congrArg Except.ok (Except.ok.inj h)

/-! ### Leading zeros -/

/-- No part of the pre-release has a plus sign. -/
def Unsigned (v : Version) : Prop := ∀ p, v.preRelease = some p → ∀ part ∈ parts p, '+' ∉ part

/-- No part of the pre-release has leading zeros. -/
def Unpadded (v : Version) : Prop :=
  ∀ p, v.preRelease = some p → ∀ part ∈ parts p, ¬ Text.HasLeadingZero part

/-- Two parts are the same text, or the digits of one number of 64 bits behind any zeros. -/
def PartEqualButZeros (a b : List Char) : Prop :=
  a = b ∨ ∃ n i j, n < UInt64.size ∧ a = List.replicate i '0' ++ Text.decimal n ∧
    b = List.replicate j '0' ++ Text.decimal n

/-- Two versions are equal but for leading zeros in the parts of their pre-releases. -/
def EqualButZeros (v w : Version) : Prop := MatchesBy PartEqualButZeros v w

/-- A version that was parsed has no plus sign in any part. -/
theorem unsigned_of_parse {s : String} {v : Version} (h : Version.parse s = .ok v) :
    v.Unsigned := by
  intro p hp part hpart hplus
  exact plus_not_mem_preRelease (read_of_parse h) hp (Text.mem_of_mem_pieces hpart hplus)

/-- A number without a sign is its decimal digits behind some zeros. -/
theorem IsNumber.eq_zeros_append {part : List Char} {n : Nat} (h : IsNumber part n)
    (hplus : '+' ∉ part) : ∃ i, part = List.replicate i '0' ++ Text.decimal n := by
  obtain ⟨⟨ds, rfl | rfl, hne, hdigits, rfl⟩, -⟩ := h
  · exact Text.eq_zeros_append_decimal hne hdigits
  · exact absurd List.mem_cons_self hplus

/-- A number has one spelling without a sign and without leading zeros. -/
theorem IsNumber.eq_decimal {part : List Char} {n : Nat} (h : IsNumber part n)
    (hplus : '+' ∉ part) (hzero : ¬ Text.HasLeadingZero part) : part = Text.decimal n := by
  obtain ⟨⟨ds, rfl | rfl, hne, hdigits, rfl⟩, -⟩ := h
  · exact (Text.decimal_ofDigitChars hne hdigits hzero).symm
  · exact absurd List.mem_cons_self hplus

/-- Without plus signs two parts are alike just if leading zeros are all that tells them apart. -/
theorem partAlike_iff_equalButZeros {a b : List Char} (ha : '+' ∉ a) (hb : '+' ∉ b) :
    PartAlike a b ↔ PartEqualButZeros a b := by
  refine or_congr_right ⟨?_, ?_⟩
  · rintro ⟨n, hna, hnb⟩
    obtain ⟨i, hi⟩ := hna.eq_zeros_append ha
    obtain ⟨j, hj⟩ := hnb.eq_zeros_append hb
    exact ⟨n, i, j, hna.2, hi, hj⟩
  · rintro ⟨n, i, j, hn, rfl, rfl⟩
    exact ⟨n, ⟨Text.writes_zeros_append_decimal i n, hn⟩,
      ⟨Text.writes_zeros_append_decimal j n, hn⟩⟩

/-- Without leading zeros either they are alike just if they are equal. -/
theorem partAlike_iff_eq {a b : List Char} (ha : '+' ∉ a) (hb : '+' ∉ b)
    (ha' : ¬ Text.HasLeadingZero a) (hb' : ¬ Text.HasLeadingZero b) : PartAlike a b ↔ a = b := by
  refine ⟨?_, .inl⟩
  rintro (h | ⟨n, hna, hnb⟩)
  · exact h
  · rw [hna.eq_decimal ha ha', hnb.eq_decimal hb hb']

/-- Lists are related in one way if they are in the other, which need agree on their elements
alone. -/
theorem forall₂_congr_of_mem {α : Type} {R S : α → α → Prop} {as bs : List α}
    (h : ∀ a ∈ as, ∀ b ∈ bs, (R a b ↔ S a b)) : List.Forall₂ R as bs ↔ List.Forall₂ S as bs := by
  have hzip {a b : α} (hab : (a, b) ∈ as.zip bs) : R a b ↔ S a b :=
    h a (List.of_mem_zip hab).1 b (List.of_mem_zip hab).2
  rw [List.forall₂_iff_zip, List.forall₂_iff_zip]
  exact and_congr_right' ⟨fun hR _ _ hab => (hzip hab).1 (hR hab),
    fun hS _ _ hab => (hzip hab).2 (hS hab)⟩

/-- Only what two versions have for parts counts of the relation that these are compared by. -/
theorem matchesBy_congr {R S : List Char → List Char → Prop} {v w : Version}
    (h : ∀ p q, v.preRelease = some p → w.preRelease = some q →
      ∀ a ∈ parts p, ∀ b ∈ parts q, (R a b ↔ S a b)) : MatchesBy R v w ↔ MatchesBy S v w := by
  have hpre : PreReleasesMatch R v.preRelease w.preRelease ↔
      PreReleasesMatch S v.preRelease w.preRelease := by
    cases hp : v.preRelease with
    | none =>
      cases w.preRelease with
      | none => exact iff_of_true .releases .releases
      | some q => exact iff_of_false nofun nofun
    | some p =>
      cases hq : w.preRelease with
      | none => exact iff_of_false nofun nofun
      | some q =>
        have hparts := forall₂_congr_of_mem (h p q hp hq)
        constructor <;> rintro (_ | hmatch)
        · exact .byParts (hparts.1 hmatch)
        · exact .byParts (hparts.2 hmatch)
  exact ⟨fun hR => ⟨hR.major_eq, hR.minor_eq, hR.patch_eq, hpre.1 hR.preRelease⟩,
    fun hS => ⟨hS.major_eq, hS.minor_eq, hS.patch_eq, hpre.2 hS.preRelease⟩⟩

/-- A pre-release is put together again from its parts. -/
theorem parts_injective {p q : String} (h : parts p = parts q) : p = q := by
  -- The pieces with the dots between them are the text.
  have hjoin : p.toList = q.toList := by
    rw [← Text.join_pieces '.' p.toList, ← Text.join_pieces '.' q.toList]
    exact congrArg (fun ps => (ps.intersperse ['.']).flatten) h
  exact String.toList_injective hjoin

/-- Versions with the same numbers and the same parts are equal. -/
theorem eq_of_matchesBy {v w : Version} (h : MatchesBy (· = ·) v w) : v = w := by
  obtain ⟨major, minor, patch, p⟩ := v
  obtain ⟨major', minor', patch', q⟩ := w
  obtain ⟨hmajor, hminor, hpatch, hpre⟩ := h
  obtain rfl : major = major' := hmajor
  obtain rfl : minor = minor' := hminor
  obtain rfl : patch = patch' := hpatch
  cases hpre with
  | releases => rfl
  | byParts hparts =>
    rw [List.forall₂_eq_eq_eq] at hparts
    rw [parts_injective hparts]

/-- **The order and equality agree but for leading zeros.** Of two versions that were read, the
order says `eq` if they are equal. It says so just if they are equal but for leading zeros in
numbers of their pre-releases, so if neither has leading zeros just if they are equal. -/
theorem alike_iff_equal_but_zeros (s t : String) (v w : Version) (hv : Version.parse s = .ok v)
    (hw : Version.parse t = .ok w) :
    (v = w → compare v w = .eq) ∧ (compare v w = .eq ↔ v.EqualButZeros w) ∧
      (v.Unpadded → w.Unpadded → (compare v w = .eq ↔ v = w)) := by
  have hv' := unsigned_of_parse hv
  have hw' := unsigned_of_parse hw
  have hequal : v = w → compare v w = .eq := by
    rintro rfl
    exact Std.ReflOrd.compare_self
  -- What was read has no plus signs in its parts, so being alike is a matter of zeros there.
  refine ⟨hequal, (compare_eq_eq_iff v w).trans (matchesBy_congr fun p q hp hq a ha b hb => ?_),
    fun hpadv hpadw => ⟨fun h => eq_of_matchesBy ?_, hequal⟩⟩
  · exact partAlike_iff_equalButZeros (hv' p hp a ha) (hw' q hq b hb)
  · refine (matchesBy_congr fun p q hp hq a ha b hb => ?_).1 ((compare_eq_eq_iff v w).1 h)
    exact partAlike_iff_eq (hv' p hp a ha) (hw' q hq b hb) (hpadv p hp a ha) (hpadw q hq b hb)

/-- The order says of `1.0.0-rc.01` and `v1.0.0-rc.1+git` that they are alike, and they differ. -/
theorem alike_iff_equal_but_zeros_of_candidate :
    let v : Version := ⟨1, 0, 0, some "rc.01"⟩
    let w : Version := ⟨1, 0, 0, some "rc.1"⟩
    Version.parse "1.0.0-rc.01" = .ok v ∧ Version.parse "v1.0.0-rc.1+git" = .ok w ∧
      compare v w = .eq ∧ v.EqualButZeros w ∧ ¬ v.Unpadded := by
  intro v w
  have hv : Version.parse "1.0.0-rc.01" = .ok v := rfl
  have hw : Version.parse "v1.0.0-rc.1+git" = .ok w := rfl
  obtain ⟨-, hzeros, hunpadded⟩ := alike_iff_equal_but_zeros _ _ v w hv hw
  have halike : compare v w = .eq := rfl
  have hw' : w.Unpadded := by
    intro p hp
    obtain rfl := Option.some.inj hp
    rintro part hpart ⟨ds, hne, rfl, -⟩
    have hmem : '0' :: ds = "rc".toList ∨ '0' :: ds = "1".toList := List.mem_pair.1 hpart
    rcases hmem with h | h <;> exact absurd (List.cons.inj h).1 (by decide)
  exact ⟨hv, hw, halike, hzeros.1 halike, fun hv' =>
    absurd ((hunpadded hv' hw').1 halike) (by decide)⟩

/-- **The order can say `eq` of versions that differ.** -/
theorem compare_eq_of_ne : ¬ ∀ (s t : String) (v w : Version), Version.parse s = .ok v →
    Version.parse t = .ok w → (compare v w = .eq ↔ v = w) := by
  intro hagree
  have halike : compare (⟨1, 0, 0, some "01"⟩ : Version) ⟨1, 0, 0, some "1"⟩ = .eq := rfl
  have hequal := (hagree "1.0.0-01" "1.0.0-1" _ _ rfl rfl).1 halike
  exact absurd hequal (by decide)

end Version
end EtcdClient

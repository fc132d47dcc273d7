import EtcdClient.Proofs.Text.Numeral
import EtcdClient.Proofs.Version.Order
import Mathlib.Data.List.Forall2

/-
# Which version comes first

`Version.Precedes` says when one version comes before another, and `Version.Alike` when neither
does. The first place where two versions differ decides:

| place | comes first |
| --- | --- |
| major, minor, patch | the smaller number |
| one has a pre-release | the one that has it |
| parts of both pre-releases, from the left | see below |
| one has no more parts | the one that has no more |

Of two parts a number of 64 bits comes before any other text, two numbers stand in the order of
their values and two other texts in the order of their bytes. Numbers of one value are alike however
they are spelled, so there are versions that are alike and differ.

The comparison of versions says `lt` just where the first precedes the second, and `eq` just where
they are alike (`compare_eq_lt_iff`, `compare_eq_eq_iff`). It is total and transitive
(`ranked_by_precedence`).

Source: `SPEC_FULL.md` §10.7, and `compare_pre_release`.
-/

namespace EtcdClient

/-- Texts are ordered by their first byte that differs, as lists of bytes are. -/
theorem compare_bytes_eq_lt_iff (a b : Bytes) : compare a b = .lt ↔ a < b := by
  rw [List.compare_eq_compareLex]
  induction a generalizing b with
  | nil =>
    cases b with
    | nil => exact iff_of_false nofun (List.lt_irrefl [])
    | cons y b => exact iff_of_true rfl (List.nil_lt_cons y b)
  | cons x a ih =>
    cases b with
    | nil => exact iff_of_false nofun (List.not_lt_nil _)
    | cons y b =>
      rw [List.compareLex_cons_cons, Ordering.then_eq_lt, List.cons_lt_cons_iff, ih,
        Std.compare_eq_lt, Std.compare_eq_iff_eq]

namespace Version

/-! ### Parts of pre-releases -/

/-- The parts of a pre-release, which stand between its dots. -/
def parts (p : String) : List (List Char) := Text.pieces '.' p.toList

/-- A part is a number of 64 bits. -/
def IsNumber (part : List Char) (n : Nat) : Prop := Text.Writes part n ∧ n < UInt64.size

/-- One part comes before another. -/
inductive PartPrecedes (a b : List Char) : Prop
  | byValue {m n : Nat} (ha : IsNumber a m) (hb : IsNumber b n) (hlt : m < n)
  | numberFirst {m : Nat} (ha : IsNumber a m) (hb : ∀ n, ¬ IsNumber b n)
  | bytewise (ha : ∀ n, ¬ IsNumber a n) (hb : ∀ n, ¬ IsNumber b n)
    (hlt : utf8 (String.ofList a) < utf8 (String.ofList b))

/-- Two parts are the same text or numbers of one value. -/
def PartAlike (a b : List Char) : Prop := a = b ∨ ∃ n, IsNumber a n ∧ IsNumber b n

/-- The first place where two lists of parts differ decides, a list that is at its end comes
first. -/
inductive PartsPrecede : List (List Char) → List (List Char) → Prop
  | ended {b : List Char} {bs : List (List Char)} : PartsPrecede [] (b :: bs)
  | here {a b : List Char} {as bs : List (List Char)} (h : PartPrecedes a b) :
    PartsPrecede (a :: as) (b :: bs)
  | later {a b : List Char} {as bs : List (List Char)} (h : PartAlike a b)
    (hrest : PartsPrecede as bs) : PartsPrecede (a :: as) (b :: bs)

/-- A pre-release comes before its release. -/
inductive PreReleasePrecedes : Option String → Option String → Prop
  | beforeRelease {p : String} : PreReleasePrecedes (some p) none
  | byParts {p q : String} (h : PartsPrecede (parts p) (parts q)) :
    PreReleasePrecedes (some p) (some q)

/-- Two releases, or two pre-releases whose parts are related one by one. -/
inductive PreReleasesMatch (R : List Char → List Char → Prop) : Option String → Option String → Prop
  | releases : PreReleasesMatch R none none
  | byParts {p q : String} (h : List.Forall₂ R (parts p) (parts q)) :
    PreReleasesMatch R (some p) (some q)

/-- Two versions have the same numbers, and the parts of their pre-releases are related. -/
structure MatchesBy (R : List Char → List Char → Prop) (v w : Version) : Prop where
  major_eq : v.major = w.major
  minor_eq : v.minor = w.minor
  patch_eq : v.patch = w.patch
  preRelease : PreReleasesMatch R v.preRelease w.preRelease

/-- `v` comes before `w`. -/
def Precedes (v w : Version) : Prop :=
  v.major < w.major ∨ v.major = w.major ∧ (v.minor < w.minor ∨ v.minor = w.minor ∧
    (v.patch < w.patch ∨ v.patch = w.patch ∧ PreReleasePrecedes v.preRelease w.preRelease))

/-- Neither of two versions comes before the other. -/
def Alike (v w : Version) : Prop := MatchesBy PartAlike v w

/-! ### The comparison -/

/-- A part is one number at most. -/
theorem IsNumber.unique {part : List Char} {m n : Nat} (hm : IsNumber part m)
    (hn : IsNumber part n) : m = n := hm.1.unique hn.1

/-- The parts that are numbers are those that can be read as numbers of 64 bits. -/
theorem readNatural_eq_ok_iff_isNumber {part : List Char} {n : Nat} :
    Text.readNatural (UInt64.size - 1) part = .ok n ↔ IsNumber part n := by
  rw [Text.readNatural_eq_ok_iff]
  exact and_congr_right' Nat.lt_succ_iff.symm

/-- What a part stands for in the comparison. -/
theorem ofChars_cases (part : List Char) :
    (∃ n, IsNumber part n ∧ Identifier.ofChars part = .number n) ∨
      ((∀ n, ¬ IsNumber part n) ∧
        Identifier.ofChars part = .word (utf8 (String.ofList part))) := by
  rw [Identifier.ofChars]
  cases hread : Text.readNatural (UInt64.size - 1) part with
  | ok n => exact .inl ⟨n, readNatural_eq_ok_iff_isNumber.1 hread, rfl⟩
  | error fault =>
    refine .inr ⟨fun n hn => ?_, rfl⟩
    rw [readNatural_eq_ok_iff_isNumber.2 hn] at hread
    exact absurd hread nofun

/-- Between two parts the order is the one that the relation says: numbers by value and first, then
texts. -/
theorem compare_ofChars_eq_lt_iff (a b : List Char) :
    compare (Identifier.ofChars a) (Identifier.ofChars b) = .lt ↔ PartPrecedes a b := by
  -- Four cases: both are numbers, one of them is, neither is.
  rcases ofChars_cases a with ⟨m, ha, hofa⟩ | ⟨ha, hofa⟩ <;>
    rcases ofChars_cases b with ⟨n, hb, hofb⟩ | ⟨hb, hofb⟩ <;> rw [hofa, hofb]
  · refine Nat.compare_eq_lt.trans ⟨.byValue ha hb, fun h => ?_⟩
    cases h with
    | byValue ha' hb' hlt => rwa [ha.unique ha', hb.unique hb']
    | numberFirst _ hb' => exact absurd hb (hb' n)
    | bytewise ha' _ _ => exact absurd ha (ha' m)
  · exact iff_of_true rfl (.numberFirst ha hb)
  · refine iff_of_false nofun fun h => ?_
    cases h with
    | byValue ha' _ _ => exact ha _ ha'
    | numberFirst ha' _ => exact ha _ ha'
    | bytewise _ hb' _ => exact hb' n hb
  · refine (compare_bytes_eq_lt_iff _ _).trans ⟨.bytewise ha hb, fun h => ?_⟩
    cases h with
    | byValue ha' _ _ => exact absurd ha' (ha _)
    | numberFirst ha' _ => exact absurd ha' (ha _)
    | bytewise _ _ hlt => exact hlt

/-- Two parts are ranked the same if they are the same text or spell one number. -/
theorem compare_ofChars_eq_eq_iff (a b : List Char) :
    compare (Identifier.ofChars a) (Identifier.ofChars b) = .eq ↔ PartAlike a b := by
  rcases ofChars_cases a with ⟨m, ha, hofa⟩ | ⟨ha, hofa⟩ <;>
    rcases ofChars_cases b with ⟨n, hb, hofb⟩ | ⟨hb, hofb⟩ <;> rw [hofa, hofb]
  · refine Nat.compare_eq_eq.trans ⟨?_, ?_⟩
    · rintro rfl
      exact .inr ⟨m, ha, hb⟩
    · rintro (rfl | ⟨k, ha', hb'⟩)
      · exact ha.unique hb
      · exact (ha.unique ha').trans (hb'.unique hb)
  · refine iff_of_false nofun ?_
    rintro (rfl | ⟨k, -, hb'⟩)
    · exact hb m ha
    · exact hb k hb'
  · refine iff_of_false nofun ?_
    rintro (rfl | ⟨k, ha', -⟩)
    · exact ha n hb
    · exact ha k ha'
  · have hbytes : compare (utf8 (String.ofList a)) (utf8 (String.ofList b)) = .eq ↔
        utf8 (String.ofList a) = utf8 (String.ofList b) := Std.compare_eq_iff_eq
    refine hbytes.trans ⟨fun h => ?_, ?_⟩
    · exact .inl (String.ofList_injective (utf8_injective h))
    · rintro (rfl | ⟨k, ha', -⟩)
      · rfl
      · exact absurd ha' (ha k)

/-- Parts are compared one after the other. -/
theorem compare_identifiers_cons (a b : List Char) (as bs : List (List Char)) :
    compare ((a :: as).map Identifier.ofChars) ((b :: bs).map Identifier.ofChars) =
      (compare (Identifier.ofChars a) (Identifier.ofChars b)).then
        (compare (as.map Identifier.ofChars) (bs.map Identifier.ofChars)) :=
  List.compareLex_cons_cons

/-- The first pair of parts that are not alike decides, and of lists that agree as far as they go
the shorter one precedes. -/
theorem compare_identifiers_eq_lt_iff (as bs : List (List Char)) :
    compare (as.map Identifier.ofChars) (bs.map Identifier.ofChars) = .lt ↔
      PartsPrecede as bs := by
  induction as generalizing bs with
  | nil =>
    cases bs with
    | nil => exact iff_of_false nofun nofun
    | cons b bs => exact iff_of_true rfl .ended
  | cons a as ih =>
    cases bs with
    | nil => exact iff_of_false nofun nofun
    | cons b bs =>
      rw [compare_identifiers_cons, Ordering.then_eq_lt, compare_ofChars_eq_lt_iff,
        compare_ofChars_eq_eq_iff, ih]
      constructor
      · rintro (h | ⟨h, hrest⟩)
        · exact .here h
        · exact .later h hrest
      · intro h
        cases h with
        | here h => exact .inl h
        | later h hrest => exact .inr ⟨h, hrest⟩

/-- Lists of parts are ranked the same if they are alike part by part. -/
theorem compare_identifiers_eq_eq_iff (as bs : List (List Char)) :
    compare (as.map Identifier.ofChars) (bs.map Identifier.ofChars) = .eq ↔
      List.Forall₂ PartAlike as bs := by
  induction as generalizing bs with
  | nil =>
    cases bs with
    | nil => exact iff_of_true rfl .nil
    | cons b bs => exact iff_of_false nofun nofun
  | cons a as ih =>
    cases bs with
    | nil => exact iff_of_false nofun nofun
    | cons b bs =>
      rw [compare_identifiers_cons, Ordering.then_eq_eq, compare_ofChars_eq_eq_iff, ih,
        List.forall₂_cons]

/-- A pre-release precedes the release, and two of them are ordered by their parts. -/
theorem comparePreRelease_eq_lt_iff (p q : Option String) :
    comparePreRelease p q = .lt ↔ PreReleasePrecedes p q := by
  cases p with
  | none => cases q <;> exact iff_of_false nofun nofun
  | some p =>
    cases q with
    | none => exact iff_of_true rfl .beforeRelease
    | some q =>
      refine (compare_identifiers_eq_lt_iff (parts p) (parts q)).trans ⟨.byParts, fun h => ?_⟩
      cases h with
      | byParts h => exact h

/-- Two releases are ranked the same, as are two pre-releases with parts that are alike. -/
theorem comparePreRelease_eq_eq_iff (p q : Option String) :
    comparePreRelease p q = .eq ↔ PreReleasesMatch PartAlike p q := by
  cases p with
  | none =>
    cases q with
    | none => exact iff_of_true rfl .releases
    | some q => exact iff_of_false nofun nofun
  | some p =>
    cases q with
    | none => exact iff_of_false nofun nofun
    | some q =>
      refine (compare_identifiers_eq_eq_iff (parts p) (parts q)).trans ⟨.byParts, fun h => ?_⟩
      cases h with
      | byParts h => exact h

/-- A version is compared as `lt` with the versions that it precedes. -/
theorem compare_eq_lt_iff (v w : Version) : compare v w = .lt ↔ v.Precedes w := by
  show Version.compare v w = .lt ↔ _
  rw [Version.compare, Ordering.then_eq_lt, Ordering.then_eq_lt, Ordering.then_eq_lt,
    comparePreRelease_eq_lt_iff, Std.compare_eq_lt, Std.compare_eq_lt, Std.compare_eq_lt,
    Std.compare_eq_iff_eq, Std.compare_eq_iff_eq, Std.compare_eq_iff_eq]
  rfl

/-- A version is compared as `eq` with the versions that it is like. -/
theorem compare_eq_eq_iff (v w : Version) : compare v w = .eq ↔ v.Alike w := by
  show Version.compare v w = .eq ↔ _
  rw [Version.compare, Ordering.then_eq_eq, Ordering.then_eq_eq, Ordering.then_eq_eq,
    comparePreRelease_eq_eq_iff, Std.compare_eq_iff_eq, Std.compare_eq_iff_eq,
    Std.compare_eq_iff_eq]
  exact ⟨fun ⟨hmajor, hminor, hpatch, h⟩ => ⟨hmajor, hminor, hpatch, h⟩,
    fun h => ⟨h.major_eq, h.minor_eq, h.patch_eq, h.preRelease⟩⟩

/-! ### The order -/

/-- **Versions are ranked by precedence.** Comparing versions says which of them precedes, from
either side, and `eq` if they are alike. A version is like itself, the comparison turned round is
the comparison of the versions exchanged, and every answer carries over a version in between. -/
theorem ranked_by_precedence :
    (∀ v w : Version, (compare v w = .lt ↔ v.Precedes w) ∧ (compare v w = .eq ↔ v.Alike w) ∧
      (compare v w = .gt ↔ w.Precedes v)) ∧
    (∀ v : Version, compare v v = .eq) ∧
    (∀ v w : Version, compare w v = (compare v w).swap) ∧
    (∀ (u v w : Version) (o : Ordering), compare u v = o → compare v w = o → compare u w = o) ∧
    ∀ u v w : Version, u.atMost v = true → v.atMost w = true → u.atMost w = true := by
  have hswap (v w : Version) : compare w v = (compare v w).swap := Std.OrientedOrd.eq_swap
  refine ⟨fun v w => ⟨compare_eq_lt_iff v w, compare_eq_eq_iff v w, ?_⟩,
    fun v => Std.ReflOrd.compare_self, hswap, fun u v w o huv hvw => ?_, fun u v w => atMost_trans⟩
  · rw [← compare_eq_lt_iff, hswap v w, Ordering.swap_eq_lt]
  · cases o with
    | lt => exact Std.TransCmp.lt_trans huv hvw
    | eq => exact Std.TransCmp.eq_trans huv hvw
    | gt => exact Std.TransCmp.gt_trans huv hvw

/-- A candidate with a number that is too large for 64 bits, which counts as a text, stands between
a candidate with a small number and the release. -/
theorem ranked_by_precedence_of_large_number :
    let u : Version := ⟨3, 1, 0, some "rc.9"⟩
    let v : Version := ⟨3, 1, 0, some "rc.18446744073709551616"⟩
    let w : Version := ⟨3, 1, 0, none⟩
    compare u v = .lt ∧ compare v w = .lt ∧ compare u w = .lt ∧ u.Precedes w ∧
      u.atMost v = true ∧ v.atMost w = true ∧ u.atMost w = true := by
  intro u v w
  obtain ⟨hmeaning, -, -, htrans, hatMost⟩ := ranked_by_precedence
  have huv : compare u v = .lt := by decide
  have hvw : compare v w = .lt := by decide
  have huw := htrans u v w .lt huv hvw
  have huv' : u.atMost v = true := by decide
  have hvw' : v.atMost w = true := by decide
  exact ⟨huv, hvw, huw, (hmeaning u w).1.1 huw, huv', hvw', hatMost u v w huv' hvw'⟩

end Version
end EtcdClient

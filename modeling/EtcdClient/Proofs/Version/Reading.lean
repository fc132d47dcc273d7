import EtcdClient.Proofs.Text.Cut
import EtcdClient.Proofs.Text.Numeral
import EtcdClient.Proofs.Text.Trim
import EtcdClient.Proofs.Version.Spelling

/-
# The texts of versions

What reads as a version is said here without the reader. `Leaves` takes the layers off a text from
the outside to the inside, and `Written` says what must be left:

| layer | taken off |
| --- | --- |
| blanks | at both ends |
| letters `v` | in front |
| build metadata | from the first plus sign on |

| left | version |
| --- | --- |
| `D.D.D` | a release |
| `D.D.D-P` | a pre-release `P` |

A text reads as a version just if the grammar says so (`accepted_by_grammar`). The text of a version
is one of its spellings, and none is shorter, so it reads back just if no layer takes anything off
it (`reads_back_iff`).

Source: `SPEC_FULL.md` §10.7, the reading of an `EtcdVersion`.
-/

namespace EtcdClient
namespace Version

/-! ### The grammar -/

/-- `D.D.D` with the numbers of a version. -/
def NumbersWritten (cs : List Char) (v : Version) : Prop :=
  ∃ a b c, cs = a ++ '.' :: (b ++ '.' :: c) ∧ Text.Digits a v.major.toNat ∧
    Text.Digits b v.minor.toNat ∧ Text.Digits c v.patch.toNat

/-- `D.D.D` or `D.D.D-P` of a version. -/
inductive Written (v : Version) : List Char → Prop
  | release {cs : List Char} (hpre : v.preRelease = none) (hnumbers : NumbersWritten cs v) :
      Written v cs
  | candidate {cs : List Char} {p : String} (hpre : v.preRelease = some p) (hne : p ≠ "")
      (hnumbers : NumbersWritten cs v) : Written v (cs ++ '-' :: p.toList)

/-- Nothing, or a plus sign and any text. -/
def IsMetadata (cs : List Char) : Prop := cs = [] ∨ ∃ rest, cs = '+' :: rest

/-- What is left of a text without the blanks at both ends, then without the letters `v` in front
and then without all from the first plus sign on. -/
inductive Leaves : List Char → List Char → Prop
  | intro {front letters body metadata back : List Char} (hfront : Text.Blanks front)
      (hback : Text.Blanks back) (htrimmed : Text.Trimmed (letters ++ (body ++ metadata)))
      (hletters : ∀ c ∈ letters, c = 'v') (hstart : (body ++ metadata).head? ≠ some 'v')
      (hplus : '+' ∉ body) (hmetadata : IsMetadata metadata) :
      Leaves (front ++ (letters ++ (body ++ metadata)) ++ back) body

/-! ### The layers -/

/-- The first plus sign is where the metadata begins. -/
theorem significant_eq_iff {cs body : List Char} : significant cs = body ↔
    '+' ∉ body ∧ ∃ metadata, IsMetadata metadata ∧
      (Text.trimChars cs).dropWhile (· == 'v') = body ++ metadata := by
  rw [significant]
  generalize (Text.trimChars cs).dropWhile (· == 'v') = rest
  cases hcut : Text.cutFirst '+' rest with
  | none =>
    -- Without a plus sign all of it is kept.
    have hrest : '+' ∉ rest := Text.cutFirst_eq_none.1 hcut
    constructor
    · rintro rfl
      exact ⟨hrest, [], .inl rfl, (List.append_nil rest).symm⟩
    · rintro ⟨-, metadata, rfl | ⟨m, rfl⟩, rfl⟩
      · exact List.append_nil body
      · exact absurd (List.mem_append_right body List.mem_cons_self) hrest
  | some parts =>
    obtain ⟨front, m⟩ := parts
    -- The first plus sign is the one in front of the metadata, since the body has none.
    obtain ⟨rfl, hfront⟩ := Text.cutFirst_eq_some.1 hcut
    constructor
    · rintro rfl
      exact ⟨hfront, '+' :: m, .inr ⟨m, rfl⟩, rfl⟩
    · rintro ⟨hbody, metadata, rfl | ⟨m', rfl⟩, heq⟩
      · rw [List.append_nil] at heq
        exact absurd (heq ▸ List.mem_append_right front List.mem_cons_self) hbody
      · rw [heq, Text.cutFirst_eq_some.2 ⟨rfl, hbody⟩] at hcut
        exact (Prod.mk.inj (Option.some.inj hcut)).1.symm

/-- **The reader takes off the layers.** -/
theorem leaves_iff {cs body : List Char} : Leaves cs body ↔ significant cs = body := by
  rw [significant_eq_iff]
  constructor
  · rintro ⟨hfront, hback, htrimmed, hletters, hstart, hplus, hmetadata⟩
    refine ⟨hplus, _, hmetadata, ?_⟩
    rw [Text.trimChars_eq_iff.2 ⟨htrimmed, _, _, hfront, hback, rfl⟩, Text.dropWhile_eq_iff]
    refine ⟨fun d hd => ?_, _, fun c hc => beq_iff_eq.2 (hletters c hc), rfl⟩
    exact beq_eq_false_iff_ne.2 fun hv => hstart (hv ▸ hd)
  · rintro ⟨hplus, metadata, hmetadata, hdrop⟩
    obtain ⟨hstart, letters, hletters, htrim⟩ := Text.dropWhile_eq_iff.1 hdrop
    obtain ⟨htrimmed, front, back, hfront, hback, rfl⟩ := Text.trimChars_eq_iff.1 htrim
    refine .intro hfront hback htrimmed (fun c hc => beq_iff_eq.1 (hletters c hc)) (fun hv => ?_)
      hplus hmetadata
    exact absurd (hstart 'v' hv) (by decide)

/-- A text without any layer is left as it is. -/
theorem leaves_self {cs : List Char} (hcs : Text.Trimmed cs) (hstart : cs.head? ≠ some 'v')
    (hplus : '+' ∉ cs) : Leaves cs cs := by
  rw [leaves_iff, significant_eq_iff, Text.trimChars_of_trimmed hcs]
  refine ⟨hplus, [], .inl rfl, ?_⟩
  rw [List.append_nil]
  exact Text.dropWhile_eq_self fun c hc => beq_eq_false_iff_ne.2 fun hv => hstart (hv ▸ hc)

/-- If nothing is missing there was no layer. -/
theorem Leaves.whole {cs body : List Char} (h : Leaves cs body) (hlen : cs.length ≤ body.length) :
    cs = body ∧ Text.Trimmed body ∧ '+' ∉ body := by
  cases h with
  | @intro front letters _ metadata back _ _ htrimmed _ _ hplus _ =>
    simp only [List.length_append] at hlen
    obtain rfl : front = [] := List.length_eq_zero_iff.1 (by omega)
    obtain rfl : letters = [] := List.length_eq_zero_iff.1 (by omega)
    obtain rfl : metadata = [] := List.length_eq_zero_iff.1 (by omega)
    obtain rfl : back = [] := List.length_eq_zero_iff.1 (by omega)
    simp only [List.nil_append, List.append_nil] at htrimmed ⊢
    exact ⟨trivial, htrimmed, hplus⟩

/-- Trimming keeps a plus sign. -/
theorem not_isBlank_plus : Text.isBlank '+' = false := by decide

/-- The letters in front of a version are no blanks. -/
theorem trimmed_letters {letters : List Char} (h : ∀ c ∈ letters, c = 'v') :
    Text.Trimmed letters := by
  refine Text.trimmed_of_forall fun c hc => ?_
  rw [h c hc]
  decide

/-- Metadata whose blanks at the end are dropped is metadata, and trimmed. -/
theorem IsMetadata.dropTrailing {metadata : List Char} (h : IsMetadata metadata) :
    IsMetadata (Text.dropTrailing Text.isBlank metadata) ∧
      Text.Trimmed (Text.dropTrailing Text.isBlank metadata) := by
  have hlast : ∀ c, (Text.dropTrailing Text.isBlank metadata).getLast? = some c →
      Text.isBlank c = false := fun c hc => Text.last_dropTrailing Text.isBlank metadata hc
  rcases h with rfl | ⟨m, rfl⟩
  · exact ⟨.inl rfl, nofun, hlast⟩
  · have hkept : Text.dropTrailing Text.isBlank (['+'] ++ m) =
        ['+'] ++ Text.dropTrailing Text.isBlank m :=
      Text.dropTrailing_append_of_last fun c hc => Option.some.inj hc ▸ not_isBlank_plus
    refine ⟨.inr ⟨_, hkept⟩, fun c hc => ?_, hlast⟩
    rw [← List.singleton_append, hkept] at hc
    exact Option.some.inj hc ▸ not_isBlank_plus

/-- More layers around a text leave what the text leaves. -/
theorem Leaves.dress {cs body : List Char} (h : Leaves cs body) (hcs : Text.Trimmed cs)
    (hplus : '+' ∉ cs) {front letters metadata back : List Char} (hfront : Text.Blanks front)
    (hback : Text.Blanks back) (hletters : ∀ c ∈ letters, c = 'v')
    (hmetadata : IsMetadata metadata) :
    Leaves (front ++ letters ++ cs ++ metadata ++ back) body := by
  obtain ⟨hbody, inner, hinner, hdrop⟩ := significant_eq_iff.1 (leaves_iff.1 h)
  rw [Text.trimChars_of_trimmed hcs] at hdrop
  obtain ⟨hstart, vs, hvs, rfl⟩ := Text.dropWhile_eq_iff.1 hdrop
  -- the text has no plus sign, so it brings no metadata of its own
  obtain rfl : inner = [] := by
    rcases hinner with rfl | ⟨m, rfl⟩
    · rfl
    · exact absurd (by simp) hplus
  obtain ⟨extra, hextra, hblank⟩ := Text.exists_eq_dropTrailing_append Text.isBlank metadata
  obtain ⟨hmetadata', htrimmed'⟩ := hmetadata.dropTrailing
  generalize Text.dropTrailing Text.isBlank metadata = metadata' at *
  rw [List.append_nil] at hcs hstart ⊢
  have htext : front ++ letters ++ (vs ++ body) ++ metadata ++ back =
      front ++ (letters ++ vs ++ (body ++ metadata')) ++ (extra ++ back) := by
    rw [hextra]
    simp only [List.append_assoc]
  rw [htext]
  refine .intro hfront ?_ ?_ ?_ ?_ hbody hmetadata'
  · intro c hc
    exact (List.mem_append.1 hc).elim (hblank c) (hback c)
  · have hall := ((trimmed_letters hletters).append hcs).append htrimmed'
    simpa only [List.append_assoc] using hall
  · intro c hc
    exact (List.mem_append.1 hc).elim (hletters c) fun hc => beq_iff_eq.1 (hvs c hc)
  · rw [List.head?_append]
    intro hv
    rcases Option.or_eq_some_iff.1 hv with hv | ⟨-, hv⟩
    · exact absurd (hstart 'v' hv) (by decide)
    · rcases hmetadata' with rfl | ⟨m, rfl⟩
      · exact absurd hv nofun
      · exact absurd (Option.some.inj hv) (by decide)

/-! ### The numbers and the pre-release -/

/-- In three numbers and the dots between them nothing else stands, so what stands behind is found
by its separator. -/
theorem NumbersWritten.not_mem {cs : List Char} {v : Version} (h : NumbersWritten cs v) {c : Char}
    (hdigit : c.isDigit = false) (hdot : c ≠ '.') : c ∉ cs := by
  obtain ⟨a, b, d, rfl, ha, hb, hd⟩ := h
  simp [ha.not_mem hdigit, hb.not_mem hdigit, hd.not_mem hdigit, hdot]

/-- Three numbers of 64 bits are read just where they are written, a dot between each two. -/
theorem readNumbers_eq_ok_iff {cs : List Char} (hplus : '+' ∉ cs) {p : Option String}
    {v : Version} : readNumbers cs p = .ok v ↔ NumbersWritten cs v ∧ v.preRelease = p := by
  constructor
  · intro h
    rw [readNumbers] at h
    split at h
    · next a b c hpieces =>
      -- The pieces are the three numbers, and a number without a plus sign is its digits.
      obtain ⟨rfl, -⟩ := Text.pieces_eq_triple.1 hpieces
      simp only [List.mem_append, List.mem_cons, not_or] at hplus
      split at h
      · next major minor patch hmajor hminor hpatch =>
        obtain rfl := Except.ok.inj h
        rw [Text.readUInt64_eq_ok_iff] at hmajor hminor hpatch
        exact ⟨⟨a, b, c, rfl, (Text.writes_iff_digits hplus.1).1 hmajor,
          (Text.writes_iff_digits hplus.2.2.1).1 hminor,
          (Text.writes_iff_digits hplus.2.2.2.2).1 hpatch⟩, rfl⟩
      · cases h
    · cases h
  · rintro ⟨⟨a, b, c, rfl, ha, hb, hc⟩, rfl⟩
    have hpieces : Text.pieces '.' (a ++ '.' :: (b ++ '.' :: c)) = [a, b, c] :=
      Text.pieces_eq_triple.2 ⟨rfl, ha.not_mem (by decide), hb.not_mem (by decide),
        hc.not_mem (by decide)⟩
    rw [readNumbers, hpieces]
    dsimp only
    rw [Text.readUInt64_eq_ok_iff.2 (Text.writes_iff.2 (.inl ha)),
      Text.readUInt64_eq_ok_iff.2 (Text.writes_iff.2 (.inl hb)),
      Text.readUInt64_eq_ok_iff.2 (Text.writes_iff.2 (.inl hc))]

/-- Without a hyphen there is no pre-release. -/
theorem written_iff_of_not_mem {body : List Char} (h : '-' ∉ body) {v : Version} :
    Written v body ↔ NumbersWritten body v ∧ v.preRelease = none := by
  constructor
  · rintro (⟨hpre, hnumbers⟩ | ⟨hpre, -, -⟩)
    · exact ⟨hnumbers, hpre⟩
    · exact absurd (List.mem_append_right _ List.mem_cons_self) h
  · rintro ⟨hnumbers, hpre⟩
    exact .release hpre hnumbers

/-- Numbers have no hyphen, so the first one is in front of the pre-release. -/
theorem written_append_iff {numbers pre : List Char} (h : '-' ∉ numbers) {v : Version} :
    Written v (numbers ++ '-' :: pre) ↔
      pre ≠ [] ∧ NumbersWritten numbers v ∧ v.preRelease = some (String.ofList pre) := by
  constructor
  · intro hwritten
    -- The text is cut at its first hyphen, which is in front of the pre-release on both sides.
    generalize hbody : numbers ++ '-' :: pre = body at hwritten
    cases hwritten with
    | release _ hnumbers =>
      refine absurd ?_ (hnumbers.not_mem (by decide) (by decide) : '-' ∉ body)
      rw [← hbody]
      exact List.mem_append_right _ List.mem_cons_self
    | @candidate cs p hpre hne hnumbers =>
      have hcs : '-' ∉ cs := hnumbers.not_mem (by decide) (by decide)
      have hcut := Text.cutFirst_eq_some.2 ⟨hbody.symm, h⟩
      rw [Text.cutFirst_eq_some.2 ⟨rfl, hcs⟩] at hcut
      obtain ⟨rfl, rfl⟩ := Prod.mk.inj (Option.some.inj hcut)
      refine ⟨fun hnil => hne (String.toList_eq_nil_iff.1 hnil), hnumbers, ?_⟩
      rw [hpre, String.ofList_toList]
  · rintro ⟨hne, hnumbers, hpre⟩
    have hcandidate := Written.candidate hpre (mt String.ofList_eq_empty_iff.1 hne) hnumbers
    rwa [String.toList_ofList] at hcandidate

/-- What is left of a text is read by the grammar. -/
theorem read_eq_ok_iff {s : String} {v : Version} :
    read s = .ok v ↔ Written v (significant s.toList) := by
  have hplus := plus_not_mem_significant s.toList
  rw [read]
  -- The reader cuts at the first hyphen, the grammar where the numbers end: that is one place.
  generalize significant s.toList = body at *
  cases hcut : Text.cutFirst '-' body with
  | none =>
    rw [written_iff_of_not_mem (Text.cutFirst_eq_none.1 hcut)]
    exact readNumbers_eq_ok_iff hplus
  | some parts =>
    obtain ⟨numbers, pre⟩ := parts
    obtain ⟨rfl, hnumbers⟩ := Text.cutFirst_eq_some.1 hcut
    rw [written_append_iff hnumbers]
    cases pre with
    | nil => exact iff_of_false (fun h => by cases h) fun h => h.1 rfl
    | cons c pre =>
      rw [and_iff_right (List.cons_ne_nil c pre)]
      exact readNumbers_eq_ok_iff fun hmem => hplus (List.mem_append_left _ hmem)

/-- **A text is a version just if it is one between blanks, letters and build metadata.** -/
theorem parse_eq_ok_iff {s : String} {v : Version} :
    Version.parse s = .ok v ↔ ∃ body, Leaves s.toList body ∧ Written v body := by
  have hread : Version.parse s = .ok v ↔ read s = .ok v := by
    refine ⟨read_of_parse, fun h => ?_⟩
    rw [Version.parse, h]
    rfl
  rw [hread, read_eq_ok_iff]
  constructor
  · intro h
    exact ⟨_, leaves_iff.2 rfl, h⟩
  · rintro ⟨body, hbody, hwritten⟩
    rwa [leaves_iff.1 hbody]

/-- A text that is no version is an error that quotes it whole. -/
theorem error_of_parse {s : String} {e : ClientError} (h : Version.parse s = .error e) :
    ∃ fault, e = .invalidArgument (.version s fault) := by
  rw [Version.parse] at h
  cases hread : read s with
  | ok v =>
    rw [hread] at h
    cases h
  | error fault =>
    rw [hread] at h
    exact ⟨fault, (Except.error.inj h).symm⟩

/-- The text that was refused is quoted as it was given. -/
theorem exists_message_eq (s : String) (fault : VersionFault) : ∃ tail,
    ArgumentFault.message (.version s fault) = "invalid version '" ++ s ++ "'" ++ tail := by
  cases fault with
  | malformed =>
    have hmessage : ArgumentFault.message (.version s .malformed) =
        "invalid version '" ++ s ++ "'" := rfl
    exact ⟨"", hmessage.trans String.append_empty.symm⟩
  | emptyPreRelease =>
    have hmessage : ArgumentFault.message (.version s .emptyPreRelease) =
        "invalid version '" ++ s ++ ("'" ++ ": empty pre-release") := rfl
    exact ⟨": empty pre-release", hmessage.trans String.append_assoc.symm⟩

/-- **The texts of versions are those of the grammar.** A text reads as a version just if the
layers leave a spelling of the version, and every other text is refused with an error that quotes
it as it was given. Metadata at the end of a text that reads, letters `v` in front of it and then
blanks around it change nothing, if it has neither metadata nor blanks of its own. -/
theorem accepted_by_grammar (s : String) :
    (∀ v, Version.parse s = .ok v ↔ ∃ body, Leaves s.toList body ∧ Written v body) ∧
      ((∀ v body, Leaves s.toList body → ¬ Written v body) →
        ∃ fault tail, Version.parse s = .error (.invalidArgument (.version s fault)) ∧
          ArgumentFault.message (.version s fault) = "invalid version '" ++ s ++ "'" ++ tail) ∧
      ∀ v, Version.parse s = .ok v → '+' ∉ s.toList → Text.Trimmed s.toList →
        ∀ front letters metadata back : List Char, Text.Blanks front → Text.Blanks back →
          (∀ c ∈ letters, c = 'v') → IsMetadata metadata →
            Version.parse (String.ofList (front ++ letters ++ s.toList ++ metadata ++ back)) =
              .ok v := by
  refine ⟨fun v => parse_eq_ok_iff, fun hnone => ?_, ?_⟩
  · cases hparse : Version.parse s with
    | ok v =>
      obtain ⟨body, hbody, hwritten⟩ := parse_eq_ok_iff.1 hparse
      exact absurd hwritten (hnone v body hbody)
    | error e =>
      obtain ⟨fault, rfl⟩ := error_of_parse hparse
      obtain ⟨tail, htail⟩ := exists_message_eq s fault
      exact ⟨fault, tail, rfl, htail⟩
  -- A text without metadata and blanks of its own is a body behind letters, and more letters are no
  -- harm.
  · intro v hparse hplus htrimmed front letters metadata back hfront hback hletters hmetadata
    obtain ⟨body, hbody, hwritten⟩ := parse_eq_ok_iff.1 hparse
    refine parse_eq_ok_iff.2 ⟨body, ?_, hwritten⟩
    rw [String.toList_ofList]
    exact hbody.dress htrimmed hplus hfront hback hletters hmetadata

/-- A pre-release keeps a hyphen, a letter `v` and a blank inside, and a sign is no digit. -/
theorem accepted_by_grammar_of_dressed_candidate :
    let v : Version := ⟨3, 1, 0, some "rc v-1"⟩
    Version.parse "v3.01.0-rc v-1" = .ok v ∧
      Version.parse "\t vvv3.01.0-rc v-1+git + \n" = .ok v ∧
      ∃ fault, Version.parse " 3.-1.0" = .error (.invalidArgument (.version " 3.-1.0" fault)) := by
  intro v
  have hv : Version.parse "v3.01.0-rc v-1" = .ok v := rfl
  obtain ⟨-, -, hdressed⟩ := accepted_by_grammar "v3.01.0-rc v-1"
  have hdress := hdressed v hv (by decide) (by decide) "\t ".toList ['v', 'v']
    "+git +".toList " \n".toList (by decide) (by decide) (by simp) (.inr ⟨_, rfl⟩)
  exact ⟨hv, hdress, _, rfl⟩

/-! ### The text of a version -/

/-- The numbers of a version in decimal digits. -/
def numbersText (v : Version) : List Char :=
  Text.decimal v.major.toNat ++ '.' ::
    (Text.decimal v.minor.toNat ++ '.' :: Text.decimal v.patch.toNat)

/-- A release is spelled with its numbers alone. -/
theorem toList_text_of_none {v : Version} (hpre : v.preRelease = none) :
    v.text.toList = numbersText v := by
  rw [text, hpre]
  simp [Text.decimalText, numbersText]

/-- A pre-release is spelled behind a hyphen. -/
theorem toList_text_of_some {v : Version} {p : String} (hpre : v.preRelease = some p) :
    v.text.toList = numbersText v ++ '-' :: p.toList := by
  rw [text, hpre]
  simp [Text.decimalText, numbersText]

/-- The spelling writes the numbers. -/
theorem numbersWritten_numbersText (v : Version) : NumbersWritten (numbersText v) v :=
  ⟨_, _, _, rfl, Text.digits_decimal _, Text.digits_decimal _, Text.digits_decimal _⟩

/-- And it is trimmed, as nothing in it is blank. -/
theorem NumbersWritten.trimmed {cs : List Char} {v : Version} (h : NumbersWritten cs v) :
    Text.Trimmed cs := by
  refine Text.trimmed_of_forall fun c hc => Bool.eq_false_iff.2 fun hblank => ?_
  refine h.not_mem (Bool.eq_false_iff.2 fun hdigit => ?_) ?_ hc
  · rw [Text.isBlank_of_isDigit hdigit] at hblank
    exact Bool.noConfusion hblank
  · rintro rfl
    exact absurd hblank (by decide)

/-- No spelling of the numbers is shorter than their decimal digits. -/
theorem NumbersWritten.length_le {cs : List Char} {v : Version} (h : NumbersWritten cs v) :
    (numbersText v).length ≤ cs.length := by
  obtain ⟨a, b, c, rfl, ha, hb, hc⟩ := h
  have hmajor := ha.length_decimal_le
  have hminor := hb.length_decimal_le
  have hpatch := hc.length_decimal_le
  simp only [numbersText, List.length_append, List.length_cons]
  omega

/-- No spelling of a version is shorter than its text. -/
theorem Written.length_le {v : Version} {body : List Char} (h : Written v body) :
    v.text.toList.length ≤ body.length := by
  cases h with
  | release hpre hnumbers =>
    rw [toList_text_of_none hpre]
    exact hnumbers.length_le
  | candidate hpre _ hnumbers =>
    rw [toList_text_of_some hpre, List.length_append, List.length_append]
    exact Nat.add_le_add_right hnumbers.length_le _

/-- A text that begins with numbers has no blanks and no letters `v` in front. -/
theorem NumbersWritten.leaves {cs tail : List Char} {v : Version} (h : NumbersWritten cs v)
    (htail : Text.Trimmed tail) (hplus : '+' ∉ tail) : Leaves (cs ++ tail) (cs ++ tail) := by
  refine leaves_self (h.trimmed.append htail) (fun hv => ?_) fun hmem => ?_
  · rw [List.head?_append, Option.or_eq_some_iff] at hv
    rcases hv with hv | ⟨hnil, -⟩
    · exact h.not_mem (by decide) (by decide) (List.mem_of_head? hv)
    · obtain ⟨a, b, c, rfl, -⟩ := h
      simp at hnil
  · rcases List.mem_append.1 hmem with hmem | hmem
    · exact h.not_mem (by decide) (by decide) hmem
    · exact hplus hmem

/-- **The text of a version reads back** just if the version has no pre-release or one that is not
empty, has no plus sign and does not end in a blank. -/
theorem reads_back_iff (v : Version) : Version.parse v.text = .ok v ↔ v.preRelease = none ∨
    ∃ p, v.preRelease = some p ∧ p ≠ "" ∧ '+' ∉ p.toList ∧
      ∀ c, p.toList.getLast? = some c → Text.isBlank c = false := by
  have hnumbers := numbersWritten_numbersText v
  have hhyphen : '-' ∉ numbersText v := hnumbers.not_mem (by decide) (by decide)
  rw [parse_eq_ok_iff]
  constructor
  · rintro ⟨body, hbody, hwritten⟩
    -- a spelling is no shorter than the text, so the text is the whole of what is left of it
    obtain ⟨rfl, htrimmed, hplus⟩ := hbody.whole hwritten.length_le
    cases hpre : v.preRelease with
    | none => exact .inl rfl
    | some p =>
      rw [toList_text_of_some hpre] at htrimmed hplus hwritten
      obtain ⟨hne, -, -⟩ := (written_append_iff hhyphen).1 hwritten
      refine .inr ⟨p, rfl, fun hp => hne (hp ▸ rfl), fun hmem => hplus ?_, fun c hc => ?_⟩
      · exact List.mem_append_right _ (List.mem_cons_of_mem _ hmem)
      · refine htrimmed.last c ?_
        rw [List.append_cons, List.getLast?_append, hc]
        rfl
  · rintro (hpre | ⟨p, hpre, hne, hplus, hlast⟩)
    · refine ⟨numbersText v, ?_, .release hpre hnumbers⟩
      have hleaves := hnumbers.leaves Text.trimmed_nil List.not_mem_nil
      rw [toList_text_of_none hpre]
      rwa [List.append_nil] at hleaves
    · refine ⟨_, ?_, .candidate hpre hne hnumbers⟩
      rw [toList_text_of_some hpre]
      refine hnumbers.leaves ⟨fun c hc => ?_, fun c hc => hlast c ?_⟩ ?_
      · obtain rfl := Option.some.inj hc
        decide
      · rwa [List.getLast?_cons_of_ne_nil (mt String.toList_eq_nil_iff.1 hne)] at hc
      · exact List.not_mem_cons_of_ne_of_not_mem (by decide) hplus

end Version
end EtcdClient

import EtcdClient.Proofs.Capabilities.Gating

/-
# The lowest version reported

A cluster can be asked for what all its members have. Members report their versions one after the
other, and `Capabilities.observe` keeps one of those reported that no other comes before
(`Lowest`, which one more report preserves). So after any reports, in any order:

| asked | answer |
| --- | --- |
| is a feature supported | yes just if every version reported has it |
| a feature is required | accepted just if it is supported |

Of versions that are alike the first one reported is kept, and a refusal names the version that is
kept. This is all that can depend on the order of the reports, and only among versions that are
alike (`weakest_member_counts`).

Source: `SPEC_FULL.md` §10.7: the lowest version reported wins.
-/

namespace EtcdClient
namespace Capabilities

/-- Capabilities have a feature just if they support it. -/
theorem has_iff_supports {c : Capabilities} {f : Feature} : c.Has f ↔ c.supports f = true := by
  obtain ⟨_ | v⟩ := c
  · exact iff_of_true nofun rfl
  · exact ⟨fun h => h v rfl, fun h w hw => Option.some.inj hw ▸ h⟩

/-- A requirement is refused with the version that is known, and not refused otherwise. -/
theorem require_eq_error_iff {c : Capabilities} {f : Feature} {e : ClientError} :
    c.require f = .error e ↔ c.supports f = false ∧
      ∃ v, c.version = some v ∧ e = .unsupported f f.since v := by
  obtain ⟨_ | v⟩ := c
  · simp [require, supports]
  · rw [require, supports]
    dsimp only
    rw [Version.isLT_compare]
    cases f.since.atMost v with
    | true => simp
    | false =>
      constructor
      · intro h
        exact ⟨rfl, v, rfl, (Except.error.inj h).symm⟩
      · rintro ⟨-, w, hw, rfl⟩
        rw [Option.some.inj hw]
        rfl

/-- A feature is demanded successfully just if it is supported. -/
theorem require_eq_ok_iff_supports {c : Capabilities} {f : Feature} :
    c.require f = .ok () ↔ c.supports f = true :=
  require_eq_ok_iff.trans has_iff_supports

/-- A refusal names the version that is known. -/
theorem require_of_not_supports {c : Capabilities} {f : Feature} (hf : c.supports f = false) :
    ∃ v, c.version = some v ∧ c.require f = .error (.unsupported f f.since v) := by
  obtain ⟨_ | v⟩ := c
  · exact absurd hf nofun
  · exact ⟨v, rfl, require_eq_error_iff.2 ⟨hf, v, rfl, rfl⟩⟩

/-! ### The version that is kept -/

/-- What is known after a list of reports is one of them, and none of them comes before it. -/
structure Lowest (c : Capabilities) (reported : List Version) : Prop where
  unknown_iff : c.version = none ↔ reported = []
  mem : ∀ v, c.version = some v → v ∈ reported
  atMost : ∀ v, c.version = some v → ∀ w ∈ reported, v.atMost w = true

namespace Lowest

variable {c : Capabilities} {reported : List Version}

/-- What is known at the start counts as reported first. -/
theorem start (c : Capabilities) : Lowest c c.version.toList := by
  obtain ⟨_ | v⟩ := c
  · exact ⟨iff_of_true rfl rfl, nofun, nofun⟩
  · refine ⟨iff_of_false nofun nofun, fun w hw => ?_, fun w hw u hu => ?_⟩
    · rw [← Option.some.inj hw]
      exact List.mem_singleton_self v
    · rw [← Option.some.inj hw, List.mem_singleton.1 hu]
      exact Version.atMost_refl v

/-- A report that comes before what is known takes its place, any other changes nothing. -/
theorem observe (h : Lowest c reported) (v : Version) :
    Lowest (c.observe v) (reported ++ [v]) := by
  have hsome : reported ++ [v] ≠ [] := List.append_ne_nil_of_right_ne_nil _ (List.cons_ne_nil _ _)
  obtain ⟨known⟩ := c
  cases known with
  | none =>
    obtain rfl := h.unknown_iff.1 rfl
    exact start ⟨some v⟩
  | some current =>
    -- A report that is no lower is passed over, also one that is alike, so the first of those
    -- stays.
    by_cases hlower : current.atMost v = true
    · have hkept : Capabilities.observe ⟨some current⟩ v = ⟨some current⟩ := if_pos hlower
      rw [hkept]
      refine ⟨iff_of_false nofun hsome,
        fun w hw => List.mem_append_left _ (h.mem w hw), fun w hw u hu => ?_⟩
      rcases List.mem_append.1 hu with hu | hu
      · exact h.atMost w hw u hu
      · rw [List.mem_singleton.1 hu, ← Option.some.inj hw]
        exact hlower
    -- A report that is lower takes the place, and by transitivity it is lowest of all.
    · have htaken : Capabilities.observe ⟨some current⟩ v = ⟨some v⟩ := if_neg hlower
      have hbefore : v.atMost current = true :=
        (Version.atMost_total current v).resolve_left hlower
      rw [htaken]
      refine ⟨iff_of_false nofun hsome, fun w hw => ?_, fun w hw u hu => ?_⟩
      · rw [← Option.some.inj hw]
        exact List.mem_append_right _ (List.mem_singleton_self v)
      · rw [← Option.some.inj hw]
        rcases List.mem_append.1 hu with hu | hu
        · exact Version.atMost_trans hbefore (h.atMost current rfl u hu)
        · rw [List.mem_singleton.1 hu]
          exact Version.atMost_refl v

/-- By induction over the versions that are reported. -/
theorem foldl_observe (h : Lowest c reported) (vs : List Version) :
    Lowest (vs.foldl Capabilities.observe c) (reported ++ vs) := by
  induction vs generalizing c reported with
  | nil => rwa [List.append_nil]
  | cons v vs ih =>
    have hrest := ih (h.observe v)
    rwa [List.append_assoc] at hrest

/-- A feature is supported just if every version that was reported has it. -/
theorem supports_iff (h : Lowest c reported) (f : Feature) :
    c.supports f = true ↔ ∀ v ∈ reported, f.since.atMost v = true := by
  cases hknown : c.version with
  | none =>
    rw [h.unknown_iff.1 hknown, supports, hknown]
    exact iff_of_true rfl fun v hv => absurd hv List.not_mem_nil
  | some v =>
    rw [supports, hknown]
    exact ⟨fun hv w hw => Version.atMost_trans hv (h.atMost v hknown w hw),
      fun hall => hall v (h.mem v hknown)⟩

/-- Two versions that are kept of the same reports are alike. -/
theorem compare_eq {c' : Capabilities} {reported' : List Version} (h : Lowest c reported)
    (h' : Lowest c' reported') (hsame : ∀ v, v ∈ reported' ↔ v ∈ reported) {v v' : Version}
    (hv : c.version = some v) (hv' : c'.version = some v') : compare v' v = .eq := by
  have hle : v'.atMost v = true := h'.atMost v' hv' v ((hsame v).2 (h.mem v hv))
  have hge : v.atMost v' = true := h.atMost v hv v' ((hsame v').1 (h'.mem v' hv'))
  exact Std.OrientedCmp.isLE_antisymm hle hge

end Lowest

/-- **The weakest member counts.** After any reports, to capabilities that know nothing or a version
that counts as reported first, what is known is one of the versions reported and comes before all
others or is like them; nothing is known just if nothing was reported. A feature is supported just
if every version reported stands at or after the first one that has it. It is accepted as a
requirement just if it is supported, and otherwise refused with its name, its first version and the
version that is known. The same reports in another order support the same features, and they accept
the same requirements or refuse them with versions that are alike. -/
theorem weakest_member_counts (c : Capabilities) (vs : List Version) :
    let reported := c.version.toList ++ vs
    let known := vs.foldl observe c
    (known.version = none ↔ reported = []) ∧
      (∀ v, known.version = some v → v ∈ reported ∧ ∀ w ∈ reported, v.atMost w = true) ∧
      (∀ f, known.supports f = true ↔ ∀ v ∈ reported, f.since.atMost v = true) ∧
      (∀ f, known.require f = .ok () ↔ known.supports f = true) ∧
      (∀ f, known.supports f = false →
        ∃ v, known.version = some v ∧ known.require f = .error (.unsupported f f.since v)) ∧
      ∀ (c' : Capabilities) (vs' : List Version), (c'.version.toList ++ vs').Perm reported →
        let other := vs'.foldl observe c'
        ∀ f, other.supports f = known.supports f ∧
          (other.require f = .ok () ∧ known.require f = .ok () ∨
            ∃ v' v, other.require f = .error (.unsupported f f.since v') ∧
              known.require f = .error (.unsupported f f.since v) ∧ compare v' v = .eq) := by
  intro reported known
  have hlowest : Lowest known reported := (Lowest.start c).foldl_observe vs
  refine ⟨hlowest.unknown_iff, fun v hv => ⟨hlowest.mem v hv, hlowest.atMost v hv⟩,
    hlowest.supports_iff, fun f => require_eq_ok_iff_supports, fun f => require_of_not_supports,
    fun c' vs' hperm => ?_⟩
  intro other f
  -- The lowest of both lists of reports are reports of both, so each is at most the other.
  have hother : Lowest other (c'.version.toList ++ vs') := (Lowest.start c').foldl_observe vs'
  have hsupports : other.supports f = known.supports f := by
    rw [Bool.eq_iff_iff, hother.supports_iff, hlowest.supports_iff]
    exact forall_congr' fun v => imp_congr_left hperm.mem_iff
  refine ⟨hsupports, ?_⟩
  cases hf : known.supports f with
  | true =>
    exact .inl ⟨require_eq_ok_iff_supports.2 (hsupports.trans hf),
      require_eq_ok_iff_supports.2 hf⟩
  | false =>
    obtain ⟨v', hv', herror'⟩ := require_of_not_supports (hsupports.trans hf)
    obtain ⟨v, hv, herror⟩ := require_of_not_supports hf
    exact .inr ⟨v', v, herror', herror,
      hlowest.compare_eq hother (fun _ => hperm.mem_iff) hv hv'⟩

/-- Of two candidates that are alike the first one reported is named, in either order, and no
candidate for 3.2 can list leases. -/
theorem weakest_member_counts_of_alike_candidates :
    let a : Version := ⟨3, 2, 0, some "rc.00"⟩
    let b : Version := ⟨3, 2, 0, some "rc.0"⟩
    let newer : Version := ⟨3, 5, 0, none⟩
    let known := [newer, a, b].foldl observe .unknown
    let other := [a, newer].foldl observe ⟨some b⟩
    [b, a, newer].Perm [newer, a, b] ∧ known.version = some a ∧ other.version = some b ∧
      known.supports .leaseLeases = false ∧
      known.require .leaseLeases = .error (.unsupported .leaseLeases ⟨3, 3, 0, none⟩ a) ∧
      other.require .leaseLeases = .error (.unsupported .leaseLeases ⟨3, 3, 0, none⟩ b) ∧
      compare b a = .eq ∧ known.require .putIgnoreLease = .ok () ∧
      other.supports .putIgnoreLease = true := by
  intro a b newer known other
  have hperm : [b, a, newer].Perm [newer, a, b] := by decide
  have hknown : known.version = some a := by decide
  have hother : other.version = some b := by decide
  have hlists : known.supports .leaseLeases = false := by decide
  have hignores : known.supports .putIgnoreLease = true := by decide
  obtain ⟨-, -, -, hrequire, hrefused, horders⟩ :=
    weakest_member_counts .unknown [newer, a, b]
  obtain ⟨v, hv, herror⟩ := hrefused .leaseLeases hlists
  obtain rfl : v = a := Option.some.inj (hv.symm.trans hknown)
  have horders' := horders ⟨some b⟩ [a, newer] hperm
  have hsame := (horders' .putIgnoreLease).1
  -- Both refuse the feature, and each names the candidate that it heard of first.
  rcases (horders' .leaseLeases).2 with ⟨-, haccepted⟩ | ⟨v', v, herror', hagain, halike⟩
  · exact absurd (haccepted.symm.trans herror) nofun
  · obtain ⟨-, w, hw, hnamed⟩ := require_eq_error_iff.1 herror'
    have hv' : v' = b := by
      rw [Option.some.inj (hother.symm.trans hw)]
      exact (ClientError.unsupported.inj hnamed).2.2
    have hva : v = a := (ClientError.unsupported.inj
      (Except.error.inj (hagain.symm.trans herror))).2.2
    rw [hv'] at herror' halike
    rw [hva] at halike
    exact ⟨hperm, hknown, hother, hlists, herror, herror', halike,
      (hrequire .putIgnoreLease).2 hignores, hsame.trans hignores⟩

end Capabilities
end EtcdClient

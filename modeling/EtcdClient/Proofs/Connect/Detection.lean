import EtcdClient.Connect
import EtcdClient.Proofs.Capabilities.Lowest

/-
# Detecting versions

When a client has its token it asks every member for its version, in the order of the addresses.
What counts of the answers is in `Connect.mem_reported_iff`:

| a member | reports |
| --- | --- |
| replies in time with the text of a version | that version |
| replies in time with any other text | nothing |
| replies with a status, or without a message | nothing |
| does not reply in time | nothing |

The versions reported are folded into the lowest one. The order of versions is transitive and total,
so a feature is supported by what comes of it just if every one of them supports it
(`Capabilities.Lowest.supports_iff`): which of two versions that compare equal is kept, and when
each one was heard of, is not seen. Nothing that members answer makes an attempt to connect fail.

Source: `SPEC_FULL.md` §10.7: detection failure is logged and leaves the version unknown.
-/

namespace EtcdClient

/-- A member counts just if it replied with a message that has a version in it. -/
theorem StatusAnswer.version?_eq_some_iff {a : StatusAnswer} {v : Version} :
    a.version? = some v ↔ ∃ r m, a = .reply r ∧ r.outcome .status = .ok m ∧
      Version.parse (m.text 2) = .ok v := by
  cases a with
  | silent => exact iff_of_false nofun fun ⟨_, _, h, _⟩ => absurd h nofun
  | reply r =>
    simp only [version?, reply.injEq, exists_and_left, exists_eq_left']
    cases r.outcome .status with
    | error e => simp
    | ok m => cases hv : Version.parse (m.text 2) <;> simp [hv]

namespace Connect

/-! ### What members report -/

/-- A version is reported just if some member replied with its text in time. -/
theorem mem_reported_iff {n : Network} {endpoints : List Endpoint} {v : Version} :
    v ∈ reported n endpoints ↔ ∃ member ∈ endpoints.zipIdx, ∃ r m,
      n.status member = .reply r ∧ r.outcome .status = .ok m ∧
        Version.parse (m.text 2) = .ok v := by
  simp only [reported, List.mem_filterMap, StatusAnswer.version?_eq_some_iff]

/-- After detection a feature is supported just if every version that was reported has it. -/
theorem detect_supports_iff {n : Network} {endpoints : List Endpoint} {f : Feature} :
    (detect n endpoints).supports f = true ↔
      ∀ v ∈ reported n endpoints, f.since.atMost v = true := by
  have hlowest := (Capabilities.Lowest.start .unknown).foldl_observe (reported n endpoints)
  exact hlowest.supports_iff f

/-! ### Connecting -/

/-- An attempt to connect that got past authentication: it has the endpoints, a channel to them,
and a token if there are credentials, for which it asked. -/
structure Authenticated (n : Network) (c : Config) (endpoints : List Endpoint)
    (asked : List Asked) (token : Option Token) : Prop where
  parsed : c.parsedEndpoints = .ok endpoints
  opened : openChannel n endpoints = .ok ()
  obtained : obtainToken n c.credentials = (asked, .ok token)

namespace Authenticated

variable {n : Network} {c : Config} {endpoints : List Endpoint} {asked : List Asked}
  {token : Option Token}

/-- From there on the attempt cannot fail. -/
theorem connect_eq (h : Authenticated n c endpoints asked token) :
    Client.connect n c = (asked ++ (detection n c endpoints).1,
      .ok ⟨token, (detection n c endpoints).2, c.handshakeTimeout⟩) := by
  rw [Client.connect, h.parsed]
  dsimp only
  rw [h.opened]
  dsimp only
  rw [h.obtained]

/-- With detection the members are asked in their order, and what they say decides the capabilities
and nothing else. -/
theorem connect_eq_of_detect (h : Authenticated n c endpoints asked token)
    (hdetect : c.detectVersion = true) :
    Client.connect n c = (asked ++ endpoints.map (.member · statusRequest),
      .ok ⟨token, detect n endpoints, c.handshakeTimeout⟩) := by
  rw [h.connect_eq, detection, if_pos hdetect]

/-- Whether versions are asked for is not looked at before. -/
theorem without_detection (h : Authenticated n c endpoints asked token) :
    Authenticated n { c with detectVersion := false } endpoints asked token :=
  ⟨h.parsed, h.opened, h.obtained⟩

end Authenticated

/-! ### Detection as a whole -/

/-- Reports that agree as sets leave the same features, however they are ordered. -/
theorem detect_supports_congr {n n' : Network} {endpoints endpoints' : List Endpoint}
    (h : ∀ v, v ∈ reported n' endpoints' ↔ v ∈ reported n endpoints) (f : Feature) :
    (detect n' endpoints').supports f = (detect n endpoints).supports f := by
  rw [Bool.eq_iff_iff, detect_supports_iff, detect_supports_iff]
  exact forall_congr' fun v => imp_congr_left (h v)

/-- **Detecting versions is harmless and complete.** An attempt to connect that got past
authentication succeeds, whatever the members answer: it asks each of them once, in the order of the
addresses, and the client is the one that it would be without detection but for what it knows of the
servers. It supports a feature just if every member supports it that replied in time with the text
of a version, so every feature if none did. Two such attempts in which the same versions are
reported, in any order and with any members that fail among them, support the same features and hold
back the same operations and watches. -/
theorem detection_harmless_and_complete (n : Network) (c : Config) (endpoints : List Endpoint)
    (asked : List Asked) (token : Option Token) (hdetect : c.detectVersion = true)
    (h : Authenticated n c endpoints asked token) :
    ∃ client : Client,
      Client.connect n c = (asked ++ endpoints.map (.member · statusRequest), .ok client) ∧
      Client.connect n { c with detectVersion := false } =
        (asked, .ok { client with capabilities := .unknown }) ∧
      (∀ f, client.capabilities.supports f = true ↔
        ∀ v, (∃ member ∈ endpoints.zipIdx, ∃ r m, n.status member = .reply r ∧
          r.outcome .status = .ok m ∧ Version.parse (m.text 2) = .ok v) →
            f.since.atMost v = true) ∧
      ∀ n' c' endpoints' asked' token', c'.detectVersion = true →
        Authenticated n' c' endpoints' asked' token' →
        (∀ v, v ∈ reported n' endpoints' ↔ v ∈ reported n endpoints) →
        ∃ other : Client, (Client.connect n' c').2 = .ok other ∧
          (∀ f, other.capabilities.supports f = client.capabilities.supports f) ∧
          (∀ op : Operation,
            op.check other.capabilities = .ok () ↔ op.check client.capabilities = .ok ()) ∧
          ∀ options : WatchOptions, options.validate other.capabilities = .ok () ↔
            options.validate client.capabilities = .ok () := by
  refine ⟨⟨token, detect n endpoints, c.handshakeTimeout⟩, h.connect_eq_of_detect hdetect, ?_,
    fun f => ?_, fun n' c' endpoints' asked' token' hdetect' h' hsame => ?_⟩
  -- Without detection nothing is asked beyond the token, and nothing is known.
  · rw [h.without_detection.connect_eq, detection, if_neg (by simp), List.append_nil]
    rfl
  · simp only [detect_supports_iff, mem_reported_iff]
  -- Features are what two attempts are compared by, and every check asks for features alone.
  · have hsupports := detect_supports_congr hsame
    have hhas (f : Feature) : (detect n' endpoints').Has f ↔ (detect n endpoints).Has f := by
      rw [Capabilities.has_iff_supports, Capabilities.has_iff_supports, hsupports]
    refine ⟨_, congrArg Prod.snd (h'.connect_eq_of_detect hdetect'), hsupports, fun op => ?_,
      fun options => ?_⟩
    · exact ⟨Client.check_of_has fun f => (hhas f).1, Client.check_of_has fun f => (hhas f).2⟩
    · rw [WatchOptions.validate_eq_ok_iff, WatchOptions.validate_eq_ok_iff]
      exact forall_congr' fun f => imp_congr_right fun _ => hhas f

/-- One member of three runs an old version, and it is the old version that counts, whether the
member that fails is the second one or the first. -/
theorem detection_harmless_and_complete_of_three_members :
    let c : Config := { endpoints := ["[::1]:1", "[::1]:2", "[::1]:3"] }
    let endpoints : List Endpoint := [1, 2, 3].map fun port => ⟨.http, "[::1]", port⟩
    let runs (s : String) : StatusAnswer := .reply (.message (Field.plain 2 "version" (.text s)))
    let network (answers : List StatusAnswer) : Network :=
      { accepts := fun _ => true
        reply := fun _ => .missing
        status := fun member => answers.getD member.2 .silent }
    let n := network [runs "3.5.0", .silent, runs "v3.2.9"]
    let n' := network [runs "unknown", runs "3.2.9", runs "3.5.0"]
    Authenticated n c endpoints [] none ∧ Authenticated n' c endpoints [] none ∧
      ∃ client other : Client,
        Client.connect n c = (endpoints.map (.member · statusRequest), .ok client) ∧
        (Client.connect n' c).2 = .ok other ∧
        client.capabilities.supports .putIgnoreLease = true ∧
        client.capabilities.supports .leaseLeases = false ∧
        other.capabilities.supports .leaseLeases = false := by
  intro c endpoints runs network n n'
  have hparsed : c.parsedEndpoints = .ok endpoints := by
    dsimp only [c, endpoints, List.map_cons, List.map_nil]
    unfold Config.parsedEndpoints Config.parsedEndpointsWith Endpoint.parseAllWith
      Endpoint.parseWith Endpoint.readWith
    rfl
  have h : Authenticated n c endpoints [] none := ⟨hparsed, rfl, rfl⟩
  have h' : Authenticated n' c endpoints [] none := ⟨hparsed, rfl, rfl⟩
  have hreported : reported n endpoints = [⟨3, 5, 0, none⟩, ⟨3, 2, 9, none⟩] := by
    dsimp only [n, network, runs, endpoints, List.map_cons, List.map_nil]
    rfl
  have hreported' : reported n' endpoints = [⟨3, 2, 9, none⟩, ⟨3, 5, 0, none⟩] := by
    dsimp only [n', network, runs, endpoints, List.map_cons, List.map_nil]
    rfl
  -- The members answer in another order, and the versions heard of are the same.
  have hsame : ∀ v, v ∈ reported n' endpoints ↔ v ∈ reported n endpoints := by
    intro v
    rw [hreported, hreported', List.mem_pair, List.mem_pair]
    exact or_comm
  obtain ⟨client, hconnect, -, hsupports, hagree⟩ :=
    detection_harmless_and_complete n c endpoints [] none rfl h
  obtain ⟨other, hother, hequal, -, -⟩ := hagree n' c endpoints [] none rfl h' hsame
  have hleast : client.capabilities.supports .leaseLeases = false := by
    rw [← Bool.not_eq_true, hsupports]
    -- The member with the old version is among those that were heard of, so the feature is not had.
    intro hall
    have hnot := hall ⟨3, 2, 9, none⟩ (mem_reported_iff.1 (by simp [hreported]))
    exact absurd hnot (by decide)
  have hothers : client.capabilities.supports .putIgnoreLease = true := by
    rw [hsupports]
    intro v hv
    have hmem : v ∈ reported n endpoints := mem_reported_iff.2 hv
    rw [hreported, List.mem_pair] at hmem
    rcases hmem with rfl | rfl <;> decide
  exact ⟨h, h', client, other, hconnect, hother, hothers, hleast, (hequal _).trans hleast⟩

end Connect
end EtcdClient

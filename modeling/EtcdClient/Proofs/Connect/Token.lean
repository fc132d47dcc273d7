import EtcdClient.Proofs.Connect.Detection
import EtcdClient.Service

/-
# Where the token goes

A client with credentials exchanges them for a token once, while it connects. What it sends after
that:

| sent | over | with the token |
| --- | --- | --- |
| a unary request | the channel of the client | yes |
| a request of a session | a stream of that channel | yes |
| the question for a member's version | a channel to the member alone | no |

The token is put into the metadata of a request in place of any that is there, and what stands under
other names stays as it is (`Metadata.attach_values`, `Metadata.attach_others`). The channels over
which versions are detected do not put it there, and detection comes after authentication, so it is
not so that every later request carries the token.

Source: `SPEC_FULL.md` §10.3: the token is attached to every call after the one that gets it.
-/

namespace EtcdClient

/-! ### Metadata -/

namespace Metadata

/-- The values under a name in two lists of metadata are those of the one and then of the other. -/
theorem values_append (m m' : Metadata) (name : String) :
    (m ++ m').values name = m.values name ++ m'.values name := by
  rw [values, values, values, List.filter_append, List.map_append]

/-- A token stands once in the metadata that it is attached to. -/
theorem attach_values (m : Metadata) (t : Token) :
    (m.attach (some t)).values Token.name = [utf8 t.text] := by
  have hnone : Metadata.values (m.filter (·.1 ≠ Token.name)) Token.name = [] := by
    simp [values, List.filter_filter]
  rw [attach, values_append, hnone]
  rfl

/-- What stands under other names stays, and stays in order. -/
theorem attach_others (m : Metadata) (t : Token) :
    (m.attach (some t)).filter (·.1 ≠ Token.name) = m.filter (·.1 ≠ Token.name) := by
  rw [attach, List.filter_append, List.filter_filter]
  simp

end Metadata

/-! ### What a client sends -/

namespace Client

variable {c : Client} {t : Token}

/-- A client with a token sends it with a request, and nothing besides. -/
theorem send_metadata (h : c.token = some t) (request : Request) :
    (c.send request).metadata = [(Token.name, utf8 t.text)] := by
  rw [send, h]
  rfl

/-- An operation is sent with the token, if it is sent. -/
theorem call_metadata (h : c.token = some t) (op : Operation) (server : Sent → Reply) :
    ∀ sent ∈ (c.call op server).1, sent.metadata = [(Token.name, utf8 t.text)] := by
  intro sent hsent
  rw [call, run] at hsent
  split at hsent
  · exact absurd hsent List.not_mem_nil
  · rw [List.mem_singleton.1 hsent]
    exact send_metadata h _

/-- It does so with every request of a stream. -/
theorem onStream_metadata (h : c.token = some t) (requests : List Request) :
    ∀ sent ∈ c.onStream requests, sent.metadata = [(Token.name, utf8 t.text)] := by
  intro sent hsent
  obtain ⟨request, -, rfl⟩ := List.mem_map.1 hsent
  exact send_metadata h request

end Client

/-! ### Connecting with credentials -/

namespace Connect

/-- Credentials that pass and a reply with a token that can be sent give the client its token. -/
theorem obtainToken_of_reply {n : Network} {given checked : Credentials} {m : Message}
    (hchecked : given.checked = .ok checked)
    (hreply : (n.reply (authenticateRequest checked)).outcome .authenticate = .ok m)
    (hsendable : (utf8 (m.text 2)).all isMetadataByte = true) :
    obtainToken n (some given) =
      ([.channel (authenticateRequest checked)], .ok (some ⟨m.text 2, hsendable⟩)) := by
  have hmake : Token.make (m.text 2) = .ok ⟨m.text 2, hsendable⟩ := dif_pos hsendable
  rw [obtainToken, hchecked]
  dsimp only
  rw [authenticate, hreply]
  dsimp only
  rw [hmake]
  rfl

/-- Members are asked without a token, whatever the client has. -/
theorem member_metadata {n : Network} {c : Config} {endpoints : List Endpoint} {e : Endpoint}
    {sent : Sent} (h : .member e sent ∈ (detection n c endpoints).1) : sent.metadata = [] := by
  rw [detection] at h
  split at h
  · obtain ⟨asked, -, heq⟩ := List.mem_map.1 h
    cases heq
    rfl
  · exact absurd h List.not_mem_nil

/-- **The token goes with every request of the client, and with no question for a version.** If the
credentials are checked and exchanged for a text that can be sent, then an attempt to connect that
can be made gives a client. Every operation that it sends and every request of its sessions carries
the text as its only metadata. In metadata that a request has already the token stands exactly once,
and what stands under other names stays as it is. The members, which are asked for their versions
after the token was there, are asked without it. -/
theorem token_on_requests_of_client (n : Network) (c : Config) (given checked : Credentials)
    (endpoints : List Endpoint) (m : Message) (hgiven : c.credentials = some given)
    (hchecked : given.checked = .ok checked) (hparsed : c.parsedEndpoints = .ok endpoints)
    (hopened : openChannel n endpoints = .ok ())
    (hreply : (n.reply (authenticateRequest checked)).outcome .authenticate = .ok m)
    (hsendable : (utf8 (m.text 2)).all isMetadataByte = true) :
    ∃ client : Client,
      Client.connect n c =
        (.channel (authenticateRequest checked) :: (detection n c endpoints).1, .ok client) ∧
      (∀ op server, ∀ sent ∈ (client.call op server).1,
        sent.metadata = [(Token.name, utf8 (m.text 2))]) ∧
      (∀ requests, ∀ sent ∈ client.onStream requests,
        sent.metadata = [(Token.name, utf8 (m.text 2))]) ∧
      (∀ metadata : Metadata,
        (metadata.attach client.token).values Token.name = [utf8 (m.text 2)] ∧
          (metadata.attach client.token).filter (·.1 ≠ Token.name) =
            metadata.filter (·.1 ≠ Token.name)) ∧
      ∀ e sent, .member e sent ∈ (Client.connect n c).1 → sent.metadata = [] := by
  have hobtained := obtainToken_of_reply hchecked hreply hsendable
  rw [← hgiven] at hobtained
  have h : Authenticated n c endpoints _ _ := ⟨hparsed, hopened, hobtained⟩
  let token : Token := ⟨m.text 2, hsendable⟩
  refine ⟨⟨some token, (detection n c endpoints).2, c.handshakeTimeout⟩, h.connect_eq,
    Client.call_metadata (t := token) rfl, Client.onStream_metadata (t := token) rfl,
    fun metadata => ⟨metadata.attach_values token, metadata.attach_others token⟩,
    fun e sent hsent => ?_⟩
  -- What was asked is the exchange of the credentials, then the members.
  rw [h.connect_eq, List.mem_append] at hsent
  rcases hsent with hchannel | hmember
  · exact absurd (List.mem_singleton.1 hchannel) nofun
  · exact member_metadata hmember

/-- Two members that exchange any credentials for one token and run the same version. -/
def twins : Network where
  accepts _ := true
  reply _ := .message (Field.plain 2 "token" (.text "tk.2"))
  status _ := .reply (.message (Field.plain 2 "version" (.text "3.4.0")))

/-- A client of both, with credentials. -/
def configOfTwins : Config :=
  { endpoints := ["[::1]:1", "[::1]:2"], credentials := some ⟨"root", "secret"⟩ }

/-- Both endpoints of the example can be read. -/
theorem parsedEndpoints_configOfTwins : configOfTwins.parsedEndpoints =
    .ok [⟨.http, "[::1]", 1⟩, ⟨.http, "[::1]", 2⟩] := by
  unfold configOfTwins Config.parsedEndpoints Config.parsedEndpointsWith Endpoint.parseAllWith
    Endpoint.parseWith Endpoint.readWith
  rfl

/-- The version of a member is asked for without the token by the client as it connects, and with it
by its caller later. -/
theorem token_on_requests_of_client_of_twins :
    ∃ client : Client, (Client.connect twins configOfTwins).2 = .ok client ∧
      (client.call (.maintenance .status) twins.reply).1 =
        [⟨.status, [(Token.name, utf8 "tk.2")]⟩] ∧
      .member ⟨.http, "[::1]", 1⟩ ⟨.status, []⟩ ∈ (Client.connect twins configOfTwins).1 := by
  obtain ⟨client, hconnect, hcalls, -, -, -⟩ := token_on_requests_of_client twins configOfTwins
    ⟨"root", "secret"⟩ ⟨"root", "secret"⟩ _ (Field.plain 2 "token" (.text "tk.2")) rfl rfl
    parsedEndpoints_configOfTwins rfl rfl (by decide)
  have hsent : client.send .status ∈ (client.call (.maintenance .status) twins.reply).1 :=
    List.mem_singleton.2 rfl
  have hmetadata := hcalls _ _ _ hsent
  refine ⟨client, congrArg Prod.snd hconnect, ?_, ?_⟩
  · exact congrArg (fun metadata => [(⟨.status, metadata⟩ : Sent)]) hmetadata
  · rw [hconnect]
    exact List.mem_cons_of_mem _ List.mem_cons_self

/-- **Members are asked without the token.** It is not so that every request after the one for the
token carries it: the question for a version carries none. -/
theorem status_asked_without_token :
    ¬ ∀ (n : Network) (c : Config) (given checked : Credentials) (endpoints : List Endpoint)
      (m : Message), c.credentials = some given → given.checked = .ok checked →
      c.parsedEndpoints = .ok endpoints → openChannel n endpoints = .ok () →
      (n.reply (authenticateRequest checked)).outcome .authenticate = .ok m →
      (utf8 (m.text 2)).all isMetadataByte = true →
        ∀ e sent, .member e sent ∈ (Client.connect n c).1 →
          sent.metadata.values Token.name = [utf8 (m.text 2)] := by
  intro hcarries
  have hcarried := hcarries twins configOfTwins ⟨"root", "secret"⟩ ⟨"root", "secret"⟩ _
    (Field.plain 2 "token" (.text "tk.2")) rfl rfl parsedEndpoints_configOfTwins rfl rfl (by decide)
  have hobtained : obtainToken twins configOfTwins.credentials =
      ([.channel (authenticateRequest ⟨"root", "secret"⟩)], .ok (some ⟨"tk.2", by decide⟩)) := rfl
  have h : Authenticated twins configOfTwins _ _ _ :=
    ⟨parsedEndpoints_configOfTwins, rfl, hobtained⟩
  have hasked : .member ⟨.http, "[::1]", 1⟩ statusRequest ∈
      (Client.connect twins configOfTwins).1 := by
    rw [h.connect_eq_of_detect rfl]
    exact List.mem_cons_of_mem _ List.mem_cons_self
  exact absurd (hcarried _ _ hasked) nofun

end Connect
end EtcdClient

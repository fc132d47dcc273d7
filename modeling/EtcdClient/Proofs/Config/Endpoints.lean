import EtcdClient.Proofs.Config.Checks
import EtcdClient.Proofs.Endpoint.Reading
import EtcdClient.Proofs.Environment.Items

/-
# Endpoints from the environment

A list of endpoints goes through three readers before a client connects: the variable is cut at its
commas, each item is trimmed and kept as a text, and the texts are read as endpoints. `Listed` says
how a list may be written in the variable, with blanks around its items and blank items between
them. Every endpoint comes through as it was, in its place and as often as it was listed, if its
host can be read and has no comma (`listed_endpoints_kept`); a comma in a host would be taken for
the end of an item. Neither how settings files are loaded nor what else is a host matters to that.

Source: `SPEC_FULL.md` §10.2 and §10.6, `list_var`, `parse_endpoints` and `parsed_endpoints`.
-/

namespace EtcdClient

namespace Endpoint

/-- An endpoint has a spelling that is not empty. -/
theorem text_ne_empty (e : Endpoint) : e.text ≠ "" := by
  intro hempty
  obtain ⟨authority, hauthority, htext⟩ := e.toList_text
  rw [hempty] at htext
  exact hauthority.ne_nil (List.append_eq_nil_iff.1 htext.symm).2

/-- The scheme is in front of the host, so blanks in the host are not at an end of the text. -/
theorem trimmed_text (e : Endpoint) : Text.Trimmed e.text.toList := by
  obtain ⟨authority, hauthority, htext⟩ := e.toList_text
  rw [htext]
  refine hauthority.trimmed fun c hc => ?_
  cases hscheme : e.scheme <;> rw [hscheme] at hc
  all_goals
    obtain rfl := Option.some.inj hc
    decide

/-- Only the host could bring a comma into it. -/
theorem comma_not_mem_text {e : Endpoint} (h : ',' ∉ e.host.toList) : ',' ∉ e.text.toList := by
  have hscheme : ',' ∉ e.scheme.text.toList := by cases e.scheme <;> decide
  have hdigit : ',' ∉ Text.decimal e.port.toNat :=
    (Text.digits_decimal e.port.toNat).not_mem (by decide)
  simp only [text, Text.decimalText, String.toList_append, String.toList_ofList, List.mem_append,
    not_or]
  exact ⟨⟨⟨⟨hscheme, by decide⟩, h⟩, by decide⟩, hdigit⟩

/-- Texts of endpoints with hosts that can be read are read one by one. -/
theorem parseAllWith_texts {η : Type} {readHost : String → Except HostFault η}
    {es : List Endpoint} (hne : es ≠ [])
    (hhosts : ∀ e ∈ es, e.host ≠ "" ∧ Accepted readHost e.host) :
    parseAllWith readHost (es.map text) = .ok es := by
  have hall : (es.map text).mapM (parseWith readHost) = .ok es := by
    clear hne
    induction es with
    | nil => rfl
    | cons e es ih =>
      obtain ⟨he, hes⟩ := List.forall_mem_cons.1 hhosts
      rw [List.map_cons, List.mapM_cons, parseWith_text he.1 he.2, ih hes]
      rfl
  rw [parseAllWith, hall]
  cases es with
  | nil => exact absurd rfl hne
  | cons e es => rfl

end Endpoint

namespace Config

/-! ### Lists in the variable -/

/-- The parts between the commas of a list: the texts of its endpoints in order, blanks around
them, and any number of blank parts. -/
inductive Listed : List Endpoint → List (List Char) → Prop
  | nil : Listed [] []
  | blank {es : List Endpoint} {part : List Char} {parts : List (List Char)}
      (hpart : Text.Blanks part) (hrest : Listed es parts) : Listed es (part :: parts)
  | endpoint {es : List Endpoint} {parts : List (List Char)} {e : Endpoint}
      {front back : List Char} (hfront : Text.Blanks front) (hback : Text.Blanks back)
      (hrest : Listed es parts) : Listed (e :: es) ((front ++ e.text.toList ++ back) :: parts)

/-- The text of an endpoint between blanks is one item. -/
theorem items_text {e : Endpoint} (hcomma : ',' ∉ e.host.toList) {front back : List Char}
    (hfront : Text.Blanks front) (hback : Text.Blanks back) :
    Environment.items (String.ofList (front ++ e.text.toList ++ back)) = [e.text] := by
  rw [Environment.items_append_blanks hback, Environment.items_blanks_append hfront,
    Environment.items_of_not_mem (Endpoint.comma_not_mem_text hcomma),
    Text.trimChars_of_trimmed e.trimmed_text, String.ofList_toList]
  exact List.filter_cons_of_pos (decide_eq_true e.text_ne_empty)

/-- A list of endpoints is cut into their texts again, whatever blanks and empty items stand between
them. -/
theorem items_of_listed {es : List Endpoint} {parts : List (List Char)} (h : Listed es parts)
    (hcomma : ∀ e ∈ es, ',' ∉ e.host.toList) :
    Environment.items (String.ofList ([','].intercalate parts)) = es.map Endpoint.text := by
  -- Part by part: a blank part is no item, and any other is one item.
  induction h with
  | nil => rfl
  | blank hpart _ ih =>
    rw [Environment.items_intercalate_cons, Environment.items_of_blanks hpart, List.nil_append,
      ih hcomma]
  | endpoint hfront hback _ ih =>
    obtain ⟨he, hes⟩ := List.forall_mem_cons.1 hcomma
    rw [Environment.items_intercalate_cons, items_text he hfront hback, ih hes]
    rfl

/-! ### Configurations -/

/-- What a configuration takes from the environment if only endpoints can be given there. -/
theorem ofEnvironment_of_unset {e : Environment} (hunset : ∀ name ∈ [usernameVariable,
    passwordVariable, connectTimeoutVariable, handshakeTimeoutVariable], e.get? name = none) :
    ofEnvironment e = .ok { endpoints := environmentEndpoints e } := by
  have hnone {name : String} (hmem : name ∈ [usernameVariable, passwordVariable,
      connectTimeoutVariable, handshakeTimeoutVariable]) : ¬ e.Usable name :=
    Environment.not_usable_of_get?_eq_none (hunset name hmem)
  rw [ofEnvironment, environmentCredentials_of_not_usable (hnone (by decide)) (hnone (by decide)),
    environmentNumber_of_not_usable (hnone (by decide)),
    environmentNumber_of_not_usable (hnone (by decide))]
  rfl

/-- The endpoints of a configuration are those of the environment. -/
theorem endpoints_of_ofEnvironment {e : Environment} {c : Config} (h : ofEnvironment e = .ok c) :
    c.endpoints = environmentEndpoints e := by
  rw [ofEnvironment] at h
  obtain ⟨credentials, -, h⟩ := bind_eq_ok_iff.1 h
  obtain ⟨connect, -, h⟩ := bind_eq_ok_iff.1 h
  obtain ⟨handshake, -, h⟩ := bind_eq_ok_iff.1 h
  obtain rfl := Except.ok.inj h
  rfl

/-- **Listed endpoints are kept.** Settings may be loaded in any way, and anything but an empty text
may be a host. If the variable holds a list of endpoints once they are loaded, and no other variable
is set, the configuration has these endpoints in the order of the list, one that is listed twice at
both places. Of any value whatever only trimmed items are taken, none empty and none with a comma,
and the default stands if none are. -/
theorem listed_endpoints_kept {φ η : Type} (load : φ → Environment → Environment) (files : φ)
    (readHost : String → Except HostFault η) (hempty : ¬ Endpoint.Accepted readHost "")
    (e : Environment) :
    let loaded := load files e
    (∀ (es : List Endpoint) (parts : List (List Char)), es ≠ [] → Listed es parts →
      (∀ x ∈ es, Endpoint.Accepted readHost x.host ∧ ',' ∉ x.host.toList) →
      loaded.get? endpointsVariable = some (String.ofList ([','].intercalate parts)) →
      (∀ name ∈ [usernameVariable, passwordVariable, connectTimeoutVariable,
        handshakeTimeoutVariable], loaded.get? name = none) →
        ∃ c, ofLoaded load files e = .ok c ∧ c.parsedEndpointsWith readHost = .ok es) ∧
      (∀ name, ∀ item ∈ loaded.list name,
        Text.trim item = item ∧ item ≠ "" ∧ ',' ∉ item.toList) ∧
      (loaded.list endpointsVariable = [] → ∀ c, ofLoaded load files e = .ok c →
        c.endpoints = [defaultEndpoint]) := by
  intro loaded
  refine ⟨fun es parts hne hlisted hhosts hvalue hunset => ?_, fun _ _ hitem =>
    Environment.mem_list hitem, fun hnone c hc => ?_⟩
  · refine ⟨_, ofEnvironment_of_unset hunset, ?_⟩
    -- The list in the variable is cut into the texts of the endpoints, which are read one by one.
    have hitems : loaded.list endpointsVariable = es.map Endpoint.text := by
      rw [Environment.list_eq_items hvalue]
      exact items_of_listed hlisted fun x hx => (hhosts x hx).2
    have hgiven : environmentEndpoints loaded = es.map Endpoint.text := by
      rw [environmentEndpoints, hitems]
      cases es with
      | nil => exact absurd rfl hne
      | cons x es => rfl
    rw [parsedEndpointsWith, hgiven]
    refine Endpoint.parseAllWith_texts hne fun x hx => ?_
    exact ⟨Endpoint.ne_empty_of_accepted hempty (hhosts x hx).1, (hhosts x hx).1⟩
  · rw [endpoints_of_ofEnvironment hc, environmentEndpoints, hnone]

/-- A member that is listed twice comes through twice, and blank items alone give the default. -/
theorem listed_endpoints_kept_of_member_twice :
    let e : Endpoint := ⟨.http, "[::1]", 1⟩
    let e' : Endpoint := ⟨.https, "[::1]", 2⟩
    let value := " http://[::1]:1 ,,https://[::1]:2,http://[::1]:1"
    (∃ c, ofProcess [] [] ⟨[(endpointsVariable, .text value)]⟩ = .ok c ∧
        c.parsedEndpoints = .ok [e, e', e]) ∧
      ∃ c, ofProcess [] [] ⟨[(endpointsVariable, .text " , ")]⟩ = .ok c ∧
        c.endpoints = [defaultEndpoint] := by
  intro e e' value
  have hhosts : ∀ x ∈ [e, e', e], Endpoint.Accepted Host.read x.host ∧ ',' ∉ x.host.toList := by
    intro x hx
    have hhost : x.host = "[::1]" := by
      simp only [List.mem_cons, List.not_mem_nil, or_false] at hx
      rcases hx with rfl | rfl | rfl <;> rfl
    rw [hhost]
    exact ⟨Endpoint.accepted_loopback, by decide⟩
  have hblank : Text.Blanks [' '] := by decide
  have hlisted : Listed [e, e', e] _ :=
    .endpoint hblank hblank <| .blank Text.blanks_nil <|
      .endpoint Text.blanks_nil Text.blanks_nil <|
        .endpoint Text.blanks_nil Text.blanks_nil .nil
  -- The files of the loader are those of a directory without any.
  let load (cwd : Dotenv.Directory) (e : Environment) : Environment := (Dotenv.load [] cwd e).1
  refine ⟨?_, _, rfl, ?_⟩
  · exact (listed_endpoints_kept load [] Host.read Endpoint.not_accepted_empty
      ⟨[(endpointsVariable, .text value)]⟩).1 _ _ (List.cons_ne_nil _ _) hlisted hhosts (by decide)
        (by decide)
  · exact (listed_endpoints_kept load [] Host.read Endpoint.not_accepted_empty
      ⟨[(endpointsVariable, .text " , ")]⟩).2.2 (by decide) _ rfl

end Config
end EtcdClient

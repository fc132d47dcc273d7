import EtcdClient.Endpoint
import EtcdClient.Proofs.Text.Cut
import EtcdClient.Proofs.Text.Numeral
import EtcdClient.Proofs.Text.Trim

/-
# The texts of endpoints

An endpoint can be written in many ways, and `Written` lists them without the reader:

| part | written |
| --- | --- |
| blanks | any number at both ends |
| scheme | its name in any mix of ASCII case, then `://`, or nothing for `http` |
| host | any text |
| port | a colon, perhaps a plus sign, any number of zeros, the decimal digits |
| slashes | any number |

Only the scheme can be left out, and only in front of a host that has no `://` and begins with no
blank. Whatever the host is, no cut of the reader goes through it: the first `://` is the one behind
the name, or there is none, and the last colon is the one in front of the port. So a text that is
written in one of these ways reads as its endpoint, or is refused because of the host alone, and no
other text reads (`reads_every_spelling`).

Which texts are hosts is left to a reader of hosts that everything here holds for, whatever it is.

Source: `SPEC_FULL.md` §10.6, the reading of an `Endpoint`.
-/

namespace EtcdClient
namespace Endpoint

/-! ### The spellings -/

/-- The reader of hosts takes a text for a host. -/
def Accepted {η : Type} (readHost : String → Except HostFault η) (host : String) : Prop :=
  ∃ h, readHost host = .ok h

/-- The host and the port of an endpoint, and slashes behind them. -/
inductive AuthorityWritten (e : Endpoint) : List Char → Prop
  | intro {sign : List Char} (zeros slashes : Nat) (hsign : sign = [] ∨ sign = ['+']) :
      AuthorityWritten e (e.host.toList ++
        (':' :: (sign ++ List.replicate zeros '0' ++ Text.decimal e.port.toNat) ++
          List.replicate slashes '/'))

/-- What stands between a scheme and a host. -/
def schemeEnd : List Char := [':', '/', '/']

/-- The texts of an endpoint. -/
inductive Written (e : Endpoint) : List Char → Prop
  | withScheme {front name authority back : List Char} (hfront : Text.Blanks front)
      (hback : Text.Blanks back) (hname : name.map Char.toLower = e.scheme.text.toList)
      (hauthority : AuthorityWritten e authority) :
      Written e (front ++ (name ++ schemeEnd ++ authority) ++ back)
  | withoutScheme {front authority back : List Char} (hfront : Text.Blanks front)
      (hback : Text.Blanks back) (hscheme : e.scheme = .http)
      (hhost : ¬ schemeEnd <:+: e.host.toList)
      (hstart : ∀ c, e.host.toList.head? = some c → Text.isBlank c = false)
      (hauthority : AuthorityWritten e authority) :
      Written e (front ++ authority ++ back)

/-- An endpoint is spelled with its scheme, its host and its port in plain digits. -/
theorem toList_text (e : Endpoint) : ∃ authority, AuthorityWritten e authority ∧
    e.text.toList = e.scheme.text.toList ++ schemeEnd ++ authority :=
  ⟨_, .intro 0 0 (.inl rfl), by simp [text, Text.decimalText, schemeEnd]⟩

/-- The spelling of an endpoint is one of its texts. -/
theorem written_text (e : Endpoint) : Written e e.text.toList := by
  have hname : e.scheme.text.toList.map Char.toLower = e.scheme.text.toList := by
    cases e.scheme <;> rfl
  obtain ⟨authority, hauthority, htext⟩ := e.toList_text
  have hwritten : Written e ([] ++ (e.scheme.text.toList ++ schemeEnd ++ authority) ++ []) :=
    .withScheme Text.blanks_nil Text.blanks_nil hname hauthority
  rwa [List.nil_append, List.append_nil, ← htext] at hwritten

variable {η : Type} {readHost : String → Except HostFault η}

/-! ### The host and the port -/

/-- The part behind the scheme is the host, a colon, a text that writes the port, and slashes. -/
theorem authorityWritten_iff {e : Endpoint} {cs : List Char} : AuthorityWritten e cs ↔
    ∃ port slashes, Text.Writes port e.port.toNat ∧
      cs = e.host.toList ++ (':' :: port ++ List.replicate slashes '/') := by
  constructor
  · rintro ⟨zeros, slashes, hsign⟩
    exact ⟨_, slashes, Text.writes_iff_sign_zeros.2 ⟨_, zeros, hsign, rfl⟩, rfl⟩
  · rintro ⟨port, slashes, hport, rfl⟩
    obtain ⟨sign, zeros, hsign, rfl⟩ := Text.writes_iff_sign_zeros.1 hport
    exact .intro zeros slashes hsign

/-- A port is written without the characters that the text is cut at. -/
theorem port_chars {port : List Char} {n : Nat} (h : Text.Writes port n) {c : Char}
    (hc : c ∈ port) : c ≠ ':' ∧ c ≠ '/' ∧ Text.isBlank c = false := by
  rcases h.mem hc with rfl | hdigit
  · decide
  · refine ⟨?_, ?_, Text.isBlank_of_isDigit hdigit⟩
    · rintro rfl
      exact absurd hdigit (by decide)
    · rintro rfl
      exact absurd hdigit (by decide)

/-- The slashes behind the port are dropped, and none in front of it. -/
theorem dropTrailing_slashes {port : List Char} {n : Nat} (h : Text.Writes port n)
    (host : List Char) (slashes : Nat) :
    Text.dropTrailing (· == '/') (host ++ (':' :: port ++ List.replicate slashes '/')) =
      host ++ ':' :: port := by
  have hslashes : ∀ d ∈ List.replicate slashes '/', (d == '/') = true :=
    fun d hd => beq_iff_eq.2 (List.eq_of_mem_replicate hd)
  rw [← List.append_assoc, Text.dropTrailing_append_of_forall hslashes]
  refine Text.dropTrailing_eq_self fun c hc => beq_eq_false_iff_ne.2 ?_
  rw [List.getLast?_append_of_ne_nil _ (List.cons_ne_nil ':' port)] at hc
  rcases List.mem_cons.1 (List.mem_of_getLast? hc) with rfl | hc
  · decide
  · exact (port_chars h hc).2.1

/-- The last colon is the one in front of the port, so the host alone decides. -/
theorem readAuthority_of_written {e : Endpoint} {cs : List Char} (h : AuthorityWritten e cs) :
    readAuthority readHost e.scheme cs =
      if e.host = "" then .error .emptyHost
      else ((readHost e.host).mapError (.invalidHost e.host)).map fun _ => e := by
  obtain ⟨port, slashes, hport, rfl⟩ := authorityWritten_iff.1 h
  have hcut : Text.cutLast ':' (e.host.toList ++ ':' :: port) = some (e.host.toList, port) :=
    Text.cutLast_eq_some.2 ⟨rfl, fun hmem => (port_chars hport hmem).1 rfl⟩
  rw [readAuthority, dropTrailing_slashes hport, hcut]
  dsimp only
  rw [Text.readUInt16_eq_ok_iff.2 hport, String.ofList_toList]
  cases readHost e.host <;> rfl

/-- What reads is the host and the port of an endpoint. -/
theorem written_of_readAuthority {scheme : Scheme} {cs : List Char} {e : Endpoint}
    (h : readAuthority readHost scheme cs = .ok e) :
    e.scheme = scheme ∧ AuthorityWritten e cs ∧ e.host ≠ "" ∧ Accepted readHost e.host := by
  -- Nothing of the text is lost but the slashes at its end.
  obtain ⟨slashes, hcs, hslashes⟩ := Text.exists_eq_dropTrailing_append (· == '/') cs
  rw [readAuthority] at h
  split at h
  · exact absurd h nofun
  · next host port hcut =>
    obtain ⟨hdrop, -⟩ := Text.cutLast_eq_some.1 hcut
    split at h
    · exact absurd h nofun
    · next n hread =>
      dsimp only at h
      split at h
      · exact absurd h nofun
      · next hne =>
        split at h
        · exact absurd h nofun
        · next address haccepted =>
          obtain rfl := Except.ok.inj h
          refine ⟨rfl, authorityWritten_iff.2 ⟨port, slashes.length,
            Text.readUInt16_eq_ok_iff.1 hread, ?_⟩, hne, address, haccepted⟩
          have hreplicate : slashes = List.replicate slashes.length '/' :=
            List.eq_replicate_iff.2 ⟨rfl, fun c hc => beq_iff_eq.1 (hslashes c hc)⟩
          rw [hdrop, hreplicate] at hcs
          rw [hcs]
          simp

/-! ### The scheme -/

/-- A scheme is known by its name in letters of either case. -/
theorem ofName?_eq_some_iff {name : List Char} {scheme : Scheme} :
    Scheme.ofName? (String.ofList name) = some scheme ↔
      name.map Char.toLower = scheme.text.toList := by
  rw [Scheme.ofName?, String.toList_ofList]
  constructor
  · intro h
    have hfound := List.find?_some h
    exact (of_decide_eq_true hfound).symm
  · intro h
    rw [h]
    cases scheme <;> rfl

/-- A name of a scheme has no colon and no blank. -/
theorem name_chars {name : List Char} {scheme : Scheme}
    (h : name.map Char.toLower = scheme.text.toList) {c : Char} (hc : c ∈ name) :
    c ≠ ':' ∧ Text.isBlank c = false := by
  have hmem : c.toLower ∈ scheme.text.toList := h ▸ List.mem_map_of_mem hc
  have hletters : scheme.text.toList.all fun d => d ≠ ':' ∧ Text.isBlank d = false := by
    cases scheme <;> rfl
  by_cases hupper : 'A'.val ≤ c.val ∧ c.val ≤ 'Z'.val
  · have hlow : 65 ≤ c.toNat := UInt32.le_iff_toNat_le.1 hupper.1
    have hhigh : c.toNat ≤ 90 := UInt32.le_iff_toNat_le.1 hupper.2
    refine ⟨?_, Text.isBlank_of_ascii (by omega) (by omega)⟩
    rintro rfl
    exact absurd hlow (by decide)
  · have hsame : c.toLower = c := dif_neg hupper
    rw [hsame] at hmem
    exact of_decide_eq_true (List.all_eq_true.1 hletters c hmem)

/-! ### The whole text -/

/-- A colon with no slash behind it does not complete what stands between a scheme and a host. -/
theorem not_schemeEnd_infix {host rest : List Char} (hhost : ¬ schemeEnd <:+: host)
    (hcolon : ':' ∉ rest) (hslash : rest.head? ≠ some '/') :
    ¬ schemeEnd <:+: host ++ ':' :: rest := by
  induction host with
  | nil =>
    rw [List.nil_append, List.infix_cons_iff, not_or]
    refine ⟨fun hprefix => hslash ?_, fun hinfix => hcolon ?_⟩
    · obtain ⟨tail, htail⟩ := (List.cons_prefix_cons.1 hprefix).2
      rw [← htail]
      rfl
    · exact hinfix.subset List.mem_cons_self
  | cons c host ih =>
    rw [List.infix_cons_iff, not_or] at hhost
    rw [List.cons_append, List.infix_cons_iff, not_or]
    refine ⟨fun hprefix => hhost.1 ?_, ih hhost.2⟩
    -- the slashes would have to stand in the host as well
    obtain ⟨rfl, hslashes⟩ := List.cons_prefix_cons.1 hprefix
    match host, hslashes with
    | [], hslashes => exact absurd (List.cons_prefix_cons.1 hslashes).1 (by decide)
    | [d], hslashes =>
      have hsecond := (List.cons_prefix_cons.1 hslashes).2
      exact absurd (List.cons_prefix_cons.1 hsecond).1 (by decide)
    | d :: d' :: host, hslashes =>
      obtain ⟨rfl, hsecond⟩ := List.cons_prefix_cons.1 hslashes
      obtain ⟨rfl, -⟩ := List.cons_prefix_cons.1 hsecond
      exact List.prefix_append schemeEnd host

/-- The port and the slashes have no blank. -/
theorem trimmed_port {port : List Char} {n : Nat} (h : Text.Writes port n) (slashes : Nat) :
    Text.Trimmed (':' :: port ++ List.replicate slashes '/') := by
  refine Text.trimmed_of_forall fun c hc => ?_
  rcases List.mem_append.1 hc with hc | hc
  · rcases List.mem_cons.1 hc with rfl | hc
    · decide
    · exact (port_chars h hc).2.2
  · rw [List.eq_of_mem_replicate hc]
    decide

/-- A host may be empty, and even then the colon and the port are there. -/
theorem AuthorityWritten.ne_nil {e : Endpoint} {authority : List Char}
    (h : AuthorityWritten e authority) : authority ≠ [] := by
  obtain ⟨port, slashes, -, rfl⟩ := authorityWritten_iff.1 h
  simp

/-- What stands in front of the port is trimmed with it if no blank is in front. -/
theorem AuthorityWritten.trimmed {e : Endpoint} {name authority : List Char}
    (h : AuthorityWritten e authority)
    (hstart : ∀ c, (name ++ e.host.toList).head? = some c → Text.isBlank c = false) :
    Text.Trimmed (name ++ authority) := by
  obtain ⟨port, slashes, hport, rfl⟩ := authorityWritten_iff.1 h
  rw [← List.append_assoc]
  exact (trimmed_port hport slashes).append_of_head (List.cons_ne_nil _ _) hstart

/-- The port does not complete what stands between a scheme and a host. -/
theorem AuthorityWritten.not_infix {e : Endpoint} {authority : List Char}
    (h : AuthorityWritten e authority) (hhost : ¬ schemeEnd <:+: e.host.toList) :
    ¬ schemeEnd <:+: authority := by
  obtain ⟨port, slashes, hport, rfl⟩ := authorityWritten_iff.1 h
  rw [List.cons_append]
  refine not_schemeEnd_infix hhost (fun hmem => ?_) fun hhead => ?_
  · rcases List.mem_append.1 hmem with hmem | hmem
    · exact (port_chars hport hmem).1 rfl
    · exact absurd (List.eq_of_mem_replicate hmem) (by decide)
  · rw [List.head?_append, Option.or_eq_some_iff] at hhead
    rcases hhead with hhead | ⟨hnil, -⟩
    · exact (port_chars hport (List.mem_of_head? hhead)).2.1 rfl
    · rw [List.head?_eq_none_iff.1 hnil] at hport
      exact Text.not_writes_nil _ hport

/-- A spelling is read as a host and a port behind its scheme. -/
theorem Written.readWith_eq (readHost : String → Except HostFault η) {e : Endpoint} {s : String}
    (h : Written e s.toList) :
    ∃ authority, AuthorityWritten e authority ∧
      readWith readHost s = readAuthority readHost e.scheme authority := by
  generalize hs : s.toList = cs at h
  cases h with
  | @withScheme front name authority back hfront hback hname hauthority =>
    refine ⟨authority, hauthority, ?_⟩
    have htrimmed : Text.Trimmed (name ++ schemeEnd ++ authority) := by
      refine hauthority.trimmed fun c hc => ?_
      rw [List.append_assoc, List.head?_append, Option.or_eq_some_iff] at hc
      rcases hc with hc | ⟨-, hc⟩
      · exact (name_chars hname (List.mem_of_head? hc)).2
      · obtain rfl := Option.some.inj hc
        decide
    have hbody : Text.trimChars s.toList = name ++ schemeEnd ++ authority :=
      Text.trimChars_eq_iff.2 ⟨htrimmed, front, back, hfront, hback, hs⟩
    -- The name of a scheme has no colon in it, so the text is cut behind it and not later.
    have hcut : Text.cutAt [':', '/', '/'] (name ++ schemeEnd ++ authority) =
        some (name, authority) :=
      Text.cutAt_append_of_not_mem (fun hmem => (name_chars hname hmem).1 rfl) authority
    rw [readWith, hbody, if_neg (by simp [hauthority.ne_nil]), hcut]
    dsimp only
    rw [ofName?_eq_some_iff.2 hname]
  | @withoutScheme front authority back hfront hback hscheme hhost hstart hauthority =>
    refine ⟨authority, hauthority, ?_⟩
    have htrimmed : Text.Trimmed ([] ++ authority) := hauthority.trimmed hstart
    have hbody : Text.trimChars s.toList = authority :=
      Text.trimChars_eq_iff.2 ⟨htrimmed, front, back, hfront, hback, hs⟩
    -- The host does not hold the mark that stands behind a scheme, and the port does not complete
    -- it.
    have hcut : Text.cutAt [':', '/', '/'] authority = none :=
      (Text.cutAt_eq_none_iff (List.cons_ne_nil _ _)).2 (hauthority.not_infix hhost)
    rw [readWith, hbody, if_neg hauthority.ne_nil, hcut, hscheme]

/-- What reads is a spelling with a host that can be read. -/
theorem written_of_readWith {e : Endpoint} {s : String} (h : readWith readHost s = .ok e) :
    Written e s.toList ∧ e.host ≠ "" ∧ Accepted readHost e.host := by
  obtain ⟨htrimmed, front, back, hfront, hback, hs⟩ :=
    Text.trimChars_eq_iff.1 (rfl : Text.trimChars s.toList = Text.trimChars s.toList)
  rw [readWith] at h
  generalize Text.trimChars s.toList = body at *
  split at h
  · exact absurd h nofun
  · split at h
    · next hcut =>
      obtain ⟨hscheme, hauthority, hne, haccepted⟩ := written_of_readAuthority h
      refine ⟨?_, hne, haccepted⟩
      rw [hs]
      -- The host stands in the text, so a mark in it would have been cut at.
      have hinfix : e.host.toList <:+: body := by
        obtain ⟨port, slashes, -, rfl⟩ := authorityWritten_iff.1 hauthority
        exact (List.prefix_append _ _).isInfix
      refine .withoutScheme hfront hback hscheme (fun hhost => ?_) (fun c hc => ?_) hauthority
      · exact (Text.cutAt_eq_none_iff (List.cons_ne_nil _ _)).1 hcut (hhost.trans hinfix)
      · obtain ⟨port, slashes, -, rfl⟩ := authorityWritten_iff.1 hauthority
        refine htrimmed.head c ?_
        rw [List.head?_append, hc]
        rfl
    · next name rest hcut =>
      split at h
      · next scheme hname =>
        obtain ⟨rfl, hauthority, hne, haccepted⟩ := written_of_readAuthority h
        refine ⟨?_, hne, haccepted⟩
        rw [hs, Text.cutAt_eq_some hcut]
        exact .withScheme hfront hback (ofName?_eq_some_iff.1 hname) hauthority
      · exact absurd h nofun

/-- A spelling reads as its endpoint if its host can be read. -/
theorem Written.readWith_eq_ok {e : Endpoint} {s : String} (h : Written e s.toList)
    (hne : e.host ≠ "") (haccepted : Accepted readHost e.host) : readWith readHost s = .ok e := by
  obtain ⟨authority, hauthority, hread⟩ := h.readWith_eq readHost
  obtain ⟨address, haddress⟩ := haccepted
  rw [hread, readAuthority_of_written hauthority, if_neg hne, haddress]
  rfl

/-- A spelling is refused if its host cannot be read. -/
theorem Written.readWith_eq_error {e : Endpoint} {s : String} (h : Written e s.toList)
    (hhost : ¬ (e.host ≠ "" ∧ Accepted readHost e.host)) :
    ∃ fault, readWith readHost s = .error fault := by
  obtain ⟨authority, hauthority, hread⟩ := h.readWith_eq readHost
  rw [hread, readAuthority_of_written hauthority]
  by_cases hne : e.host = ""
  · exact ⟨_, if_pos hne⟩
  · rw [if_neg hne]
    cases haddress : readHost e.host with
    | error fault => exact ⟨_, rfl⟩
    | ok address => exact absurd ⟨hne, address, haddress⟩ hhost

/-! ### Reading and writing -/

/-- To name the text in the error takes nothing from what reads. -/
theorem parseWith_eq_ok_iff_readWith {e : Endpoint} {s : String} :
    parseWith readHost s = .ok e ↔ readWith readHost s = .ok e := by
  rw [parseWith]
  cases readWith readHost s with
  | error fault => exact iff_of_false nofun nofun
  | ok e' => exact ⟨fun h => congrArg _ (Except.ok.inj h), fun h => congrArg _ (Except.ok.inj h)⟩

/-- **What reads as an endpoint is a spelling of it with a host.** -/
theorem parseWith_eq_ok_iff {e : Endpoint} {s : String} : parseWith readHost s = .ok e ↔
    Written e s.toList ∧ e.host ≠ "" ∧ Accepted readHost e.host := by
  rw [parseWith_eq_ok_iff_readWith]
  constructor
  · exact written_of_readWith
  · rintro ⟨hwritten, hne, haccepted⟩
    exact hwritten.readWith_eq_ok hne haccepted

/-- The text of an endpoint reads as the endpoint if its host can be read. -/
theorem parseWith_text {e : Endpoint} (hne : e.host ≠ "") (h : Accepted readHost e.host) :
    parseWith readHost e.text = .ok e :=
  parseWith_eq_ok_iff.2 ⟨written_text e, hne, h⟩

/-- A reader that takes no empty text for a host takes no empty host. -/
theorem ne_empty_of_accepted {host : String} (hempty : ¬ Accepted readHost "")
    (h : Accepted readHost host) : host ≠ "" := by
  rintro rfl
  exact hempty h

/-- **Endpoints are read up to spelling.** Whatever is taken for a host, a spelling of an endpoint
reads as the endpoint just if its host is not empty and is taken for one, and is refused otherwise
with an error that names it as it was given. No other text reads. So the text of an endpoint reads
as the endpoint, if it was read itself or, where an empty text is no host, if its host is taken for
one. -/
theorem reads_every_spelling {η : Type} (readHost : String → Except HostFault η) (e : Endpoint) :
    (∀ s, Written e s.toList →
      (parseWith readHost s = .ok e ↔ e.host ≠ "" ∧ Accepted readHost e.host) ∧
        (¬ (e.host ≠ "" ∧ Accepted readHost e.host) →
          ∃ fault, parseWith readHost s = .error (.invalidEndpoint s fault))) ∧
      (∀ s, parseWith readHost s = .ok e →
        Written e s.toList ∧ parseWith readHost e.text = .ok e) ∧
      (¬ Accepted readHost "" → Accepted readHost e.host →
        parseWith readHost e.text = .ok e) := by
  refine ⟨fun s hwritten => ⟨?_, fun hhost => ?_⟩, fun s hparse => ?_, fun hempty haccepted => ?_⟩
  · rw [parseWith_eq_ok_iff, and_iff_right hwritten]
  · obtain ⟨fault, hread⟩ := hwritten.readWith_eq_error hhost
    refine ⟨fault, ?_⟩
    rw [parseWith, hread]
    rfl
  · obtain ⟨hwritten, hne, haccepted⟩ := parseWith_eq_ok_iff.1 hparse
    exact ⟨hwritten, parseWith_text hne haccepted⟩
  · exact parseWith_text (ne_empty_of_accepted hempty haccepted) haccepted

/-- The reader that clients use takes no empty text for a host. -/
theorem not_accepted_empty : ¬ Accepted Host.read "" := by
  rintro ⟨address, haddress⟩
  have hread : Host.read "" = .error .empty := rfl
  cases hread.symm.trans haddress

/-- The address of this machine is a host to it. -/
theorem accepted_loopback : Accepted Host.read "[::1]" := ⟨.ipv6 [0, 0, 0, 0, 0, 0, 0, 1], rfl⟩

/-- All that may be added to an address is passed over, and a host that holds `://` is refused as a
host and not cut. -/
theorem reads_every_spelling_of_loopback :
    let e : Endpoint := ⟨.https, "[::1]", 2379⟩
    let bad : Endpoint := ⟨.http, "[://]", 80⟩
    Endpoint.parse "\t HttpS://[::1]:+02379// \n" = .ok e ∧ Endpoint.parse e.text = .ok e ∧
      ¬ Accepted Host.read "" ∧ Accepted Host.read e.host ∧
        ∃ fault, Endpoint.parse bad.text = .error (.invalidEndpoint bad.text fault) := by
  intro e bad
  have hwritten : Written e "\t HttpS://[::1]:+02379// \n".toList := by
    have htext : "\t HttpS://[::1]:+02379// \n".toList = "\t ".toList ++ ("HttpS".toList ++
        schemeEnd ++ ("[::1]".toList ++ (':' :: (['+'] ++ List.replicate 1 '0' ++
          Text.decimal 2379) ++ List.replicate 2 '/'))) ++ " \n".toList := by decide
    have hname : "HttpS".toList.map Char.toLower = "https".toList := by decide
    rw [htext]
    exact .withScheme (by decide) (by decide) hname (.intro 1 2 (.inr rfl))
  obtain ⟨hspelling, -, htext⟩ := reads_every_spelling Host.read e
  have hparse := (hspelling _ hwritten).1.2 ⟨by decide, accepted_loopback⟩
  have hrefused : ¬ (bad.host ≠ "" ∧ Accepted Host.read bad.host) := by
    rintro ⟨-, address, haddress⟩
    have hread : Host.read "[://]" = .error .ipv6 := rfl
    cases hread.symm.trans haddress
  exact ⟨hparse, htext not_accepted_empty accepted_loopback, not_accepted_empty, accepted_loopback,
    (((reads_every_spelling Host.read bad).1 _ (written_text bad)).2 hrefused)⟩

end Endpoint
end EtcdClient

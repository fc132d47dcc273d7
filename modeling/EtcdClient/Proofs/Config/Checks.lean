import EtcdClient.Config.Environment
import EtcdClient.Proofs.Environment.Values
import EtcdClient.Proofs.Result.Rows

/-
# Checks of the environment

A configuration is taken from the environment as a whole or not at all. Three checks are made:

| check | fails if |
| --- | --- |
| user name and password | one is usable and the other is not |
| connect timeout, then timeout for handshakes | usable, but no number of 64 bits |

The first check that fails is the error (`ofEnvironment_eq_error_iff`). If none fails, every setting
is what its variable gives, or its default if that is nothing (`ofEnvironment_eq_ok_iff`). Nothing
else of the environment counts (`ofEnvironment_congr`), so it makes no difference whether it is
tidied up.

Source: `SPEC_FULL.md` §10.2 on configuration, `from_env`.
-/

namespace EtcdClient
namespace Config

variable {e : Environment}

/-! ### Checks -/

/-- What is demanded of variables. -/
inductive Check
  | together (first second : String)
  | number (name : String)

namespace Check

/-- A check fails with a fault. -/
inductive Fails (e : Environment) : Check → ConfigFault → Prop
  | apart {first second : String} (h : ¬ (e.Usable first ↔ e.Usable second)) :
    Fails e (.together first second) (.notTogether first second)
  | noNumber {name text : String} {fault : Text.NumeralFault} (htext : e.Gives name text)
    (h : Text.readUInt64 text.toList = .error fault) :
    Fails e (.number name) (.variable ⟨name, text, .numeral fault⟩)

/-- The first check of a list that fails does so with a fault. -/
def FirstFails (e : Environment) (checks : List Check) (fault : ConfigFault) : Prop :=
  ∃ before check after, checks = before ++ check :: after ∧
    (∀ b ∈ before, ∀ fault', ¬ b.Fails e fault') ∧ check.Fails e fault

/-- Makes one check. -/
def run (e : Environment) : Check → Result Unit
  | together first second =>
    if (e.value? first).isSome = (e.value? second).isSome then .ok ()
    else .error (.config (.notTogether first second))
  | number name => (environmentNumber e name).map fun _ => ()

end Check

/-- The checks in order. -/
def checks : List Check :=
  [.together usernameVariable passwordVariable, .number connectTimeoutVariable,
    .number handshakeTimeoutVariable]

/-! ### Numbers -/

section Numbers

variable {name text : String}

/-- A variable that is not usable is as good as none: no number is demanded of it. -/
theorem environmentNumber_of_not_usable (h : ¬ e.Usable name) :
    environmentNumber e name = .ok none := by
  rw [environmentNumber, Environment.readUInt64_of_not_usable h]
  rfl

/-- A number that the variable gives is read. -/
theorem environmentNumber_of_givesNumber {n : UInt64} (h : e.GivesNumber name n) :
    environmentNumber e name = .ok (some n) := by
  rw [environmentNumber, Environment.readUInt64_of_givesNumber h]
  rfl

/-- A usable text that is no number is an error that names the variable and quotes the text. -/
theorem environmentNumber_of_fault {fault : Text.NumeralFault} (htext : e.Gives name text)
    (h : Text.readUInt64 text.toList = .error fault) :
    environmentNumber e name = .error (.config (.variable ⟨name, text, .numeral fault⟩)) := by
  rw [environmentNumber, Environment.readUInt64_of_fault htext h]
  rfl

/-- A number is read just if the variable gives it. -/
theorem eq_some_iff_givesNumber {m : Option UInt64} (h : environmentNumber e name = .ok m)
    (n : UInt64) : m = some n ↔ e.GivesNumber name n := by
  obtain hnot | ⟨n', hn'⟩ | ⟨text, fault, htext, hfault⟩ := e.number_cases name
  · rw [environmentNumber_of_not_usable hnot] at h
    obtain rfl := Except.ok.inj h
    exact iff_of_false nofun fun hn => hnot hn.usable
  · rw [environmentNumber_of_givesNumber hn'] at h
    obtain rfl := Except.ok.inj h
    exact ⟨fun hn => Option.some.inj hn ▸ hn', fun hn => congrArg some (hn'.unique hn)⟩
  · rw [environmentNumber_of_fault htext hfault] at h
    exact absurd h nofun

end Numbers

/-! ### Credentials -/

/-- A text that a variable gives is trimmed and not blank, which is all that is demanded of a user
name or a password. -/
theorem part_of_gives {name text : String} (h : e.Gives name text) (what : String) :
    Credentials.part what text = .ok text := by
  have hblank : ¬ Text.isBlankText text = true := fun hall =>
    h.not_blanks (List.all_eq_true.1 hall)
  rw [Credentials.part, if_neg hblank, h.trim_eq]

/-- Texts that variables give need no more checks as credentials. -/
theorem make_of_gives {first second username password : String} (hfirst : e.Gives first username)
    (hsecond : e.Gives second password) :
    Credentials.make username password = .ok ⟨username, password⟩ := by
  rw [Credentials.make, part_of_gives hfirst, part_of_gives hsecond]
  rfl

/-- A user name and a password make credentials. -/
theorem environmentCredentials_of_gives {username password : String}
    (husername : e.Gives usernameVariable username)
    (hpassword : e.Gives passwordVariable password) :
    environmentCredentials e = .ok (some ⟨username, password⟩) := by
  rw [environmentCredentials, Environment.value?_eq_some_iff.2 husername,
    Environment.value?_eq_some_iff.2 hpassword]
  dsimp only
  rw [make_of_gives husername hpassword]
  rfl

/-- Neither of the two makes none. -/
theorem environmentCredentials_of_not_usable (husername : ¬ e.Usable usernameVariable)
    (hpassword : ¬ e.Usable passwordVariable) : environmentCredentials e = .ok none := by
  rw [environmentCredentials, Environment.value?_eq_none_iff.2 husername,
    Environment.value?_eq_none_iff.2 hpassword]

/-- One without the other is an error that names both variables. -/
theorem environmentCredentials_of_apart
    (h : ¬ (e.Usable usernameVariable ↔ e.Usable passwordVariable)) :
    environmentCredentials e =
      .error (.config (.notTogether usernameVariable passwordVariable)) := by
  rw [← Environment.isSome_value?_iff, ← Environment.isSome_value?_iff] at h
  rw [environmentCredentials]
  cases husername : e.value? usernameVariable with
  | none =>
    cases hpassword : e.value? passwordVariable with
    | none =>
      rw [husername, hpassword] at h
      exact absurd Iff.rfl h
    | some password => rfl
  | some username =>
    cases hpassword : e.value? passwordVariable with
    | none => rfl
    | some password =>
      rw [husername, hpassword] at h
      exact absurd Iff.rfl h

/-- The ways in which user name and password go together. -/
theorem credentials_cases (e : Environment) :
    (∃ username password, e.Gives usernameVariable username ∧ e.Gives passwordVariable password) ∨
      (¬ e.Usable usernameVariable ∧ ¬ e.Usable passwordVariable) ∨
        ¬ (e.Usable usernameVariable ↔ e.Usable passwordVariable) := by
  by_cases husername : e.Usable usernameVariable
  · by_cases hpassword : e.Usable passwordVariable
    · obtain ⟨username, husername⟩ := husername.gives
      obtain ⟨password, hpassword⟩ := hpassword.gives
      exact .inl ⟨username, password, husername, hpassword⟩
    · exact .inr (.inr fun h => hpassword (h.1 husername))
  · by_cases hpassword : e.Usable passwordVariable
    · exact .inr (.inr fun h => husername (h.2 hpassword))
    · exact .inr (.inl ⟨husername, hpassword⟩)

/-- Credentials are made just of a user name and a password that variables give. -/
theorem eq_some_iff_gives {m : Option Credentials} (h : environmentCredentials e = .ok m)
    (given : Credentials) : m = some given ↔
      e.Gives usernameVariable given.username ∧ e.Gives passwordVariable given.password := by
  obtain ⟨username, password, husername, hpassword⟩ | ⟨husername, hpassword⟩ | hapart :=
    credentials_cases e
  · rw [environmentCredentials_of_gives husername hpassword] at h
    obtain rfl := Except.ok.inj h
    constructor
    · intro hgiven
      obtain rfl := Option.some.inj hgiven
      exact ⟨husername, hpassword⟩
    · rintro ⟨husername', hpassword'⟩
      rw [husername.unique husername', hpassword.unique hpassword']
  · rw [environmentCredentials_of_not_usable husername hpassword] at h
    obtain rfl := Except.ok.inj h
    exact iff_of_false nofun fun hgiven => husername hgiven.1.usable
  · rw [environmentCredentials_of_apart hapart] at h
    exact absurd h nofun

/-! ### What the checks say -/

namespace Check

/-- The first check passes just if both variables are usable or neither is. -/
theorem together_passes_iff {first second : String} :
    (∀ fault, ¬ (together first second).Fails e fault) ↔
      (e.Usable first ↔ e.Usable second) := by
  constructor
  · exact fun h => Classical.byContradiction fun hapart => h _ (.apart hapart)
  · rintro h fault ⟨hapart⟩
    exact hapart h

/-- A check of a number passes just if there is nothing to read or a number to be read. -/
theorem number_passes_iff {name : String} :
    (∀ fault, ¬ (number name).Fails e fault) ↔
      (e.Usable name → ∃ n, e.GivesNumber name n) := by
  constructor
  · intro h husable
    obtain hnot | hn | ⟨text, fault, htext, hfault⟩ := e.number_cases name
    · exact absurd husable hnot
    · exact hn
    · exact absurd (.noNumber htext hfault) (h _)
  · intro h fault hfails
    cases hfails with
    | noNumber htext hfault =>
      obtain ⟨n, text, htext', hwrites⟩ := h htext.usable
      rw [← htext.unique htext', ← Text.readUInt64_eq_ok_iff, hfault] at hwrites
      exact absurd hwrites nofun

/-- The relation `Fails` says when a check is not passed, and with which fault. -/
theorem run_eq_error_iff {check : Check} {err : ClientError} :
    check.run e = .error err ↔ ∃ fault, check.Fails e fault ∧ err = .config fault := by
  cases check with
  | together first second =>
    have hsame : (e.value? first).isSome = (e.value? second).isSome ↔
        (e.Usable first ↔ e.Usable second) := by
      rw [Bool.eq_iff_iff, Environment.isSome_value?_iff, Environment.isSome_value?_iff]
    rw [run]
    by_cases h : e.Usable first ↔ e.Usable second
    · rw [if_pos (hsame.2 h)]
      refine iff_of_false nofun ?_
      rintro ⟨fault, hfails, -⟩
      exact together_passes_iff.2 h fault hfails
    · rw [if_neg (mt hsame.1 h)]
      constructor
      · intro herr
        exact ⟨_, .apart h, (Except.error.inj herr).symm⟩
      · rintro ⟨fault, ⟨-⟩, rfl⟩
        rfl
  | number name =>
    rw [run, map_unit_eq_error_iff]
    constructor
    · intro herr
      obtain hnot | ⟨n, hn⟩ | ⟨text, fault, htext, hfault⟩ := e.number_cases name
      · rw [environmentNumber_of_not_usable hnot] at herr
        exact absurd herr nofun
      · rw [environmentNumber_of_givesNumber hn] at herr
        exact absurd herr nofun
      · rw [environmentNumber_of_fault htext hfault] at herr
        exact ⟨_, .noNumber htext hfault, (Except.error.inj herr).symm⟩
    · rintro ⟨fault, hfails, rfl⟩
      cases hfails with
      | noNumber htext hfault => exact environmentNumber_of_fault htext hfault

/-- A check is passed just if it fails in no way. -/
theorem run_eq_ok_iff {check : Check} :
    check.run e = .ok () ↔ ∀ fault, ¬ check.Fails e fault := by
  rw [eq_ok_iff_forall_ne]
  constructor
  · exact fun h fault hfails => h _ (run_eq_error_iff.2 ⟨fault, hfails, rfl⟩)
  · intro h err herr
    obtain ⟨fault, hfails, -⟩ := run_eq_error_iff.1 herr
    exact h fault hfails

end Check

/-! ### Configurations -/

/-- The variables pass the checks. -/
structure Accepted (e : Environment) : Prop where
  together : e.Usable usernameVariable ↔ e.Usable passwordVariable
  numbers : ∀ name ∈ [connectTimeoutVariable, handshakeTimeoutVariable],
    e.Usable name → ∃ n, e.GivesNumber name n

/-- The variables are accepted just if every one of the three checks is passed. -/
theorem accepted_iff : Accepted e ↔ ∀ check ∈ checks, ∀ fault, ¬ check.Fails e fault := by
  rw [checks, List.forall_mem_cons, Check.together_passes_iff]
  constructor
  · rintro ⟨htogether, hnumbers⟩
    refine ⟨htogether, fun check hcheck => ?_⟩
    simp only [List.mem_cons, List.not_mem_nil, or_false] at hcheck
    rcases hcheck with rfl | rfl
    · exact Check.number_passes_iff.2 (hnumbers _ (by simp))
    · exact Check.number_passes_iff.2 (hnumbers _ (by simp))
  · rintro ⟨htogether, hnumbers⟩
    refine ⟨htogether, fun name hname => Check.number_passes_iff.1 (hnumbers _ ?_)⟩
    simpa using hname

/-- To read the credentials is to make the first check, as far as success goes. -/
theorem map_environmentCredentials_eq_run (e : Environment) :
    (environmentCredentials e).map (fun _ => ()) =
      Check.run e (.together usernameVariable passwordVariable) := by
  obtain ⟨username, password, husername, hpassword⟩ | ⟨husername, hpassword⟩ | hapart :=
    credentials_cases e
  · have hpass := Check.together_passes_iff.2 (iff_of_true husername.usable hpassword.usable)
    rw [environmentCredentials_of_gives husername hpassword, Check.run_eq_ok_iff.2 hpass]
    rfl
  · have hpass := Check.together_passes_iff.2 (iff_of_false husername hpassword)
    rw [environmentCredentials_of_not_usable husername hpassword, Check.run_eq_ok_iff.2 hpass]
    rfl
  · rw [environmentCredentials_of_apart hapart,
      Check.run_eq_error_iff.2 ⟨_, .apart hapart, rfl⟩]
    rfl

/-- The variables are checked in a row. -/
theorem map_ofEnvironment_eq_forM (e : Environment) :
    (ofEnvironment e).map (fun _ => ()) = checks.forM (Check.run e) := by
  -- The three checks written out, so that both sides stop at the same one.
  show _ = (Check.run e (.together usernameVariable passwordVariable) >>= fun _ =>
    (environmentNumber e connectTimeoutVariable).map (fun _ => ()) >>= fun _ =>
      (environmentNumber e handshakeTimeoutVariable).map (fun _ => ()) >>= fun _ => pure ())
  rw [← map_environmentCredentials_eq_run, ofEnvironment]
  cases environmentCredentials e with
  | error err => rfl
  | ok credentials =>
    cases environmentNumber e connectTimeoutVariable with
    | error err => rfl
    | ok connect =>
      cases environmentNumber e handshakeTimeoutVariable with
      | error err => rfl
      | ok handshake => rfl

/-- **The first check that fails is the error.** -/
theorem ofEnvironment_eq_error_iff {err : ClientError} : ofEnvironment e = .error err ↔
    ∃ fault, Check.FirstFails e checks fault ∧ err = .config fault := by
  rw [← map_unit_eq_error_iff, map_ofEnvironment_eq_forM, forM_eq_error_iff]
  simp only [Check.run_eq_ok_iff, Check.run_eq_error_iff]
  constructor
  · rintro ⟨before, check, after, hchecks, hbefore, fault, hfails, herr⟩
    exact ⟨fault, ⟨before, check, after, hchecks, hbefore, hfails⟩, herr⟩
  · rintro ⟨fault, ⟨before, check, after, hchecks, hbefore, hfails⟩, herr⟩
    exact ⟨before, check, after, hchecks, hbefore, fault, hfails, herr⟩

/-- A configuration is taken if and only if the variables pass the checks. -/
theorem exists_ofEnvironment_eq_ok_iff : (∃ c, ofEnvironment e = .ok c) ↔ Accepted e := by
  rw [← map_unit_eq_ok_iff, map_ofEnvironment_eq_forM, forM_eq_ok_iff, accepted_iff]
  simp only [Check.run_eq_ok_iff]

/-- Every setting is what its variable gives, or its default. -/
structure TakenFrom (e : Environment) (c : Config) : Prop where
  endpoints_given : ∀ text, e.Gives endpointsVariable text → Environment.items text ≠ [] →
    c.endpoints = Environment.items text
  endpoints_default : (∀ text, e.Gives endpointsVariable text → Environment.items text = []) →
    c.endpoints = [defaultEndpoint]
  credentials : ∀ given, c.credentials = some given ↔
    e.Gives usernameVariable given.username ∧ e.Gives passwordVariable given.password
  connect_given : ∀ n, e.GivesNumber connectTimeoutVariable n → c.connectTimeoutMs = n
  connect_default : ¬ e.Usable connectTimeoutVariable → c.connectTimeoutMs = 5000
  detectVersion : c.detectVersion = true
  versionDetectTimeoutMs : c.versionDetectTimeoutMs = 10000
  handshake : ∀ n, c.handshakeTimeoutMs = some n ↔ e.GivesNumber handshakeTimeoutVariable n

/-- The endpoints are the items of the list that the variable gives. -/
theorem environmentEndpoints_given {text : String} (h : e.Gives endpointsVariable text)
    (hne : Environment.items text ≠ []) : environmentEndpoints e = Environment.items text := by
  rw [environmentEndpoints, Environment.list_of_gives h]
  cases hitems : Environment.items text with
  | nil => exact absurd hitems hne
  | cons item items => rfl

/-- A list without an item is as good as none: the default endpoint stands in for it. -/
theorem environmentEndpoints_default
    (h : ∀ text, e.Gives endpointsVariable text → Environment.items text = []) :
    environmentEndpoints e = [defaultEndpoint] := by
  have hnone : e.list endpointsVariable = [] := by
    by_cases husable : e.Usable endpointsVariable
    · obtain ⟨text, htext⟩ := husable.gives
      rw [Environment.list_of_gives htext, h text htext]
    · exact Environment.list_of_not_usable husable
  rw [environmentEndpoints, hnone]

/-- Whatever configuration is taken, each of its settings is what its variable gives. -/
theorem takenFrom_of_ofEnvironment {c : Config} (h : ofEnvironment e = .ok c) :
    TakenFrom e c := by
  -- One line for each thing that is read: none of them has failed.
  rw [ofEnvironment] at h
  obtain ⟨credentials, hcredentials, h⟩ := bind_eq_ok_iff.1 h
  obtain ⟨connect, hconnect, h⟩ := bind_eq_ok_iff.1 h
  obtain ⟨handshake, hhandshake, h⟩ := bind_eq_ok_iff.1 h
  obtain rfl := Except.ok.inj h
  constructor
  case endpoints_given => exact fun text => environmentEndpoints_given
  case endpoints_default => exact environmentEndpoints_default
  case credentials => exact eq_some_iff_gives hcredentials
  case connect_given =>
    intro n hn
    rw [(eq_some_iff_givesNumber hconnect n).2 hn]
    rfl
  case connect_default =>
    intro hnot
    rw [environmentNumber_of_not_usable hnot] at hconnect
    obtain rfl := Except.ok.inj hconnect
    rfl
  case detectVersion => rfl
  case versionDetectTimeoutMs => rfl
  case handshake => exact eq_some_iff_givesNumber hhandshake

/-- The variables leave no choice. -/
theorem TakenFrom.unique (haccepted : Accepted e) {c c' : Config} (h : TakenFrom e c)
    (h' : TakenFrom e c') : c = c' := by
  -- Setting by setting: given or not is decided by the variable alone, and so is what is given.
  have hendpoints : c.endpoints = c'.endpoints := by
    by_cases hgiven : ∀ text, e.Gives endpointsVariable text → Environment.items text = []
    · rw [h.endpoints_default hgiven, h'.endpoints_default hgiven]
    · simp only [not_forall] at hgiven
      obtain ⟨text, htext, hitems⟩ := hgiven
      rw [h.endpoints_given text htext hitems, h'.endpoints_given text htext hitems]
  have hcredentials : c.credentials = c'.credentials :=
    Option.ext fun given => (h.credentials given).trans (h'.credentials given).symm
  have hconnect : c.connectTimeoutMs = c'.connectTimeoutMs := by
    by_cases husable : e.Usable connectTimeoutVariable
    · -- A usable timeout that is no number would have failed a check.
      obtain ⟨n, hn⟩ := haccepted.numbers connectTimeoutVariable List.mem_cons_self husable
      rw [h.connect_given n hn, h'.connect_given n hn]
    · rw [h.connect_default husable, h'.connect_default husable]
  have hdetect := h.detectVersion.trans h'.detectVersion.symm
  have hversion := h.versionDetectTimeoutMs.trans h'.versionDetectTimeoutMs.symm
  have hhandshake : c.handshakeTimeoutMs = c'.handshakeTimeoutMs :=
    Option.ext fun n => (h.handshake n).trans (h'.handshake n).symm
  cases c
  cases c'
  rw [mk.injEq]
  exact ⟨hendpoints, hcredentials, hconnect, hdetect, hversion, hhandshake⟩

/-- **A configuration is what accepted variables give.** -/
theorem ofEnvironment_eq_ok_iff {c : Config} :
    ofEnvironment e = .ok c ↔ Accepted e ∧ TakenFrom e c := by
  constructor
  · intro h
    exact ⟨exists_ofEnvironment_eq_ok_iff.1 ⟨c, h⟩, takenFrom_of_ofEnvironment h⟩
  -- There is some configuration, and it is this one, since the variables leave no choice.
  · rintro ⟨haccepted, htaken⟩
    obtain ⟨c', hc'⟩ := exists_ofEnvironment_eq_ok_iff.2 haccepted
    rw [hc', htaken.unique haccepted (takenFrom_of_ofEnvironment hc')]

/-! ### What counts -/

/-- The variables that a configuration is taken from. -/
def variableNames : List String :=
  [endpointsVariable, usernameVariable, passwordVariable, connectTimeoutVariable,
    handshakeTimeoutVariable]

/-- Only what is read of these variables counts. -/
theorem ofEnvironment_congr {e e' : Environment}
    (h : ∀ name ∈ variableNames, e'.value? name = e.value? name) :
    ofEnvironment e' = ofEnvironment e := by
  simp only [variableNames, List.forall_mem_cons] at h
  obtain ⟨hendpoints, husername, hpassword, hconnect, hhandshake, -⟩ := h
  -- Each setting is read through the value of its own variables.
  have hlist : environmentEndpoints e' = environmentEndpoints e := by
    rw [environmentEndpoints, Environment.list, hendpoints]
    rfl
  have hcredentials : environmentCredentials e' = environmentCredentials e := by
    rw [environmentCredentials, husername, hpassword, environmentCredentials]
  have hnumber {name : String} (hname : e'.value? name = e.value? name) :
      environmentNumber e' name = environmentNumber e name := by
    rw [environmentNumber, Environment.readUInt64, Environment.readWith, hname]
    rfl
  rw [ofEnvironment, hlist, hcredentials, hnumber hconnect, hnumber hhandshake, ofEnvironment]

/-- **A configuration is taken as a whole or refused for the first check that fails.** Of whatever
environment, every error is a fault of the settings, namely that of the first check that fails;
none comes from credentials, which variables give as they must be. There is a configuration just if
user name and password are both usable or both not and each timeout that is usable is a number of
64 bits, and then every setting is what its variable gives or its default. It is the same if values
are trimmed or variables that are not usable are left out. -/
theorem taken_whole_or_refused (e : Environment) :
    (∀ err, ofEnvironment e = .error err ↔
        ∃ fault, Check.FirstFails e checks fault ∧ err = .config fault) ∧
      (∀ username password, e.Gives usernameVariable username →
        e.Gives passwordVariable password →
          Credentials.make username password = .ok ⟨username, password⟩) ∧
      ((∃ c, ofEnvironment e = .ok c) ↔ Accepted e) ∧
      (∀ c, ofEnvironment e = .ok c ↔ Accepted e ∧ TakenFrom e c) ∧
      ∀ tidied, (∀ name ∈ variableNames, e.Tidied tidied name) →
        ofEnvironment tidied = ofEnvironment e := by
  refine ⟨fun err => ofEnvironment_eq_error_iff, fun username password => make_of_gives,
    exists_ofEnvironment_eq_ok_iff, fun c => ofEnvironment_eq_ok_iff, fun tidied htidied => ?_⟩
  exact ofEnvironment_congr fun name hname => (htidied name hname).value?_eq

/-- Of a user name between blanks, a number with a sign and zeros and a blank timeout, the blanks do
not count; half of the credentials is reported before a timeout that is no number. -/
theorem taken_whole_or_refused_of_blanks :
    let e : Environment := ⟨[(usernameVariable, .text " root "), (passwordVariable, .text "secret"),
      (connectTimeoutVariable, .text "\t+0750"), (handshakeTimeoutVariable, .text "  ")]⟩
    let tidied : Environment := ⟨[(usernameVariable, .text "root"),
      (passwordVariable, .text "secret"), (connectTimeoutVariable, .text "+0750")]⟩
    let half : Environment := ⟨[(usernameVariable, .text "root"),
      (passwordVariable, .unreadable), (connectTimeoutVariable, .text "soon")]⟩
    e.Gives usernameVariable "root" ∧ e.Gives passwordVariable "secret" ∧
      (∀ name ∈ variableNames, e.Tidied tidied name) ∧
        Credentials.make "root" "secret" = .ok ⟨"root", "secret"⟩ ∧
          ofEnvironment tidied = ofEnvironment e ∧
            ofEnvironment e =
                .ok { credentials := some ⟨"root", "secret"⟩, connectTimeoutMs := 750 } ∧
              Check.FirstFails half checks (.notTogether usernameVariable passwordVariable) := by
  intro e tidied half
  obtain ⟨-, hmake, -, -, htidy⟩ := taken_whole_or_refused e
  have husername : e.Gives usernameVariable "root" :=
    ⟨by decide, by decide, [' '], [' '], by decide, by decide, by decide⟩
  have hpassword : e.Gives passwordVariable "secret" :=
    ⟨by decide, by decide, [], [], by decide, by decide, by decide⟩
  have hblank : ¬ e.Usable handshakeTimeoutVariable := by
    rintro ⟨s, hs, hblanks⟩
    obtain rfl : "  " = s := Option.some.inj hs
    exact hblanks (by decide)
  have htidied : ∀ name ∈ variableNames, e.Tidied tidied name := by
    simp only [variableNames, List.forall_mem_cons]
    refine ⟨.kept (by decide), .trimmed (s := " root ") (by decide) (by decide), .kept (by decide),
      .trimmed (s := "\t+0750") (by decide) (by decide), .removed hblank (by decide), ?_⟩
    exact fun name hname => absurd hname List.not_mem_nil
  have herr : ofEnvironment half =
      .error (.config (.notTogether usernameVariable passwordVariable)) := by decide
  obtain ⟨fault, hfirst, hfault⟩ := ((taken_whole_or_refused half).1 _).1 herr
  obtain rfl := ClientError.config.inj hfault
  exact ⟨husername, hpassword, htidied, hmake _ _ husername hpassword, htidy tidied htidied,
    by decide, hfirst⟩

end Config
end EtcdClient

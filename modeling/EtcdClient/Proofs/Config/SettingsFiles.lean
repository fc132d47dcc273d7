import EtcdClient.Proofs.Config.Checks

/-
# Settings files and variables that are set

Settings files add to the environment and take nothing from it. The rule that loaders of such files
follow is that a variable with a text keeps it (`Environment.Keeps`). A blank text is a text here,
although a reader makes nothing of it:

| variable | its text after a file | usable after a file |
| --- | --- | --- |
| set, not blank | as before | yes |
| set, blank | as before | no |
| not set, or no text | as the file says | as the file says |

A configuration whose variables all have a text is therefore the same for all files, whatever can be
a file and whatever is in it (`set_variables_win`).

The loader that is written out in `Dotenv` follows the rule. A line gives a value to a variable only
if the variable is not set or cannot be read, so a variable with a text keeps it along all lines up
to the first bad one, and any other has the value of the first of these lines that names it
(`Dotenv.get?_load`).

Source: `SPEC_FULL.md` §10.2: `from_env` reads the variables after `load_dotenv`, whose library does
not replace a variable that is set.
-/

namespace EtcdClient

namespace Environment

/-- All variables with a text keep it. -/
def Keeps (e loaded : Environment) : Prop :=
  ∀ name s, e.get? name = some s → loaded.get? name = some s

/-- To take one name out of the bindings leaves the others as they are. -/
theorem lookup_filter_ne {name other : String} (hne : other ≠ name)
    (bindings : List (String × Variable)) :
    (bindings.filter (·.1 ≠ name)).lookup other = bindings.lookup other := by
  induction bindings with
  | nil => rfl
  | cons binding bindings ih =>
    obtain ⟨key, value⟩ := binding
    rw [List.lookup_cons]
    by_cases hkey : key = name
    · have hother : (other == key) = false := beq_false_of_ne (hkey ▸ hne)
      rw [List.filter_cons_of_neg (by simpa using hkey), ih, hother]
    · rw [List.filter_cons_of_pos (by simpa using hkey), List.lookup_cons, ih]

/-- A variable that is set is found under its name, and every other one as before. -/
theorem get?_set (e : Environment) (name value other : String) :
    (e.set name value).get? other = if other = name then some value else e.get? other := by
  rw [get?, set, List.lookup_cons]
  by_cases hname : other = name
  · rw [if_pos hname, hname, beq_self_eq_true]
  · rw [if_neg hname, beq_false_of_ne hname, lookup_filter_ne hname, get?]

end Environment

namespace Dotenv

/-- The assignments in lines, up to the first bad one. -/
def assignments (e : Environment) (earlier : List Assignment) :
    List (Option (List Char)) → List Assignment
  | [] => []
  | none :: _ => []
  | some line :: rest =>
    match readLine? (lookup e earlier) line with
    | none => []
    | some none => assignments e earlier rest
    | some (some a) => a :: assignments (assign e a) (a :: earlier) rest

/-- The value that the nearest settings file has for a name. -/
def value (files : Files) (cwd : Directory) (e : Environment) (name : String) : Option String :=
  match find files cwd with
  | none => none
  | some (_, text) =>
    ((assignments e [] (lines text)).find? (·.name = name)).map (·.value)

/-- An assignment gives a text to a variable that has none. -/
theorem get?_assign (e : Environment) (a : Assignment) (name : String) :
    (assign e a).get? name =
      (e.get? name).or (if a.name = name then some a.value else none) := by
  rw [assign]
  by_cases hname : a.name = name
  · subst hname
    rw [if_pos rfl]
    cases htext : e.get? a.name with
    | some s => exact htext
    | none =>
      dsimp only
      rw [Environment.get?_set, if_pos rfl, Option.none_or]
  · rw [if_neg hname, Option.or_none]
    cases e.get? a.name with
    | some s => rfl
    | none =>
      dsimp only
      rw [Environment.get?_set, if_neg (Ne.symm hname)]

/-- Of assignments in a row the first one to a variable counts. -/
theorem get?_foldl_assign (as : List Assignment) (e : Environment) (name : String) :
    (as.foldl assign e).get? name =
      (e.get? name).or ((as.find? (·.name = name)).map (·.value)) := by
  induction as generalizing e with
  | nil => rw [List.foldl_nil, List.find?_nil, Option.map_none, Option.or_none]
  | cons a as ih =>
    rw [List.foldl_cons, ih, get?_assign, Option.or_assoc]
    by_cases hname : a.name = name
    · rw [if_pos hname, List.find?_cons_of_pos (by simpa using hname), Option.map_some,
        Option.some_or]
    · rw [if_neg hname, List.find?_cons_of_neg (by simpa using hname), Option.none_or]

/-- Lines make their assignments one after the other. -/
theorem loadLines_eq_foldl (e : Environment) (earlier : List Assignment)
    (lines : List (Option (List Char))) :
    (loadLines e earlier lines).1 = (assignments e earlier lines).foldl assign e := by
  -- Later lines see the assignments of earlier ones, so both vary along the file.
  induction lines generalizing e earlier with
  | nil => rfl
  | cons line lines ih =>
    cases line with
    | none => rfl
    | some line =>
      rw [loadLines, assignments]
      cases readLine? (lookup e earlier) line with
      | none => rfl
      | some read =>
        cases read with
        | none => exact ih e earlier
        | some a => exact ih (assign e a) (a :: earlier)

/-- **The environment comes first, then the first line of the file that names the variable.** -/
theorem get?_load (files : Files) (cwd : Directory) (e : Environment) (name : String) :
    (load files cwd e).1.get? name = (e.get? name).or (value files cwd e name) := by
  rw [load, value]
  cases find files cwd with
  | none => exact Option.or_none.symm
  | some found =>
    obtain ⟨directory, text⟩ := found
    have hlines := get?_foldl_assign (assignments e [] (lines text)) e name
    rw [← loadLines_eq_foldl] at hlines
    dsimp only
    split
    · next loaded hloaded => rwa [hloaded] at hlines
    · next loaded hloaded => rwa [hloaded] at hlines

/-- The loader that is written out keeps what is set, whatever files there are and whatever is in
them. -/
theorem keeps_load (files : Files) (cwd : Directory) (e : Environment) :
    e.Keeps (load files cwd e).1 := by
  intro name s hs
  rw [get?_load, hs, Option.some_or]

end Dotenv

namespace Config

/-- Variables with a text are read as before wherever they keep it. -/
theorem ofEnvironment_of_keeps {e loaded : Environment}
    (hset : ∀ name ∈ variableNames, ∃ s, e.get? name = some s) (hkeeps : e.Keeps loaded) :
    ofEnvironment loaded = ofEnvironment e := by
  refine ofEnvironment_congr fun name hname => ?_
  obtain ⟨s, hs⟩ := hset name hname
  rw [Environment.value?, hkeeps name s hs, ← hs, Environment.value?]

/-- **Variables that are set win over settings files.** Let a loader of settings files follow the
rule that variables keep their texts. If all five variables have a text, blank or not, then the
configuration or the error is the same for all files, namely the one without any. -/
theorem set_variables_win {φ : Type} (load : φ → Environment → Environment) (e : Environment)
    (hload : ∀ files, e.Keeps (load files e))
    (hset : ∀ name ∈ variableNames, ∃ s, e.get? name = some s) :
    (∀ files files', ofLoaded load files e = ofLoaded load files' e) ∧
      ∀ files, ofLoaded load files e = ofEnvironment e := by
  have halone (files : φ) : ofLoaded load files e = ofEnvironment e :=
    ofEnvironment_of_keeps hset (hload files)
  refine ⟨fun files files' => ?_, halone⟩
  rw [halone files, halone files']

/-- A file that names another user, gives a timeout in place of a blank one and then a variable of
its own before a bad line sets that variable alone. -/
theorem set_variables_win_over_bad_file :
    let e : Environment := ⟨[(endpointsVariable, .text "h:1"), (usernameVariable, .text "root"),
      (passwordVariable, .text "secret"), (connectTimeoutVariable, .text "750"),
      (handshakeTimeoutVariable, .text " ")]⟩
    let c : Config :=
      { endpoints := ["h:1"], credentials := some ⟨"root", "secret"⟩, connectTimeoutMs := 750 }
    let file := "ETCDLINK_USERNAME=eve\nETCDLINK_HANDSHAKE_TIMEOUT_MS=1\nX=5\n?"
    let files : Dotenv.Files := [(([], Dotenv.fileName), file)]
    (∀ name ∈ variableNames, ∃ s, e.get? name = some s) ∧
      (Dotenv.load files [] e).1.get? "X" = some "5" ∧
        ofProcess files [] e = ofProcess [] [] e ∧ ofProcess files [] e = .ok c := by
  intro e c file files
  have hset : ∀ name ∈ variableNames, ∃ s, e.get? name = some s := by
    simp only [variableNames, List.forall_mem_cons]
    exact ⟨⟨"h:1", by decide⟩, ⟨"root", by decide⟩, ⟨"secret", by decide⟩, ⟨"750", by decide⟩,
      ⟨" ", by decide⟩, fun name hname => absurd hname List.not_mem_nil⟩
  have hvalue : (e.get? "X").or (Dotenv.value files [] e "X") = some "5" := by decide
  have halone : ofEnvironment e = .ok c := by decide
  obtain ⟨hsame, hwithout⟩ := set_variables_win (fun files e => (Dotenv.load files [] e).1) e
    (fun files => Dotenv.keeps_load files [] e) hset
  exact ⟨hset, (Dotenv.get?_load files [] e "X").trans hvalue, hsame files [],
    (hwithout files).trans halone⟩

end Config
end EtcdClient

import EtcdClient.Environment.Reading
import EtcdClient.Proofs.Text.Numeral
import EtcdClient.Proofs.Text.Trim

/-
# What variables give

Readers see nothing of a variable but the text that it gives:

| variable | gives |
| --- | --- |
| not set, or no text | nothing |
| blanks alone | nothing |
| a text between blanks | that text |

In the last case the variable is usable. `Gives` says so without trimming, and `value?_eq_some_iff`
and `value?_eq_none_iff` say that this is what is read. An environment that is tidied up reads as
before, with values trimmed and variables left out that are not usable (`Tidied.value?_eq`).

Source: `SPEC_FULL.md` §10.2, `var` and `parse_var`.
-/

namespace EtcdClient
namespace Environment

/-- The variable is set, it can be read, and not all of its characters are blank. -/
def Usable (e : Environment) (name : String) : Prop :=
  ∃ s, e.get? name = some s ∧ ¬ Text.Blanks s.toList

/-- The variable is set to the text between blanks. -/
structure Gives (e : Environment) (name text : String) : Prop where
  ne_empty : text ≠ ""
  trimmed : Text.Trimmed text.toList
  between : ∃ front back, Text.Blanks front ∧ Text.Blanks back ∧
    e.get? name = some (String.ofList (front ++ text.toList ++ back))

/-- The text that the variable gives writes the number. -/
def GivesNumber (e : Environment) (name : String) (n : UInt64) : Prop :=
  ∃ text, e.Gives name text ∧ Text.Writes text.toList n.toNat

/-- At a name, one environment is another one with the value trimmed if at all, or without the
variable if it is not usable. -/
inductive Tidied (e tidied : Environment) (name : String) : Prop
  | kept (h : tidied.get? name = e.get? name)
  | trimmed {s : String} (hs : e.get? name = some s) (h : tidied.get? name = some (Text.trim s))
  | removed (hs : ¬ e.Usable name) (h : tidied.get? name = none)

variable {e : Environment} {name text : String}

/-! ### Values -/

/-- A variable has the value that it gives between blanks. -/
theorem value?_eq_some_iff : e.value? name = some text ↔ e.Gives name text := by
  rw [value?, Option.filter_eq_some_iff, Option.map_eq_some_iff]
  constructor
  · rintro ⟨⟨s, hs, htrim⟩, hne⟩
    obtain ⟨htrimmed, front, back, hfront, hback, rfl⟩ := Text.trim_eq_iff.1 htrim
    exact ⟨of_decide_eq_true hne, htrimmed, front, back, hfront, hback, hs⟩
  · rintro ⟨hne, htrimmed, front, back, hfront, hback, hs⟩
    have htrim := Text.trim_eq_iff.2 ⟨htrimmed, front, back, hfront, hback, rfl⟩
    exact ⟨⟨_, hs, htrim⟩, decide_eq_true hne⟩

/-- It has none just if it is not usable: unset, unreadable or blank. -/
theorem value?_eq_none_iff : e.value? name = none ↔ ¬ e.Usable name := by
  rw [value?, Option.filter_eq_none_iff, Usable]
  constructor
  · rintro h ⟨s, hs, hblanks⟩
    refine h (Text.trim s) (Option.map_eq_some_iff.2 ⟨s, hs, rfl⟩) (decide_eq_true ?_)
    exact fun hempty => hblanks (Text.trim_eq_empty_iff.1 hempty)
  · intro h t ht hne
    obtain ⟨s, hs, rfl⟩ := Option.map_eq_some_iff.1 ht
    exact h ⟨s, hs, fun hblanks => of_decide_eq_true hne (Text.trim_eq_empty_iff.2 hblanks)⟩

/-- It has a value just if it is usable. -/
theorem isSome_value?_iff : (e.value? name).isSome = true ↔ e.Usable name := by
  rw [← not_iff_not, ← value?_eq_none_iff, Option.not_isSome_iff_eq_none]

/-- A variable that is not set is not usable. -/
theorem not_usable_of_get?_eq_none (h : e.get? name = none) : ¬ e.Usable name := by
  rintro ⟨s, hs, -⟩
  rw [h] at hs
  exact absurd hs nofun

/-- A usable variable gives a text. -/
theorem Usable.gives (h : e.Usable name) : ∃ text, e.Gives name text := by
  cases hvalue : e.value? name with
  | none => exact absurd h (value?_eq_none_iff.1 hvalue)
  | some text => exact ⟨text, value?_eq_some_iff.1 hvalue⟩

/-- A variable that gives a text is usable. -/
theorem Gives.usable (h : e.Gives name text) : e.Usable name := by
  refine Classical.byContradiction fun hnot => ?_
  have hvalue := value?_eq_some_iff.2 h
  rw [value?_eq_none_iff.2 hnot] at hvalue
  exact absurd hvalue nofun

/-- The text that it gives is trimmed already. -/
theorem Gives.trim_eq (h : e.Gives name text) : Text.trim text = text :=
  Text.trim_eq_iff.2 ⟨h.trimmed, [], [], Text.blanks_nil, Text.blanks_nil, by
    rw [List.nil_append, List.append_nil, String.ofList_toList]⟩

/-- What a variable gives has a character that is not blank. -/
theorem Gives.not_blanks (h : e.Gives name text) : ¬ Text.Blanks text.toList := fun hblanks =>
  h.ne_empty (h.trim_eq.symm.trans (Text.trim_eq_empty_iff.2 hblanks))

/-- A variable gives one text. -/
theorem Gives.unique {text' : String} (h : e.Gives name text) (h' : e.Gives name text') :
    text = text' :=
  Option.some.inj ((value?_eq_some_iff.2 h).symm.trans (value?_eq_some_iff.2 h'))

/-- A number is given by a usable variable only. -/
theorem GivesNumber.usable {n : UInt64} (h : e.GivesNumber name n) : e.Usable name := by
  obtain ⟨text, htext, -⟩ := h
  exact htext.usable

/-- A variable gives one number at most. -/
theorem GivesNumber.unique {m n : UInt64} (hm : e.GivesNumber name m)
    (hn : e.GivesNumber name n) : m = n := by
  obtain ⟨text, htext, hwrites⟩ := hm
  obtain ⟨text', htext', hwrites'⟩ := hn
  obtain rfl := htext.unique htext'
  exact UInt64.toNat_inj.1 (hwrites.unique hwrites')

/-- **An environment that is tidied up reads as before.** -/
theorem Tidied.value?_eq {tidied : Environment} (h : e.Tidied tidied name) :
    tidied.value? name = e.value? name := by
  cases h with
  | kept h => rw [value?, h, value?]
  | trimmed hs h => rw [value?, h, value?, hs, Option.map_some, Option.map_some, Text.trim_trim]
  | removed hs h =>
    rw [value?_eq_none_iff.2 hs, value?, h]
    rfl

/-! ### Lists and numbers -/

/-- A list is read from the text that the variable gives. -/
theorem list_of_gives (h : e.Gives name text) : e.list name = items text := by
  rw [list, value?_eq_some_iff.2 h]

/-- Without a usable text the list is empty. -/
theorem list_of_not_usable (h : ¬ e.Usable name) : e.list name = [] := by
  rw [list, value?_eq_none_iff.2 h]

/-- Without a usable text there is no number and no error. -/
theorem readUInt64_of_not_usable (h : ¬ e.Usable name) : e.readUInt64 name = .ok none := by
  rw [readUInt64, readWith, value?_eq_none_iff.2 h]

/-- The number that the variable gives is read. -/
theorem readUInt64_of_givesNumber {n : UInt64} (h : e.GivesNumber name n) :
    e.readUInt64 name = .ok (some n) := by
  obtain ⟨text, htext, hwrites⟩ := h
  rw [readUInt64, readWith, value?_eq_some_iff.2 htext]
  dsimp only
  rw [Text.readUInt64_eq_ok_iff.2 hwrites]
  rfl

/-- A text that is no number is an error that names the variable and quotes the text. -/
theorem readUInt64_of_fault {fault : Text.NumeralFault} (htext : e.Gives name text)
    (h : Text.readUInt64 text.toList = .error fault) :
    e.readUInt64 name = .error ⟨name, text, .numeral fault⟩ := by
  rw [readUInt64, readWith, value?_eq_some_iff.2 htext]
  dsimp only
  rw [h]
  rfl

/-- The ways in which a variable reads as a number. -/
theorem number_cases (e : Environment) (name : String) :
    ¬ e.Usable name ∨ (∃ n, e.GivesNumber name n) ∨
      ∃ text fault, e.Gives name text ∧ Text.readUInt64 text.toList = .error fault := by
  by_cases h : e.Usable name
  · obtain ⟨text, htext⟩ := h.gives
    cases hread : Text.readUInt64 text.toList with
    | ok n => exact .inr (.inl ⟨n, text, htext, Text.readUInt64_eq_ok_iff.1 hread⟩)
    | error fault => exact .inr (.inr ⟨text, fault, htext, hread⟩)
  · exact .inl h

end Environment
end EtcdClient

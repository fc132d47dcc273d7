import EtcdClient.Environment.Basic
import EtcdClient.Proofs.Text.Cut
import EtcdClient.Proofs.Text.Trim

/-
# Lists in variables

A variable holds a list with commas. Its items are read part by part: what stands between two
commas gives one item, or none if it is blank (`items_intercalate_cons`). Blanks at the ends of the
value are at the ends of its first and last part, where they are dropped anyway, so it makes no
difference that the whole value is trimmed before it is cut (`list_eq_items`).

Source: `SPEC_FULL.md` §10.2, `list_var`.
-/

namespace EtcdClient
namespace Environment

/-! ### Items -/

/-- Items on the two sides of a comma are read apart. -/
theorem items_append_cons (as bs : List Char) :
    items (String.ofList (as ++ ',' :: bs)) =
      items (String.ofList as) ++ items (String.ofList bs) := by
  rw [items, String.toList_ofList, Text.pieces_append_cons, List.map_append, List.filter_append,
    items, items, String.toList_ofList, String.toList_ofList]

/-- Each part between commas gives its own items. -/
theorem items_intercalate_cons (part : List Char) (parts : List (List Char)) :
    items (String.ofList ([','].intercalate (part :: parts))) =
      items (String.ofList part) ++ items (String.ofList ([','].intercalate parts)) := by
  cases parts with
  | nil =>
    rw [List.intercalate_singleton, List.intercalate_nil]
    exact (List.append_nil _).symm
  | cons p ps =>
    rw [List.intercalate_cons_cons, List.append_assoc, List.singleton_append, items_append_cons]

/-- A text without commas is one item, or none if it is blank. -/
theorem items_of_not_mem {cs : List Char} (h : ',' ∉ cs) :
    items (String.ofList cs) = [String.ofList (Text.trimChars cs)].filter (· ≠ "") := by
  rw [items, String.toList_ofList, Text.pieces_of_not_mem h]
  rfl

/-- Blanks contain no comma. -/
theorem comma_not_mem {bs : List Char} (h : Text.Blanks bs) : ',' ∉ bs := h.not_mem (by decide)

/-- Blanks alone are no item. -/
theorem items_of_blanks {bs : List Char} (h : Text.Blanks bs) : items (String.ofList bs) = [] := by
  rw [items_of_not_mem (comma_not_mem h), Text.trimChars_blanks h]
  rfl

/-! ### Blanks around a list -/

/-- Blanks in front of a list belong to no item. -/
theorem items_blanks_append {bs : List Char} (h : Text.Blanks bs) (cs : List Char) :
    items (String.ofList (bs ++ cs)) = items (String.ofList cs) := by
  have hone {as : List Char} (has : ',' ∉ as) :
      items (String.ofList (bs ++ as)) = items (String.ofList as) := by
    have hmem : ',' ∉ bs ++ as := fun hmem => (List.mem_append.1 hmem).elim (comma_not_mem h) has
    rw [items_of_not_mem hmem, items_of_not_mem has, Text.trimChars_blanks_append h]
  cases hcut : Text.cutFirst ',' cs with
  | none => exact hone (Text.cutFirst_eq_none.1 hcut)
  | some cut =>
    obtain ⟨as, rest⟩ := cut
    obtain ⟨rfl, has⟩ := Text.cutFirst_eq_some.1 hcut
    rw [← List.append_assoc, items_append_cons, items_append_cons, hone has]

/-- Nor do blanks behind it. -/
theorem items_append_blanks {bs : List Char} (h : Text.Blanks bs) (cs : List Char) :
    items (String.ofList (cs ++ bs)) = items (String.ofList cs) := by
  have hone {as : List Char} (has : ',' ∉ as) :
      items (String.ofList (as ++ bs)) = items (String.ofList as) := by
    have hmem : ',' ∉ as ++ bs := fun hmem => (List.mem_append.1 hmem).elim has (comma_not_mem h)
    rw [items_of_not_mem hmem, items_of_not_mem has, Text.trimChars_append_blanks h]
  cases hcut : Text.cutLast ',' cs with
  | none => exact hone (Text.cutLast_eq_none.1 hcut)
  | some cut =>
    obtain ⟨front, as⟩ := cut
    obtain ⟨rfl, has⟩ := Text.cutLast_eq_some.1 hcut
    rw [List.append_assoc, List.cons_append, items_append_cons, items_append_cons, hone has]

/-- So it makes no difference whether the value was trimmed before. -/
theorem items_trim (s : String) : items (Text.trim s) = items s := by
  obtain ⟨front, back, hfront, hback, hs⟩ := Text.exists_eq_blanks_append s.toList
  have htrim : items (String.ofList s.toList) = items (Text.trim s) := by
    rw [hs, items_append_blanks hback, items_blanks_append hfront, Text.trim]
  rw [← htrim, String.ofList_toList]

/-! ### Variables -/

/-- The items of a variable are those of its text, blanks at the ends or not. -/
theorem list_eq_items {e : Environment} {name s : String} (h : e.get? name = some s) :
    e.list name = items s := by
  rw [list, value?, h, ← items_trim s, Option.map_some]
  by_cases hblank : Text.trim s = ""
  · rw [hblank]
    rfl
  · rw [Option.filter_some_pos (by simpa using hblank)]

/-- An item is trimmed and not empty, and has no comma. -/
theorem mem_items {s item : String} (h : item ∈ items s) :
    Text.trim item = item ∧ item ≠ "" ∧ ',' ∉ item.toList := by
  obtain ⟨hmap, hne⟩ := List.mem_filter.1 h
  obtain ⟨part, hpart, rfl⟩ := List.mem_map.1 hmap
  refine ⟨?_, of_decide_eq_true hne, fun hmem => ?_⟩
  · rw [Text.trim, String.toList_ofList, Text.trimChars_of_trimmed (Text.trimmed_trimChars part)]
  · rw [String.toList_ofList] at hmem
    obtain ⟨front, back, -, -, hsame⟩ := Text.exists_eq_blanks_append part
    refine Text.not_mem_of_mem_pieces hpart ?_
    rw [hsame]
    exact List.mem_append_left _ (List.mem_append_right _ hmem)

/-- The items of a list are trimmed, not empty, and without commas. -/
theorem mem_list {e : Environment} {name item : String} (h : item ∈ e.list name) :
    Text.trim item = item ∧ item ≠ "" ∧ ',' ∉ item.toList := by
  rw [list] at h
  split at h
  · exact mem_items h
  · exact absurd h List.not_mem_nil

end Environment
end EtcdClient

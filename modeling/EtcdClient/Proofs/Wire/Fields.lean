import EtcdClient.Wire.Message

/-
# Reading fields

What is read from a message that was put together from fields. A field that is left out because it
has its default reads as that default, so a reader finds in every field what was written there:
`m.Holds n v` says so of field `n` and the value `v`. The looking up of a field is computed by
`get?_append`, `get?_plain` and `get?_chosen` along the parts of a message.

Source: the fields of the messages of `rpc.proto`.
-/

namespace EtcdClient

namespace Value

/-- The message that a value is. -/
def message? : Value → Option Message
  | message fields => some fields
  | _ => none

/-- The text that a value is. -/
def text? : Value → Option String
  | text s => some s
  | _ => none

end Value

namespace Message

/-- The messages in the list in a field. -/
def elements (m : Message) (number : Nat) : List Message :=
  (m.list number).filterMap Value.message?

/-- The texts in the list in a field. -/
def texts (m : Message) (number : Nat) : List String := (m.list number).filterMap Value.text?

/-- A field is looked up in the first of two messages that has it. -/
@[simp] theorem get?_append (m m' : Message) (k : Nat) :
    get? (m ++ m') k = (m.get? k).or (m'.get? k) := by
  rw [get?, List.find?_append, Option.map_or]
  rfl

/-- A plain field is found under its number unless it has the default value, which is not sent. -/
@[simp] theorem get?_plain (n : Nat) (name : String) (v : Value) (k : Nat) :
    get? (Field.plain n name v) k =
      if n = k then if v.isDefault then none else some v else none := by
  unfold Field.plain
  by_cases hv : v.isDefault = true
  · rw [if_pos hv, if_pos hv, ite_self]
    rfl
  · rw [if_neg hv, if_neg hv]
    by_cases hn : n = k <;> simp [get?, Field.number, Field.value, hn]

/-- A member of a choice is found under its number even with the default value. -/
@[simp] theorem get?_chosen (n : Nat) (name : String) (v : Value) (k : Nat) :
    get? (Field.chosen n name v) k = if n = k then some v else none := by
  by_cases hn : n = k <;> simp [get?, Field.chosen, Field.number, Field.value, hn]

/-- Field `n` holds `v`, which means that it is left out if `v` is a default. -/
def Holds (m : Message) (n : Nat) (v : Value) : Prop :=
  m.get? n = if v.isDefault then none else some v

namespace Holds

variable {m : Message} {n : Nat}

/-- Where a number of 64 bits is expected and held it is found, also where the default was left
out. -/
theorem int64_eq {x : Int64} (h : m.Holds n (.int64 x)) : m.int64 n = x := by
  rw [Holds, Value.isDefault] at h
  rw [int64, h]
  by_cases hx : x = 0 <;> simp [hx]

/-- Likewise an unsigned number. -/
theorem uint64_eq {x : UInt64} (h : m.Holds n (.uint64 x)) : m.uint64 n = x := by
  rw [Holds, Value.isDefault] at h
  rw [uint64, h]
  by_cases hx : x = 0 <;> simp [hx]

/-- Likewise the number of an alternative. -/
theorem enum_eq {x : Int32} (h : m.Holds n (.enum x)) : m.enum n = x := by
  rw [Holds, Value.isDefault] at h
  rw [enum, h]
  by_cases hx : x = 0 <;> simp [hx]

/-- Likewise a flag. -/
theorem bool_eq {b : Bool} (h : m.Holds n (.bool b)) : m.bool n = b := by
  rw [Holds, Value.isDefault] at h
  rw [bool, h]
  cases b <;> rfl

/-- Likewise bytes. -/
theorem bytes_eq {b : Bytes} (h : m.Holds n (.bytes b)) : m.bytes n = b := by
  rw [Holds, Value.isDefault] at h
  rw [bytes, h]
  cases b <;> rfl

/-- Likewise a text. -/
theorem text_eq {s : String} (h : m.Holds n (.text s)) : m.text n = s := by
  rw [Holds, Value.isDefault] at h
  rw [text, h]
  by_cases hs : s = "" <;> simp [hs]

/-- Likewise a list, the empty one too. -/
theorem list_eq {vs : List Value} (h : m.Holds n (.list vs)) : m.list n = vs := by
  rw [Holds, Value.isDefault] at h
  rw [list, h]
  cases vs <;> rfl

/-- A list of messages reads as these messages. -/
theorem elements_eq {α : Type} {f : α → Message} {as : List α}
    (h : m.Holds n (.list (as.map fun a => .message (f a)))) : m.elements n = as.map f := by
  rw [elements, h.list_eq, List.filterMap_map]
  exact congrFun List.filterMap_eq_map as

/-- A list of texts reads as these texts. -/
theorem texts_eq {ss : List String} (h : m.Holds n (.list (ss.map .text))) : m.texts n = ss := by
  rw [texts, h.list_eq, List.filterMap_map]
  exact List.filterMap_some

end Holds

end Message
end EtcdClient

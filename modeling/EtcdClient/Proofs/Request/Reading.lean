import EtcdClient.Proofs.Wire.Fields
import EtcdClient.Request

/-
# Reading requests on keys

A server takes a request apart by the numbers of its fields: a field that is not there has its
default, of the members of a choice it looks for the one that is set, and a number that stands for
no case of an enumeration stands for the first. What is read from the message of a get, a put, a
delete or a transaction is what the client wrote: `ofMessage_message` and `ofMessage?_message` for
each of them. So no two of them share a message.

Source: the requests of `rpc.proto`.
-/

namespace EtcdClient

/-! ### Enumerations -/

/-- The direction that a number stands for. -/
def SortOrder.ofNumber (n : Int32) : SortOrder :=
  if n = 1 then .ascend else if n = 2 then .descend else .none

/-- An order survives being sent as a number. -/
theorem SortOrder.ofNumber_number (o : SortOrder) : ofNumber o.number = o := by
  cases o <;> decide

/-- The attribute to sort by that a number stands for. -/
def SortTarget.ofNumber (n : Int32) : SortTarget :=
  if n = 1 then .version else if n = 2 then .create else if n = 3 then .modification
  else if n = 4 then .value else .key

/-- So does what is sorted by. -/
theorem SortTarget.ofNumber_number (t : SortTarget) : ofNumber t.number = t := by
  cases t <;> decide

/-- The relation that a number stands for. -/
def Relation.ofNumber (n : Int32) : Relation :=
  if n = 1 then .greater else if n = 2 then .less else if n = 3 then .notEqual else .equal

/-- So does the relation of a guard. -/
theorem Relation.ofNumber_number (r : Relation) : ofNumber r.number = r := by
  cases r <;> decide

/-- The attribute of a guard that a number stands for. -/
def Attribute.ofNumber (n : Int32) : Attribute :=
  if n = 1 then .create else if n = 2 then .modification else if n = 3 then .value else .version

/-- So does the attribute that a guard compares. -/
theorem Attribute.ofNumber_number (a : Attribute) : ofNumber a.number = a := by
  cases a <;> decide

/-! ### Single operations -/

/-- The range in two fields of a message, its key and its end. -/
def Message.range (m : Message) (key rangeEnd : Nat) : WireRange :=
  ⟨m.bytes key, m.bytes rangeEnd⟩

/-- A pair is read back from the two fields that hold it. -/
theorem Message.range_eq {m : Message} {key rangeEnd : Nat} {w : WireRange}
    (hkey : m.Holds key (.bytes w.key)) (hend : m.Holds rangeEnd (.bytes w.rangeEnd)) :
    m.range key rangeEnd = w := by
  rw [range, hkey.bytes_eq, hend.bytes_eq]

/-- The get that a server reads. -/
def RangeRequest.ofMessage (m : Message) : RangeRequest where
  range := m.range 1 2
  limit := m.int64 3
  revision := m.int64 4
  sortOrder := .ofNumber (m.enum 5)
  sortTarget := .ofNumber (m.enum 6)
  serializable := m.bool 7
  keysOnly := m.bool 8
  countOnly := m.bool 9
  minModRevision := m.int64 10
  maxModRevision := m.int64 11
  minCreateRevision := m.int64 12
  maxCreateRevision := m.int64 13

/-- A get is read back with all its options. -/
theorem RangeRequest.ofMessage_message (r : RangeRequest) : ofMessage r.message = r := by
  -- Field by field, each under its number: a field that was left out reads as the default that it
  -- had.
  have hrange : r.message.range 1 2 = r.range :=
    Message.range_eq (by simp [Message.Holds, message]) (by simp [Message.Holds, message])
  have hlimit : r.message.int64 3 = r.limit :=
    Message.Holds.int64_eq (by simp [Message.Holds, message])
  have hrevision : r.message.int64 4 = r.revision :=
    Message.Holds.int64_eq (by simp [Message.Holds, message])
  have hsortOrder : r.message.enum 5 = r.sortOrder.number :=
    Message.Holds.enum_eq (by simp [Message.Holds, message])
  have hsortTarget : r.message.enum 6 = r.sortTarget.number :=
    Message.Holds.enum_eq (by simp [Message.Holds, message])
  have hserializable : r.message.bool 7 = r.serializable :=
    Message.Holds.bool_eq (by simp [Message.Holds, message])
  have hkeysOnly : r.message.bool 8 = r.keysOnly :=
    Message.Holds.bool_eq (by simp [Message.Holds, message])
  have hcountOnly : r.message.bool 9 = r.countOnly :=
    Message.Holds.bool_eq (by simp [Message.Holds, message])
  have hminMod : r.message.int64 10 = r.minModRevision :=
    Message.Holds.int64_eq (by simp [Message.Holds, message])
  have hmaxMod : r.message.int64 11 = r.maxModRevision :=
    Message.Holds.int64_eq (by simp [Message.Holds, message])
  have hminCreate : r.message.int64 12 = r.minCreateRevision :=
    Message.Holds.int64_eq (by simp [Message.Holds, message])
  have hmaxCreate : r.message.int64 13 = r.maxCreateRevision :=
    Message.Holds.int64_eq (by simp [Message.Holds, message])
  rw [ofMessage, hrange, hlimit, hrevision, hsortOrder, hsortTarget, hserializable, hkeysOnly,
    hcountOnly, hminMod, hmaxMod, hminCreate, hmaxCreate, SortOrder.ofNumber_number,
    SortTarget.ofNumber_number]

/-- The put that a server reads. -/
def PutRequest.ofMessage (m : Message) : PutRequest where
  key := m.bytes 1
  value := m.bytes 2
  options := {
    leaseId := m.int64 3
    prevKv := m.bool 4
    ignoreValue := m.bool 5
    ignoreLease := m.bool 6 }

/-- A put likewise, with the flags that let value or lease be kept. -/
theorem PutRequest.ofMessage_message (r : PutRequest) : ofMessage r.message = r := by
  have hkey : r.message.bytes 1 = r.key :=
    Message.Holds.bytes_eq (by simp [Message.Holds, message])
  have hvalue : r.message.bytes 2 = r.value :=
    Message.Holds.bytes_eq (by simp [Message.Holds, message])
  have hlease : r.message.int64 3 = r.options.leaseId :=
    Message.Holds.int64_eq (by simp [Message.Holds, message])
  have hprevKv : r.message.bool 4 = r.options.prevKv :=
    Message.Holds.bool_eq (by simp [Message.Holds, message])
  have hignoreValue : r.message.bool 5 = r.options.ignoreValue :=
    Message.Holds.bool_eq (by simp [Message.Holds, message])
  have hignoreLease : r.message.bool 6 = r.options.ignoreLease :=
    Message.Holds.bool_eq (by simp [Message.Holds, message])
  rw [ofMessage, hkey, hvalue, hlease, hprevKv, hignoreValue, hignoreLease]

/-- The delete that a server reads. -/
def DeleteRangeRequest.ofMessage (m : Message) : DeleteRangeRequest where
  range := m.range 1 2
  prevKv := m.bool 3

/-- A delete likewise. -/
theorem DeleteRangeRequest.ofMessage_message (r : DeleteRangeRequest) :
    ofMessage r.message = r := by
  have hrange : r.message.range 1 2 = r.range :=
    Message.range_eq (by simp [Message.Holds, message]) (by simp [Message.Holds, message])
  have hprevKv : r.message.bool 3 = r.prevKv :=
    Message.Holds.bool_eq (by simp [Message.Holds, message])
  rw [ofMessage, hrange, hprevKv]

/-! ### Transactions -/

/-- The operand that a server reads of a guard, by the member of the choice that is set. -/
def Operand.ofMessage? (m : Message) : Option Operand :=
  match m.get? 4, m.get? 5, m.get? 6, m.get? 7 with
  | some (.int64 n), _, _, _ => some (.version n)
  | _, some (.int64 n), _, _ => some (.createRevision n)
  | _, _, some (.int64 n), _ => some (.modRevision n)
  | _, _, _, some (.bytes b) => some (.value b)
  | _, _, _, _ => none

/-- The guard that a server reads. -/
def CompareRequest.ofMessage? (m : Message) : Option CompareRequest :=
  (Operand.ofMessage? m).map fun operand =>
    ⟨.ofNumber (m.enum 1), .ofNumber (m.enum 2), m.range 3 64, operand⟩

/-- A guard is read back with the operand of its attribute: the number of the field that is set
tells which. -/
theorem CompareRequest.ofMessage?_message (c : CompareRequest) :
    ofMessage? c.message = some c := by
  obtain ⟨relation, target, w, operand⟩ := c
  have hrelation : (message ⟨relation, target, w, operand⟩).enum 1 = relation.number :=
    Message.Holds.enum_eq (by cases operand <;> simp [Message.Holds, message, Operand.message])
  have htarget : (message ⟨relation, target, w, operand⟩).enum 2 = target.number :=
    Message.Holds.enum_eq (by cases operand <;> simp [Message.Holds, message, Operand.message])
  have hrange : (message ⟨relation, target, w, operand⟩).range 3 64 = w :=
    Message.range_eq
      (by cases operand <;> simp [Message.Holds, message, Operand.message])
      (by cases operand <;> simp [Message.Holds, message, Operand.message])
  have hoperand : Operand.ofMessage? (message ⟨relation, target, w, operand⟩) = some operand := by
    cases operand <;> simp [Operand.ofMessage?, message, Operand.message]
  rw [ofMessage?, hoperand, hrelation, htarget, hrange, Relation.ofNumber_number,
    Attribute.ofNumber_number]
  rfl

/-- The operation that a server reads, by the member of the choice that is set. -/
def RequestOp.ofMessage? (m : Message) : Option RequestOp :=
  match m.message? 1, m.message? 2, m.message? 3 with
  | some r, _, _ => some (.range (.ofMessage r))
  | none, some r, _ => some (.put (.ofMessage r))
  | none, none, some r => some (.deleteRange (.ofMessage r))
  | none, none, none => none

/-- An operation of a branch is read back as the kind that it is. -/
theorem RequestOp.ofMessage?_message (op : RequestOp) : ofMessage? op.message = some op := by
  cases op with
  | range r => simp [ofMessage?, message, Message.message?, RangeRequest.ofMessage_message]
  | put r => simp [ofMessage?, message, Message.message?, PutRequest.ofMessage_message]
  | deleteRange r =>
    simp [ofMessage?, message, Message.message?, DeleteRangeRequest.ofMessage_message]

/-- The transaction that a server reads. -/
def TxnRequest.ofMessage? (m : Message) : Option TxnRequest := do
  let compares ← (m.elements 1).mapM CompareRequest.ofMessage?
  let success ← (m.elements 2).mapM RequestOp.ofMessage?
  let failure ← (m.elements 3).mapM RequestOp.ofMessage?
  return ⟨compares, success, failure⟩

/-- What can be read of each element can be read of a list. -/
theorem mapM_map_eq_some {α β : Type} {f : α → β} {g : β → Option α}
    (h : ∀ a, g (f a) = some a) (as : List α) : (as.map f).mapM g = some as := by
  induction as with
  | nil => rfl
  | cons a as ih => simp [List.mapM_cons, h, ih]

/-- The lists of a transaction stand in three fields, one message for each guard or operation, in
order. -/
theorem TxnRequest.elements_message (t : TxnRequest) :
    t.message.elements 1 = t.compares.map CompareRequest.message ∧
      t.message.elements 2 = t.success.map RequestOp.message ∧
        t.message.elements 3 = t.failure.map RequestOp.message := by
  refine ⟨?_, ?_, ?_⟩ <;>
    exact Message.Holds.elements_eq (by simp [Message.Holds, message])

/-- A transaction is read back with all three of its lists. -/
theorem TxnRequest.ofMessage?_message (t : TxnRequest) : ofMessage? t.message = some t := by
  obtain ⟨hcompares, hsuccess, hfailure⟩ := t.elements_message
  rw [ofMessage?, hcompares, hsuccess, hfailure,
    mapM_map_eq_some CompareRequest.ofMessage?_message,
    mapM_map_eq_some RequestOp.ofMessage?_message, mapM_map_eq_some RequestOp.ofMessage?_message]
  rfl

/-- **No two transactions have the same message.** -/
theorem TxnRequest.message_injective {t u : TxnRequest} (h : t.message = u.message) : t = u := by
  have hread := t.ofMessage?_message
  rw [h, u.ofMessage?_message] at hread
  exact (Option.some.inj hread).symm

end EtcdClient

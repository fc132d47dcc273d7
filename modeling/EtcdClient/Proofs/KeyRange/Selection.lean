import EtcdClient.Call
import EtcdClient.Proofs.KeyRange.PrefixEnd
import EtcdClient.Proofs.Request.Reading
import EtcdClient.Proofs.Watch.Requests

/-
# What ranges select

The pair that `KeyRange.resolve` writes for a range selects on a server the keys that the range
means (`resolve_selects`). One kind of range can say something else than it means: keys before a
stop, if the stop is one of the two range ends that stand for something else.

Whatever has a range carries that pair. `Operation.ranges` lists the ranges that a caller names, and
`Request.ranges` those that a server finds in the message:

| request | key | range end |
| --- | ---: | ---: |
| get, delete, also in a branch of a transaction | 1 | 2 |
| guard of a transaction | 3 | 64 |
| creation of a watch | 1 | 2 |
| permission that is granted, that is revoked | 2 | 3 |

Source: `SPEC_FULL.md` §6 and §10.6, and `range_end` in `rpc.proto`.
-/

namespace EtcdClient

/-! ### Pairs on a server -/

namespace WireRange

variable {key e k : Bytes}

/-- Without an end a range selects its key alone. -/
theorem selects_nil : (⟨key, []⟩ : WireRange).Selects k ↔ k ≠ [] ∧ k = key := Iff.rfl

/-- The end that stands for no end lets every key from the first one on in. -/
theorem selects_endOfKeys : (⟨key, endOfKeys⟩ : WireRange).Selects k ↔ k ≠ [] ∧ key ≤ k := Iff.rfl

/-- Any other end is the first key that is not selected. -/
theorem selects_of_end (he : e ≠ []) (he' : e ≠ endOfKeys) :
    (⟨key, e⟩ : WireRange).Selects k ↔ k ≠ [] ∧ key ≤ k ∧ k < e := by
  rw [Selects]
  dsimp only
  rw [if_neg he, if_neg he']

end WireRange

/-- Keys are not empty, so none comes before the first key. -/
theorem firstKey_le {k : Bytes} (hk : k ≠ []) : firstKey ≤ k := by
  cases k with
  | nil => exact absurd rfl hk
  | cons b bs =>
    rw [firstKey, List.cons_le_cons_iff]
    by_cases hb : b = 0
    · exact .inr ⟨hb.symm, List.nil_le bs⟩
    · exact .inl (UInt8.pos_iff_ne_zero.2 hb)

/-- From the first of all keys without an end every key is selected. -/
theorem selects_allKeys {k : Bytes} : (⟨firstKey, endOfKeys⟩ : WireRange).Selects k ↔ k ≠ [] := by
  rw [WireRange.selects_endOfKeys]
  exact ⟨And.left, fun hk => ⟨hk, firstKey_le hk⟩⟩

/-! ### Ranges of a client -/

namespace KeyRange

variable (range : KeyRange) (key k : Bytes)

/-- A prefix is sent as a pair that selects the keys with that prefix, also where no key lies beyond
them all. -/
theorem resolve_startingWith_selects :
    (startingWith.resolve key).Selects k ↔ k ≠ [] ∧ key <+: k := by
  by_cases hkey : key = []
  -- The empty prefix is sent as the pair for all keys, since an empty key would not be taken.
  · subst hkey
    rw [show startingWith.resolve [] = ⟨firstKey, endOfKeys⟩ from rfl, selects_allKeys]
    exact ⟨fun hk => ⟨hk, List.nil_prefix⟩, And.left⟩
  · by_cases hend : prefixEnd key = []
    -- No key lies beyond those with the prefix, so there is no end.
    · have hpair : startingWith.resolve key = ⟨key, endOfKeys⟩ := by
        rw [resolve, if_neg hkey, if_pos hend]
      rw [hpair, WireRange.selects_endOfKeys, isPrefix_iff]
      simp [hend]
    -- The end is the least bound above the prefix, which is never mistaken for the end of all keys.
    · have hpair : startingWith.resolve key = ⟨key, prefixEnd key⟩ := by
        rw [resolve, if_neg hkey, if_neg hend]
      rw [hpair, WireRange.selects_of_end hend (prefixEnd_ne_endOfKeys key), isPrefix_iff]
      simp [hend]

/-- From a key on without an end, and from the first of all keys if the key is empty. -/
theorem resolve_fromKey_selects :
    (fromKey.resolve key).Selects k ↔ k ≠ [] ∧ key ≤ k := by
  by_cases hkey : key = []
  · subst hkey
    rw [show fromKey.resolve [] = ⟨firstKey, endOfKeys⟩ from rfl, selects_allKeys]
    exact ⟨fun hk => ⟨hk, List.nil_le k⟩, And.left⟩
  · have hpair : fromKey.resolve key = ⟨key, endOfKeys⟩ := by rw [resolve, if_neg hkey]
    rw [hpair, WireRange.selects_endOfKeys]

/-- A range can be taken at its word unless it stops at a range end that stands for something
else. -/
def StopIsKey : KeyRange → Prop
  | before stop => stop ≠ [] ∧ stop ≠ endOfKeys
  | _ => True

/-- **A server selects the keys that the range means.** -/
theorem resolve_selects (h : range.StopIsKey) :
    (range.resolve key).Selects k ↔ range.Selects key k := by
  cases range with
  | single => exact WireRange.selects_nil
  | startingWith => exact resolve_startingWith_selects key k
  | fromKey => exact resolve_fromKey_selects key k
  | before stop => exact WireRange.selects_of_end h.1 h.2

/-- An empty key is not sent where it would stand for all keys. -/
theorem resolve_key_ne_nil {range : KeyRange} (h : range = startingWith ∨ range = fromKey) :
    (range.resolve key).key ≠ [] := by
  by_cases hkey : key = []
  · subst hkey
    obtain rfl | rfl := h <;> exact List.cons_ne_nil _ _
  · obtain rfl | rfl := h
    · rw [resolve, if_neg hkey]
      split <;> exact hkey
    · rwa [resolve, if_neg hkey]

end KeyRange

/-! ### Ranges in requests -/

/-- The range of an operation of a branch, as a server finds it. -/
def Message.branchRange? (m : Message) : Option WireRange :=
  ((m.message? 1).or (m.message? 3)).map (·.range 1 2)

/-- The ranges that a server finds in a request. -/
def Request.ranges (r : Request) : List WireRange :=
  match r with
  | range _ | deleteRange _ => [r.message.range 1 2]
  | txn _ =>
    (r.message.elements 1).map (·.range 3 64) ++
      (r.message.elements 2).filterMap Message.branchRange? ++
      (r.message.elements 3).filterMap Message.branchRange?
  | watchCreate _ => (r.message.message? 1).toList.map (·.range 1 2)
  | roleGrantPermission _ _ _ => (r.message.message? 2).toList.map (·.range 2 3)
  | roleRevokePermission _ _ => [r.message.range 2 3]
  | _ => []

/-- The range that an operation of a branch names, with its key. -/
def TxnOp.range? : TxnOp → Option (KeyRange × Bytes)
  | put _ _ _ => none
  | get key options => some (options.range, key)
  | delete key options => some (options.range, key)

/-- The ranges that an operation names, each with its key. -/
def Operation.ranges : Operation → List (KeyRange × Bytes)
  | kv (.get key options) => [(options.range, key)]
  | kv (.delete key options) => [(options.range, key)]
  | kv (.commit t) =>
    t.compares.map (fun c => (c.range, c.key)) ++ t.success.filterMap TxnOp.range? ++
      t.failure.filterMap TxnOp.range?
  | auth (.roleGrantPermission _ _ key range) => [(range, key)]
  | auth (.roleRevokePermission _ key range) => [(range, key)]
  | _ => []

/-- The pair for a range and a key. -/
def resolved (named : KeyRange × Bytes) : WireRange := named.1.resolve named.2

/-- The message of a get carries its pair in the fields 1 and 2. -/
theorem RangeRequest.message_range (r : RangeRequest) : r.message.range 1 2 = r.range := by
  have hread : (ofMessage r.message).range = r.range := congrArg range r.ofMessage_message
  exact hread

/-- That of a delete in the same fields. -/
theorem DeleteRangeRequest.message_range (r : DeleteRangeRequest) :
    r.message.range 1 2 = r.range := by
  have hread : (ofMessage r.message).range = r.range := congrArg range r.ofMessage_message
  exact hread

/-- That of a guard has its key in the field 3 and the end in a field that was added later, 64. -/
theorem CompareRequest.message_range (c : CompareRequest) : c.message.range 3 64 = c.range := by
  have hread := c.ofMessage?_message
  rw [ofMessage?, Option.map_eq_some_iff] at hread
  obtain ⟨operand, -, hc⟩ := hread
  exact congrArg CompareRequest.range hc

/-- An operation of a branch carries its range one message deeper. -/
theorem TxnOp.branchRange?_message (op : TxnOp) :
    op.request.message.branchRange? = op.range?.map resolved := by
  cases op with
  | put key value options =>
    simp [request, RequestOp.message, Message.branchRange?, Message.message?, range?]
  | get key options =>
    simp [request, RequestOp.message, Message.branchRange?, Message.message?, range?,
      RangeRequest.message_range, GetOptions.request, resolved]
  | delete key options =>
    simp [request, RequestOp.message, Message.branchRange?, Message.message?, range?,
      DeleteRangeRequest.message_range, DeleteOptions.request, resolved]

/-- The ranges of a branch stand in its operations. -/
theorem branchRanges_message (ops : List TxnOp) :
    ((ops.map TxnOp.request).map RequestOp.message).filterMap Message.branchRange? =
      (ops.filterMap TxnOp.range?).map resolved := by
  rw [List.map_map, List.filterMap_map, List.map_filterMap]
  exact congrArg (List.filterMap · ops) (funext TxnOp.branchRange?_message)

/-- The ranges of a transaction are read back from its guards, then from both branches. -/
theorem Txn.ranges_request (t : Txn) :
    (Request.txn t.request).ranges = (Operation.kv (.commit t)).ranges.map resolved := by
  obtain ⟨hcompares, hsuccess, hfailure⟩ := t.request.elements_message
  have hguards : ((t.compares.map Compare.request).map CompareRequest.message).map
      (·.range 3 64) = (t.compares.map fun c => (c.range, c.key)).map resolved := by
    rw [List.map_map, List.map_map, List.map_map]
    exact List.map_congr_left fun c _ => c.request.message_range
  show (t.request.message.elements 1).map (·.range 3 64) ++
    (t.request.message.elements 2).filterMap Message.branchRange? ++
    (t.request.message.elements 3).filterMap Message.branchRange? = _
  rw [hcompares, hsuccess, hfailure, Operation.ranges, List.map_append, List.map_append,
    ← hguards, ← branchRanges_message, ← branchRanges_message]
  rfl

/-- A permission that is granted carries its range one message deeper. -/
theorem Request.ranges_roleGrantPermission (role : String) (type : PermissionType)
    (w : WireRange) : (roleGrantPermission role type w).ranges = [w] := by
  have hperm : (roleGrantPermission role type w).message.message? 2 =
      some (Field.plain 1 "perm_type" (.enum type.number) ++ Field.plain 2 "key" (.bytes w.key) ++
        Field.plain 3 "range_end" (.bytes w.rangeEnd)) := by
    simp [message, Message.message?]
  rw [ranges, hperm]
  exact congrArg ([·]) (Message.range_eq (by simp [Message.Holds]) (by simp [Message.Holds]))

/-- A permission that is revoked carries it in the request itself. -/
theorem Request.ranges_roleRevokePermission (role : String) (w : WireRange) :
    (roleRevokePermission role w).ranges = [w] :=
  congrArg ([·]) (Message.range_eq (by simp [Message.Holds, message])
    (by simp [Message.Holds, message]))

/-- A watch carries it in the request that creates the watch. -/
theorem Request.ranges_watchCreate (r : WatchCreateRequest) :
    (watchCreate r).ranges = [r.range] := by
  have hcreate : (watchCreate r).message.message? 1 = some r.message := by
    simp [message, Message.message?]
  rw [ranges, hcreate]
  exact congrArg ([·]) (Message.range_eq
    (by simp [Message.Holds, WatchCreateRequest.message])
    (by simp [Message.Holds, WatchCreateRequest.message]))

/-- **A request carries the ranges that the caller names.** -/
theorem Operation.ranges_request (op : Operation) :
    op.request.ranges = op.ranges.map resolved := by
  cases op with
  | kv op =>
    cases op with
    | get key options => exact congrArg ([·]) (RangeRequest.message_range _)
    | delete key options => exact congrArg ([·]) (DeleteRangeRequest.message_range _)
    | commit t => exact t.ranges_request
    | put key value options => rfl
    | compact revision physical => rfl
  | lease op => cases op <;> rfl
  | auth op =>
    cases op with
    | roleGrantPermission role type key range => exact Request.ranges_roleGrantPermission _ _ _
    | roleRevokePermission role key range => exact Request.ranges_roleRevokePermission _ _
    | _ => rfl
  | cluster op => cases op <;> rfl
  | maintenance op => cases op <;> rfl

/-- **What is sent for a range selects the keys that the range means.** Keys with a prefix, keys
from one onwards, a single key and keys before a stop are selected as they are meant, for every key
and whatever bytes it ends in; a stop that is empty or the single byte 0 has the meaning of that
range end. For a prefix and for keys from one onwards the key that is sent is not empty. Every
operation whose checks pass sends the pairs for the ranges that it names, and so does the creation
of a watch. -/
theorem ranges_sent_select_keys_meant :
    (∀ key k, (KeyRange.startingWith.resolve key).Selects k ↔ k ≠ [] ∧ key <+: k) ∧
      (∀ key k, (KeyRange.fromKey.resolve key).Selects k ↔ k ≠ [] ∧ key ≤ k) ∧
      (∀ key k, key ≠ [] → ((KeyRange.single.resolve key).Selects k ↔ k = key)) ∧
      (∀ stop key k, stop ≠ [] → stop ≠ endOfKeys →
        (((KeyRange.before stop).resolve key).Selects k ↔ k ≠ [] ∧ key ≤ k ∧ k < stop)) ∧
      (∀ key k, ((KeyRange.before []).resolve key).Selects k ↔ k ≠ [] ∧ k = key) ∧
      (∀ key k, ((KeyRange.before endOfKeys).resolve key).Selects k ↔ k ≠ [] ∧ key ≤ k) ∧
      (∀ key, (KeyRange.startingWith.resolve key).key ≠ [] ∧
        (KeyRange.fromKey.resolve key).key ≠ []) ∧
      (∀ (c : Client) (op : Operation) (server : Sent → Reply), op.check c.capabilities = .ok () →
        (c.call op server).1.flatMap (·.request.ranges) =
          op.ranges.map fun named => named.1.resolve named.2) ∧
      ∀ (key : Bytes) (options : WatchOptions) (timeout : Option Duration) (handler : Behaviour)
        (openFailure : Option Status),
        (Watch.Run.begin (options.request key) timeout handler openFailure).session.requests.flatMap
          Request.ranges = [options.range.resolve key] := by
  -- Each of the four kinds of ranges is taken at its word, the last one unless its stop is a sign
  -- of its own.
  have hmeant (range : KeyRange) (h : range.StopIsKey) (key k : Bytes) :
      (range.resolve key).Selects k ↔ range.Selects key k := range.resolve_selects key k h
  refine ⟨hmeant .startingWith trivial, hmeant .fromKey trivial, fun key k hkey => ?_,
    fun stop key k hstop hstop' => hmeant (.before stop) ⟨hstop, hstop'⟩ key k,
    fun key k => WireRange.selects_nil, fun key k => WireRange.selects_endOfKeys,
    fun key => ⟨KeyRange.resolve_key_ne_nil key (.inl rfl),
      KeyRange.resolve_key_ne_nil key (.inr rfl)⟩,
    fun c op server hcheck => ?_, fun key options timeout handler openFailure => ?_⟩
  · rw [hmeant .single trivial]
    refine ⟨And.right, fun h => ⟨?_, h⟩⟩
    rwa [h]
  -- The one request that is sent is that of the operation.
  · have hsent : (c.call op server).1 = [c.send op.request] := by
      rw [Client.call, Client.run, hcheck]
    rw [hsent, List.flatMap_singleton]
    exact op.ranges_request
  · rw [Watch.Run.begin_requests, List.flatMap_singleton, Request.ranges_watchCreate]
    rfl

/-- Keys before `99` are deleted if the keys with the prefix `97, 255` hold a value, and both pairs
are sent. -/
theorem ranges_sent_select_keys_meant_of_guarded_delete :
    let guarded : Compare := ⟨[97, 255], .startingWith, .equal, .value []⟩
    let t : Txn := ⟨[guarded], [.delete [97] { range := .before [99] }], []⟩
    let op : Operation := .kv (.commit t)
    let c : Client := { capabilities := ⟨some ⟨3, 4, 0, none⟩⟩ }
    let server : Sent → Reply := fun _ => .missing
    op.check c.capabilities = .ok () ∧ (KeyRange.single.resolve [97]).Selects [97] ∧
      ((KeyRange.before [99]).resolve [97]).Selects [98] ∧
        (c.call op server).1.flatMap (·.request.ranges) =
          [⟨[97, 255], [98]⟩, ⟨[97], [99]⟩] := by
  intro guarded t op c server
  obtain ⟨-, -, hsingle, hbefore, -, -, -, hsent, -⟩ := ranges_sent_select_keys_meant
  have hcheck : op.check c.capabilities = .ok () := rfl
  have hone := hsingle [97] [97] (List.cons_ne_nil _ _)
  have hstop := hbefore [99] [97] [98] (by decide) (by decide)
  exact ⟨hcheck, hone.2 rfl, hstop.2 (by decide), hsent c op server hcheck⟩

end EtcdClient

import Mathlib.Data.List.Forall2
import EtcdClient.Proofs.Request.Reading

/-
# Transactions as requests

Two transactions make the same request just if they ask the same of a server: `Txn.Agrees` says
what that is, guard by guard and operation by operation. A key and a range count only through the
pair that they resolve to, so different ranges can ask the same, and nothing else is lost. Since a
server reads back what was written, that holds of the message as well as of the request.

| part | what counts of it |
| --- | --- |
| guard | relation, attribute, operand, pair |
| put | key, value, all options |
| get | pair, all options but the range |
| delete | pair, previous pairs |

Each call that builds a transaction fills one of its three lists, and of the calls only the order
within each list counts (`Txn.ofParts_eq`):

| call | guards | if they hold | if not |
| --- | --- | --- | --- |
| guards | appended | | |
| operations on success | | appended | |
| operations on failure | | | appended |

Source: `SPEC_FULL.md` §10.6 on transactions, and `Compare`, `RequestOp` and `TxnRequest` of
`rpc.proto`.
-/

namespace EtcdClient

/-! ### Guards -/

/-- Two guards ask the same. -/
structure Compare.Agrees (a b : Compare) : Prop where
  relation_eq : a.relation = b.relation
  attribute_eq : a.operand.attribute = b.operand.attribute
  operand_eq : a.operand = b.operand
  range_eq : a.range.resolve a.key = b.range.resolve b.key

/-- Guards with one request ask the same. -/
theorem Compare.request_eq_iff (a b : Compare) : a.request = b.request ↔ a.Agrees b := by
  constructor
  · intro h
    have hoperand : a.operand = b.operand := congrArg CompareRequest.operand h
    exact ⟨congrArg CompareRequest.relation h, congrArg Operand.attribute hoperand, hoperand,
      congrArg CompareRequest.range h⟩
  · rintro ⟨hrelation, -, hoperand, hrange⟩
    rw [request, request, hrelation, hoperand, hrange]

/-- The field in which a guard holds an operand for the attribute. -/
def Attribute.member : Attribute → Nat × String
  | .version => (4, "version")
  | .create => (5, "create_revision")
  | .modification => (6, "mod_revision")
  | .value => (7, "value")

/-- The members of the choice of operands that are set in a guard. -/
def Message.operands (m : Message) : List (Nat × String) :=
  (m.filter fun f => 4 ≤ f.number ∧ f.number ≤ 7).map fun f => (f.number, f.name)

/-- The operands of two stretches of fields are those of the one and then of the other. -/
theorem Message.operands_append (m m' : Message) :
    operands (m ++ m') = m.operands ++ m'.operands := by
  rw [operands, List.filter_append, List.map_append]
  rfl

/-- A field outside the choice holds no operand. -/
theorem Message.operands_plain {n : Nat} (hn : ¬ (4 ≤ n ∧ n ≤ 7)) (name : String) (v : Value) :
    operands (Field.plain n name v) = [] := by
  unfold Field.plain
  split
  · rfl
  · simp [operands, Field.number, hn]

/-- The one operand that is set is named by the attribute that a guard says it compares. -/
theorem Compare.operands_message (c : Compare) :
    c.request.message.enum 2 = c.operand.attribute.number ∧
      c.request.message.operands = [c.operand.attribute.member] := by
  have htarget : c.request.message.enum 2 = c.request.target.number := by
    refine Message.Holds.enum_eq ?_
    rw [CompareRequest.message]
    cases c.request.operand <;> simp [Message.Holds, Operand.message]
  have hoperand : c.operand.message.operands = [c.operand.attribute.member] := by
    cases c.operand <;> rfl
  refine ⟨htarget, ?_⟩
  rw [CompareRequest.message, Message.operands_append, Message.operands_append,
    Message.operands_append, Message.operands_append, Message.operands_plain (by decide),
    Message.operands_plain (by decide), Message.operands_plain (by decide),
    Message.operands_plain (by decide), List.append_nil]
  exact hoperand

/-! ### Operations -/

/-- Two operations of a branch ask the same. -/
inductive TxnOp.Agrees : TxnOp → TxnOp → Prop
  | put (key value : Bytes) (options : PutOptions) :
    Agrees (.put key value options) (.put key value options)
  | get {key key' : Bytes} {options options' : GetOptions}
    (range : options.range.resolve key = options'.range.resolve key')
    (rest : { options with range := .single } = { options' with range := .single }) :
    Agrees (.get key options) (.get key' options')
  | delete {key key' : Bytes} {options options' : DeleteOptions}
    (range : options.range.resolve key = options'.range.resolve key')
    (prevKv : options.prevKv = options'.prevKv) :
    Agrees (.delete key options) (.delete key' options')

/-- Gets with one request agree in their pairs and in all else that is asked for. -/
theorem GetOptions.request_eq_iff (o o' : GetOptions) (key key' : Bytes) :
    o.request key = o'.request key' ↔ o.range.resolve key = o'.range.resolve key' ∧
      { o with range := .single } = { o' with range := .single } := by
  simp only [request, RangeRequest.mk.injEq, GetOptions.mk.injEq, true_and]

/-- Deletes with one request agree in their pairs and in whether they ask for the previous ones. -/
theorem DeleteOptions.request_eq_iff (o o' : DeleteOptions) (key key' : Bytes) :
    o.request key = o'.request key' ↔
      o.range.resolve key = o'.range.resolve key' ∧ o.prevKv = o'.prevKv := by
  simp only [request, DeleteRangeRequest.mk.injEq]

/-- Operations of a branch with one request ask the same, and so are of one kind. -/
theorem TxnOp.request_eq_iff (a b : TxnOp) : a.request = b.request ↔ a.Agrees b := by
  constructor
  · intro h
    -- Operations of different kinds are different requests, and within a kind the fields say it
    -- all.
    cases a with
    | put key value options =>
      cases b with
      | put key' value' options' =>
        obtain ⟨rfl, rfl, rfl⟩ := PutRequest.mk.inj (RequestOp.put.inj h)
        exact .put key value options
      | get _ _ => exact absurd h nofun
      | delete _ _ => exact absurd h nofun
    | get key options =>
      cases b with
      | put _ _ _ => exact absurd h nofun
      | get key' options' =>
        obtain ⟨hrange, hrest⟩ := (GetOptions.request_eq_iff ..).1 (RequestOp.range.inj h)
        exact .get hrange hrest
      | delete _ _ => exact absurd h nofun
    | delete key options =>
      cases b with
      | put _ _ _ => exact absurd h nofun
      | get _ _ => exact absurd h nofun
      | delete key' options' =>
        obtain ⟨hrange, hprevKv⟩ :=
          (DeleteOptions.request_eq_iff ..).1 (RequestOp.deleteRange.inj h)
        exact .delete hrange hprevKv
  · intro h
    cases h with
    | put key value options => rfl
    | get range rest =>
      exact congrArg RequestOp.range ((GetOptions.request_eq_iff ..).2 ⟨range, rest⟩)
    | delete range prevKv =>
      exact congrArg RequestOp.deleteRange ((DeleteOptions.request_eq_iff ..).2 ⟨range, prevKv⟩)

/-! ### Transactions -/

/-- Two transactions ask the same, each thing in the same place. -/
structure Txn.Agrees (t u : Txn) : Prop where
  compares : List.Forall₂ Compare.Agrees t.compares u.compares
  success : List.Forall₂ TxnOp.Agrees t.success u.success
  failure : List.Forall₂ TxnOp.Agrees t.failure u.failure

/-- Lists have the same images just if their elements have, place by place. -/
theorem map_eq_map_iff {α β : Type} {f : α → β} {R : α → α → Prop}
    (h : ∀ a b, f a = f b ↔ R a b) (as bs : List α) :
    as.map f = bs.map f ↔ List.Forall₂ R as bs := by
  have hR : R = fun a b => f a = f b := funext fun a => funext fun b => propext (h a b).symm
  rw [hR, ← List.forall₂_eq_eq_eq, List.forall₂_map_left_iff, List.forall₂_map_right_iff]

/-- **Transactions with one request ask the same.** -/
theorem Txn.request_eq_iff (t u : Txn) : t.request = u.request ↔ t.Agrees u := by
  rw [request, request, TxnRequest.mk.injEq, map_eq_map_iff Compare.request_eq_iff,
    map_eq_map_iff TxnOp.request_eq_iff, map_eq_map_iff TxnOp.request_eq_iff]
  exact ⟨fun h => ⟨h.1, h.2.1, h.2.2⟩, fun h => ⟨h.compares, h.success, h.failure⟩⟩

/-- No two requests are sent as one message. -/
theorem Txn.message_eq_iff (t u : Txn) :
    (Request.txn t.request).message = (Request.txn u.request).message ↔
      t.request = u.request :=
  ⟨fun h => TxnRequest.message_injective h, fun h => congrArg TxnRequest.message h⟩

namespace Txn

/-! ### Calls that build a transaction -/

/-- The guards that a call appends. -/
def Part.compares : Part → List Compare
  | guards compares => compares
  | _ => []

/-- The operations that a call appends to the branch for success. -/
def Part.success : Part → List TxnOp
  | onSuccess ops => ops
  | _ => []

/-- The operations that a call appends to the branch for failure. -/
def Part.failure : Part → List TxnOp
  | onFailure ops => ops
  | _ => []

/-- A call appends to its own list and leaves the other two as they are. -/
theorem extend_eq (t : Txn) (p : Part) :
    t.extend p = ⟨t.compares ++ p.compares, t.success ++ p.success, t.failure ++ p.failure⟩ := by
  cases p <;> simp [extend, Part.compares, Part.success, Part.failure]

/-- By induction over the calls: each list holds what its own calls appended, in order. -/
theorem foldl_extend (t : Txn) (parts : List Part) :
    parts.foldl extend t = ⟨t.compares ++ parts.flatMap Part.compares,
      t.success ++ parts.flatMap Part.success, t.failure ++ parts.flatMap Part.failure⟩ := by
  induction parts generalizing t with
  | nil => simp
  | cons p parts ih =>
    rw [List.foldl_cons, ih, extend_eq]
    simp only [List.flatMap_cons, List.append_assoc]

/-- **Each list of a transaction holds what the calls for it append, in their order.** -/
theorem ofParts_eq (parts : List Part) :
    ofParts parts = ⟨parts.flatMap Part.compares, parts.flatMap Part.success,
      parts.flatMap Part.failure⟩ := by
  rw [ofParts, foldl_extend]
  rfl

/-- **A transaction is sent as it was built.** Two transactions make the same request, and the same
message, just if they agree in every guard and every operation. In the message of each guard exactly
one operand is set, and it belongs to the attribute that the guard names. A request holds the guards
that calls gave in their order, the operations for success, and those for failure, and nothing else.
So calls make the same request if for each of the three lists they append the same on the whole. -/
theorem sent_as_built :
    (∀ t u : Txn, t.request = u.request ↔ t.Agrees u) ∧
      (∀ t u : Txn, (Request.txn t.request).message = (Request.txn u.request).message ↔
        t.Agrees u) ∧
      (∀ t : Txn, ∀ m ∈ (Request.txn t.request).message.elements 1, ∃ a : Attribute,
        m.enum 2 = a.number ∧ m.operands = [a.member]) ∧
      (∀ parts : List Part, (ofParts parts).request =
        ⟨(parts.flatMap Part.compares).map Compare.request,
          (parts.flatMap Part.success).map TxnOp.request,
          (parts.flatMap Part.failure).map TxnOp.request⟩) ∧
      ∀ parts parts' : List Part,
        parts.flatMap Part.compares = parts'.flatMap Part.compares →
        parts.flatMap Part.success = parts'.flatMap Part.success →
        parts.flatMap Part.failure = parts'.flatMap Part.failure →
        (ofParts parts).request = (ofParts parts').request := by
  refine ⟨request_eq_iff, fun t u => (t.message_eq_iff u).trans (t.request_eq_iff u),
    fun t m hm => ?_, fun parts => ?_, fun parts parts' hcompares hsuccess hfailure => ?_⟩
  -- The guards of the message are those of the transaction, so each of them has its own operand.
  · obtain ⟨hcompares, -, -⟩ := t.request.elements_message
    rw [show (Request.txn t.request).message = t.request.message from rfl, hcompares] at hm
    obtain ⟨r, hr, rfl⟩ := List.mem_map.1 hm
    obtain ⟨c, -, rfl⟩ := List.mem_map.1 hr
    exact ⟨c.operand.attribute, c.operands_message⟩
  -- All calls together fill each list with what its own calls give.
  · rw [ofParts_eq, request]
  · rw [ofParts_eq, ofParts_eq, hcompares, hsuccess, hfailure]

/-- Two guards around an operation for success, with one for failure behind them, and both guards in
front, after a call that appends nothing. -/
theorem sent_as_built_of_split_guards :
    let a : Compare := ⟨[97], .single, .equal, .version 0⟩
    let b : Compare := ⟨[98], .single, .greater, .modRevision 3⟩
    let delete : TxnOp := .delete [99] {}
    let put : TxnOp := .put [100] [1] {}
    let parts : List Part := [.guards [a], .onSuccess [delete], .guards [b], .onFailure [put]]
    let parts' : List Part :=
      [.onFailure [], .guards [a, b], .onFailure [put], .onSuccess [delete]]
    parts.flatMap Part.compares = parts'.flatMap Part.compares ∧
      parts.flatMap Part.success = parts'.flatMap Part.success ∧
      parts.flatMap Part.failure = parts'.flatMap Part.failure ∧
      (ofParts parts).request = (ofParts parts').request ∧
      (ofParts parts).request =
        ⟨[⟨.equal, .version, ⟨[97], []⟩, .version 0⟩,
            ⟨.greater, .modification, ⟨[98], []⟩, .modRevision 3⟩],
          [.deleteRange { range := ⟨[99], []⟩, prevKv := false }],
          [.put (({} : PutOptions).request [100] [1])]⟩ := by
  intro a b delete put parts parts'
  have hcompares : parts.flatMap Part.compares = parts'.flatMap Part.compares := rfl
  have hsuccess : parts.flatMap Part.success = parts'.flatMap Part.success := rfl
  have hfailure : parts.flatMap Part.failure = parts'.flatMap Part.failure := rfl
  obtain ⟨-, -, -, hfilled, hsame⟩ := sent_as_built
  exact ⟨hcompares, hsuccess, hfailure, hsame parts parts' hcompares hsuccess hfailure,
    hfilled parts⟩

/-- All keys are the keys from the empty one onwards and the keys with an empty prefix. -/
example : ({ success := [.delete [] { range := .fromKey }] } : Txn).request =
    ({ success := [.delete [] { range := .startingWith }] } : Txn).request := by decide

end Txn
end EtcdClient

import Mathlib.Data.List.Basic
import EtcdClient.Proofs.Watch.Start

/-
# The requests of a watch session

A watch session sends its creation, then at most one request to cancel it, and then its sending side
ends. `Run.closings` is the record of everything that closes the session along a script, each with
whether the server still read at the time:

| what closes | when |
| --- | --- |
| close, close from elsewhere, drop | the caller has the session in hand |
| the handler | it is told something, would close, and the session is handed out |

Closing twice changes nothing, whoever does it (`halfClose_halfClose`), so all of them together are
one `halfClose` in a step (`act_session_of_closes`). `Account` is what the record says of the
session after every script. The first close sends the cancel request if it is heard (`close_first`),
a later one is recorded and changes nothing (`close_again`), and settling sends nothing (`settle`).

Source: `SPEC_FULL.md` §4.2 on `close`, `half_close`, and §6 on options.
-/

namespace EtcdClient

/-! ### What the creation says -/

namespace WatchOptions

/-- Filters are taken in one at a time, each unless it is there already. -/
theorem distinct_concat (fs : List WatchFilter) (f : WatchFilter) :
    distinct (fs ++ [f]) = if f ∈ distinct fs then distinct fs else distinct fs ++ [f] := by
  unfold distinct
  rw [List.foldl_append]
  rfl

/-- No filter is lost and none is added. -/
theorem mem_distinct {fs : List WatchFilter} {f : WatchFilter} : f ∈ distinct fs ↔ f ∈ fs := by
  induction fs using List.reverseRec with
  | nil => rfl
  | append_singleton fs g ih =>
    rw [distinct_concat, List.mem_append, List.mem_singleton, ← ih]
    split
    · next hg =>
      refine ⟨Or.inl, fun h => h.elim id ?_⟩
      rintro rfl
      exact hg
    · rw [List.mem_append, List.mem_singleton]

/-- Filters stand in the order of their first occurrence, and so each of them once. -/
theorem distinct_pairwise (fs : List WatchFilter) :
    (distinct fs).Pairwise fun f g => fs.idxOf f < fs.idxOf g := by
  induction fs using List.reverseRec with
  | nil => exact .nil
  | append_singleton fs g ih =>
    have hearlier {f : WatchFilter} (hf : f ∈ distinct fs) :
        (fs ++ [g]).idxOf f = fs.idxOf f := List.idxOf_append_of_mem (mem_distinct.1 hf)
    have hold : (distinct fs).Pairwise fun f h => (fs ++ [g]).idxOf f < (fs ++ [g]).idxOf h := by
      refine ih.imp_of_mem fun hf hh hlt => ?_
      rwa [hearlier hf, hearlier hh]
    rw [distinct_concat]
    split
    · exact hold
    · next hg =>
      rw [mem_distinct] at hg
      refine List.pairwise_append.2 ⟨hold, List.pairwise_singleton _ _, fun f hf h hh => ?_⟩
      rw [List.mem_singleton.1 hh, hearlier hf, List.idxOf_append_of_notMem hg]
      have hlt := List.idxOf_lt_length_of_mem (mem_distinct.1 hf)
      omega

end WatchOptions

/-- What the creation of a watch says of its key and options. -/
structure WatchCreateRequest.Describes (c : WatchCreateRequest) (key : Bytes)
    (o : WatchOptions) : Prop where
  range_eq : c.range = o.range.resolve key
  startRevision_eq : c.startRevision = o.startRevision
  progressNotify_eq : c.progressNotify = o.progressNotify
  prevKv_eq : c.prevKv = o.prevKv
  mem_filters_iff : ∀ f, f ∈ c.filters ↔ f ∈ o.filters
  /-- In the order of their first occurrence. -/
  filters_pairwise : c.filters.Pairwise fun f g => o.filters.idxOf f < o.filters.idxOf g

/-- The request says what the options say, field by field, for every set of options. -/
theorem WatchOptions.request_describes (o : WatchOptions) (key : Bytes) :
    (o.request key).Describes key o :=
  ⟨rfl, rfl, rfl, rfl, fun _ => mem_distinct, distinct_pairwise o.filters⟩

/-- The number that a start handed out. -/
def Start.id? : Start → Option Int64
  | .ready id => some id
  | _ => none

/-- A handler that would close the session. -/
def Behaviour.closes : Behaviour → Bool
  | .close => true
  | _ => false

namespace Watch

/-! ### Closing -/

namespace Session

variable {s : Session}

/-- The sending side of a closed session has ended already. -/
theorem halfClose_of_closed (h : s.closed = true) : s.halfClose = s := by
  rw [halfClose, if_pos h]

/-- To end the sending side is to close the session. -/
@[simp] theorem halfClose_closed (s : Session) : s.halfClose.closed = true := by
  cases h : s.closed with
  | true => rw [halfClose_of_closed h, h]
  | false => rw [halfClose, if_neg (by simp [h])]

/-- Closing twice is closing once: there is one cancel request, whoever else closes. -/
@[simp] theorem halfClose_halfClose (s : Session) : s.halfClose.halfClose = s.halfClose :=
  halfClose_of_closed s.halfClose_closed

/-- Closing an open session sends the cancel request, if the number is known and the server reads,
and ends the sending side. -/
theorem halfClose_of_open (h : s.closed = false) (hsending : s.sending = true) :
    s.halfClose = { s with
      requests := s.requests ++
        if s.listening then (s.watchId.map Request.watchCancel).toList else []
      closed := true
      sending := false } := by
  rw [halfClose, if_neg (by simp [h]), sendCancel]
  cases hid : s.watchId with
  | none => simp [hid]
  | some id => cases hl : s.listening <;> simp [send, hsending, hl, hid]

end Session

namespace Run

/-- The handler closes the session if it is told something. -/
def closesWhenTold (r : Run) : Bool := r.handedOut && r.handler.closes

/-- A step closes the session, or would if it were open. -/
def closes (r : Run) : Step → Bool
  | .close => r.handedOut
  | .closeElsewhere => r.handedOut
  | .drop => r.handedOut
  | .arrive items => r.receiving && r.closesWhenTold && !items.isEmpty
  | _ => false

/-- A watch is closed by nobody before it was handed out: neither its caller nor its handler has
it. -/
theorem handedOut_of_closes {r : Run} {s : Step} (h : r.closes s = true) :
    r.handedOut = true := by
  cases s with
  | arrive items =>
    simp only [closes, closesWhenTold, Bool.and_eq_true] at h
    exact h.1.2.1
  | close => exact h
  | closeElsewhere => exact h
  | drop => exact h
  | _ => exact absurd h Bool.false_ne_true

/-- A close does to the session what the end of its sending side does; the rest is the grace. -/
theorem close_session (r : Run) : r.close.session = r.session.halfClose := by
  unfold close
  split
  · next h => exact (Session.halfClose_of_closed h).symm
  · rfl

/-- A close from elsewhere does the same to the session and differs in the grace alone. -/
theorem closeElsewhere_session (r : Run) : r.closeElsewhere.session = r.session.halfClose := by
  unfold closeElsewhere
  split
  · next h => exact (Session.halfClose_of_closed h).symm
  · rfl

/-- A handler that closes when it is told something ends the sending side, and another one leaves
the session as it is. -/
theorem tell_session (r : Run) (listener : Listener) (c : Callback WatchResponse) :
    (r.tell listener c).session =
      if r.closesWhenTold then r.session.halfClose else r.session := by
  unfold tell closesWhenTold
  dsimp only
  split
  · next hclose =>
    rw [hclose, Behaviour.closes, Bool.and_true]
    split
    · exact close_session _
    · rfl
  · next hclose =>
    rw [if_neg]
    cases hb : r.handler with
    | close => exact absurd hb hclose
    | _ => simp [Behaviour.closes]

/-- A receiving task closes the session with the first thing that it tells, or not at all. -/
theorem receive_session (r : Run) (a : Arrival WatchResponse) :
    (r.receive a).session =
      if r.receiving && r.closesWhenTold then r.session.halfClose else r.session := by
  cases hr : r.receiving with
  | false => rw [receive_of_stopped hr, Bool.false_and, if_neg Bool.false_ne_true]
  | true =>
    unfold receive
    rw [if_pos hr, Bool.true_and]
    cases a with
    | response w =>
      dsimp only
      split <;> exact tell_session _ _ _
    | failure s => exact tell_session _ _ _
    | finish => exact tell_session _ _ _

/-- Whether the handler closes depends on the handler and on whether the session is handed out, and
no call changes either. -/
theorem tell_closesWhenTold (r : Run) (listener : Listener) (c : Callback WatchResponse) :
    (r.tell listener c).closesWhenTold = r.closesWhenTold := by
  obtain ⟨log, h | h⟩ := r.tell_cases listener c
  · rw [h]
    rfl
  · rw [h]
    unfold close
    split <;> rfl

/-- Neither does an arrival as a whole. -/
theorem receive_closesWhenTold (r : Run) (a : Arrival WatchResponse) :
    (r.receive a).closesWhenTold = r.closesWhenTold := by
  unfold receive
  split
  · cases a with
    | response w =>
      dsimp only
      split <;> exact tell_closesWhenTold _ _ _
    | failure s => exact tell_closesWhenTold _ _ _
    | finish => exact tell_closesWhenTold _ _ _
  · rfl

/-- Of all the items of one step the session sees at most one end of its sending side, however many
calls close it. -/
theorem receiveAll_session (r : Run) (items : List (Arrival WatchResponse)) :
    (items.foldl receive r).session =
      if r.receiving && r.closesWhenTold && !items.isEmpty then r.session.halfClose
      else r.session := by
  induction items generalizing r with
  | nil => simp
  | cons a items ih =>
    rw [List.foldl_cons, ih, receive_closesWhenTold, receive_session, receive_receiving]
    cases r.receiving with
    | false => simp
    | true => cases r.closesWhenTold <;> simp

/-- However often a step closes the session, it is one close. -/
theorem act_session_of_closes {r : Run} {s : Step} (h : r.closes s = true) :
    (r.act s).session = r.session.halfClose := by
  have hinHand := handedOut_of_closes h
  cases s with
  | arrive items => exact (r.receiveAll_session items).trans (if_pos h)
  | close => rw [act, if_pos hinHand, close_session]
  | closeElsewhere => rw [act, if_pos hinHand, closeElsewhere_session]
  | drop =>
    rw [act, if_pos hinHand]
    rfl
  | _ => exact absurd h Bool.false_ne_true

/-- A step that does not close the session leaves it alone, but the server may stop reading. -/
theorem act_session_of_not_closes {r : Run} {s : Step} (h : r.closes s = false) :
    (r.act s).session = r.session ∨
      (r.act s).session = { r.session with listening := false } := by
  have hnot : ¬ r.closes s = true := by simp [h]
  cases s with
  | arrive items => exact .inl ((r.receiveAll_session items).trans (if_neg hnot))
  | close => exact .inl (congrArg session (if_neg hnot))
  | closeElsewhere => exact .inl (congrArg session (if_neg hnot))
  | drop => exact .inl (congrArg session (if_neg hnot))
  | hangUp => exact .inr rfl
  | _ => exact .inl rfl

/-! ### The record of closings -/

/-- Something that closes a session, and whether the server still reads. -/
structure Closing where
  heard : Bool

/-- What closes the session in a step. -/
def closing (r : Run) (s : Step) : List Closing :=
  if r.closes s then [⟨r.session.listening⟩] else []

/-- Everything that closes the session along a script, in order. -/
def closings (r : Run) (script : List Step) : List Closing := observe step closing r script

/-- The cancel request of a session that was handed out and whose closing was heard. -/
def cancels (start : Start) (closings : List Closing) : List Request :=
  match start with
  | .ready id => if closings.any Closing.heard then [.watchCancel id] else []
  | _ => []

/-- What the record of closings says of a session. -/
structure Account (create : WatchCreateRequest) (closings : List Closing) (r : Run) : Prop where
  requests_eq : r.session.requests = .watchCreate create :: cancels r.start closings
  sending_eq : r.session.sending = !r.session.closed
  closed_iff : r.session.closed = true ↔ (∃ e, r.start = .failed e) ∨ closings ≠ []
  watchId_eq : r.session.watchId = r.start.id?
  /-- A server that reads now has read all the time. -/
  heard_of_listening : r.session.listening = true → ∀ c ∈ closings, c.heard = true
  ready_of_closing : closings ≠ [] → ∃ id, r.start = .ready id

namespace Account

variable {create : WatchCreateRequest} {cs : List Closing} {r : Run}

variable {r' : Run} {id : Int64}

/-- A session that was handed out is closed if and only if something has closed it. -/
theorem closed_iff_ne_nil (h : r.Account create cs) (hid : r.start = .ready id) :
    r.session.closed = true ↔ cs ≠ [] := by
  rw [h.closed_iff, hid]
  simp

/-- The first close sends the cancel request if it is heard. -/
theorem close_first (h : r.Account create cs) (hid : r.start = .ready id)
    (hopen : r.session.closed = false) (hsession : r'.session = r.session.halfClose)
    (hstart : r'.start = .ready id) : r'.Account create (cs ++ [⟨r.session.listening⟩]) := by
  -- An open session has not been closed before, so there is no request to cancel yet.
  have hnil : cs = [] := by
    refine Classical.byContradiction fun hne => ?_
    have hclosed := (h.closed_iff_ne_nil hid).2 hne
    exact absurd (hclosed.symm.trans hopen) (by decide)
  subst hnil
  have hsending : r.session.sending = true := by rw [h.sending_eq, hopen]; rfl
  have hwatchId : r.session.watchId = some id := by rw [h.watchId_eq, hid]; rfl
  rw [Session.halfClose_of_open hopen hsending, hwatchId, h.requests_eq, hid] at hsession
  refine ⟨?_, ?_, ?_, ?_, ?_, fun _ => ⟨id, hstart⟩⟩
  · rw [hsession, hstart]
    cases r.session.listening <;> rfl
  · rw [hsession]
    rfl
  · rw [hsession]
    exact ⟨fun _ => .inr (List.cons_ne_nil _ _), fun _ => rfl⟩
  · rw [hsession, hstart]
    rfl
  -- What the server heard of this one close is whether it still reads.
  · intro hl c hmem
    rw [hsession] at hl
    rw [List.nil_append, List.mem_singleton] at hmem
    rw [hmem]
    exact hl

/-- A later one is recorded and changes nothing. -/
theorem close_again (h : r.Account create cs) (hid : r.start = .ready id)
    (hclosed : r.session.closed = true) (hsession : r'.session = r.session.halfClose)
    (hstart : r'.start = .ready id) : r'.Account create (cs ++ [⟨r.session.listening⟩]) := by
  rw [Session.halfClose_of_closed hclosed] at hsession
  -- If this one is heard, then so was the first, and the cancel request is there already.
  have hany : (cs ++ [(⟨r.session.listening⟩ : Closing)]).any Closing.heard =
      cs.any Closing.heard := by
    rw [List.any_append]
    cases hl : r.session.listening with
    | false => simp
    | true =>
      obtain ⟨c, hmem⟩ := List.exists_mem_of_ne_nil cs ((h.closed_iff_ne_nil hid).1 hclosed)
      have hheard : cs.any Closing.heard = true :=
        List.any_eq_true.2 ⟨c, hmem, h.heard_of_listening hl c hmem⟩
      rw [hheard, Bool.true_or]
  refine ⟨?_, ?_, ?_, ?_, ?_, fun _ => ⟨id, hstart⟩⟩
  · rw [hsession, h.requests_eq, hstart, hid, cancels, cancels, hany]
  · rw [hsession, h.sending_eq]
  · rw [hsession, hclosed]
    exact ⟨fun _ => .inr (by simp), fun _ => rfl⟩
  · rw [hsession, h.watchId_eq, hstart, hid]
  · intro hl c hmem
    rw [hsession] at hl
    rcases List.mem_append.1 hmem with hmem | hmem
    · exact h.heard_of_listening hl c hmem
    · rw [List.mem_singleton.1 hmem, hl]

/-- A step that closes the session. -/
theorem act_of_closes (h : r.Account create cs) {s : Step} (hs : r.closes s = true) :
    (r.act s).Account create (cs ++ [⟨r.session.listening⟩]) := by
  obtain ⟨id, hid⟩ : ∃ id, r.start = .ready id := by
    have hready := (Bool.and_eq_true_iff.1 (handedOut_of_closes hs)).2
    cases hstart : r.start with
    | ready id => exact ⟨id, rfl⟩
    | _ =>
      rw [hstart] at hready
      exact absurd hready Bool.false_ne_true
  have hstart : (r.act s).start = .ready id := (r.act_start s).trans hid
  have hsession := act_session_of_closes hs
  cases hc : r.session.closed with
  | false => exact h.close_first hid hc hsession hstart
  | true => exact h.close_again hid hc hsession hstart

/-- A step that does not. -/
theorem act_of_not_closes (h : r.Account create cs) {s : Step} (hs : r.closes s = false) :
    (r.act s).Account create cs := by
  have hstart := r.act_start s
  rcases act_session_of_not_closes hs with hsession | hsession
  · exact ⟨by rw [hsession, hstart, h.requests_eq], by rw [hsession, h.sending_eq],
      by rw [hsession, hstart, h.closed_iff], by rw [hsession, hstart, h.watchId_eq],
      by rw [hsession]; exact h.heard_of_listening, by rw [hstart]; exact h.ready_of_closing⟩
  · exact ⟨by rw [hsession, hstart, ← h.requests_eq], by rw [hsession, ← h.sending_eq],
      by rw [hsession, hstart, ← h.closed_iff], by rw [hsession, hstart, ← h.watchId_eq],
      by rw [hsession]; exact fun hl => absurd hl Bool.false_ne_true,
      by rw [hstart]; exact h.ready_of_closing⟩

/-- One act keeps the account: what it closes goes on the record, and what closes nothing leaves the
requests alone. -/
theorem act (h : r.Account create cs) (s : Step) :
    (r.act s).Account create (cs ++ r.closing s) := by
  unfold closing
  cases hs : r.closes s with
  | true => exact h.act_of_closes hs
  | false =>
    rw [if_neg Bool.false_ne_true, List.append_nil]
    exact h.act_of_not_closes hs

/-- A session whose start is not decided has sent its creation and nothing else. -/
theorem session_of_waiting (h : r.Account create cs) (hwaiting : r.start = .waiting) :
    cs = [] ∧ r.session =
      { requests := [.watchCreate create], listening := r.session.listening } := by
  have hnil : cs = [] := by
    refine Classical.byContradiction fun hne => ?_
    obtain ⟨id, hid⟩ := h.ready_of_closing hne
    exact absurd (hwaiting.symm.trans hid) (by simp)
  have hopen : r.session.closed = false := by
    refine Bool.eq_false_iff.2 fun hc => ?_
    have hwhy := h.closed_iff.1 hc
    simp [hwaiting, hnil] at hwhy
  have hsending : r.session.sending = true := by rw [h.sending_eq, hopen]; rfl
  have hnone : r.session.watchId = none := by rw [h.watchId_eq, hwaiting]; rfl
  have hrequests : r.session.requests = [.watchCreate create] := by
    rw [h.requests_eq, hwaiting]
    rfl
  refine ⟨hnil, ?_⟩
  rw [← hrequests, ← hopen, ← hsending, ← hnone]

/-- **Settling sends nothing.** A start that fails ends the sending side, and a number that nobody
was told is not canceled. -/
theorem settle (h : r.Account create cs) : r.settle.Account create cs := by
  have hlift (hd : r.decideStart.Account create cs) : r.settle.Account create cs :=
    ⟨hd.requests_eq, hd.sending_eq, hd.closed_iff, hd.watchId_eq, hd.heard_of_listening,
      hd.ready_of_closing⟩
  refine hlift ?_
  -- Only a start that waits is decided, and then nothing has closed the session.
  cases hstart : r.start with
  | ready id => rwa [decideStart, hstart]
  | failed e => rwa [decideStart, hstart]
  | waiting =>
    obtain ⟨rfl, hsession⟩ := h.session_of_waiting hstart
    rcases r.decideStart_cases with hr | ⟨id, hr⟩ | ⟨e, hr⟩
    · rwa [hr]
    -- The session becomes ready under its number, and nothing is sent over that.
    · rw [hr, hsession]
      refine ⟨rfl, rfl, ?_, rfl, fun _ c hc => absurd hc List.not_mem_nil,
        fun hne => absurd rfl hne⟩
      simp
    -- The start fails, and the sending side ends without a request to cancel: no number is known.
    · have hgiven : (r.giveUp e).session =
          { requests := [.watchCreate create], listening := r.session.listening,
            closed := true, sending := false } := by
        show r.session.halfClose = _
        rw [hsession]
        rfl
      rw [hr]
      refine ⟨?_, ?_, ?_, ?_, fun _ c hc => absurd hc List.not_mem_nil, fun hne => absurd rfl hne⟩
      · rw [hgiven]
        rfl
      · rw [hgiven]
        rfl
      · rw [hgiven]
        exact ⟨fun _ => .inl ⟨e, rfl⟩, fun _ => rfl⟩
      · rw [hgiven]
        rfl

/-- **One step keeps the account.** -/
theorem step (h : r.Account create cs) (s : Step) :
    (r.step s).Account create (cs ++ r.closing s) :=
  (h.act s).settle

/-- By induction over the script. -/
theorem steps (h : r.Account create cs) (script : List Step) :
    (r.steps script).Account create (cs ++ r.closings script) := by
  induction script generalizing r cs with
  | nil => exact (List.append_nil cs).symm ▸ h
  | cons s script ih =>
    have hrest := ih (h.step s)
    rwa [List.append_assoc] at hrest

/-- The account holds at the beginning: the creation is sent, and nothing has closed. -/
theorem fresh (create : WatchCreateRequest) (timeout : Option Duration) (handler : Behaviour) :
    (begin create timeout handler none).Account create [] := by
  refine settle ⟨rfl, rfl, ?_, rfl, fun _ c hc => absurd hc List.not_mem_nil,
    fun hne => absurd rfl hne⟩
  simp [Session.send]

end Account

/-- The account of closings holds from the start on, also if the stream could not be opened. -/
theorem account_begin (create : WatchCreateRequest) (timeout : Option Duration)
    (handler : Behaviour) (openFailure : Option Status) :
    (begin create timeout handler openFailure).Account create [] := by
  cases openFailure with
  | none => exact .fresh create timeout handler
  | some s =>
    refine ⟨rfl, rfl, ⟨fun _ => .inl ⟨.grpc s, rfl⟩, fun _ => rfl⟩, rfl, fun _ c hc => ?_,
      fun hne => absurd rfl hne⟩
    exact absurd hc List.not_mem_nil

/-- The creation is the first request, also where the stream could not be opened. -/
theorem begin_requests (create : WatchCreateRequest) (timeout : Option Duration)
    (handler : Behaviour) (openFailure : Option Status) :
    (begin create timeout handler openFailure).session.requests = [.watchCreate create] := by
  have haccount := account_begin create timeout handler openFailure
  have hnone : cancels (begin create timeout handler openFailure).start [] = [] := by
    unfold cancels
    split <;> rfl
  rw [haccount.requests_eq, hnone]

/-- Nothing that happens to a closed session opens it or sends anything. -/
theorem step_of_closed {r : Run} (h : r.session.closed = true) (s : Step) :
    (r.step s).session.closed = true ∧ (r.step s).session.requests = r.session.requests := by
  -- The act ends the sending side again at most, which has ended.
  have hact : (r.act s).session.closed = true ∧
      (r.act s).session.requests = r.session.requests := by
    cases hs : r.closes s with
    | true =>
      rw [act_session_of_closes hs, Session.halfClose_of_closed h]
      exact ⟨h, rfl⟩
    | false => rcases act_session_of_not_closes hs with hr | hr <;> rw [hr] <;> exact ⟨h, rfl⟩
  rw [← hact.2]
  show (r.act s).decideStart.session.closed = true ∧
    (r.act s).decideStart.session.requests = (r.act s).session.requests
  rcases (r.act s).decideStart_cases with hr | ⟨id, hr⟩ | ⟨e, hr⟩
  · rw [hr]
    exact ⟨hact.1, rfl⟩
  · rw [hr]
    exact ⟨hact.1, rfl⟩
  -- A start that fails now ends it once more.
  · have hsession : ((r.act s).giveUp e).session = (r.act s).session :=
      Session.halfClose_of_closed hact.1
    rw [hr, hsession]
    exact ⟨hact.1, rfl⟩

/-- A closed session stays closed and sends nothing more. -/
theorem steps_of_closed {r : Run} (h : r.session.closed = true) (script : List Step) :
    (r.steps script).session.closed = true ∧
      (r.steps script).session.requests = r.session.requests := by
  induction script generalizing r with
  | nil => exact ⟨h, rfl⟩
  | cons s script ih =>
    obtain ⟨hclosed, hrequests⟩ := step_of_closed h s
    obtain ⟨hlast, hsame⟩ := ih hclosed
    exact ⟨hlast, hsame.trans hrequests⟩

/-- A session is handed out under the number of the first response flagged created. -/
theorem find?_created_of_ready {create : WatchCreateRequest} {timeout : Option Duration}
    {handler : Behaviour} {openFailure : Option Status} {script : List Step} {id : Int64}
    (h : ((begin create timeout handler openFailure).steps script).start = .ready id) :
    ∃ w, (arrivals script).find? Arrival.isCreated = some (.response w) ∧ w.watchId = id := by
  have hsettled := steps_settled create timeout handler openFailure script
  have hstart := hsettled.start_eq fun _ hp => hp.start_eq
  rw [h] at hstart
  -- Only a first cause that is a response makes a start ready, so the cause is the response looked
  -- for.
  cases hc : (causes Arrival.answers timeout openFailure (script.map Step.sight)).head? with
  | none =>
    rw [hc] at hstart
    exact absurd hstart (by simp)
  | some c =>
    rw [hc] at hstart
    cases c with
    | arrival a =>
      cases a with
      | response w =>
        have hfirst := find?_of_head?_causes hc
        have hw : w.created = true := List.find?_some (p := Arrival.answers) hfirst
        rw [items_of_sights] at hfirst
        exact ⟨w, find?_of_imp Arrival.answers_of_isCreated hfirst hw,
          (Start.ready.inj hstart).symm⟩
      | failure s => exact absurd hstart (by simp [verdict])
      | finish => exact absurd hstart (by simp [verdict])
    | refused s => exact absurd hstart (by simp [verdict])
    | timeout t => exact absurd hstart (by simp [verdict])

/-- **The requests follow the closings.** A session whose stream opens sends its creation, which
says what the key and the options say, and one request to cancel the watch if it was handed out and
then closed, in whatever way and however often, while the server still read. The cancel request
carries the number of the first response flagged created, which is the number of the session for
good. The sending side ends exactly when the start fails or the session is first closed, and nothing
is sent after that. -/
theorem requests_of_closings (key : Bytes) (options : WatchOptions) (timeout : Option Duration)
    (handler : Behaviour) (script : List Step) :
    let create := options.request key
    let start := begin create timeout handler none
    let r := start.steps script
    let closings := start.closings script
    create.Describes key options ∧
      r.session.requests = .watchCreate create :: cancels r.start closings ∧
      (∀ id, r.start = .ready id →
        (∃ w, (arrivals script).find? Arrival.isCreated = some (.response w) ∧ w.watchId = id) ∧
          ∀ later, (r.steps later).start = .ready id ∧
            (r.steps later).session.watchId = some id) ∧
      (r.session.sending = false ↔ (∃ e, r.start = .failed e) ∨ closings ≠ []) ∧
      r.sendEnded = (r.session.listening && !r.session.sending) ∧
      (r.session.sending = false → ∀ later, (r.steps later).session.sending = false ∧
        (r.steps later).session.requests = r.session.requests) := by
  intro create start r closings
  have haccount : r.Account create closings := (Account.fresh create timeout handler).steps script
  have hsending : r.session.sending = false ↔ r.session.closed = true := by
    rw [haccount.sending_eq, Bool.not_eq_false']
  refine ⟨options.request_describes key, haccount.requests_eq, fun id hid => ⟨?_, fun later => ?_⟩,
    hsending.trans haccount.closed_iff, ?_, fun hended later => ?_⟩
  · exact find?_created_of_ready hid
  -- A start that was decided stays so, and the number of the session is that of its start.
  · have hlater : (r.steps later).start = .ready id := by
      rw [← hid]
      exact start_foldl_of_decided step_start_of_decided (by simp [hid]) later
    refine ⟨hlater, ?_⟩
    rw [(haccount.steps later).watchId_eq, hlater]
    rfl
  · rw [sendEnded, haccount.sending_eq, Bool.not_not]
  · obtain ⟨hclosed, hrequests⟩ := steps_of_closed (hsending.1 hended) later
    refine ⟨?_, hrequests⟩
    rw [(haccount.steps later).sending_eq, hclosed]
    rfl

/-- Two closes and a drop make one cancel request. -/
example : ((begin (({} : WatchOptions).request [97]) none .record none).steps
    [.arrive [.response { watchId := 42, created := true }], .closeElsewhere, .close,
      .drop]).session.requests =
    [.watchCreate (({} : WatchOptions).request [97]), .watchCancel 42] := rfl

end Run
end Watch
end EtcdClient

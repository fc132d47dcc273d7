import EtcdClient.Session.Basic

/-
# What a stream carries

A stream carries responses until it fails or ends, and nothing comes after that. `Arrival.stream`
cuts what a server might say to what its stream carries, and `Arrival.callback` is what a handler is
told of each of it.

Source: the receive loop of `SPEC_FULL.md` §10.3.
-/

namespace EtcdClient

variable {ρ : Type}

/-- A call after which a handler is told nothing more. -/
def Callback.isFinal : Callback ρ → Bool
  | .response _ => false
  | _ => true

namespace Arrival

/-- A failure or the end of the stream. -/
def isLast : Arrival ρ → Bool
  | .response _ => false
  | _ => true

/-- What a handler is told of what arrives: the response, the status of the failure, the end. -/
def callback : Arrival ρ → Callback ρ
  | .response r => .response r
  | .failure s => .error (.grpc s)
  | .finish => .completed

/-- A handler is told that it is the last call just of what ends a stream. -/
@[simp] theorem isFinal_callback (a : Arrival ρ) : a.callback.isFinal = a.isLast := by
  cases a <;> rfl

/-- What a stream carries of all that a server says. -/
def stream : List (Arrival ρ) → List (Arrival ρ)
  | [] => []
  | a :: as => if a.isLast then [a] else a :: stream as

/-- What ends the stream is the last that counts. -/
theorem stream_cons_of_last {a : Arrival ρ} (h : a.isLast = true) (as : List (Arrival ρ)) :
    stream (a :: as) = [a] := by
  rw [stream, if_pos h]

/-- What does not end it leaves the rest to come. -/
theorem stream_cons_of_not_last {a : Arrival ρ} (h : a.isLast = false) (as : List (Arrival ρ)) :
    stream (a :: as) = a :: stream as := by
  rw [stream, if_neg (by simp [h])]

/-- A stream that is not ended counts as a whole. -/
theorem stream_of_no_last {as : List (Arrival ρ)} (h : as.any isLast = false) :
    stream as = as := by
  induction as with
  | nil => rfl
  | cons a as ih =>
    rw [List.any_cons, Bool.or_eq_false_iff] at h
    rw [stream_cons_of_not_last h.1, ih h.2]

/-- A stream that has ended carries nothing of what is said later. -/
theorem stream_append_of_last {as : List (Arrival ρ)} (h : as.any isLast = true)
    (bs : List (Arrival ρ)) : stream (as ++ bs) = stream as := by
  induction as with
  | nil => exact absurd h Bool.false_ne_true
  | cons a as ih =>
    rw [List.cons_append]
    cases ha : a.isLast with
    | true => rw [stream_cons_of_last ha, stream_cons_of_last ha]
    | false =>
      rw [List.any_cons, ha, Bool.false_or] at h
      rw [stream_cons_of_not_last ha, stream_cons_of_not_last ha, ih h]

/-- Of two stretches the second one counts if the first one has not ended the stream. -/
theorem stream_append_of_no_last {as : List (Arrival ρ)} (h : as.any isLast = false)
    (bs : List (Arrival ρ)) : stream (as ++ bs) = as ++ stream bs := by
  induction as with
  | nil => rfl
  | cons a as ih =>
    rw [List.any_cons, Bool.or_eq_false_iff] at h
    rw [List.cons_append, stream_cons_of_not_last h.1, ih h.2, List.cons_append]

/-- What is said later takes nothing back. -/
theorem stream_prefix (as bs : List (Arrival ρ)) : stream as <+: stream (as ++ bs) := by
  cases h : as.any isLast with
  | true => exact ⟨[], by rw [List.append_nil, stream_append_of_last h]⟩
  | false =>
    rw [stream_append_of_no_last h, stream_of_no_last h]
    exact List.prefix_append _ _

/-- In a stream nothing follows a failure or the end. -/
theorem eq_nil_of_stream_eq {as before after : List (Arrival ρ)} {a : Arrival ρ}
    (h : stream as = before ++ a :: after) (ha : a.isLast = true) : after = [] := by
  induction as generalizing before with
  | nil => simp [stream] at h
  | cons b as ih =>
    cases hb : b.isLast with
    | true =>
      rw [stream_cons_of_last hb] at h
      cases before with
      | nil => exact (List.cons.inj h).2.symm
      | cons c before => simp at h
    | false =>
      rw [stream_cons_of_not_last hb] at h
      cases before with
      | nil =>
        have hab : b = a := (List.cons.inj h).1
        rw [hab, ha] at hb
        exact absurd hb (by decide)
      | cons c before => exact ih (List.cons.inj h).2

/-- What a handler is told of the first part of a stream has at most one final call, the last. -/
theorem eq_nil_of_callbacks_eq {as told : List (Arrival ρ)} (h : told <+: stream as)
    {before after : List (Callback ρ)} {c : Callback ρ}
    (hc : told.map callback = before ++ c :: after) (hfinal : c.isFinal = true) : after = [] := by
  obtain ⟨rest, hrest⟩ := h
  obtain ⟨first, second, rfl, rfl, hsecond⟩ := List.map_eq_append_iff.1 hc
  obtain ⟨a, last, rfl, rfl, rfl⟩ := List.map_eq_cons_iff.1 hsecond
  rw [isFinal_callback] at hfinal
  rw [List.append_assoc, List.cons_append] at hrest
  have hnil := eq_nil_of_stream_eq hrest.symm hfinal
  rw [(List.append_eq_nil_iff.1 hnil).1]
  rfl

end Arrival
end EtcdClient

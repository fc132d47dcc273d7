import EtcdClient.Session.Basic

/-
# Handlers that panic now and then

What a handler is set to says what it does at all its calls. A handler may also panic at some of
them and not at others, and the values that it panics with may differ. `Lapses` says when and with
what, as far as panics are caught, and `Throws` says in addition what becomes of the values. A
session logs a value that it caught and drops it, but it does so where nothing is caught any more:

| the value | what comes of it |
| --- | --- |
| is dropped quietly | its words are logged |
| panics when it is dropped | its words are logged, and the receiving task ends at once |

Source: `isolate`, which catches a panic, logs its text and lets go of the value that was thrown.
-/

namespace EtcdClient

/-- At which of its calls, counted from zero, a handler panics instead of doing what it is set to,
and what with. -/
def Lapses := Nat → Option Payload

namespace Lapses

/-- A handler that always does what it is set to. -/
def never : Lapses := fun _ => none

/-- What a handler that is set to `b` does at its call number `n`. -/
def behaviour (l : Lapses) (n : Nat) (b : Behaviour) : Behaviour :=
  match l n with
  | some p => .panic p
  | none => b

/-- A lapse is a panic, and no panic closes a session. -/
theorem behaviour_ne_close (l : Lapses) {b : Behaviour} (h : b ≠ .close) (n : Nat) :
    l.behaviour n b ≠ .close := by
  unfold behaviour
  split
  · exact nofun
  · exact h

end Lapses

/-- A value that a handler panics with. Once its words are logged it is dropped, which may panic as
well; that second panic is not caught. -/
structure Thrown where
  payload : Payload
  panicsOnDrop : Bool := false

/-- At which of its calls a handler panics instead of doing what it is set to, and with what value.
-/
def Throws := Nat → Option Thrown

namespace Throws

/-- A handler that never panics but as it is set to. -/
def never : Throws := fun _ => none

/-- The panics as far as they are caught. -/
def lapses (t : Throws) : Lapses := fun n => (t n).map (·.payload)

/-- The panic of the call number `n` is followed by one that is not caught. -/
def breaksOut (t : Throws) (n : Nat) : Bool := (t n).any (·.panicsOnDrop)

/-- All values are dropped quietly. -/
def Quiet (t : Throws) : Prop := ∀ n, t.breaksOut n = false

/-- What is never thrown is dropped quietly. -/
theorem quiet_never : Quiet never := fun _ => rfl

end Throws

end EtcdClient

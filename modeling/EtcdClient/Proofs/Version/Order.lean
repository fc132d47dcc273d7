import EtcdClient.Version.Basic

/-
# The order of versions

Versions are compared by their numbers, then by their pre-releases, and each part of that is a
comparison that can be turned round and composed: identifiers, lists of them, pre-releases and
versions are instances of `Std.TransCmp`. So `Version.atMost` is reflexive, transitive and total.
Versions that differ can stand equal in it, which is all that keeps it from being an order.

Source: `SPEC_FULL.md` §10.7: versions are totally ordered.
-/

namespace EtcdClient
namespace Version

/-! ### Identifiers and pre-releases -/

instance : Std.OrientedCmp Identifier.compare where
  eq_swap {a b} := by
    cases a <;> cases b
    · exact Std.OrientedOrd.eq_swap
    · rfl
    · rfl
    · exact Std.OrientedOrd.eq_swap

/-- Numbers stand before words, so a chain that goes back to a number consists of numbers. -/
instance : Std.TransCmp Identifier.compare where
  isLE_trans {a b c} hab hbc := by
    cases a <;> cases b <;> cases c
    · exact Std.TransOrd.isLE_trans hab hbc
    · rfl
    · exact absurd hbc Bool.false_ne_true
    · rfl
    · exact absurd hab Bool.false_ne_true
    · exact absurd hab Bool.false_ne_true
    · exact absurd hbc Bool.false_ne_true
    · exact Std.TransOrd.isLE_trans hab hbc

instance : Std.TransOrd Identifier := inferInstanceAs (Std.TransCmp Identifier.compare)

instance : Std.OrientedCmp comparePreRelease where
  eq_swap {p q} := by
    cases p <;> cases q
    · rfl
    · rfl
    · rfl
    · exact Std.OrientedOrd.eq_swap

/-- No pre-release stands after all of them, so a chain that starts there ends there. -/
instance : Std.TransCmp comparePreRelease where
  isLE_trans {p q r} hpq hqr := by
    cases p <;> cases q <;> cases r
    · rfl
    · exact absurd hqr Bool.false_ne_true
    · exact absurd hpq Bool.false_ne_true
    · exact absurd hpq Bool.false_ne_true
    · rfl
    · exact absurd hqr Bool.false_ne_true
    · rfl
    · exact Std.TransOrd.isLE_trans hpq hqr

/-! ### Versions -/

/-- The comparison of versions goes through their parts in order. -/
theorem compare_eq_compareLex :
    Version.compare = compareLex (compareOn major) (compareLex (compareOn minor)
      (compareLex (compareOn patch) fun v w => comparePreRelease v.preRelease w.preRelease)) := rfl

instance : Std.TransCmp fun v w : Version => comparePreRelease v.preRelease w.preRelease where
  eq_swap := (inferInstance : Std.OrientedCmp comparePreRelease).eq_swap
  isLE_trans := (inferInstance : Std.TransCmp comparePreRelease).isLE_trans

instance : Std.TransCmp Version.compare :=
  compare_eq_compareLex ▸ inferInstance

instance : Std.TransOrd Version := inferInstanceAs (Std.TransCmp Version.compare)

/-- A version is at most itself. -/
theorem atMost_refl (v : Version) : v.atMost v = true := Std.ReflCmp.isLE_rfl

/-- What is at most a version is at most every later one, so a feature is never lost by an
upgrade. -/
theorem atMost_trans {u v w : Version} (huv : u.atMost v = true) (hvw : v.atMost w = true) :
    u.atMost w = true :=
  Std.TransOrd.isLE_trans huv hvw

/-- Of two versions one is at most the other. -/
theorem atMost_total (v w : Version) : v.atMost w = true ∨ w.atMost v = true := by
  have hswap : compare w v = (compare v w).swap := Std.OrientedOrd.eq_swap
  rw [atMost, atMost, hswap]
  cases compare v w <;> decide

/-- One version stands before another just if the other does not stand at or before it. -/
theorem isLT_compare (v w : Version) : (compare v w).isLT = !w.atMost v := by
  have hswap : compare w v = (compare v w).swap := Std.OrientedOrd.eq_swap
  rw [atMost, hswap]
  cases compare v w <;> rfl

end Version
end EtcdClient

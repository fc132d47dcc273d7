import EtcdClient.Error

/-
# Steps in a row

Steps are taken one after the other up to the first that fails. A row of checks passes if all of
them pass (`forM_eq_ok_iff`), and otherwise has the error of the first that does not
(`forM_eq_error_iff`).
-/

namespace EtcdClient

/-- Two steps give a value if both do, the second one from the value of the first. -/
theorem bind_eq_ok_iff {α β : Type} {x : Result α} {f : α → Result β} {b : β} :
    (x >>= f) = .ok b ↔ ∃ a, x = .ok a ∧ f a = .ok b := by
  cases x with
  | error e => exact iff_of_false nofun fun ⟨_, h, _⟩ => absurd h nofun
  | ok a => exact ⟨fun h => ⟨a, rfl, h⟩, fun ⟨_, h, hf⟩ => Except.ok.inj h ▸ hf⟩

/-- A check passes if it has no error. -/
theorem eq_ok_iff_forall_ne {x : Result Unit} : x = .ok () ↔ ∀ e, x ≠ .error e := by
  cases x with
  | error e => exact iff_of_false nofun fun h => h e rfl
  | ok u => exact iff_of_true rfl nofun

/-- Whether a step gives a value can be seen without the value. -/
theorem map_unit_eq_ok_iff {α : Type} {x : Result α} :
    x.map (fun _ => ()) = .ok () ↔ ∃ a, x = .ok a := by
  cases x with
  | error e => exact iff_of_false nofun nofun
  | ok a => exact iff_of_true rfl ⟨a, rfl⟩

/-- An error stays the error it is when the result is dropped. -/
theorem map_unit_eq_error_iff {α : Type} {x : Result α} {e : ClientError} :
    x.map (fun _ => ()) = .error e ↔ x = .error e := by
  cases x with
  | error e' =>
    exact ⟨fun h => Except.error.inj h ▸ rfl, fun h => Except.error.inj h ▸ rfl⟩
  | ok a => exact iff_of_false nofun nofun

/-- Two checks in a row pass just if both do. -/
theorem andThen_eq_ok_iff {a b : Result Unit} :
    (a >>= fun _ => b) = .ok () ↔ a = .ok () ∧ b = .ok () := by
  cases a with
  | error e => exact ⟨nofun, fun h => absurd h.1 nofun⟩
  | ok u => exact ⟨fun h => ⟨rfl, h⟩, And.right⟩

/-- What gives no result gives an error. -/
theorem exists_eq_error_iff {α : Type} (x : Result α) :
    (∃ e, x = .error e) ↔ ¬ ∃ a, x = .ok a := by
  cases x with
  | error e => exact iff_of_true ⟨e, rfl⟩ nofun
  | ok a => exact iff_of_false nofun fun h => h ⟨a, rfl⟩

/-- A row of checks passes just if each of them does. -/
theorem forM_eq_ok_iff {α : Type} {check : α → Result Unit} {as : List α} :
    as.forM check = .ok () ↔ ∀ a ∈ as, check a = .ok () := by
  induction as with
  | nil => exact ⟨fun _ a ha => absurd ha List.not_mem_nil, fun _ => rfl⟩
  | cons a as ih =>
    rw [List.forall_mem_cons, ← ih, ← andThen_eq_ok_iff]
    rfl

/-- The first check that fails is reported. -/
theorem forM_eq_error_iff {α : Type} {check : α → Result Unit} {as : List α} {e : ClientError} :
    as.forM check = .error e ↔ ∃ before a after, as = before ++ a :: after ∧
      (∀ b ∈ before, check b = .ok ()) ∧ check a = .error e := by
  constructor
  · intro h
    induction as with
    | nil => exact absurd h nofun
    | cons a as ih =>
      have hrow : (check a >>= fun _ => as.forM check) = .error e := h
      cases ha : check a with
      | error e' =>
        rw [ha] at hrow
        exact ⟨[], a, as, rfl, fun b hb => absurd hb List.not_mem_nil, ha.trans hrow⟩
      | ok u =>
        rw [ha] at hrow
        obtain ⟨before, b, after, rfl, hbefore, hb⟩ := ih hrow
        exact ⟨a :: before, b, after, rfl, List.forall_mem_cons.2 ⟨ha, hbefore⟩, hb⟩
  · rintro ⟨before, a, after, rfl, hbefore, ha⟩
    induction before with
    | nil =>
      show (check a >>= fun _ => after.forM check) = .error e
      rw [ha]
      rfl
    | cons b before ih =>
      obtain ⟨hb, hrest⟩ := List.forall_mem_cons.1 hbefore
      show (check b >>= fun _ => (before ++ a :: after).forM check) = .error e
      rw [hb]
      exact ih hrest

end EtcdClient

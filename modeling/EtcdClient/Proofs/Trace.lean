/-
# What is seen along a run

A run folds a step over what happens. What is seen of it is a list: `observe` asks at each step,
in the state in which the step finds the run, and puts the answers in order. These rules serve the
sessions:

| rule | statement |
| --- | --- |
| `observe_append` | what is seen of two parts is seen one after the other |
| `foldl_eq_append_observe` | what each step appends for its sights is appended for all of them |
| `observe_takeWhile` | if a failure ends it all, what precedes the first one is all that is none |
| `foldl_insert` | a step that does what a map does, and the others respect, does it to the result |
| `foldl_rel_filter` | a run is related to one that leaves out steps that do not matter |
| `foldl_eq_or_rel` | two runs are one until a step of theirs differs, and related from then on |
-/

namespace EtcdClient

variable {σ α β γ : Type}

/-- What is seen of the steps that `as` causes from the state `s` on. -/
def observe (step : σ → α → σ) (see : σ → α → List β) : σ → List α → List β
  | _, [] => []
  | s, a :: as => see s a ++ observe step see (step s a) as

/-- What is seen along two stretches is what is seen along the first, then along the second from
where the first has led. -/
theorem observe_append (step : σ → α → σ) (see : σ → α → List β) (s : σ) (as bs : List α) :
    observe step see s (as ++ bs) =
      observe step see s as ++ observe step see (as.foldl step s) bs := by
  induction as generalizing s with
  | nil => rfl
  | cons a as ih =>
    rw [List.cons_append, observe, observe, ih, List.append_assoc]
    rfl

/-- A record to which each step appends what `f` makes of its sights has in the end what `f` makes
of all of them. `inv` is what the steps may rely on. -/
theorem foldl_eq_append_observe {step : σ → α → σ} {see : σ → α → List β} (out : σ → List γ)
    {f : List β → List γ} (inv : σ → Prop) (hinv : ∀ s a, inv s → inv (step s a))
    (hnil : f [] = []) (happend : ∀ xs ys, f (xs ++ ys) = f xs ++ f ys)
    (hstep : ∀ s a, inv s → out (step s a) = out s ++ f (see s a)) {s : σ} (hs : inv s)
    (as : List α) : out (as.foldl step s) = out s ++ f (observe step see s as) := by
  induction as generalizing s with
  | nil => rw [observe, hnil, List.append_nil, List.foldl_nil]
  | cons a as ih =>
    rw [List.foldl_cons, ih (hinv s a hs), hstep s a hs, observe, happend, List.append_assoc]

/-- A run in which nothing more is to be seen stays so. -/
theorem observe_of_stopped {step : σ → α → σ} {see : σ → α → List β} (stopped : σ → Prop)
    (hsee : ∀ s a, stopped s → see s a = []) (hstep : ∀ s a, stopped s → stopped (step s a))
    {s : σ} (h : stopped s) (as : List α) :
    observe step see s as = [] ∧ stopped (as.foldl step s) := by
  induction as generalizing s with
  | nil => exact ⟨rfl, h⟩
  | cons a as ih =>
    obtain ⟨hnil, hend⟩ := ih (hstep s a h)
    exact ⟨by rw [observe, hsee s a h, hnil]; rfl, hend⟩

/-- **One failure ends it.** If a step in which something seen fails `p` stops the run, then what
is seen up to the first failure is all that does not fail. -/
theorem observe_takeWhile {step : σ → α → σ} {see : σ → α → List β} (stopped : σ → Prop)
    {p : β → Bool} (hsee : ∀ s a, stopped s → see s a = [])
    (hstep : ∀ s a, stopped s → stopped (step s a))
    (hfirst : ∀ s a, (see s a).takeWhile p = (see s a).filter p)
    (hfail : ∀ s a, ∀ b ∈ see s a, p b = false → stopped (step s a)) (s : σ) (as : List α) :
    (observe step see s as).takeWhile p = (observe step see s as).filter p ∧
      ∀ b ∈ observe step see s as, p b = false → stopped (as.foldl step s) := by
  -- Along the run: before the first failure all that is seen is kept, and after it nothing is seen.
  induction as generalizing s with
  | nil => exact ⟨rfl, fun b hb => absurd hb List.not_mem_nil⟩
  | cons a as ih =>
    obtain ⟨ihwhile, ihfail⟩ := ih (step s a)
    by_cases hall : ∀ b ∈ see s a, p b = true
    · refine ⟨?_, fun b hb hp => ?_⟩
      · rw [observe, List.takeWhile_append_of_pos hall, ihwhile, List.filter_append,
          List.filter_eq_self.2 hall]
      · rw [observe, List.mem_append] at hb
        rcases hb with hb | hb
        · rw [hall b hb] at hp
          exact absurd hp (by decide)
        · exact ihfail b hb hp
    · have hex : ∃ b ∈ see s a, p b = false := by simpa using hall
      obtain ⟨b, hb, hp⟩ := hex
      obtain ⟨hnil, hend⟩ := observe_of_stopped stopped hsee hstep (hfail s a b hb hp) as
      exact ⟨by rw [observe, hnil, List.append_nil, hfirst], fun _ _ _ => hend⟩

/-- A step that does what `f` does, where all other steps respect `f`, does `f` to the end of the
run. -/
theorem foldl_insert {step : σ → α → σ} {f : σ → σ} (hf : ∀ s a, step (f s) a = f (step s a))
    {s : σ} {before : List α} {a : α}
    (ha : step (before.foldl step s) a = f (before.foldl step s)) (after : List α) :
    (before ++ a :: after).foldl step s = f ((before ++ after).foldl step s) := by
  rw [List.foldl_append, List.foldl_cons, ha, List.foldl_hom f hf, List.foldl_append]

/-- A run is related to one that leaves out steps, if these keep the relation by themselves. -/
theorem foldl_rel_filter {τ : Type} {step : σ → α → σ} {step' : τ → α → τ} {R : σ → τ → Prop}
    (p : α → Bool) {as : List α}
    (hkeep : ∀ a ∈ as, p a = true → ∀ s t, R s t → R (step s a) (step' t a))
    (hskip : ∀ a ∈ as, p a = false → ∀ s t, R s t → R (step s a) t) {s : σ} {t : τ} (h : R s t) :
    R (as.foldl step s) ((as.filter p).foldl step' t) := by
  rw [List.foldl_filter]
  refine List.foldl_rel h fun a ha s t hst => ?_
  cases hp : p a with
  | true => exact hkeep a ha hp s t hst
  | false => exact hskip a ha hp s t hst

/-- Two runs from one state are one until a step of theirs differs. If that makes them related, and
steps keep the relation, they are related from then on. -/
theorem foldl_eq_or_rel {step step' : σ → α → σ} {R : σ → σ → Prop}
    (hdiffer : ∀ s a, step s a = step' s a ∨ R (step s a) (step' s a))
    (hkeep : ∀ s t a, R s t → R (step s a) (step' t a)) (s : σ) (as : List α) :
    as.foldl step s = as.foldl step' s ∨ R (as.foldl step s) (as.foldl step' s) := by
  -- Along the run, up to the first step in which the two differ.
  induction as generalizing s with
  | nil => exact .inl rfl
  | cons a as ih =>
    rw [List.foldl_cons, List.foldl_cons]
    rcases hdiffer s a with heq | hrel
    · rw [heq]
      exact ih (step' s a)
    · exact .inr (List.foldl_rel hrel fun a _ s t hst => hkeep s t a hst)

end EtcdClient

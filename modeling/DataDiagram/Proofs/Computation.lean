import Mathlib.Data.List.Forall2
/-!
# Runs of computations that can fail

A computation that changes a state, also when it fails, is run part by part.
-/

namespace DataDiagram

open List

variable {ε σ α β : Type} {a : α} {f : α → ExceptT ε (StateM σ) β} {m n : σ}

theorem eq_ok_of_toOption_eq_some {x : Except ε α} (h : x.toOption = some a) : x = .ok a := by
  cases x with
  | error e => exact nomatch h
  | ok b => exact congrArg Except.ok (Option.some.inj h)

variable {x : ExceptT ε (StateM σ) α} {e : ε}

theorem run_bind_ok (h : x.run m = (.ok a, n)) : (x >>= f).run m = (f a).run n := by
  rw [ExceptT.run_bind]
  simp [Bind.bind, StateT.bind, h]

theorem run_bind_error (h : x.run m = (.error e, n)) : (x >>= f).run m = (.error e, n) := by
  rw [ExceptT.run_bind]
  simp [Bind.bind, StateT.bind, h]
  rfl

theorem exists_of_run_bind_eq_ok {k : σ} {b : β} (h : (x >>= f).run m = (.ok b, k)) :
    ∃ a n, x.run m = (.ok a, n) ∧ (f a).run n = (.ok b, k) := by
  rcases hx : x.run m with ⟨e | a, n⟩
  · rw [run_bind_error hx] at h
    cases h
  · exact ⟨a, n, rfl, run_bind_ok hx ▸ h⟩

/-! ## What results satisfy -/

/-- Whatever a computation ends with satisfies `P`, if it does not fail. -/
def Ensures (x : ExceptT ε (StateM σ) α) (P : α → Prop) : Prop :=
  ∀ m a n, x.run m = (.ok a, n) → P a

namespace Ensures

variable {x : ExceptT ε (StateM σ) α} {P : α → Prop} {Q : β → Prop}

theorem pure (h : P a) : Ensures (Pure.pure a : ExceptT ε (StateM σ) α) P := by
  intro m b n hrun
  cases hrun
  exact h

theorem throw {e : ε} : Ensures (throw e : ExceptT ε (StateM σ) α) P :=
  fun _ _ _ hrun => nomatch hrun

variable {f : α → ExceptT ε (StateM σ) β}

theorem throw_bind {e : ε} : Ensures (MonadExcept.throw e >>= f) Q :=
  fun _ _ _ hrun => nomatch hrun

theorem ite {c : Prop} [Decidable c] {y : ExceptT ε (StateM σ) α} (hx : c → Ensures x P)
    (hy : ¬c → Ensures y P) : Ensures (if c then x else y) P := by
  split
  · exact hx ‹_›
  · exact hy ‹_›

theorem lift {x : Except ε α} (h : ∀ a, x = .ok a → P a) :
    Ensures (liftM x : ExceptT ε (StateM σ) α) P := by
  intro m a n hrun
  cases hrun
  exact h a rfl

theorem bind (hx : Ensures x P) (hf : ∀ a, P a → Ensures (f a) Q) : Ensures (x >>= f) Q := by
  intro m b n hrun
  obtain ⟨a, k, ha, hb⟩ := exists_of_run_bind_eq_ok hrun
  exact hf a (hx m a k ha) k b n hb

theorem trivial (x : ExceptT ε (StateM σ) α) : Ensures x fun _ => True := fun _ _ _ _ => True.intro

end Ensures

/-! ## What failures satisfy -/

/-- Whatever a computation fails with satisfies `P`, if it fails. -/
def Fails (x : ExceptT ε (StateM σ) α) (P : ε → Prop) : Prop :=
  ∀ m e n, x.run m = (.error e, n) → P e

namespace Fails

variable {x : ExceptT ε (StateM σ) α} {P : ε → Prop} {Q : α → Prop}

theorem pure : Fails (Pure.pure a : ExceptT ε (StateM σ) α) P := fun _ _ _ hrun => nomatch hrun

theorem throw {e : ε} (h : P e) : Fails (throw e : ExceptT ε (StateM σ) α) P := by
  intro m d n hrun
  cases hrun
  exact h

variable {f : α → ExceptT ε (StateM σ) β}

theorem throw_bind {e : ε} (h : P e) : Fails (MonadExcept.throw e >>= f) P := by
  intro m d n hrun
  cases hrun
  exact h

theorem ite {c : Prop} [Decidable c] {y : ExceptT ε (StateM σ) α} (hx : c → Fails x P)
    (hy : ¬c → Fails y P) : Fails (if c then x else y) P := by
  split
  · exact hx ‹_›
  · exact hy ‹_›

theorem lift {x : Except ε α} (h : ∀ e, x = .error e → P e) :
    Fails (liftM x : ExceptT ε (StateM σ) α) P := by
  intro m e n hrun
  cases hrun
  exact h e rfl

/-- What changes the state first and cannot fail is followed by what fails. -/
theorem lift_bind {x : StateM σ α} (h : ∀ m a n, x.run m = (a, n) → Fails (f a) P) :
    Fails ((liftM x : ExceptT ε (StateM σ) α) >>= f) P := by
  intro m e n hrun
  exact h m _ _ rfl _ e n hrun

theorem set_bind {s : σ} {f : PUnit → ExceptT ε (StateM σ) β} (h : ∀ u, Fails (f u) P) :
    Fails (set s >>= f) P := fun _ e n hrun => h _ s e n hrun

theorem get_bind {f : σ → ExceptT ε (StateM σ) β} (h : ∀ s, Fails (f s) P) :
    Fails (get >>= f) P := fun m e n hrun => h m m e n hrun

/-- A computation in two parts fails as its first part, or as the second with what the first ends
with. -/
theorem bind_of (hx : Fails x P) (hQ : Ensures x Q)
    (hf : ∀ a, Q a → Fails (f a) P) : Fails (x >>= f) P := by
  intro m e n hrun
  rcases hresult : x.run m with ⟨d | a, k⟩
  · rw [run_bind_error hresult] at hrun
    cases hrun
    exact hx m _ _ hresult
  · rw [run_bind_ok hresult] at hrun
    exact hf a (hQ m a k hresult) k e n hrun

theorem bind (hx : Fails x P) (hf : ∀ a, Fails (f a) P) :
    Fails (x >>= f) P := hx.bind_of (.trivial x) fun a _ => hf a

end Fails

/-! ## Computations without a state -/

/-- A computation that neither looks at the state nor changes it. -/
def Stateless (x : ExceptT ε (StateM σ) α) : Prop := ∃ r, ∀ m, x.run m = (r, m)

namespace Stateless

variable {x : ExceptT ε (StateM σ) α}

theorem pure (a : α) : Stateless (Pure.pure a : ExceptT ε (StateM σ) α) := ⟨.ok a, fun _ => rfl⟩

theorem throw (e : ε) : Stateless (throw e : ExceptT ε (StateM σ) α) := ⟨.error e, fun _ => rfl⟩

theorem state_eq (hx : Stateless x) {m n : σ} {r : Except ε α} (h : x.run m = (r, n)) : n = m := by
  obtain ⟨r', hr⟩ := hx
  rw [hr] at h
  exact (Prod.mk.inj h).2.symm

end Stateless

end DataDiagram

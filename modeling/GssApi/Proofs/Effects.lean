import GssApi.Crypto.Random
import Mathlib.Tactic.Core

/-! Running computations that can fail or draw random bytes.

A computation that can fail succeeds only when each of its steps does; `Except.bind_eq_ok`
says so for one step, and a proof about an operation peels its steps off one at a time with
it. A `Rand` computation is run on a random source and answers with its result and the
source after the draws. The lemmas here say what running each building block answers, so
that a proof never unfolds the transformer stack. -/
namespace Except

variable {ε ε' α β : Type}

@[simp] theorem ok_bind (a : α) (f : α → Except ε β) : (Except.ok a >>= f) = f a := rfl

@[simp] theorem error_bind (e : ε) (f : α → Except ε β) : (Except.error e >>= f) = .error e := rfl

theorem bind_eq_ok {x : Except ε α} {f : α → Except ε β} {b : β} :
    x >>= f = .ok b ↔ ∃ a, x = .ok a ∧ f a = .ok b := by
  cases x <;> simp [bind, Except.bind]

theorem map_eq_ok {x : Except ε α} {f : α → β} {b : β} :
    f <$> x = .ok b ↔ ∃ a, x = .ok a ∧ f a = b := by
  cases x <;> simp [Functor.map, Except.map]

@[simp] theorem mapError_eq_ok {x : Except ε α} {f : ε → ε'} {a : α} :
    x.mapError f = .ok a ↔ x = .ok a := by
  cases x <;> simp [Except.mapError]

end Except

namespace GssApi

namespace Rand

variable {ε ε' α β : Type} (r : RandomSource)

@[simp] theorem run_ofExcept (x : Except ε α) : (Rand.ofExcept x).run.run r = (x, r) := rfl

@[simp] theorem run_pure (a : α) : (pure a : Rand ε α).run.run r = (.ok a, r) := rfl

@[simp] theorem run_throw (e : ε) : (throw e : Rand ε α).run.run r = (.error e, r) := rfl

/-- A failed step ends the computation with the source as the step left it. -/
theorem run_bind (x : Rand ε α) (f : α → Rand ε β) :
    (x >>= f).run.run r = match x.run.run r with
      | (.ok a, r') => (f a).run.run r'
      | (.error e, r') => (.error e, r') := by
  simp only [ExceptT.run_bind, StateT.run_bind]
  rcases x.run.run r with ⟨_ | _, _⟩ <;> rfl

/-- A computation succeeds only when its first step succeeds and the rest succeeds from the
source that step left. -/
theorem bind_eq_ok {x : Rand ε α} {f : α → Rand ε β} {r : RandomSource} {b : β}
    (ran : ((x >>= f).run.run r).1 = .ok b) :
    ∃ a r', x.run.run r = (.ok a, r') ∧ ((f a).run.run r').1 = .ok b := by
  rw [run_bind] at ran
  rcases stepped : x.run.run r with ⟨_ | a, r'⟩ <;> rw [stepped] at ran
  · cases ran
  · exact ⟨a, r', rfl, ran⟩

/-- A computation that starts by lifting a result succeeds only from a successful one. -/
theorem ofExcept_bind_eq_ok {x : Except ε α} {f : α → Rand ε β} {r : RandomSource} {b : β}
    (ran : ((Rand.ofExcept x >>= f).run.run r).1 = .ok b) :
    ∃ a, x = .ok a ∧ ((f a).run.run r).1 = .ok b := by
  obtain ⟨a, r', lifted, ran⟩ := bind_eq_ok ran
  obtain ⟨rfl, rfl⟩ := Prod.mk.inj lifted
  exact ⟨a, rfl, ran⟩

@[simp] theorem run_mapError (f : ε → ε') (x : Rand ε α) :
    (Rand.mapError f x).run.run r = ((x.run.run r).1.mapError f, (x.run.run r).2) := rfl

end Rand

@[simp] theorem RandomSource.failing_spend (r : RandomSource) : r.spend.failing = r.failing := by
  cases left : r.failAfter <;> simp [RandomSource.spend, RandomSource.failing, left]

@[simp] theorem length_take_random (n : Nat) (r : RandomSource) : (r.take n).1.length = n := by
  induction n generalizing r with
  | zero => rfl
  | succ n ih => simp [RandomSource.take, ih]

/-- Taking bytes leaves the count of draws before failure alone; `drawBytes` spends it. -/
@[simp] theorem failAfter_take_random (n : Nat) (r : RandomSource) :
    (r.take n).2.failAfter = r.failAfter := by
  induction n generalizing r with
  | zero => rfl
  | succ n ih =>
    have stepped : r.next.2.failAfter = r.failAfter := by
      rcases r with ⟨_ | ⟨b, rest⟩, state, failAfter⟩ <;> rfl
    simp [RandomSource.take, ih, stepped]

@[simp] theorem failing_take_random (n : Nat) (r : RandomSource) :
    (r.take n).2.failing = r.failing := by
  simp [RandomSource.failing]

/-- A source whose draws have run out refuses without consuming anything; any other hands out
its next bytes and has one draw fewer left. -/
theorem drawBytes_run (n : Nat) (r : RandomSource) :
    (drawBytes n).run.run r = if r.failAfter = some 0 then (.error (.rng "injected failure"), r)
      else (.ok (r.take n).1, (r.take n).2.spend) := by
  rcases r with ⟨queue, state, _ | _ | left⟩ <;> rfl

/-- A source that never fails hands out its next bytes, and still never fails after them. -/
theorem drawBytes_run_of_steady {r : RandomSource} (steady : r.failing = false) (n : Nat) :
    (drawBytes n).run.run r = (.ok (r.take n).1, (r.take n).2.spend) := by
  have never : r.failAfter = none := by simpa [RandomSource.failing] using steady
  simp [drawBytes_run, never]

/-- A computation that starts with a draw succeeds only when the source grants the draw, and
then as the rest does on the drawn bytes, from the source the draw left. -/
theorem drawBytes_bind_eq_ok {ε α : Type} {f : CryptoError → ε} {k : Bytes → Rand ε α} {n : Nat}
    {r : RandomSource} {a : α} (ran : (((drawBytes n).mapError f >>= k).run.run r).1 = .ok a) :
    r.failAfter ≠ some 0 ∧ ((k (r.take n).1).run.run (r.take n).2.spend).1 = .ok a := by
  obtain ⟨bs, r', drawn, ran⟩ := Rand.bind_eq_ok ran
  rw [Rand.run_mapError, drawBytes_run] at drawn
  by_cases refused : r.failAfter = some 0
  · simp only [refused, if_true, Except.mapError] at drawn
    cases drawn
  · simp only [refused, if_false, Except.mapError] at drawn
    cases drawn
    exact ⟨refused, ran⟩

end GssApi

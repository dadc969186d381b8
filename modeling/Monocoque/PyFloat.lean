import Mathlib.Algebra.Order.Field.Rat
/-!
# PyFloat — float division and the exception it raises

Python floats are exact rationals here.  A float division `a / b` raises `ZeroDivisionError` exactly when
`b` is zero (`pyDiv`), and a Python exception is the `error` side of `Except`.  Code that runs several
divisions in sequence is a chain of binds; `bind_eq_ok` takes such a chain apart, for any error type, so no
later proof unfolds `Except.bind`.

Binary64 rounding, underflow and the `OverflowError` of an oversized `int` are not modelled, so a result
about when a division raises is stated in the direction that rounding keeps: a divisor that is exactly
zero here is `0.0` in the code too (a zero point estimate divided by `1e6`, then by `1000`), and there the
same unguarded division raises.  That a nonzero divisor lets the code return is not claimed: a tiny one
underflows to `0.0`.
-/
namespace Monocoque
namespace Py

/-- The exceptions the modelled code can raise on well-typed input. -/
inductive PyException
  | zeroDivisionError (msg : String)
  deriving DecidableEq, Repr

/-- Python's float division `a / b`. -/
def pyDiv (a b : ℚ) : Except PyException ℚ :=
  if b = 0 then .error (.zeroDivisionError "float division by zero") else .ok (a / b)

@[simp] theorem pyDiv_eq_ok {a b q : ℚ} : pyDiv a b = .ok q ↔ b ≠ 0 ∧ q = a / b := by
  unfold pyDiv; split <;> simp_all [eq_comm]

@[simp] theorem bind_eq_ok {ε α β : Type} {x : Except ε α} {f : α → Except ε β} {b : β} :
    x >>= f = .ok b ↔ ∃ a, x = .ok a ∧ f a = .ok b := by
  cases x <;> simp [bind, Except.bind]

@[simp] theorem map_eq_ok {ε α β : Type} {x : Except ε α} {f : α → β} {b : β} :
    f <$> x = .ok b ↔ ∃ a, x = .ok a ∧ f a = b := by
  cases x <;> simp [Functor.map, Except.map]

@[simp] theorem pure_eq_ok {ε α : Type} {a b : α} : (pure a : Except ε α) = .ok b ↔ a = b := by
  simp [pure, Except.pure]

end Py
end Monocoque

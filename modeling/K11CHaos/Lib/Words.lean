import Mathlib.Algebra.Group.Nat.Defs
import Mathlib.Tactic.Common

/-!
# Watched arithmetic

Sums, products, differences and casts of unsigned machine words that end the computation when the
value does not fit its width. A program written with them that equals one over natural numbers never
wraps. `none` is a value that did not fit, `some e` an error of the program.
-/

namespace K11CHaos.Words

/-- Results of a program whose arithmetic is watched. -/
abbrev Watched (ε α : Type) := Except (Option ε) α

section
variable {ε α β : Type} {w a b : Nat}

/-- A value of `w` bits. -/
def narrow (w a : Nat) : Watched ε Nat :=
  if a < 2 ^ w then .ok a else .error none

/-- `a + b` in `w` bits. -/
def add (w a b : Nat) : Watched ε Nat :=
  narrow w (a + b)

/-- `a * b` in `w` bits. -/
def mul (w a b : Nat) : Watched ε Nat :=
  narrow w (a * b)

/-- `a - b` of unsigned words. -/
def sub (a b : Nat) : Watched ε Nat :=
  if b ≤ a then .ok (a - b) else .error none

/-- A step without arithmetic. -/
def lift (x : Except ε α) : Watched ε α :=
  x.mapError some

/-- A value that fits is not narrowed. -/
lemma narrow_fits (h : a < 2 ^ w) : (narrow w a : Watched ε Nat) = .ok a :=
  if_pos h

/-- A sum that fits. -/
lemma add_fits (h : a + b < 2 ^ w) : (add w a b : Watched ε Nat) = .ok (a + b) :=
  if_pos h

/-- A product that fits. -/
lemma mul_fits (h : a * b < 2 ^ w) : (mul w a b : Watched ε Nat) = .ok (a * b) :=
  if_pos h

/-- A difference that is not negative. -/
lemma sub_fits (h : b ≤ a) : (sub a b : Watched ε Nat) = .ok (a - b) :=
  if_pos h

/-- A result that was there passes. -/
@[simp] lemma lift_ok {x : α} : lift (.ok x : Except ε α) = .ok x :=
  rfl

/-- A watched value is passed on. -/
lemma ok_bind {ε : Type} {x : α} {f : α → Except ε β} : (.ok x >>= f) = f x :=
  rfl

/-- Two steps in a row agree when the first ones do and the second ones do after a success. -/
lemma lift_bind {x : Except ε α} {f : α → Except ε β} {g : α → Watched ε β}
    (h : ∀ a, x = .ok a → g a = lift (f a)) : (lift x >>= g) = lift (x >>= f) := by
  cases x with
  | error e => rfl
  | ok a => exact h a rfl

end

end K11CHaos.Words

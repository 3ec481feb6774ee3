import Mathlib.Tactic.Common

/-!
# Failures

`Failure`, `Result` and `fail` of `installer/engine/src/lib.rs`: every operation of the engine and
of the window process answers with a value or with an error code and its detail text.
-/

namespace K11CHaos

/-- `struct Failure`. -/
structure Failure where
  code : String
  detail : String
deriving DecidableEq, Repr

/-- `type Result<T>`. -/
abbrev Result (α : Type) := Except Failure α

/-- `fn fail`. -/
def fail (code detail : String) : Failure :=
  ⟨code, detail⟩

/-- Return early with an error when a test shows something wrong. -/
def deny (bad : Prop) [Decidable bad] (code detail : String) : Result Unit :=
  if bad then .error (fail code detail) else .ok ()

/-- A test passes when its condition does not hold. -/
@[simp] lemma deny_ok {bad : Prop} [Decidable bad] {code detail : String} {u : Unit} :
    deny bad code detail = .ok u ↔ ¬ bad := by
  unfold deny
  split_ifs with h <;> simp [h]

/-- A test fails with its own code and detail. -/
@[simp] lemma deny_error {bad : Prop} [Decidable bad] {code detail : String} {e : Failure} :
    deny bad code detail = .error e ↔ bad ∧ e = fail code detail := by
  unfold deny
  split_ifs with h <;> simp [h, eq_comm]

/-- A result of two steps is one of the second. -/
lemma bind_ok {ε α β : Type} {x : Except ε α} {f : α → Except ε β} {b : β} :
    (x >>= f) = .ok b ↔ ∃ a, x = .ok a ∧ f a = .ok b := by
  cases x with
  | error e => exact ⟨nofun, by rintro ⟨_, ⟨⟩, _⟩⟩
  | ok a => exact ⟨fun h => ⟨a, rfl, h⟩, by rintro ⟨_, ⟨⟩, h⟩; exact h⟩

end K11CHaos

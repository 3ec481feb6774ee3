import K11CHaos.Engine.Flash

/-!
# Faithful devices

The device as a relation between the disk before and after an answer (`Faithful`): a write that reports
all its bytes has stored exactly these, a read that reports all its bytes gives what is stored, the
identity and the capabilities never change. Everything may fail: a write that reports less, or an error,
leaves an arbitrary content in its own window. A source that is streamed gives the bytes of the file that
is open under a lock, or an error.

`Op.Within` bounds the writes of an execution by the ranges of its plan. A run within the ranges leaves
every byte outside them alone (`path_within`).
-/

namespace K11CHaos.Engine

open Prog

/-- First byte and length of a range on the disk. -/
def Range.window (r : Range) : Nat × Nat :=
  (512 * r.lba.toNat, r.bytes)

/-- The answers of a faithful device, with the disk before and after. -/
def Faithful (who : Identity) (caps : Vector UInt8 8) (d : Disk) (e : Ev) (d' : Disk) : Prop :=
  match e with
  | ⟨.write lba b, .ok n⟩ =>
    (UInt32.toNat n = b.length → d' = writeAt d (512 * lba.toNat) b) ∧
      ∀ x, ¬ Inside x (512 * lba.toNat, b.length) → d' x = d x
  | ⟨.write lba b, .error _⟩ => ∀ x, ¬ Inside x (512 * lba.toNat, b.length) → d' x = d x
  | ⟨.read lba len, .ok r⟩ =>
    d' = d ∧ (UInt32.toNat r.1 = len → r.2.1 = readAt d (512 * lba.toNat) len)
  | ⟨.identity, .ok i⟩ => d' = d ∧ i = who
  | ⟨.capability, .ok c⟩ => d' = d ∧ c = caps
  | ⟨.stream b, .ok x⟩ => d' = d ∧ x.1 = b
  | ⟨.tool _, _⟩ => True
  | _ => d' = d

/-- Questions that do not write to the device. -/
def Op.Quiet : Op → Prop
  | .write _ _ | .tool _ => False
  | _ => True

/-- The writes that a list of ranges allows: whole sectors, at most one chunk, inside one range. -/
def Op.Within (rs : List Range) : Op → Prop
  | .write lba b =>
    b ≠ [] ∧ 512 ∣ b.length ∧ b.length ≤ chunk ∧
      ∃ r ∈ rs, r.window.1 ≤ 512 * lba.toNat ∧
        512 * lba.toNat + b.length ≤ r.window.1 + r.window.2
  | .tool _ => False
  | _ => True

/-- Questions that do not write to a range. -/
def Op.Away (r : Range) : Op → Prop
  | .write lba b =>
    512 * lba.toNat + b.length ≤ r.window.1 ∨ r.window.1 + r.window.2 ≤ 512 * lba.toNat
  | .tool _ => False
  | _ => True

/-- Observing is quiet. -/
lemma Op.Observes.quiet {o : Op} (h : o.Observes) : o.Quiet := by
  cases o <;> trivial

/-- Quiet questions write outside no range. -/
lemma Op.Quiet.within {o : Op} {rs} (h : o.Quiet) : o.Within rs := by
  cases o <;> trivial

/-- Quiet questions stay away from every range. -/
lemma Op.Quiet.away {o : Op} {r} (h : o.Quiet) : o.Away r := by
  cases o <;> trivial

/-- Writes within ranges that do not meet a range are away from it. -/
lemma Op.Within.away {o : Op} {rs : List Range} {r : Range} (h : o.Within rs)
    (apart : ∀ s ∈ rs,
      s.window.1 + s.window.2 ≤ r.window.1 ∨ r.window.1 + r.window.2 ≤ s.window.1) :
    o.Away r := by
  cases o with
  | write lba b =>
    obtain ⟨-, -, -, s, hs, lo, hi⟩ := h
    have := apart s hs
    simp only [Op.Away]
    omega
  | _ => trivial

section Steps

variable {who : Identity} {caps : Vector UInt8 8} {d d' : Disk} {rs : List Range}

/-- Only a write changes the disk. -/
lemma Faithful.quiet {e : Ev} (h : Faithful who caps d e d') (q : e.1.Quiet) : d' = d := by
  obtain ⟨o, a⟩ := e
  cases o <;> cases a <;> first | exact h | exact h.1 | exact q.elim

/-- A write within the ranges leaves the bytes outside them. -/
lemma Faithful.within {e : Ev} {x : Nat} (h : Faithful who caps d e d') (w : e.1.Within rs)
    (out : ∀ r ∈ rs, ¬ Inside x r.window) : d' x = d x := by
  by_cases q : e.1.Quiet
  · rw [h.quiet q]
  obtain ⟨o, a⟩ := e
  cases o with
  | write lba b =>
    obtain ⟨-, -, -, r, hr, lo, hi⟩ := w
    have hx : ¬ Inside x (512 * lba.toNat, b.length) := by
      intro hin
      refine out r hr ?_
      simp only [Inside] at hin ⊢
      omega
    cases a with
    | ok n => exact h.2 x hx
    | error e => exact h x hx
  | tool image => exact w.elim
  | _ => exact (q trivial).elim

/-- Without writes the disk stays as it is. -/
lemma path_quiet {t : List Ev} (p : Lts.Path (Faithful who caps) d t d')
    (q : ∀ e ∈ t, e.1.Quiet) : d' = d := by
  induction p with
  | nil => rfl
  | cons st _ ih =>
    rw [ih fun e he => q e (List.mem_cons_of_mem _ he), st.quiet (q _ List.mem_cons_self)]

/-- A run within the ranges leaves every byte outside them as it is. -/
lemma path_within {t : List Ev} {x : Nat} (p : Lts.Path (Faithful who caps) d t d')
    (w : ∀ e ∈ t, e.1.Within rs) (out : ∀ r ∈ rs, ¬ Inside x r.window) : d' x = d x := by
  induction p with
  | nil => rfl
  | cons st _ ih =>
    rw [ih fun e he => w e (List.mem_cons_of_mem _ he), st.within (w _ List.mem_cons_self) out]

/-- The sectors of an aligned range do not wrap. -/
lemma lba_add {lba : UInt32} {offset : Nat} (al : 512 ∣ offset)
    (fits : lba.toNat + offset / 512 < 2 ^ 32) :
    512 * (lba + UInt32.ofNat (offset / 512)).toNat = 512 * lba.toNat + offset := by
  have e : (lba + UInt32.ofNat (offset / 512)).toNat = lba.toNat + offset / 512 := by
    rw [UInt32.toNat_add, UInt32.toNat_ofNat']
    omega
  rw [e]
  omega

/-- A complete read gives what the disk holds. -/
lemma ReadAll.faithful {lba : UInt32} {bs t b size offset total} (h : ReadAll lba bs t b)
    (tl : Tiles size offset total bs) (al : ∀ x ∈ bs, 512 ∣ x.1)
    (fits : lba.toNat + total / 512 < 2 ^ 32) (p : Lts.Path (Faithful who caps) d t d') :
    d' = d ∧ b = readAt d (512 * lba.toNat + offset) (total - offset) := by
  induction h generalizing offset with
  | nil =>
    cases tl
    cases p
    rw [Nat.sub_self, readAt_zero]
    exact ⟨rfl, rfl⟩
  | cons full _ ih =>
    cases tl with
    | cons pos _ tl =>
      have le := tl.le
      cases p with
      | cons st p =>
        obtain ⟨rfl, hb⟩ := st
        obtain ⟨rfl, rfl⟩ := ih tl (fun x hx => al x (List.mem_cons_of_mem _ hx)) p
        refine ⟨rfl, ?_⟩
        rw [hb full, lba_add (al _ List.mem_cons_self) (by omega), ← Nat.add_assoc,
          readAt_append]
        congr 1
        omega

end Steps

end K11CHaos.Engine

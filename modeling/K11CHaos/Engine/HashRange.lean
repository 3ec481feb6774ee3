import K11CHaos.Engine.HashLoop

/-!
# `hash_range` and its worker

`hash_range` of `flash.rs` is the loop of `HashLoop` on a file from an offset on. In every interleaving
with the worker it ends, and a range inside the file ends in the hash of exactly its bytes
(`hashRange_threads`), as in the function `hashRange` that the rest of the engine is modelled with.
-/

namespace K11CHaos.Engine.Pipeline

/-- Blocks that continue each other hold the bytes of the file that they were read from. -/
lemma Chained.file {file : Bytes} {base total o e : Nat} {bs : List Block}
    (chain : Chained total o bs e)
    (read : ∀ b ∈ bs, (Reader.file file base).read b.offset b.len = some b.bytes) :
    bs.flatMap Block.bytes = slice file (base + o) (e - o) := by
  induction chain with
  | nil => rw [Nat.sub_self, slice_zero, List.flatMap_nil]
  | @cons o b bs e hc rest ih =>
    obtain ⟨at', -, -, -⟩ := checkBlock_ok hc
    have more := rest.length
    have mine := read b List.mem_cons_self
    simp only [Reader.file, at'] at mine
    split_ifs at mine with inside
    rw [List.flatMap_cons, ih fun c hm => read c (List.mem_cons_of_mem _ hm), ← Option.some.inj mine,
      ← Nat.add_assoc, slice_append_slice]
    congr 1
    omega

namespace HashWorker

/-- The interleaved steps of `hash_range` and its worker. -/
def Feeds (file : Bytes) (base : Nat) : HashWorker → Unit → HashWorker → Prop :=
  Fills (Reader.file file base)

end HashWorker

/-- A range inside the file can be read. -/
lemma Reader.file_inside {file : Bytes} {base total : Nat} (inside : base + total ≤ file.length) :
    ¬ (Reader.file file base).Fails total := by
  rintro ⟨offset, more, none⟩
  simp only [Reader.file, ite_eq_right_iff, reduceCtorEq, imp_false, not_le] at none
  omega

/-- A range inside the file: in every interleaving `hash_range` can go on until it is finished, it
takes a bounded number of steps, and it finishes with the hash of the bytes of the range. -/
theorem hashRange_threads {file : Bytes} {base total : Nat} (inside : base + total ≤ file.length)
    {ls : List Unit} {s : HashWorker}
    (run : Lts.Exec (· = HashWorker.new total) (HashWorker.Feeds file base) ls s) :
    (∀ r, s.caller = .finished r → r = .ok ⟨hashBytes (slice file base total), total⟩) ∧
      ((∃ r, s.caller = .finished r) ∨ ∃ s', HashWorker.Feeds file base s () s') ∧
      ls.length ≤ 20 * total + 12 := by
  have filled := HashWorker.Fills.filled run
  refine ⟨fun r hr => ?_, ?_, HashWorker.Fills.length_le run⟩
  · have place := filled.place
    have pending := filled.inv.flow.pending
    rw [hr] at place pending
    have pending : s.offset = s.submitted.length := pending
    have bytes := filled.inv.flow.logged.file filled.read
    rw [Nat.add_zero, Nat.sub_zero, ← pending, place.1, filled.inv.size] at bytes
    rw [filled.result r hr, HashWorker.submitted, bytes]
  · obtain (done | dropped) | more := filled.progress
    · exact .inl done
    · exact absurd (filled.gaveUp (by rw [dropped]; trivial)) (Reader.file_inside inside)
    · exact .inr more

end K11CHaos.Engine.Pipeline

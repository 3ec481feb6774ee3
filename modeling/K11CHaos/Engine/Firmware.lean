import K11CHaos.Engine.Factory
import K11CHaos.Engine.GptHeader
import K11CHaos.Lib.Str
import K11CHaos.Lib.Words

/-!
# Firmware metadata

`entries` and `parameter` of `factory.rs`, which read the listing of the vendor tool and the `mtdparts`
text of a firmware package, and what they accept (`Listing`, `Table`). A table that `validate_capacity`
lets through leaves room up to the last partition, so the subtractions in `plan`, `verification` and
`verify_layout` do not wrap (`metadata_sound`).
-/

namespace K11CHaos.Engine.Factory
open Words (Watched lift sub sub_fits ok_bind lift_bind)

/-- `map_err(error)` of a conversion. -/
def converted {α : Type} (x : Except String α) : Result α :=
  x.mapError error

/-- `hex`. -/
def hex (s : List Char) : Result Nat :=
  converted (Str.fromStrRadix 16 64 (Str.trimStartMatches "0x".toList (Str.trim s)))

/-- `u32::try_from`. -/
def toU32 (n : Nat) : Result UInt32 :=
  converted (if n < 2 ^ 32 then .ok (UInt32.ofNat n)
    else .error "out of range integral type conversion attempted")

/-- The fields of a listed entry that have been read. -/
structure Fields where
  file : Option (List Char) := none
  name : Option (List Char) := none
  offset : Option Nat := none
  size : Option Nat := none
  sparse : Bool := false

/-- The loop over the fields of a line. -/
def fields : List (List Char) → Fields → Result Fields
  | [], f => .ok f
  | field :: rest, f =>
    match Str.splitOnce ['='] (Str.trim field) with
    | none => fields rest f
    | some (key, value) => do
      let key := Str.trim key
      let f ←
        if key = "file".toList then pure { f with file := some (Str.trim value) }
        else if key = "partition".toList then pure { f with name := some (Str.trim value) }
        else if key = "offset".toList then do
          let n ← hex value
          pure { f with offset := some n }
        else if key = "size".toList then do
          let n ← hex value
          pure { f with size := some n }
        else if key = "type".toList then
          pure { f with sparse := Str.trim value = "sparse image".toList }
        else pure f
      fields rest f

/-- The name of an entry: the loader has one name, a path stands for its last part. -/
def entryName (raw : List Char) : String :=
  if raw ∈ ["bootloader".toList, "loader".toList] then "MiniLoaderAll.bin"
  else String.ofList (raw.reverse.takeWhile fun c => c ≠ '/' ∧ c ≠ '\\').reverse

/-- An entry of the listing. -/
def listed (line : List Char) (fileBytes : Nat) (rows : List Entry) : Result Entry := do
  let f ← fields (line.splitOn ';') {}
  let raw ← (f.name.or f.file).elim (throw (error "Missing firmware entry name")) pure
  let offset ← f.offset.elim (throw (error "Missing entry offset")) pure
  let bytes ← f.size.elim (throw (error "Missing entry size")) pure
  let name := entryName raw
  deny (bytes = 0 ∨ offset + bytes ≥ 2 ^ 64 ∨ offset + bytes > fileBytes ∨ rows.length ≥ 128 ∨
    rows.any fun e => e.name == name) "FACTORY_IMAGE" "Invalid firmware entries"
  return ⟨name, offset, bytes, f.sparse⟩

/-- The number in a line that announces one. -/
def announcement (line : List Char) : Option (List Char) :=
  Str.stripFront "Entry Count:".toList (Str.trim line)

/-- A line of an entry. -/
def isEntry (line : List Char) : Bool :=
  "EntryNo=".toList.isPrefixOf (Str.trim line)

/-- The loop of `entries`. -/
def entryLines (fileBytes : Nat) :
    List (List Char) → List Entry → Option Nat → Result (List Entry × Option Nat)
  | [], rows, count => .ok (rows, count)
  | line :: rest, rows, count => do
    let count ← (announcement line).elim (pure count) fun n => do
      let n ← converted (Str.fromStrRadix 10 64 (Str.trim n))
      pure (some n)
    if isEntry line then do
      let row ← listed line fileBytes rows
      entryLines fileBytes rest (rows ++ [row]) count
    else entryLines fileBytes rest rows count

/-- Where an entry is in the file. -/
def spanOf (e : Entry) : Nat × Nat :=
  (e.offset, e.offset + e.bytes)

/-- `entries`. -/
def entries (text : String) (fileBytes : Nat) : Result (List Entry) := do
  let t := text.toList
  deny (!Str.contains t "Chip Tag:3566".toList && !Str.contains t "Chip Tag:3568".toList)
    "FACTORY_IMAGE" "Not RK3566/RK3568 firmware"
  let (rows, count) ← entryLines fileBytes (Str.lines t) [] none
  let named (name : String) : Bool := rows.any fun e => e.name == name
  deny (count ≠ some rows.length ∨ !named "parameter" ∨ !named "MiniLoaderAll.bin" ∨
      !(["uboot", "boot"].all named) ∨ !(["rootfs", "super", "system"].any named))
    "FACTORY_FORMAT" "Select a complete manufacturer system image"
  deny ((Gpt.windows2 (Gpt.sortSpans (rows.map spanOf))).any fun p => decide (p.1.2 > p.2.1))
    "FACTORY_IMAGE" "Overlapping firmware entries"
  return rows

/-- The characters of a partition name. -/
def isNameChar (c : Char) : Bool :=
  let n := c.toNat
  (48 ≤ n && n ≤ 57) || (65 ≤ n && n ≤ 90) || (97 ≤ n && n ≤ 122) || c == '_' || c == '-'

/-- A partition of the list. -/
def partItem (item : List Char) (parts : List Partition) (stop : Nat) : Result Partition := do
  let (range, label) ← (Str.splitOnce ['('] (Str.trim item)).elim
    (throw (error "Invalid partition")) pure
  let (size, start) ← (Str.splitOnce ['@'] range).elim
    (throw (error "Invalid partition range")) pure
  let label ← (Str.stripBack [')'] label).elim (throw (error "Invalid partition label")) pure
  let name := (label.splitOn ':').headD []
  let lba ← hex start >>= toU32
  let sectors ←
    if size = ['-'] then pure none
    else do
      let n ← hex size >>= toU32
      pure (some n)
  deny (lba.toNat < stop ∨ sectors = some 0 ∨ parts.length ≥ 128 ∨
      (parts.any fun p => p.name == String.ofList name) ∨ name = [] ∨ !name.all isNameChar)
    "FACTORY_IMAGE" "Invalid partition bounds"
  return ⟨String.ofList name, lba, sectors⟩

/-- The first sector that the next partition may have. -/
def stopOf (p : Partition) : Nat :=
  (p.sectors.map fun n => p.lba.toNat + n.toNat).getD (2 ^ 64 - 1)

/-- The loop of `parameter`. -/
def partItems : List (List Char) → List Partition → Nat → Result (List Partition)
  | [], parts, _ => .ok parts
  | item :: items, parts, stop => do
    let p ← partItem item parts stop
    partItems items (parts ++ [p]) (stopOf p)

/-- `parameter`. -/
def parameter (text : String) : Result (List Partition) := do
  let lines := Str.lines text.toList
  deny (!lines.any fun l => Str.trim l == "TYPE: GPT".toList) "FACTORY_IMAGE"
    "Unsupported firmware partition table"
  let found := lines.findSome? fun l => (Str.splitOnce "mtdparts=".toList l).map Prod.snd
  let list ← ((found.bind fun v => Str.splitOnce [':'] v).map Prod.snd).elim
    (throw (error "Missing firmware partition table")) pure
  let parts ← partItems (list.splitOn ',') [] 34
  deny (parts = []) "FACTORY_IMAGE" "Empty partition table"
  return parts

/-! ## What is accepted -/

/-- A partition table in order: `mtdparts` texts that are accepted. -/
structure Table (parts : List Partition) : Prop where
  some' : parts ≠ []
  first : ∀ p ∈ parts, 34 ≤ p.lba.toNat
  sized : ∀ p ∈ parts, p.sectors ≠ some 0
  /-- Every partition has an end, at or before the start of each later one: only the last may be
  unbounded. -/
  ordered : parts.Pairwise fun p q =>
    ∃ n : UInt32, p.sectors = some n ∧ p.lba < q.lba ∧ p.lba.toNat + n.toNat ≤ q.lba.toNat
  named : (parts.map Partition.name).Nodup

/-- A listing of a package: texts of the vendor tool that are accepted. -/
structure Listing (text : String) (fileBytes : Nat) (rows : List Entry) : Prop where
  inside : ∀ e ∈ rows, 0 < e.bytes ∧ e.offset + e.bytes ≤ fileBytes
  apart : rows.Pairwise fun e f => e.offset + e.bytes ≤ f.offset ∨ f.offset + f.bytes ≤ e.offset
  named : (rows.map Entry.name).Nodup
  /-- As many as the last announcement says, one for each line of an entry. -/
  announced : ∃ n, ((Str.lines text.toList).filterMap announcement).getLast? = some n ∧
    Str.fromStrRadix 10 64 (Str.trim n) = .ok rows.length
  lines : rows.length = ((Str.lines text.toList).filter isEntry).length

/-- The partitions read so far, and the first sector that is free after them. -/
structure Placed (parts : List Partition) (stop : Nat) : Prop where
  first : ∀ p ∈ parts, 34 ≤ p.lba.toNat
  sized : ∀ p ∈ parts, p.sectors ≠ some 0
  ordered : parts.Pairwise fun p q => stopOf p ≤ q.lba.toNat
  named : (parts.map Partition.name).Nodup
  below : ∀ p ∈ parts, stopOf p ≤ stop
  low : 34 ≤ stop

section
variable {parts : List Partition} {stop : Nat}

/-- An item starts behind its predecessors and has a name of its own. -/
lemma partItem_ok {item : List Char} {p : Partition} (h : partItem item parts stop = .ok p) :
    stop ≤ p.lba.toNat ∧ p.sectors ≠ some 0 ∧ ∀ q ∈ parts, q.name ≠ p.name := by
  rw [partItem] at h
  obtain ⟨⟨range, label⟩, -, h1⟩ := bind_ok.mp h
  obtain ⟨⟨size, start⟩, -, h2⟩ := bind_ok.mp h1
  obtain ⟨label', -, h3⟩ := bind_ok.mp h2
  dsimp only at h3
  obtain ⟨lba, -, h4⟩ := bind_ok.mp h3
  have last {sectors : Option UInt32} (k : (deny (lba.toNat < stop ∨ sectors = some 0 ∨
      parts.length ≥ 128 ∨ (parts.any fun p => p.name == String.ofList ((label'.splitOn ':').headD []))
      ∨ (label'.splitOn ':').headD [] = [] ∨ !((label'.splitOn ':').headD []).all isNameChar)
      "FACTORY_IMAGE" "Invalid partition bounds" >>= fun _ =>
        pure ⟨String.ofList ((label'.splitOn ':').headD []), lba, sectors⟩ : Result Partition) =
        .ok p) :
      stop ≤ p.lba.toNat ∧ p.sectors ≠ some 0 ∧ ∀ q ∈ parts, q.name ≠ p.name := by
    obtain ⟨_, k1, k2⟩ := bind_ok.mp k
    cases k2
    simp only [deny_ok, not_or, Nat.not_lt, List.any_eq_true, beq_iff_eq, not_exists, not_and] at k1
    exact ⟨k1.1, k1.2.1, k1.2.2.2.1⟩
  split_ifs at h4
  · exact last h4
  · obtain ⟨n, -, h5⟩ := bind_ok.mp h4
    exact last h5

/-- A partition ends behind the first GPT if it starts there. -/
lemma stopOf_le {p : Partition} (h : 34 ≤ p.lba.toNat) : 34 ≤ stopOf p := by
  unfold stopOf
  cases p.sectors with
  | none => exact show 34 ≤ 2 ^ 64 - 1 by decide
  | some n => exact Nat.le_trans h (Nat.le_add_right _ _)

/-- A partition ends behind its start. -/
lemma lba_le_stopOf {p : Partition} : p.lba.toNat ≤ stopOf p := by
  unfold stopOf
  cases p.sectors with
  | none =>
    have small := p.lba.toNat_lt
    show p.lba.toNat ≤ 2 ^ 64 - 1
    omega
  | some n => exact Nat.le_add_right _ _

/-- One more partition. -/
lemma Placed.item (h : Placed parts stop) {item : List Char} {p : Partition}
    (ok : partItem item parts stop = .ok p) : Placed (parts ++ [p]) (stopOf p) := by
  obtain ⟨start, sized, fresh⟩ := partItem_ok ok
  have low := Nat.le_trans h.low start
  refine
    { first := fun q hq => ?_
      sized := fun q hq => ?_
      ordered := List.pairwise_append.mpr ⟨h.ordered, List.pairwise_singleton _ _, ?_⟩
      named := ?_
      below := fun q hq => ?_
      low := stopOf_le low }
  · cases List.mem_append.mp hq with
    | inl hq => exact h.first q hq
    | inr hq =>
      rw [List.mem_singleton.mp hq]
      exact low
  · cases List.mem_append.mp hq with
    | inl hq => exact h.sized q hq
    | inr hq =>
      rw [List.mem_singleton.mp hq]
      exact sized
  · intro q hq r hr
    rw [List.mem_singleton.mp hr]
    exact Nat.le_trans (h.below q hq) start
  · rw [List.map_append, List.nodup_append]
    refine ⟨h.named, List.pairwise_singleton _ _, ?_⟩
    intro n hn m hm
    obtain ⟨q, hq, rfl⟩ := List.mem_map.mp hn
    obtain rfl := List.mem_singleton.mp hm
    exact fresh q hq
  · cases List.mem_append.mp hq with
    | inl hq => exact Nat.le_trans (h.below q hq) (Nat.le_trans start lba_le_stopOf)
    | inr hq => exact Nat.le_of_eq (congrArg stopOf (List.mem_singleton.mp hq))

/-- All items of a list are placed. -/
lemma Placed.items (h : Placed parts stop) {items : List (List Char)} {parts' : List Partition}
    (ok : partItems items parts stop = .ok parts') : ∃ stop', Placed parts' stop' := by
  induction items generalizing parts stop with
  | nil =>
    cases ok
    exact ⟨stop, h⟩
  | cons item items ih =>
    obtain ⟨p, hp, ok'⟩ := bind_ok.mp ok
    exact ih (h.item hp) ok'

/-- A partition that ends before a sector number is bounded. -/
lemma bounded_of_stop {p q : Partition} (h : stopOf p ≤ q.lba.toNat) (some' : p.sectors ≠ some 0) :
    ∃ n : UInt32, p.sectors = some n ∧ p.lba < q.lba ∧ p.lba.toNat + n.toNat ≤ q.lba.toNat := by
  have small := q.lba.toNat_lt
  unfold stopOf at h
  cases e : p.sectors with
  | none =>
    rw [e] at h
    have : 2 ^ 64 - 1 ≤ q.lba.toNat := h
    omega
  | some n =>
    rw [e] at h
    have le : p.lba.toNat + n.toNat ≤ q.lba.toNat := h
    have pos : n.toNat ≠ 0 := by
      intro zero
      have : n = 0 := UInt32.toNat_inj.mp zero
      exact some' (by rw [e, this])
    exact ⟨n, rfl, UInt32.lt_iff_toNat_lt.mpr (by omega), le⟩

/-- What `parameter` accepts is a table. -/
theorem parameter_table {text : String} (ok : parameter text = .ok parts) : Table parts := by
  obtain ⟨_, -, h1⟩ := bind_ok.mp ok
  obtain ⟨list, -, h2⟩ := bind_ok.mp h1
  obtain ⟨parts', h3, h4⟩ := bind_ok.mp h2
  obtain ⟨_, h5, h6⟩ := bind_ok.mp h4
  cases h6
  have start : Placed [] 34 := ⟨nofun, nofun, .nil, .nil, nofun, Nat.le_refl _⟩
  obtain ⟨stop, placed⟩ := start.items h3
  exact
    { some' := deny_ok.mp h5
      first := placed.first
      sized := placed.sized
      ordered := placed.ordered.imp_of_mem fun hp _ h => bounded_of_stop h (placed.sized _ hp)
      named := placed.named }

end

section
variable {text : String} {fileBytes : Nat} {rows rows' : List Entry} {count count' : Option Nat}

/-- A row lies inside the file and has a name of its own. -/
lemma listed_ok {line : List Char} {e : Entry} (h : listed line fileBytes rows = .ok e) :
    0 < e.bytes ∧ e.offset + e.bytes ≤ fileBytes ∧ ∀ r ∈ rows, r.name ≠ e.name := by
  rw [listed] at h
  obtain ⟨f, -, h1⟩ := bind_ok.mp h
  obtain ⟨raw, -, h2⟩ := bind_ok.mp h1
  obtain ⟨offset, -, h3⟩ := bind_ok.mp h2
  obtain ⟨bytes, -, h4⟩ := bind_ok.mp h3
  obtain ⟨_, h5, h6⟩ := bind_ok.mp h4
  cases h6
  simp only [deny_ok, not_or, Nat.not_lt, gt_iff_lt, List.any_eq_true, beq_iff_eq, not_exists,
    not_and] at h5
  exact ⟨Nat.pos_of_ne_zero h5.1, h5.2.2.1, h5.2.2.2.2⟩

/-- The entries listed so far. -/
structure Rows (rows : List Entry) (fileBytes : Nat) : Prop where
  inside : ∀ e ∈ rows, 0 < e.bytes ∧ e.offset + e.bytes ≤ fileBytes
  named : (rows.map Entry.name).Nodup

/-- One more entry. -/
lemma Rows.row (h : Rows rows fileBytes) {line : List Char} {e : Entry}
    (ok : listed line fileBytes rows = .ok e) : Rows (rows ++ [e]) fileBytes := by
  obtain ⟨some', inside, fresh⟩ := listed_ok ok
  refine ⟨fun r hr => ?_, ?_⟩
  · cases List.mem_append.mp hr with
    | inl hr => exact h.inside r hr
    | inr hr =>
      rw [List.mem_singleton.mp hr]
      exact ⟨some', inside⟩
  · rw [List.map_append, List.nodup_append]
    refine ⟨h.named, List.pairwise_singleton _ _, ?_⟩
    intro n hn m hm
    obtain ⟨q, hq, rfl⟩ := List.mem_map.mp hn
    obtain rfl := List.mem_singleton.mp hm
    exact fresh q hq

/-- The number that lines announce last, after one from before. -/
def announced (lines : List (List Char)) (count : Option Nat) : Option Nat :=
  match (lines.filterMap announcement).getLast? with
  | none => count
  | some n => (Str.fromStrRadix 10 64 (Str.trim n)).toOption

/-- The loop lists one entry for each line of one, and keeps the last announcement. -/
lemma Rows.loop (h : Rows rows fileBytes) {lines : List (List Char)}
    (ok : entryLines fileBytes lines rows count = .ok (rows', count')) :
    Rows rows' fileBytes ∧ rows'.length = rows.length + (lines.filter isEntry).length ∧
      count' = announced lines count := by
  induction lines generalizing rows count with
  | nil =>
    cases ok
    exact ⟨h, rfl, rfl⟩
  | cons line lines ih =>
    obtain ⟨c, hc, ok1⟩ := bind_ok.mp ok
    have next : announced lines c = announced (line :: lines) count := by
      unfold announced
      cases ha : announcement line with
      | none =>
        rw [ha] at hc
        cases hc
        rw [List.filterMap_cons_none ha]
      | some n =>
        rw [ha] at hc
        obtain ⟨m, hm, hc'⟩ := bind_ok.mp hc
        cases hc'
        rw [List.filterMap_cons_some ha, List.getLast?_cons]
        cases (lines.filterMap announcement).getLast? with
        | some last => rfl
        | none =>
          cases e : Str.fromStrRadix 10 64 (Str.trim n) with
          | error e' =>
            rw [e] at hm
            cases hm
          | ok k =>
            rw [e] at hm
            cases hm
            show some m = (Str.fromStrRadix 10 64 (Str.trim n)).toOption
            rw [e]
            rfl
    rw [← next]
    split_ifs at ok1 with entry
    · obtain ⟨row, hrow, ok2⟩ := bind_ok.mp ok1
      obtain ⟨k, len, last⟩ := ih (h.row hrow) ok2
      refine ⟨k, ?_, last⟩
      rw [len, List.filter_cons_of_pos entry, List.length_append, List.length_cons,
        List.length_cons, List.length_nil]
      omega
    · obtain ⟨k, len, last⟩ := ih h ok1
      exact ⟨k, by rw [len, List.filter_cons_of_neg entry], last⟩

/-- What `entries` accepts is a listing of parts of the file. -/
theorem entries_listing (ok : entries text fileBytes = .ok rows) : Listing text fileBytes rows := by
  obtain ⟨_, -, h1⟩ := bind_ok.mp ok
  obtain ⟨⟨rows', count⟩, h2, h3⟩ := bind_ok.mp h1
  obtain ⟨_, h4, h5⟩ := bind_ok.mp h3
  obtain ⟨_, h6, h7⟩ := bind_ok.mp h5
  cases h7
  have start : Rows [] fileBytes := ⟨nofun, .nil⟩
  obtain ⟨sound, len, last⟩ := start.loop h2
  simp only [deny_ok, not_or, ne_eq, not_not] at h4
  simp only [deny_ok, List.any_eq_true, decide_eq_true_eq, not_exists, not_and, Nat.not_lt] at h6
  rw [h4.1] at last
  refine
    { inside := sound.inside
      apart := ?_
      named := sound.named
      announced := ?_
      lines := by rw [len, List.length_nil, Nat.zero_add] }
  · -- neighbours in the order of their offsets do not meet, so no two entries do
    have order := (Gpt.windows2_iff (R := fun a b : Nat × Nat => a.1 ≤ a.2 ∧ a.2 ≤ b.1)
      (l := Gpt.sortSpans (rows.map spanOf)) fun h k => by omega).mp fun r hr => ⟨?_, h6 r hr⟩
    · have all := (Gpt.sortSpans_perm.pairwise_iff fun {a b} (h : a.2 ≤ b.1 ∨ b.2 ≤ a.1) =>
        h.symm).mp (order.imp fun h => .inl h.2)
      exact List.pairwise_map.mp all
    · obtain ⟨e, -, he⟩ := List.mem_map.mp (Gpt.sortSpans_perm.mem_iff.mp (List.of_mem_zip hr).1)
      rw [← he]
      exact Nat.le_add_right _ _
  · unfold Factory.announced at last
    cases e : ((Str.lines text.toList).filterMap announcement).getLast? with
    | none =>
      rw [e] at last
      cases last
    | some n =>
      rw [e] at last
      dsimp only at last
      refine ⟨n, rfl, ?_⟩
      cases k : Str.fromStrRadix 10 64 (Str.trim n) with
      | error =>
        rw [k] at last
        cases last
      | ok m =>
        rw [k] at last
        cases last
        rfl

end

/-! ## The capacity -/

/-- The ranges that `plan` reports. -/
def planRanges (image : Image) (sectors : UInt32) : List (String × UInt32 × Nat) :=
  image.partitions.map fun p =>
    (p.name, p.lba, (p.sectors.getD (sectors - 33 - p.lba)).toNat * 512)

/-- `p.sectors.unwrap_or(sectors-33-p.lba)` in machine words: the difference is always computed. -/
def sectorsIn (sectors : UInt32) (p : Partition) : Watched Failure UInt32 := do
  let top ← sub sectors.toNat 33
  let rest ← sub top p.lba.toNat
  return p.sectors.getD (UInt32.ofNat rest)

/-- The ranges of `plan` in machine words. -/
def planRangesIn (sectors : UInt32) : List Partition → Watched Failure (List (String × UInt32 × Nat))
  | [] => .ok []
  | p :: ps => do
    let n ← sectorsIn sectors p
    let bytes ← Words.mul 64 n.toNat 512
    let rest ← planRangesIn sectors ps
    return (p.name, p.lba, bytes) :: rest

/-- The loop of `verification` in machine words. -/
def verifyEntriesIn (image : Image) (file : Bytes) (sectors : UInt32) :
    List Entry → List Check → Watched Failure (List Check)
  | [], out => .ok out
  | entry :: entries, out =>
    match image.partitions.find? fun p => p.name == entry.name with
    | none => verifyEntriesIn image file sectors entries out
    | some part => do
      let n ← sectorsIn sectors part
      let capacity ← Words.mul 64 n.toNat 512
      let out ←
        if entry.sparse then lift (sparse file entry part.lba capacity out)
        else do
          lift (deny (entry.bytes % 512 ≠ 0 ∨ entry.bytes > capacity) "FACTORY_IMAGE"
            "Partition payload exceeds its range")
          pure (out ++ [⟨part.lba, entry.bytes, entry.offset, none⟩])
      verifyEntriesIn image file sectors entries out

/-- `verification` in machine words. -/
def verificationIn (image : Image) (file : Bytes) (sectors : UInt32) :
    Watched Failure (List Check) := do
  let out ← verifyEntriesIn image file sectors image.entries []
  lift (deny (out = []) "FACTORY_IMAGE" "No firmware payload")
  return out

/-- `verify_layout` with the differences of the capacity in machine words. -/
def verifyLayoutIn (primary tail : Bytes) (sectors : UInt32) (image : Image) (file : Bytes) :
    Watched Failure Unit := do
  lift (deny (¬ (Gpt.check primary tail sectors).healthy) "WRITE_VERIFY"
    "Manufacturer GPT verification failed")
  let rows := (Gpt.entries (primary.drop 1024)).filter Gpt.inUse
  lift (deny (rows.length ≠ image.partitions.length) "WRITE_VERIFY"
    "Manufacturer partition count changed")
  let fullEnd ← sub sectors.toNat 34
  let partitions ← lift (layoutRows fullEnd image.partitions.length 0 (rows.zip image.partitions))
  let _ ← (verificationIn { image with partitions } file sectors).mapError fun e =>
    e.map fun e => fail "WRITE_VERIFY" s!"Manufacturer payload exceeds actual partition: {e.detail}"
  return ()

/-- Every partition starts before the last 33 sectors, and a bounded one ends before them. -/
def Room (partitions : List Partition) (sectors : UInt32) : Prop :=
  34 ≤ sectors.toNat ∧
    ∀ p ∈ partitions, p.lba.toNat + (p.sectors.getD 1).toNat ≤ sectors.toNat - 33

section
variable {image : Image} {sectors : UInt32} {partitions : List Partition}

/-- Partitions that pass have room. -/
lemma validateCapacity_room (h : validateCapacity image sectors = .ok ()) :
    Room image.partitions sectors := by
  simp only [validateCapacity, deny_ok, not_or, UInt32.not_le, List.any_eq_true, decide_eq_true_eq,
    not_exists, not_and, gt_iff_lt, Nat.not_lt] at h
  have big : 34849 < sectors.toNat := UInt32.lt_iff_toNat_lt.mp h.1
  exact ⟨by omega, h.2⟩

/-- The difference of the source, for a partition that starts before the last 33 sectors. -/
lemma grown {p : Partition} (h : p.lba.toNat + 33 ≤ sectors.toNat) :
    (sectors - 33 - p.lba).toNat = sectors.toNat - 33 - p.lba.toNat := by
  have lba : UInt32.toNat 33 = 33 := rfl
  have top : (sectors - 33).toNat = sectors.toNat - 33 := by
    rw [UInt32.toNat_sub_of_le _ _ (UInt32.le_iff_toNat_le.mpr (by rw [lba]; omega)), lba]
  rw [UInt32.toNat_sub_of_le _ _ (UInt32.le_iff_toNat_le.mpr (by rw [top]; omega)), top]

/-- The size of the last partition does not wrap. -/
lemma sectorsIn_eq {p : Partition} (h : p.lba.toNat + 33 ≤ sectors.toNat) :
    sectorsIn sectors p = .ok (p.sectors.getD (sectors - 33 - p.lba)) := by
  have same : UInt32.ofNat (sectors.toNat - 33 - p.lba.toNat) = sectors - 33 - p.lba := by
    rw [← grown h, UInt32.ofNat_toNat]
  rw [sectorsIn, sub_fits (by omega), ok_bind, sub_fits (by omega), ok_bind, same]
  rfl

/-- Bytes of a device fit 64 bits. -/
lemma bytes_fit {n : UInt32} : n.toNat * 512 < 2 ^ 64 := by
  have := n.toNat_lt
  omega

/-- The ranges of a plan do not wrap. -/
lemma planRangesIn_eq (h : ∀ p ∈ partitions, p.lba.toNat + 33 ≤ sectors.toNat) :
    planRangesIn sectors partitions = .ok (partitions.map fun p =>
      (p.name, p.lba, (p.sectors.getD (sectors - 33 - p.lba)).toNat * 512)) := by
  induction partitions with
  | nil => rfl
  | cons p ps ih =>
    rw [planRangesIn, sectorsIn_eq (h p List.mem_cons_self), ok_bind, Words.mul_fits bytes_fit,
      ok_bind, ih fun q hq => h q (List.mem_cons_of_mem _ hq), ok_bind]
    rfl

/-- The checks of the entries do not wrap. -/
lemma verifyEntriesIn_eq {file : Bytes} {entries : List Entry} {out : List Check}
    (h : ∀ p ∈ image.partitions, p.lba.toNat + 33 ≤ sectors.toNat) :
    verifyEntriesIn image file sectors entries out =
      lift (verifyEntries image file sectors entries out) := by
  induction entries generalizing out with
  | nil => rfl
  | cons entry entries ih =>
    rw [verifyEntriesIn, verifyEntries]
    cases hp : image.partitions.find? fun p => p.name == entry.name with
    | none => exact ih
    | some part =>
      dsimp only
      rw [sectorsIn_eq (h part (List.mem_of_find?_eq_some hp)), ok_bind, Words.mul_fits bytes_fit,
        ok_bind]
      split_ifs
      · exact lift_bind fun out' _ => ih
      · refine lift_bind fun _ _ => ?_
        exact ih

/-- `verification` does not wrap on a table with room. -/
lemma verificationIn_eq {file : Bytes}
    (h : ∀ p ∈ image.partitions, p.lba.toNat + 33 ≤ sectors.toNat) :
    verificationIn image file sectors = lift (verification image file sectors) := by
  rw [verificationIn, verification, verifyEntriesIn_eq h]
  exact lift_bind fun out _ => lift_bind fun _ _ => rfl

/-- The rows keep the starts of the partitions. -/
lemma layoutRows_lba {fullEnd count i : Nat} {rows : List (Bytes × Partition)}
    (h : layoutRows fullEnd count i rows = .ok partitions) :
    partitions.map Partition.lba = rows.map fun r => r.2.lba := by
  induction rows generalizing i partitions with
  | nil =>
    cases h
    rfl
  | cons r rows ih =>
    obtain ⟨_, -, h1⟩ := bind_ok.mp h
    obtain ⟨rest, h2, h3⟩ := bind_ok.mp h1
    cases h3
    rw [List.map_cons, List.map_cons, ih h2]

/-- The checks of the layout do not wrap. -/
lemma verifyLayoutIn_eq {primary tail file : Bytes} (big : 34 ≤ sectors.toNat)
    (h : ∀ p ∈ image.partitions, p.lba.toNat + 33 ≤ sectors.toNat) :
    verifyLayoutIn primary tail sectors image file =
      lift (verifyLayout primary tail sectors image file) := by
  rw [verifyLayoutIn, verifyLayout]
  refine lift_bind fun _ _ => ?_
  dsimp only
  refine lift_bind fun _ _ => ?_
  rw [sub_fits big, ok_bind]
  refine lift_bind fun actual rows => ?_
  have room : ∀ p ∈ actual, p.lba.toNat + 33 ≤ sectors.toNat := by
    intro p hp
    have same := layoutRows_lba rows
    have mem : p.lba ∈ actual.map Partition.lba := List.mem_map_of_mem hp
    rw [same] at mem
    obtain ⟨r, hr, e⟩ := List.mem_map.mp mem
    rw [← e]
    exact h r.2 (List.of_mem_zip hr).2
  rw [@verificationIn_eq { image with partitions := actual } _ _ room]
  cases verification { image with partitions := actual } file sectors with
  | error e => rfl
  | ok out => rfl

end

/-- What an image and a capacity that `validate_capacity` accepts have in common. -/
structure Capacity (image : Image) (sectors : UInt32) : Prop where
  /-- The difference of the capacity is not negative, also where it is not used. -/
  grown : ∀ p ∈ image.partitions, p.lba.toNat + 33 ≤ sectors.toNat ∧
    (sectors - 33 - p.lba).toNat = sectors.toNat - 33 - p.lba.toNat
  /-- Fixed and grown partitions end at or before the last 33 sectors. -/
  fits : ∀ p ∈ image.partitions,
    p.lba.toNat + (p.sectors.getD (sectors - 33 - p.lba)).toNat ≤ sectors.toNat - 33
  plan : planRangesIn sectors image.partitions = .ok (planRanges image sectors)
  verification : ∀ file, verificationIn image file sectors = lift (verification image file sectors)
  layout : ∀ primary tail file, verifyLayoutIn primary tail sectors image file =
    lift (verifyLayout primary tail sectors image file)

/-- Accepted metadata: a table of partitions, a listing of entries, and room for both. -/
theorem metadata_sound :
    (∀ text parts, parameter text = .ok parts → Table parts) ∧
      (∀ text fileBytes rows, entries text fileBytes = .ok rows → Listing text fileBytes rows) ∧
      ∀ image sectors, validateCapacity image sectors = .ok () → Capacity image sectors := by
  refine ⟨fun _ _ => parameter_table, fun _ _ _ => entries_listing, fun image sectors ok => ?_⟩
  obtain ⟨big, room⟩ := validateCapacity_room ok
  have start : ∀ p ∈ image.partitions, p.lba.toNat + 33 ≤ sectors.toNat := by
    intro p hp
    have := room p hp
    omega
  refine
    { grown := fun p hp => ⟨start p hp, grown (start p hp)⟩
      fits := fun p hp => ?_
      plan := planRangesIn_eq start
      verification := fun _ => verificationIn_eq start
      layout := fun _ _ _ => verifyLayoutIn_eq (by omega) start }
  have fits := room p hp
  have below := start p hp
  cases e : p.sectors with
  | none =>
    rw [Option.getD_none, grown below]
    omega
  | some n =>
    rw [e] at fits
    exact fits

/-- The text of a small table and a listing of five entries. -/
def sampleParameter : String :=
  "TYPE: GPT\nmtdparts=rk:0x8@0x8800(rootfs),-@0x9000(userdata:grow)"

def sampleParts : List Partition :=
  [⟨"rootfs", 0x8800, some 8⟩, ⟨"userdata", 0x9000, none⟩]

def sampleLines : List Char :=
  ["Chip Tag:3568\nEntry Count:5\n", "EntryNo=0;partition=loader;offset=0x2;size=0x3\n",
    "EntryNo=1;file=parameter;offset=5;size=1\n", "EntryNo=2;file=uboot;offset=6;size=1\n",
    "EntryNo=3;file=boot;offset=7;size=1\n",
    "EntryNo=4;file=Image/rootfs;type=sparse image;offset=8;size=A\n"].flatMap String.toList

def sampleEntries : List Entry :=
  [⟨"MiniLoaderAll.bin", 2, 3, false⟩, ⟨"parameter", 5, 1, false⟩, ⟨"uboot", 6, 1, false⟩,
    ⟨"boot", 7, 1, false⟩, ⟨"rootfs", 8, 10, true⟩]

/-- A parameter text of two partitions and a listing of two entries. -/
theorem metadata_sound_sample :
    Table sampleParts ∧ Listing (String.ofList sampleLines) 18 sampleEntries ∧
      Capacity ⟨"", "", 18, "RKFW", "Linux", sampleEntries, sampleParts⟩ 40000 := by
  have sorted : Gpt.sortSpans (sampleEntries.map spanOf) = sampleEntries.map spanOf :=
    List.mergeSort_of_pairwise (by decide)
  have read : entryLines 18 (Str.lines sampleLines) [] none = .ok (sampleEntries, some 5) := by
    decide
  have accepted : entries (String.ofList sampleLines) 18 = .ok sampleEntries := by
    rw [entries, String.toList_ofList]
    refine bind_ok.mpr ⟨(), deny_ok.mpr (by decide +kernel), bind_ok.mpr ⟨_, read, ?_⟩⟩
    refine bind_ok.mpr ⟨(), deny_ok.mpr (by decide), bind_ok.mpr ⟨(), deny_ok.mpr ?_, rfl⟩⟩
    rw [sorted]
    decide
  exact ⟨metadata_sound.1 sampleParameter sampleParts (by decide),
    metadata_sound.2.1 _ 18 sampleEntries accepted, metadata_sound.2.2 _ _ (by decide)⟩

end K11CHaos.Engine.Factory

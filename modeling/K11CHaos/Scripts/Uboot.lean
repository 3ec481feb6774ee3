import K11CHaos.Engine.Gpt
import K11CHaos.Lib.Hex

/-!
# U-Boot memory and MMC commands

The commands of the installation plan on a machine of one memory and two MMC cards, read from their
text: `mmc dev`, `mmc read`, `mmc write`, `crc32`, `mw.b`, `mw.l`, `cp.b`, and the commands that
only print. Numbers are hexadecimal, `mw.l` stores little-endian words, and a transfer outside of
the capacity of the card fails.
-/

namespace K11CHaos.Scripts.Uboot

/-- An MMC card: its capacity in sectors and its bytes. -/
structure Card where
  sectors : Nat
  data : Disk

/-- The two MMC devices: `mmc 0` and `mmc 1`. -/
inductive Device where
  | emmc
  | sd
deriving DecidableEq, Repr

/-- A board: its memory, its cards, the current MMC device and what `crc32` printed so far. -/
structure Board where
  ram : Disk
  card : Device → Card
  current : Option Device
  printed : List UInt32

/-- A command. -/
inductive Command where
  | mmcDev (device : Device)
  | mmcRead (addr block count : Nat)
  | mmcWrite (addr block count : Nat)
  | crc32 (addr count : Nat)
  | mwByte (addr value : Nat)
  | mwLong (addr value : Nat)
  | cpByte (source target count : Nat)
  | inform
deriving DecidableEq, Repr

/-- The number of an MMC device. -/
def device : String → Option Device
  | "0" => some .emmc
  | "1" => some .sd
  | _ => none

/-- The command of the words of a line. -/
def command : List String → Option Command
  | ["mmc", "dev", d] => do return .mmcDev (← device d)
  | ["mmc", "read", a, b, n] => do return .mmcRead (← readHex a) (← readHex b) (← readHex n)
  | ["mmc", "write", a, b, n] => do return .mmcWrite (← readHex a) (← readHex b) (← readHex n)
  | ["crc32", a, n] => do return .crc32 (← readHex a) (← readHex n)
  | ["mw.b", a, v] => do return .mwByte (← readHex a) (← readHex v)
  | ["mw.l", a, v] => do return .mwLong (← readHex a) (← readHex v)
  | ["cp.b", s, t, n] => do return .cpByte (← readHex s) (← readHex t) (← readHex n)
  | ["mmc", "info"] => some .inform
  | ["mmc", "part"] => some .inform
  | ["gpt", "verify", "mmc", d] => (device d).map fun _ => .inform
  | _ => none

/-- The CRC that `crc32` prints. -/
def crcOf (b : Bytes) : UInt32 :=
  ~~~ b.foldl Engine.Gpt.crcByte (~~~ 0)

/-- The bytes of one card replaced. -/
def Board.store (m : Board) (d : Device) (data : Disk) : Board :=
  { m with card := fun c => if c = d then { m.card c with data := data } else m.card c }

/-- A store changes the device it names. -/
@[simp] lemma Board.store_same {m : Board} {d : Device} {x : Disk} :
    (m.store d x).card d = { m.card d with data := x } :=
  if_pos rfl

/-- The other device stays as it was. -/
lemma Board.store_other {m : Board} {d c : Device} {x : Disk} (h : c ≠ d) :
    (m.store d x).card c = m.card c :=
  if_neg h

/-- The memory stays as it was. -/
@[simp] lemma Board.store_ram {m : Board} {d : Device} {x : Disk} : (m.store d x).ram = m.ram :=
  rfl

/-- The selected device stays selected. -/
@[simp] lemma Board.store_current {m : Board} {d : Device} {x : Disk} :
    (m.store d x).current = m.current :=
  rfl

/-- A store prints nothing. -/
@[simp] lemma Board.store_printed {m : Board} {d : Device} {x : Disk} :
    (m.store d x).printed = m.printed :=
  rfl

/-- The effect of a command. -/
def exec (m : Board) : Command → Option Board
  | .mmcDev d => some { m with current := some d }
  | .mmcRead a b n => do
    let d ← m.current
    guard (b + n ≤ (m.card d).sectors)
    return { m with ram := writeAt m.ram a (readAt (m.card d).data (b * 512) (n * 512)) }
  | .mmcWrite a b n => do
    let d ← m.current
    guard (b + n ≤ (m.card d).sectors)
    return m.store d (writeAt (m.card d).data (b * 512) (readAt m.ram a (n * 512)))
  | .crc32 a n => some { m with printed := m.printed ++ [crcOf (readAt m.ram a n)] }
  | .mwByte a v => some { m with ram := writeAt m.ram a [UInt8.ofNat v] }
  | .mwLong a v => some { m with ram := writeAt m.ram a (toLe 4 v) }
  | .cpByte s t n => some { m with ram := writeAt m.ram t (readAt m.ram s n) }
  | .inform => some m

/-- One line. -/
def step (m : Board) (text : String) : Option Board :=
  (command (wordsOf text)).bind (exec m)

/-- Lines in order, up to the first that fails. -/
def run (m : Board) (lines : List String) : Option Board :=
  lines.foldlM step m

/-- The first command of a script runs first. -/
lemma run_cons {m : Board} {l : String} {ls : List String} :
    run m (l :: ls) = (step m l).bind fun m' => run m' ls :=
  List.foldlM_cons

/-- A script can be cut in two. -/
lemma run_append {m : Board} {ls ls' : List String} :
    run m (ls ++ ls') = (run m ls).bind fun m' => run m' ls' :=
  List.foldlM_append

/-- An empty script does nothing. -/
@[simp] lemma run_nil {m : Board} : run m [] = some m :=
  rfl

section
variable {m : Board} {a b n v : Nat}

/-- A line of plain words has the effect of the command they make. -/
lemma step_line {ws : List String} {c : Command} (some' : ws ≠ []) (plain : ∀ w ∈ ws, Plain w)
    (parsed : command ws = some c) : step m (line ws) = exec m c := by
  rw [step, wordsOf_line some' plain, parsed, Option.bind_some]

/-- `crc32` prints the checksum of a stretch of memory. -/
lemma step_crc32 : step m (line ["crc32", hex a, hex n]) =
    some { m with printed := m.printed ++ [crcOf (readAt m.ram a n)] } := by
  have parsed : command ["crc32", hex a, hex n] = some (.crc32 a n) := by
    show (do return Command.crc32 (← readHex (hex a)) (← readHex (hex n))) = _
    rw [readHex_hex, readHex_hex]
    rfl
  refine step_line (List.cons_ne_nil _ _) ?_ parsed
  simp only [List.forall_mem_cons, plain_hex]
  decide

/-- `mw.b` writes one byte. -/
lemma step_mwByte {w : Nat} : step m (line ["mw.b", hex a, hexPad w v]) =
    some { m with ram := writeAt m.ram a [UInt8.ofNat v] } := by
  have parsed : command ["mw.b", hex a, hexPad w v] = some (.mwByte a v) := by
    show (do return Command.mwByte (← readHex (hex a)) (← readHex (hexPad w v))) = _
    rw [readHex_hex, readHex_hexPad]
    rfl
  refine step_line (List.cons_ne_nil _ _) ?_ parsed
  simp only [List.forall_mem_cons, plain_hex, plain_hexPad]
  decide

/-- `mw.l` writes one little-endian word. -/
lemma step_mwLong {w : Nat} : step m (line ["mw.l", hex a, hexPad w v]) =
    some { m with ram := writeAt m.ram a (toLe 4 v) } := by
  have parsed : command ["mw.l", hex a, hexPad w v] = some (.mwLong a v) := by
    show (do return Command.mwLong (← readHex (hex a)) (← readHex (hexPad w v))) = _
    rw [readHex_hex, readHex_hexPad]
    rfl
  refine step_line (List.cons_ne_nil _ _) ?_ parsed
  simp only [List.forall_mem_cons, plain_hex, plain_hexPad]
  decide

/-- `cp.b` copies bytes inside the memory. -/
lemma step_cpByte : step m (line ["cp.b", hex a, hex b, hex n]) =
    some { m with ram := writeAt m.ram b (readAt m.ram a n) } := by
  have parsed : command ["cp.b", hex a, hex b, hex n] = some (.cpByte a b n) := by
    show (do
      return Command.cpByte (← readHex (hex a)) (← readHex (hex b)) (← readHex (hex n))) = _
    rw [readHex_hex, readHex_hex, readHex_hex]
    rfl
  refine step_line (List.cons_ne_nil _ _) ?_ parsed
  simp only [List.forall_mem_cons, plain_hex]
  decide

/-- A transfer from the card, its block and its count given as words. -/
lemma step_read {d : Device} {x y : String} (px : Plain x) (py : Plain y)
    (hx : readHex x = some b) (hy : readHex y = some n)
    (now : m.current = some d) (fits : b + n ≤ (m.card d).sectors) :
    step m (line ["mmc", "read", hex a, x, y]) =
      some { m with ram := writeAt m.ram a (readAt (m.card d).data (b * 512) (n * 512)) } := by
  have parsed : command ["mmc", "read", hex a, x, y] = some (.mmcRead a b n) := by
    show (do return Command.mmcRead (← readHex (hex a)) (← readHex x) (← readHex y)) = _
    rw [readHex_hex, hx, hy]
    rfl
  refine (step_line (List.cons_ne_nil _ _) ?_ parsed).trans ?_
  · simp only [List.forall_mem_cons, plain_hex, px, py]
    decide
  · rw [exec, now, Option.bind_eq_bind, Option.bind_some, guard, if_pos fits]
    rfl

/-- A transfer to the card. -/
lemma step_write {d : Device} {x y : String} (px : Plain x) (py : Plain y)
    (hx : readHex x = some b) (hy : readHex y = some n)
    (now : m.current = some d) (fits : b + n ≤ (m.card d).sectors) :
    step m (line ["mmc", "write", hex a, x, y]) =
      some (m.store d (writeAt (m.card d).data (b * 512) (readAt m.ram a (n * 512)))) := by
  have parsed : command ["mmc", "write", hex a, x, y] = some (.mmcWrite a b n) := by
    show (do return Command.mmcWrite (← readHex (hex a)) (← readHex x) (← readHex y)) = _
    rw [readHex_hex, hx, hy]
    rfl
  refine (step_line (List.cons_ne_nil _ _) ?_ parsed).trans ?_
  · simp only [List.forall_mem_cons, plain_hex, px, py]
    decide
  · rw [exec, now, Option.bind_eq_bind, Option.bind_some, guard, if_pos fits]
    rfl

/-- A transfer from the start of the card. -/
lemma step_read_start {d : Device} (now : m.current = some d) (fits : n ≤ (m.card d).sectors) :
    step m (line ["mmc", "read", hex a, "0", hex n]) =
      some { m with ram := writeAt m.ram a (readAt (m.card d).data 0 (n * 512)) } := by
  have zero : readHex "0" = some 0 := by decide
  have done := step_read (m := m) (a := a) (by decide) plain_hex zero readHex_hex now
    ((Nat.zero_add n).symm ▸ fits)
  rwa [Nat.zero_mul] at done

/-- `mmc write` from the first sector on. -/
lemma step_write_start {d : Device} (now : m.current = some d) (fits : n ≤ (m.card d).sectors) :
    step m (line ["mmc", "write", hex a, "0", hex n]) =
      some (m.store d (writeAt (m.card d).data 0 (readAt m.ram a (n * 512)))) := by
  have zero : readHex "0" = some 0 := by decide
  have done := step_write (m := m) (a := a) (by decide) plain_hex zero readHex_hex now
    ((Nat.zero_add n).symm ▸ fits)
  rwa [Nat.zero_mul] at done

/-- A transfer of 33 sectors. -/
lemma step_read_tail {d : Device} (now : m.current = some d) (fits : b + 33 ≤ (m.card d).sectors) :
    step m (line ["mmc", "read", hex a, hex b, "21"]) =
      some { m with ram := writeAt m.ram a (readAt (m.card d).data (b * 512) (33 * 512)) } :=
  step_read plain_hex (by decide) readHex_hex (by decide) now fits

/-- `mmc write` of the last 33 sectors. -/
lemma step_write_tail {d : Device} (now : m.current = some d) (fits : b + 33 ≤ (m.card d).sectors) :
    step m (line ["mmc", "write", hex a, hex b, "21"]) =
      some (m.store d (writeAt (m.card d).data (b * 512) (readAt m.ram a (33 * 512)))) :=
  step_write plain_hex (by decide) readHex_hex (by decide) now fits

/-- A line without numbers. -/
lemma step_fixed {text : String} (ws : List String) {c : Command} (same : line ws = text)
    (some' : ws ≠ []) (plain : ∀ w ∈ ws, Plain w) (parsed : command ws = some c) :
    step m text = exec m c := by
  subst same
  exact step_line some' plain parsed

/-- `mmc dev 1` selects the card. -/
lemma step_dev_sd : step m "mmc dev 1" = some { m with current := some .sd } :=
  step_fixed ["mmc", "dev", "1"] (by decide) (by decide) (by decide) rfl

/-- `mmc dev 0` selects the eMMC. -/
lemma step_dev_emmc : step m "mmc dev 0" = some { m with current := some .emmc } :=
  step_fixed ["mmc", "dev", "0"] (by decide) (by decide) (by decide) rfl

/-- `mmc info` changes nothing. -/
lemma step_info : step m "mmc info" = some m :=
  step_fixed ["mmc", "info"] (by decide) (by decide) (by decide) rfl

/-- `mmc part` changes nothing. -/
lemma step_part : step m "mmc part" = some m :=
  step_fixed ["mmc", "part"] (by decide) (by decide) (by decide) rfl

/-- `gpt verify` changes nothing. -/
lemma step_verify : step m "gpt verify mmc 0" = some m :=
  step_fixed ["gpt", "verify", "mmc", "0"] (by decide) (by decide) (by decide) rfl

end

end K11CHaos.Scripts.Uboot

import K11CHaos.Lib.Lts
import K11CHaos.Npu.Adjust
import K11CHaos.Npu.SetRate

/-!
# The thermal table switch

`set_table_voltage` rewrites the table of the OPP core entry by entry and returns at the first call
of `dev_pm_opp_adjust_voltage` that fails. `monitor_work` records the new mode only after a full
rewrite and stops at an error, so a failure leaves the entries before it in the new mode while
`v->cold` names the old one. That call belongs to the kernel: it is a parameter, of which only its
documented effect on the targets is used (`SetsTarget`).

`Step` are the critical sections of `devfreq_lock`: the switch with the call that fails in it, the
QoS update, the rate of the monitor and the rates of `npu_devfreq_target`. `Consistent` asks that
the table is the one of the recorded mode and that a rate request finds its voltage and limit there.
`consistent_iff` says for every run that this holds at its end exactly if no call failed after an
entry whose warm and cold targets differ.
-/

namespace K11CHaos.Npu.TableSwitch

/-- An enabled OPP in the table of the OPP core. -/
structure CoreOpp where
  hz : Nat
  target : Nat
  minUv : Nat
  maxUv : Nat
deriving DecidableEq, Repr

/-- The rates of a table with their targets. -/
def targets (table : List CoreOpp) : List (Nat × Nat) :=
  table.map fun e => (e.hz, e.target)

/-- The type of `dev_pm_opp_adjust_voltage`, which is part of the kernel: a rate, a target, its bounds, and
    the table before and after a call that succeeds. -/
abbrev AdjustVoltage := (hz uv minUv maxUv : Nat) → List CoreOpp → List CoreOpp

/-- What it is documented to do: the OPP of the rate gets the target, and the others keep theirs. -/
def SetsTarget (adjust : AdjustVoltage) : Prop :=
  ∀ hz uv minUv maxUv table,
    targets (adjust hz uv minUv maxUv table) =
      (targets table).map fun p => if p.1 = hz then (hz, uv) else p

/-- `set_table_voltage` over the OPPs, where the call `failing` fails: the table and whether all
    calls succeeded. -/
def setTableVoltage (adjust : AdjustVoltage) (cold : Bool) :
    Option Nat → List Voltage → List CoreOpp → List CoreOpp × Bool
  | _, [], table => (table, true)
  | some 0, _ :: _, table => (table, false)
  | failing, o :: opps, table =>
    let uv := o.active cold
    setTableVoltage adjust cold (failing.map Nat.pred) opps (adjust o.hz uv uv o.maxUv table)

/-- Progress of `monitor_work`; `stopped` is the return after an error. -/
inductive Monitor where
  | idle
  | switched
  | stopped
deriving DecidableEq, Repr

/-- The recorded mode, the table of the OPP core and the progress of the monitor. -/
structure State where
  cold : Bool
  table : List CoreOpp
  monitor : Monitor
deriving DecidableEq, Repr

/-- The critical sections. A switch carries the temperature and the call that fails, a rate the
    request and the entry whose voltages `k11c_vendor_set_rate` votes for. -/
inductive Act where
  | sample (temp : Int)
  | switch (temp : Int) (failing : Option Nat)
  | qosFails
  | adjust (hz : Nat) (e : CoreOpp)
  | adjustFails
  | rate (hz : Nat) (e : CoreOpp)
deriving DecidableEq, Repr

/-- The lookup of `k11c_vendor_set_rate` for a request, under the limit of the recorded mode. -/
def State.lookup (v : Vendor) (s : State) (hz : Nat) : Option CoreOpp :=
  s.table.find? fun e => decide (v.limited s.cold hz ≤ e.hz)

/-- The state after the first critical section of a transition. -/
def State.afterSwitch (adjust : AdjustVoltage) (v : Vendor) (s : State) (failing : Option Nat) : State :=
  let (table, ok) := setTableVoltage adjust (!s.cold) failing v.opps s.table
  { cold := if ok then !s.cold else s.cold
    table := table
    monitor := if ok then .switched else .stopped }

/-- Steps under the policy `v`. -/
inductive Step (adjust : AdjustVoltage) (v : Vendor) : State → Act → State → Prop where
  | sample {s temp} :
    s.monitor = .idle →
    coldState s.cold temp v.low v.hysteresis = s.cold →
    Step adjust v s (.sample temp) s
  | switch {s temp failing} :
    s.monitor = .idle →
    coldState s.cold temp v.low v.hysteresis ≠ s.cold →
    Step adjust v s (.switch temp failing) (s.afterSwitch adjust v failing)
  | qosFails {s} :
    s.monitor = .switched →
    v.coldLimit ≠ 0 →
    Step adjust v s .qosFails { s with monitor := .stopped }
  | adjust {s hz e} :
    s.monitor = .switched →
    s.lookup v hz = some e →
    Step adjust v s (.adjust hz e) { s with monitor := .idle }
  | adjustFails {s} :
    s.monitor = .switched →
    Step adjust v s .adjustFails { s with monitor := .stopped }
  | rate {s hz e} :
    s.lookup v hz = some e →
    Step adjust v s (.rate hz e) s

/-- As `k11c_vendor_prepare` leaves the table: rewritten for the initial mode without a failure. -/
def Init (adjust : AdjustVoltage) (v : Vendor) (s : State) : Prop :=
  s.monitor = .idle ∧ ∃ table : List CoreOpp,
    table.map CoreOpp.hz = v.opps.map Voltage.hz ∧
    setTableVoltage adjust s.cold none v.opps table = (s.table, true)

/-- The rate of an OPP with its target in a mode. -/
def rated (cold : Bool) (o : Voltage) : Nat × Nat := (o.hz, o.active cold)

/-- The table is the one of the recorded mode. -/
def Installed (v : Vendor) (s : State) : Prop :=
  targets s.table = v.opps.map (rated s.cold)

/-- What is asked of a state: the installed targets are those of the recorded mode, and any rate
    request votes for the target that this mode gives the OPP of the request, under its limit. -/
structure Consistent (v : Vendor) (s : State) : Prop where
  installed : Installed v s
  rate : ∀ hz e, s.lookup v hz = some e →
    ∃ o, v.findFreqCeil (v.limited s.cold hz) = some o ∧ e.hz = o.hz ∧ e.target = o.active s.cold ∧
      (s.cold = true → v.coldLimit ≠ 0 → e.hz ≤ v.coldLimit)

/-- The two modes agree on every entry that a switch rewrote before its call `i` failed. -/
def Harmless (v : Vendor) (i : Nat) : Prop :=
  i < v.opps.length → ∀ o ∈ v.opps.take i, o.uv = o.coldUv

/-- How many entries a switch rewrites. -/
def rewritten (failing : Option Nat) (count : Nat) : Nat :=
  match failing with
  | none => count
  | some i => min i count

/-- A switch rewrites the targets of the entries before the failing call, and leaves the others. -/
lemma setTableVoltage_targets {adjust : AdjustVoltage} {cold failing} {opps : List Voltage}
    {table done rest}
    (sets : SetsTarget adjust)
    (asc : opps.Pairwise fun o p => o.hz < p.hz)
    (old : targets table = done ++ rest)
    (rates : rest.map Prod.fst = opps.map Voltage.hz)
    (apart : ∀ p ∈ done, ∀ o ∈ opps, p.1 ≠ o.hz) :
    targets (setTableVoltage adjust cold failing opps table).1 =
      done ++ (opps.take (rewritten failing opps.length)).map (rated cold) ++
        rest.drop (rewritten failing opps.length) := by
  induction opps generalizing failing table done rest with
  | nil =>
    obtain rfl : rest = [] := by simpa using rates
    simp [setTableVoltage, old]
  | cons o opps ih =>
    obtain ⟨above, asc⟩ := List.pairwise_cons.mp asc
    cases rest with
    | nil => cases rates
    | cons r rest =>
      obtain ⟨head, rates⟩ := List.cons.inj rates
      -- the call for `o` rewrites its entry only
      have call : targets (adjust o.hz (o.active cold) (o.active cold) o.maxUv table) =
          (done ++ [rated cold o]) ++ rest := by
        have keep (ps : List (Nat × Nat)) (ne : ∀ p ∈ ps, p.1 ≠ o.hz) :
            (ps.map fun p => if p.1 = o.hz then (o.hz, o.active cold) else p) = ps := by
          conv_rhs => rw [← List.map_id ps]
          exact List.map_congr_left fun p mem => if_neg (ne p mem)
        have later (p) (mem : p ∈ rest) : p.1 ≠ o.hz := by
          have mem' : p.1 ∈ opps.map Voltage.hz := rates ▸ List.mem_map_of_mem mem
          obtain ⟨q, hq, eq⟩ := List.mem_map.mp mem'
          exact eq ▸ (Nat.ne_of_lt (above q hq)).symm
        rw [sets, old, List.map_append, List.map_cons, if_pos head,
          keep done fun p mem => apart p mem o List.mem_cons_self, keep rest later,
          List.append_assoc]
        rfl
      have apart' : ∀ p ∈ done ++ [rated cold o], ∀ q ∈ opps, p.1 ≠ q.hz := by
        rw [List.forall_mem_append]
        refine ⟨fun p mem q hq => apart p mem q (List.mem_cons_of_mem _ hq), ?_⟩
        intro p mem q hq
        obtain rfl := List.mem_singleton.mp mem
        exact Nat.ne_of_lt (above q hq)
      cases failing with
      | none =>
        have rest' := @ih none _ _ _ asc call rates apart'
        simpa [setTableVoltage, rewritten] using rest'
      | some i =>
        cases i with
        | zero => simp [setTableVoltage, rewritten, old]
        | succ i =>
          have rest' := @ih (some i) _ _ _ asc call rates apart'
          simpa [setTableVoltage, rewritten, Nat.succ_min_succ] using rest'

/-- A switch succeeds unless its failing call comes before the end of the table. -/
lemma setTableVoltage_ok {adjust : AdjustVoltage} {cold failing} {opps : List Voltage} {table} :
    (setTableVoltage adjust cold failing opps table).2 = true ↔
      ∀ i, failing = some i → opps.length ≤ i := by
  induction opps generalizing failing table with
  | nil => simp [setTableVoltage]
  | cons o opps ih =>
    cases failing with
    | none => simp [setTableVoltage, ih]
    | some i =>
      cases i with
      | zero => simp [setTableVoltage]
      | succ i => simp [setTableVoltage, ih]

/-- The two targets of an OPP in either order. -/
lemma active_eq_iff {cold : Bool} {o : Voltage} :
    o.active (!cold) = o.active cold ↔ o.uv = o.coldUv := by
  cases cold with
  | false => exact eq_comm
  | true => exact Iff.rfl

section Table

variable {adjust : AdjustVoltage} {v : Vendor}

/-- A switch without a failure installs its mode, whatever the table was. -/
lemma setTableVoltage_all {cold failing} {table : List CoreOpp}
    (sets : SetsTarget adjust)
    (asc : v.opps.Pairwise fun o p => o.hz < p.hz)
    (rates : table.map CoreOpp.hz = v.opps.map Voltage.hz)
    (ok : ∀ i, failing = some i → v.opps.length ≤ i) :
    targets (setTableVoltage adjust cold failing v.opps table).1 = v.opps.map (rated cold) := by
  have rates' : (targets table).map Prod.fst = v.opps.map Voltage.hz := by
    unfold targets
    rw [List.map_map]
    exact rates
  have all := @setTableVoltage_targets _ cold failing _ _ [] (targets table) sets asc rfl rates' nofun
  have count : rewritten failing v.opps.length = v.opps.length := by
    cases failing with
    | none => rfl
    | some i => exact Nat.min_eq_right (ok i rfl)
  have last : (targets table).length = v.opps.length := by
    simpa using congrArg List.length rates'
  rw [count, List.take_length, ← last, List.drop_length] at all
  simpa using all

/-- A table prepared for a mode is installed for it. -/
lemma Init.installed {s}
    (sets : SetsTarget adjust)
    (asc : v.opps.Pairwise fun o p => o.hz < p.hz)
    (init : Init adjust v s) : Installed v s := by
  obtain ⟨_, table, rates, set⟩ := init
  have all := @setTableVoltage_all _ _ s.cold none _ sets asc rates nofun
  rw [set] at all
  exact all

/-- The rates of an installed table. -/
lemma Installed.rates {s}
    (inst : Installed v s) : s.table.map CoreOpp.hz = v.opps.map Voltage.hz := by
  have := congrArg (List.map Prod.fst) inst
  simpa [targets, rated, Function.comp_def] using this

/-- A transition without a failure installs the new mode. -/
lemma Installed.switched {s failing}
    (sets : SetsTarget adjust)
    (asc : v.opps.Pairwise fun o p => o.hz < p.hz)
    (inst : Installed v s)
    (ok : ∀ i, failing = some i → v.opps.length ≤ i) : Installed v (s.afterSwitch adjust v failing) := by
  have all := @setTableVoltage_all _ _ (!s.cold) _ _ sets asc inst.rates ok
  have succeeds := (@setTableVoltage_ok adjust (!s.cold) _ _ s.table).mpr ok
  simpa [Installed, State.afterSwitch, succeeds] using all

/-- After a failure the table is the one of the recorded mode exactly if the rewritten entries have
    one target for both modes. -/
lemma Installed.failed_iff {s i}
    (sets : SetsTarget adjust)
    (asc : v.opps.Pairwise fun o p => o.hz < p.hz)
    (inst : Installed v s)
    (lt : i < v.opps.length) :
    Installed v (s.afterSwitch adjust v (some i)) ↔ ∀ o ∈ v.opps.take i, o.uv = o.coldUv := by
  have all := @setTableVoltage_targets _ (!s.cold) (some i) _ _ [] _ sets asc
    inst (by simp [rated, Function.comp_def]) nofun
  have count : rewritten (some i) v.opps.length = i := Nat.min_eq_left (Nat.le_of_lt lt)
  have fails : (setTableVoltage adjust (!s.cold) (some i) v.opps s.table).2 = false := by
    rw [← Bool.not_eq_true, setTableVoltage_ok]
    exact fun ok => Nat.not_le.mpr lt (ok i rfl)
  rw [count, List.nil_append, ← List.map_drop] at all
  have split : v.opps.map (rated s.cold) =
      (v.opps.take i).map (rated s.cold) ++ (v.opps.drop i).map (rated s.cold) := by
    rw [← List.map_append, List.take_append_drop]
  simp only [Installed, State.afterSwitch, fails, Bool.false_eq_true, if_false]
  rw [all, split, List.append_left_inj, List.map_inj_left]
  refine forall₂_congr fun o _ => ?_
  rw [← @active_eq_iff s.cold]
  simp [rated]

/-- The recorded mode after a failure is the one before it, and the monitor has stopped. -/
lemma afterSwitch_failed {s : State} {i}
    (lt : i < v.opps.length) :
    (s.afterSwitch adjust v (some i)).monitor = .stopped := by
  have fails : (setTableVoltage adjust (!s.cold) (some i) v.opps s.table).2 = false := by
    rw [← Bool.not_eq_true, setTableVoltage_ok]
    exact fun ok => Nat.not_le.mpr lt (ok i rfl)
  simp [State.afterSwitch, fails]

/-- A stopped monitor makes no transition. -/
lemma stopped_run {s s' as}
    (stop : s.monitor = .stopped)
    (run : Lts.Path (Step adjust v) s as s') :
    s' = s ∧ ∀ temp failing, Act.switch temp failing ∉ as := by
  induction run with
  | nil => exact ⟨rfl, nofun⟩
  | cons st _ ih =>
    cases st with
    | sample idle => rw [stop] at idle; cases idle
    | switch idle => rw [stop] at idle; cases idle
    | qosFails sw => rw [stop] at sw; cases sw
    | adjust sw => rw [stop] at sw; cases sw
    | adjustFails sw => rw [stop] at sw; cases sw
    | rate =>
      obtain ⟨rfl, none⟩ := ih stop
      exact ⟨rfl, fun temp failing mem => none temp failing (by simpa using mem)⟩

/-- From a table of the recorded mode, a run ends in one exactly if its failures are harmless. -/
lemma run_installed_iff {s s' as}
    (sets : SetsTarget adjust)
    (asc : v.opps.Pairwise fun o p => o.hz < p.hz)
    (inst : Installed v s)
    (run : Lts.Path (Step adjust v) s as s') :
    Installed v s' ↔ ∀ temp i, Act.switch temp (some i) ∈ as → Harmless v i := by
  induction run with
  | nil => exact iff_of_true inst nofun
  | @cons s a s1 as s' st run ih =>
    -- a step that is no switch leaves table and mode as they are
    have same (inst' : Installed v s1) (no : ∀ temp i, a ≠ .switch temp (some i)) :
        Installed v s' ↔ ∀ temp i, Act.switch temp (some i) ∈ a :: as → Harmless v i := by
      rw [ih inst']
      refine forall₂_congr fun temp i => ?_
      rw [List.mem_cons, or_iff_right (no temp i).symm]
    cases st with
    | sample => exact same inst nofun
    | qosFails => exact same inst nofun
    | adjust => exact same inst nofun
    | adjustFails => exact same inst nofun
    | rate => exact same inst nofun
    | @switch temp failing =>
      by_cases ok : ∀ i, failing = some i → v.opps.length ≤ i
      · rw [ih (inst.switched sets asc ok)]
        refine forall₂_congr fun temp' i => ?_
        rw [List.mem_cons]
        refine ⟨fun rest mem => ?_, fun all mem => all (.inr mem)⟩
        obtain eq | mem := mem
        · injection eq with _ eq
          exact fun lt => absurd lt (Nat.not_lt.mpr (ok i eq.symm))
        · exact rest mem
      · obtain ⟨i, rfl, lt⟩ : ∃ i, failing = some i ∧ i < v.opps.length := by
          simpa using ok
        obtain ⟨rfl, none⟩ := stopped_run (afterSwitch_failed lt) run
        rw [inst.failed_iff sets asc lt]
        constructor
        · intro equal temp' j mem
          obtain eq | mem := List.mem_cons.mp mem
          · injection eq with _ eq
            obtain rfl := Option.some.inj eq
            exact fun _ => equal
          · exact absurd mem (none temp' (some j))
        · intro all
          exact all temp i List.mem_cons_self lt

/-- The cold limit of a prepared table is one of its rates. -/
lemma coldLimit_mem
    (prep : v.Prepared)
    (asc : v.opps.Pairwise fun o p => o.hz < p.hz)
    (some : v.coldLimit ≠ 0) : ∃ o ∈ v.opps, o.hz = v.coldLimit := by
  obtain ⟨opps, otp, maxUv, delta, low, hysteresis, rfl⟩ := prep
  rw [prepare_eq] at asc some ⊢
  simp only [coldTable, coldTableFrom_opps] at asc some ⊢
  rw [List.pairwise_map] at asc
  rw [coldTableFrom_limit asc (fun _ _ => Nat.zero_le _) fun _ => rfl] at some ⊢
  obtain zero | zero | ⟨o, mem, eq⟩ := @scan_mem maxUv (fun o => o.uv + delta) 0 0 false
    ((enabled otp maxUv opps).map fun o => clampTo maxUv (adjustOpp otp o))
  · exact absurd zero some
  · exact absurd zero some
  · exact ⟨_, List.mem_map_of_mem mem, eq.symm⟩

/-- On a table of the recorded mode a rate request is served as that mode says. -/
lemma Installed.consistent {s}
    (prep : v.Prepared)
    (asc : v.opps.Pairwise fun o p => o.hz < p.hz)
    (inst : Installed v s) : Consistent v s := by
  refine ⟨inst, fun hz e found => ?_⟩
  have both : ((s.table.find? fun e => decide (v.limited s.cold hz ≤ e.hz)).map
      fun e => (e.hz, e.target)) =
      (v.opps.find? fun o => decide (v.limited s.cold hz ≤ o.hz)).map (rated s.cold) := by
    have := congrArg (List.find? fun p => decide (v.limited s.cold hz ≤ p.1)) inst
    rw [targets, List.find?_map, List.find?_map] at this
    exact this
  rw [show (s.table.find? fun e => decide (v.limited s.cold hz ≤ e.hz)) = some e from found] at both
  cases ceil : v.findFreqCeil (v.limited s.cold hz) with
  | none =>
    rw [show (v.opps.find? fun o => decide (v.limited s.cold hz ≤ o.hz)) = none from ceil] at both
    cases both
  | some o =>
    rw [show (v.opps.find? fun o => decide (v.limited s.cold hz ≤ o.hz)) = some o from ceil] at both
    obtain ⟨rate, target⟩ := Prod.mk.inj (Option.some.inj both)
    refine ⟨o, rfl, rate, target, fun cold limit => ?_⟩
    obtain ⟨p, mem, eq⟩ := coldLimit_mem prep asc limit
    have under : v.limited s.cold hz ≤ p.hz := by
      rw [eq, Vendor.limited, cold]
      by_cases beyond : hz > v.coldLimit
      · simp [limit, beyond]
      · simp [beyond, Nat.not_lt.mp beyond]
    rw [rate, ← eq]
    exact findFreqCeil_rel (R := fun o p => o.hz ≤ p.hz) (fun _ => Nat.le_refl _)
      (asc.imp Nat.le_of_lt) ceil mem under

end Table

/-- In every run from a prepared table, whatever transitions and rate requests it makes and
    whichever call fails, the state it ends in is consistent exactly if each failing call comes
    before the first entry whose warm and cold targets differ has been rewritten. -/
theorem consistent_iff {adjust : AdjustVoltage} {v : Vendor} {as : List Act} {s : State}
    (sets : SetsTarget adjust)
    (prep : v.Prepared)
    (asc : v.opps.Pairwise fun o p => o.hz < p.hz)
    (run : Lts.Exec (Init adjust v) (Step adjust v) as s) :
    Consistent v s ↔ ∀ temp i, Act.switch temp (some i) ∈ as → Harmless v i := by
  obtain ⟨s0, init, path⟩ := run
  rw [← run_installed_iff sets asc (init.installed sets asc) path]
  exact ⟨fun cons => cons.installed, fun inst => inst.consistent prep asc⟩

/-- A `dev_pm_opp_adjust_voltage` as the OPP core has it: an entry is left alone whose target stays. -/
def replaceVoltage : AdjustVoltage := fun hz uv minUv maxUv table =>
  table.map fun e => if e.hz = hz ∧ e.target ≠ uv then ⟨hz, uv, minUv, maxUv⟩ else e

/-- Replacing the voltages sets the target. -/
lemma replaceVoltage_sets : SetsTarget replaceVoltage := by
  intro hz uv minUv maxUv table
  simp only [targets, replaceVoltage, List.map_map]
  apply List.map_congr_left
  intro e _
  by_cases eq : e.hz = hz
  · by_cases same : e.target = uv <;> simp [eq, same]
  · simp [eq]

/-- The table of the board for a mode. -/
def boardTable (cold : Bool) : List CoreOpp :=
  boardL3.opps.map fun o => ⟨o.hz, o.active cold, o.active cold, o.maxUv⟩

/-- The board after probing warm. -/
def boardWarm : State := ⟨false, boardTable false, .idle⟩

/-- The board probes into its warm table. -/
lemma boardWarm_init : Init replaceVoltage boardL3 boardWarm :=
  ⟨rfl, boardTable false, by decide, by decide⟩

/-- A cold transition of the board whose first call fails leaves the warm table. -/
theorem consistent_first_call :
    Consistent boardL3 (boardWarm.afterSwitch replaceVoltage boardL3 (some 0)) := by
  have run : Lts.Exec (Init replaceVoltage boardL3) (Step replaceVoltage boardL3) [.switch (-1000) (some 0)]
      (boardWarm.afterSwitch replaceVoltage boardL3 (some 0)) :=
    ⟨boardWarm, boardWarm_init, .cons (.switch rfl (by decide)) .nil⟩
  refine (consistent_iff replaceVoltage_sets ⟨_, _, _, _, _, _, rfl⟩ (by decide) run).mpr ?_
  intro temp i mem _ o before
  cases List.mem_singleton.mp mem
  cases before

/-- A cold transition of the board whose second call fails leaves the table of no mode. -/
theorem switch_leaves_mixed_table :
    ¬ ∀ adjust v as s, SetsTarget adjust → v.Prepared →
      (v.opps.Pairwise fun o p : Voltage => o.hz < p.hz) →
      Lts.Exec (Init adjust v) (Step adjust v) as s → Consistent v s := by
  intro claim
  have run : Lts.Exec (Init replaceVoltage boardL3) (Step replaceVoltage boardL3) [.switch (-1000) (some 1)]
      (boardWarm.afterSwitch replaceVoltage boardL3 (some 1)) :=
    ⟨boardWarm, boardWarm_init, .cons (.switch rfl (by decide)) .nil⟩
  have cons := claim replaceVoltage boardL3 _ _ replaceVoltage_sets ⟨_, _, _, _, _, _, rfl⟩ (by decide) run
  have mixed : targets (boardWarm.afterSwitch replaceVoltage boardL3 (some 1)).table ≠
      boardL3.opps.map (rated (boardWarm.afterSwitch replaceVoltage boardL3 (some 1)).cold) := by
    decide
  exact mixed cons.installed

end K11CHaos.Npu.TableSwitch

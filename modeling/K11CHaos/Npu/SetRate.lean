import K11CHaos.Lib.Lts
import K11CHaos.Npu.Opp

/-!
# NPU rate, thermal table and idle clock

The run-time half of `k11c_vendor_opp.c` with its caller `npu_devfreq_target`: `k11c_vendor_set_rate`
cut at every access to the clock and the regulator, `monitor_work` cut where it takes and leaves
`devfreq_lock`, and `k11c_vendor_suspend` and `k11c_vendor_resume`, which take no lock. A label
carries what a clock or regulator call was asked for and where it settled; `Act.Succeeds` says that
it settled as a successful call does.

The regulator is meant to hold, whenever none of these functions is in progress, a voltage of the
active table for the live clock rate (`State.Safe`). `k11c_vendor_resume` raises the clock without a
vote, so this fails after a thermal transition that voted for the idle clock
(`resume_undervolts_after_transition`). With every resume bound to a rate that the regulator already
holds (`Act.Covered`), `State.Inv` is kept by each step (`State.inv_step`) and gives the law for whole
runs (`voltage_safe`).
-/

namespace K11CHaos.Npu

/-- Who holds `devfreq_lock` around `k11c_vendor_set_rate`: `npu_devfreq_target`, or `monitor_work`
    with the `requested` frequency it puts back. -/
inductive Caller where
  | target
  | monitor (requested : Nat)
deriving DecidableEq, Repr

/-- Progress of `k11c_vendor_set_rate`; `free` is an unheld `devfreq_lock`. -/
inductive Rate where
  | free
  | entered (hz : Nat) (by' : Caller)
  | chosen (opp : Voltage) (by' : Caller)
  | measured (opp : Voltage) (oldHz : Nat) (by' : Caller)
  | lowered (opp : Voltage) (oldHz : Nat) (by' : Caller)
  | voted (opp : Voltage) (oldHz uv : Nat) (by' : Caller)
  | clocked (opp : Voltage) (uv : Nat) (by' : Caller)
deriving DecidableEq, Repr

/-- Progress of `monitor_work`; `stopped` is the return after an error. -/
inductive Monitor where
  | idle
  | sampled (cold : Bool)
  | switched
  | adjusting
  | stopped
deriving DecidableEq, Repr

/-- The NPU clock and regulator, the saved request, the table in force and who is in progress.
    `resuming` holds the `current_freq` that `k11c_vendor_resume` has read. -/
structure State where
  clk : Nat
  uv : Nat
  currentFreq : Nat
  currentVolt : Nat
  cold : Bool
  rate : Rate
  monitor : Monitor
  resuming : Option Nat
deriving DecidableEq, Repr

/-- One step of one of the four functions. A clock step carries the rate asked for and the rate it
    settled at, the vote carries its window and the voltage read back. -/
inductive Act where
  | target (hz : Nat)
  | choose
  | measure
  | down (hz settled : Nat)
  | skipDown
  | vote (lo hi settled : Nat)
  | up (hz settled : Nat)
  | skipUp
  | finish
  | sample (temp : Int)
  | switch
  | adjust
  | suspend (settled : Nat)
  | resumeRead
  | resumeSet (hz settled : Nat)
deriving DecidableEq, Repr

/-- `clk_set_rate` settles at a positive rate not above the request, a regulator vote inside its
    window. -/
def Act.Succeeds : Act → Prop
  | .down hz r | .up hz r | .resumeSet hz r => 0 < r ∧ r ≤ hz
  | .suspend r => 0 < r ∧ r ≤ 200000000
  | .vote lo hi u => lo ≤ u ∧ u ≤ hi
  | _ => True

/-- The normal end of `k11c_vendor_set_rate` and of its caller. -/
def State.finished (s : State) (o : Voltage) (uv : Nat) : Caller → State
  | .target => { s with currentFreq := o.hz, currentVolt := uv, rate := .free }
  | .monitor requested =>
    { s with currentFreq := requested, currentVolt := uv, rate := .free, monitor := .idle }

/-- The end with `-ERANGE`: the monitor does not schedule itself again. -/
def State.failed (s : State) : Caller → State
  | .target => { s with rate := .free }
  | .monitor requested =>
    { s with currentFreq := requested, rate := .free, monitor := .stopped }

/-- Steps of the NPU under the policy `v`. -/
inductive Step (v : Vendor) : State → Act → State → Prop where
  | target {s hz} :
    s.rate = .free →
    Step v s (.target hz) { s with rate := .entered hz .target }
  | choose {s hz c o} :
    s.rate = .entered hz c →
    v.findFreqCeil (v.limited s.cold hz) = some o →
    Step v s .choose { s with rate := .chosen o c }
  | measure {s o c} :
    s.rate = .chosen o c →
    Step v s .measure { s with rate := .measured o s.clk c }
  | down {s o old c r} :
    s.rate = .measured o old c →
    o.hz < old →
    Step v s (.down o.hz r) { s with clk := r, rate := .lowered o old c }
  | skipDown {s o old c} :
    s.rate = .measured o old c →
    old ≤ o.hz →
    Step v s .skipDown { s with rate := .lowered o old c }
  | vote {s o old c u} :
    s.rate = .lowered o old c →
    o.active s.cold ≤ u ∧ u ≤ o.maxUv →
    Step v s (.vote (o.active s.cold) o.maxUv u) { s with uv := u, rate := .voted o old u c }
  | voteFails {s o old c u} :
    s.rate = .lowered o old c →
    ¬ (o.active s.cold ≤ u ∧ u ≤ o.maxUv) →
    Step v s (.vote (o.active s.cold) o.maxUv u) { s.failed c with uv := u }
  | up {s o old u c r} :
    s.rate = .voted o old u c →
    old ≤ o.hz →
    Step v s (.up o.hz r) { s with clk := r, rate := .clocked o u c }
  | skipUp {s o old u c} :
    s.rate = .voted o old u c →
    o.hz < old →
    Step v s .skipUp { s with rate := .clocked o u c }
  | finish {s o u c} :
    s.rate = .clocked o u c →
    0 < s.clk ∧ s.clk ≤ o.hz →
    Step v s .finish (s.finished o u c)
  | finishFails {s o u c} :
    s.rate = .clocked o u c →
    ¬ (0 < s.clk ∧ s.clk ≤ o.hz) →
    Step v s .finish (s.failed c)
  -- only the work item itself writes `cold`, so reading it outside the lock is no step of its own
  | sample {s temp} :
    s.monitor = .idle →
    coldState s.cold temp v.low v.hysteresis ≠ s.cold →
    Step v s (.sample temp)
      { s with monitor := .sampled (coldState s.cold temp v.low v.hysteresis) }
  | sampleSame {s temp} :
    s.monitor = .idle →
    coldState s.cold temp v.low v.hysteresis = s.cold →
    Step v s (.sample temp) s
  | switch {s c} :
    s.monitor = .sampled c →
    s.rate = .free →
    Step v s .switch { s with cold := c, monitor := .switched }
  -- the QoS update between the two critical sections runs `npu_devfreq_target`, a `target` step
  | adjust {s} :
    s.monitor = .switched →
    s.rate = .free →
    Step v s .adjust
      { s with rate := .entered s.clk (.monitor s.currentFreq), monitor := .adjusting }
  | suspend {s r} :
    Step v s (.suspend r) { s with clk := r }
  | resumeRead {s} :
    s.resuming = none →
    s.currentFreq ≠ 0 ∧ s.currentVolt ≠ 0 →
    Step v s .resumeRead { s with resuming := some s.currentFreq }
  | resumeSet {s f r} :
    s.resuming = some f →
    Step v s (.resumeSet f r) { s with clk := r, resuming := none }

/-- The regulator is inside the window of an OPP in the table in force. -/
def State.Within (s : State) (o : Voltage) : Prop :=
  o.active s.cold ≤ s.uv ∧ s.uv ≤ o.maxUv

instance (s : State) (o : Voltage) : Decidable (s.Within o) :=
  inferInstanceAs (Decidable (_ ∧ _))

/-- The regulator holds what the table in force requires for a rate. -/
def State.Holds (v : Vendor) (s : State) (hz : Nat) : Prop :=
  ∃ o, v.findFreqCeil hz = some o ∧ s.Within o

/-- The regulator holds what the table in force requires for the live rate. -/
def State.Safe (v : Vendor) (s : State) : Prop :=
  s.Holds v s.clk

/-- None of the four functions is in progress. -/
def State.Quiescent (s : State) : Prop :=
  s.rate = .free ∧ (s.monitor = .idle ∨ s.monitor = .stopped) ∧ s.resuming = none

/-- As `rknpu_devfreq_init` leaves the NPU: its first `k11c_vendor_set_rate` has been applied. -/
def Init (v : Vendor) (s : State) : Prop :=
  ∃ o ∈ v.opps, 0 < s.clk ∧ s.clk ≤ o.hz ∧ s.Within o ∧
    s.currentFreq = s.clk ∧ s.currentVolt = s.uv ∧
    s.rate = .free ∧ s.monitor = .idle ∧ s.resuming = none

/-- A resume sets the clock only outside `k11c_vendor_set_rate`, and only to a frequency that the
    regulator already holds, unless the vote of a thermal transition is still to come. -/
def Act.Covered (v : Vendor) (s : State) (a : Act) : Prop :=
  ∀ f r, a = .resumeSet f r → s.rate = .free ∧ (s.monitor = .switched ∨ s.Holds v f)

/-- What holds at each point of `k11c_vendor_set_rate`. -/
def State.RateInv (v : Vendor) (s : State) : Rate → Prop
  | .free => s.monitor = .switched ∨ ∃ o ∈ v.opps, s.clk ≤ o.hz ∧ s.Within o
  | .entered _ _ => True
  | .chosen o _ => o ∈ v.opps
  | .measured o old _ => o ∈ v.opps ∧ (s.clk ≤ old ∨ s.clk ≤ 200000000)
  | .lowered o _ _ => o ∈ v.opps ∧ s.clk ≤ o.hz
  | .voted o _ _ _ | .clocked o _ _ => o ∈ v.opps ∧ s.clk ≤ o.hz ∧ s.Within o

/-- The invariant of the runs with covered resumes. -/
structure State.Inv (v : Vendor) (s : State) : Prop where
  pos : 0 < s.clk
  rate : s.RateInv v s.rate

/-- On an ordered table the window of an OPP is inside the window of every rate below it. -/
lemma State.Within.holds {v : Vendor} {s : State} {o hz}
    (prep : v.Prepared)
    (ord : v.Ordered)
    (mem : o ∈ v.opps)
    (le : hz ≤ o.hz)
    (w : s.Within o) : s.Holds v hz := by
  obtain ⟨p, found⟩ := findFreqCeil_exists mem le
  refine ⟨p, found, ?_, ?_⟩
  · exact Nat.le_trans (ord.active_le prep found mem le) w.1
  · exact Nat.le_trans w.2 (ord.max_le found mem le)

/-- Initial states satisfy the invariant. -/
lemma State.inv_init {v s} (init : Init v s) : s.Inv v := by
  obtain ⟨o, mem, pos, le, w, _, _, free, _⟩ := init
  exact ⟨pos, by rw [free]; exact .inr ⟨o, mem, le, w⟩⟩

/-- A suspended clock is below every OPP, so it keeps what holds of the live rate. -/
lemma State.rateInv_suspend {v : Vendor} {s : State} {r c}
    (ord : v.Ordered)
    (le : r ≤ 200000000)
    (inv : s.RateInv v c) : { s with clk := r }.RateInv v c := by
  have below (o) (mem : o ∈ v.opps) : r ≤ o.hz := Nat.le_trans le (ord.idle o mem)
  cases c with
  | free =>
    obtain sw | ⟨o, mem, _, w⟩ := inv
    · exact .inl sw
    · exact .inr ⟨o, mem, below o mem, w⟩
  | entered => trivial
  | chosen => exact inv
  | measured => exact ⟨inv.1, .inr le⟩
  | lowered o => exact ⟨inv.1, below o inv.1⟩
  | voted o | clocked o => exact ⟨inv.1, below o inv.1, inv.2.2⟩

/-- The invariant is kept by every successful step whose resumes are covered. -/
lemma State.inv_step {v : Vendor} {s a s'}
    (ord : v.Ordered)
    (inv : s.Inv v)
    (ok : a.Succeeds)
    (cov : a.Covered v s)
    (st : Step v s a s') : s'.Inv v := by
  have rate := inv.rate
  cases st with
  | target => exact ⟨inv.pos, trivial⟩
  | choose _ found => exact ⟨inv.pos, findFreqCeil_mem found⟩
  | measure e =>
    rw [e] at rate
    exact ⟨inv.pos, rate, .inl (Nat.le_refl _)⟩
  | down e =>
    rw [e] at rate
    exact ⟨ok.1, rate.1, ok.2⟩
  | @skipDown o old c e le =>
    rw [e] at rate
    refine ⟨inv.pos, rate.1, ?_⟩
    have idle := ord.idle o rate.1
    obtain h | h := rate.2 <;> dsimp only <;> omega
  | vote e w =>
    rw [e] at rate
    exact ⟨inv.pos, rate.1, rate.2, w⟩
  | voteFails _ w => exact (w ok).elim
  | up e =>
    rw [e] at rate
    exact ⟨ok.1, rate.1, ok.2, rate.2.2⟩
  | skipUp e =>
    rw [e] at rate
    exact ⟨inv.pos, rate⟩
  | @finish o u c e =>
    rw [e] at rate
    cases c <;> exact ⟨inv.pos, .inr ⟨o, rate⟩⟩
  | finishFails e bad =>
    rw [e] at rate
    exact (bad ⟨inv.pos, rate.2.1⟩).elim
  | sample idle =>
    refine ⟨inv.pos, ?_⟩
    cases h : s.rate with
    | free =>
      rw [h] at rate
      obtain sw | cl := rate
      · rw [idle] at sw; cases sw
      · exact .inr cl
    | _ => rw [h] at rate; exact rate
  | sampleSame => exact inv
  | switch e free => exact ⟨inv.pos, by dsimp only; rw [free]; exact .inl rfl⟩
  | adjust => exact ⟨inv.pos, trivial⟩
  | suspend => exact ⟨ok.1, State.rateInv_suspend ord ok.2 rate⟩
  | resumeRead =>
    refine ⟨inv.pos, ?_⟩
    cases h : s.rate <;> rw [h] at rate <;> exact rate
  | @resumeSet f r e =>
    obtain ⟨free, hold⟩ := cov f r rfl
    refine ⟨ok.1, ?_⟩
    dsimp only
    rw [free]
    obtain sw | ⟨o, found, w⟩ := hold
    · exact .inl sw
    · exact .inr ⟨o, findFreqCeil_mem found, Nat.le_trans ok.2 (findFreqCeil_ge found), w⟩

/-- On an ordered table, in every run of successful calls whose resumes are covered, the regulator
    holds what the table in force requires for the live rate whenever nothing is in progress. -/
theorem voltage_safe {v : Vendor} {as : List Act} {s : State}
    (prep : v.Prepared)
    (ord : v.Ordered)
    (run : Lts.Exec (Init v)
      (fun s a s' => a.Succeeds ∧ a.Covered v s ∧ Step v s a s') as s)
    (quiet : s.Quiescent) : s.Safe v := by
  have inv : s.Inv v :=
    run.invariant (fun _ => State.inv_init)
      (fun _ _ _ inv st => State.inv_step ord inv st.1 st.2.1 st.2.2)
  have rate := inv.rate
  rw [quiet.1] at rate
  obtain sw | ⟨o, mem, le, w⟩ := rate
  · obtain idle | stop := quiet.2.1
    · rw [idle] at sw; cases sw
    · rw [stop] at sw; cases sw
  · exact w.holds prep ord mem le

/-- The OPPs of the board's device tree for selector `L3`, without OTP and MBIST corrections. -/
def boardL3 : Vendor :=
  prepare
    [⟨200000000, 850000, 850000, 1000000, 0⟩, ⟨297000000, 850000, 850000, 1000000, 0⟩,
      ⟨400000000, 850000, 850000, 1000000, 0⟩, ⟨600000000, 850000, 850000, 1000000, 0⟩,
      ⟨700000000, 850000, 850000, 1000000, 0⟩, ⟨800000000, 875000, 875000, 1000000, 0⟩,
      ⟨900000000, 900000, 900000, 1000000, 0⟩]
    ⟨0, 0, 0, 0⟩ 1000000 50000 0 5000

/-- The NPU of the board after probing warm. -/
def boardWarm : State :=
  ⟨900000000, 900000, 900000000, 900000, false, .free, .idle, none⟩

/-- The 900 MHz OPP of the board with its cold target. -/
def opp900 : Voltage := ⟨900000000, 900000, 900000, 1000000, 950000⟩

/-- The 200 MHz OPP of the board with its cold target. -/
def opp200 : Voltage := ⟨200000000, 850000, 850000, 1000000, 900000⟩

/-- The board probes into an initial state. -/
lemma boardWarm_init : Init boardL3 boardWarm :=
  ⟨opp900, by decide +kernel, by decide, by decide, by decide, rfl, rfl, rfl, rfl, rfl⟩

/-- The lookups of the two rates. -/
lemma boardL3_found :
    boardL3.findFreqCeil opp200.hz = some opp200 ∧
    boardL3.findFreqCeil opp900.hz = some opp900 := by
  decide +kernel

/-- The steps of a transition to the cold table that finds the clock at the rate of an OPP. -/
def coldTransition (o : Voltage) : List Act :=
  [.sample (-1000), .switch, .adjust, .choose, .measure, .skipDown,
    .vote o.coldUv o.maxUv o.coldUv, .up o.hz o.hz, .finish]

/-- The run of a cold transition on the board, at the rate of an OPP that the lookup finds. -/
lemma coldTransition_path {o : Voltage} {f u}
    (found : boardL3.findFreqCeil o.hz = some o)
    (pos : 0 < o.hz)
    (fit : o.coldUv ≤ o.maxUv) :
    Lts.Path (fun s a s' => a.Succeeds ∧ a.Covered boardL3 s ∧ Step boardL3 s a s')
      ⟨o.hz, u, f, 900000, false, .free, .idle, none⟩ (coldTransition o)
      ⟨o.hz, o.coldUv, f, o.coldUv, true, .free, .idle, none⟩ := by
  have noLimit : boardL3.limited true o.hz = o.hz := by
    have unlimited : boardL3.coldLimit = 0 := by decide
    simp [Vendor.limited, unlimited]
  have below : coldState false (-1000) boardL3.low boardL3.hysteresis = true := by decide
  refine .cons ⟨trivial, nofun, .sample rfl (by simp [below])⟩ ?_
  rw [below]
  refine .cons ⟨trivial, nofun, .switch rfl rfl⟩ ?_
  refine .cons ⟨trivial, nofun, .adjust rfl rfl⟩ ?_
  refine .cons ⟨trivial, nofun, .choose rfl (noLimit.symm ▸ found)⟩ ?_
  refine .cons ⟨trivial, nofun, .measure rfl⟩ ?_
  refine .cons ⟨trivial, nofun, .skipDown rfl (Nat.le_refl _)⟩ ?_
  refine .cons ⟨⟨Nat.le_refl _, fit⟩, nofun, .vote rfl ⟨Nat.le_refl _, fit⟩⟩ ?_
  refine .cons ⟨⟨pos, Nat.le_refl _⟩, nofun, .up rfl (Nat.le_refl _)⟩ ?_
  exact .cons ⟨trivial, nofun, .finish rfl ⟨pos, Nat.le_refl _⟩⟩ .nil

/-- A cold transition at 900 MHz, then an idle phase: the resume goes back to a held rate. -/
theorem voltage_safe_cold_then_idle :
    State.Safe boardL3 ⟨900000000, 950000, 900000000, 950000, true, .free, .idle, none⟩ := by
  have resume : Lts.Path
      (fun s a s' => a.Succeeds ∧ a.Covered boardL3 s ∧ Step boardL3 s a s')
      ⟨900000000, 950000, 900000000, 950000, true, .free, .idle, none⟩
      [.suspend 200000000, .resumeRead, .resumeSet 900000000 900000000]
      ⟨900000000, 950000, 900000000, 950000, true, .free, .idle, none⟩ := by
    refine .cons ⟨⟨by decide, Nat.le_refl _⟩, nofun, .suspend⟩ ?_
    refine .cons ⟨trivial, nofun, .resumeRead rfl (by decide)⟩ ?_
    refine .cons ⟨⟨by decide, Nat.le_refl _⟩, ?_, .resumeSet rfl⟩ .nil
    rintro f r ⟨⟩
    exact ⟨rfl, .inr ⟨opp900, boardL3_found.2, by decide⟩⟩
  refine voltage_safe ⟨_, _, _, _, _, _, rfl⟩ ⟨?_, ?_, ?_, ?_⟩
    ⟨boardWarm, boardWarm_init,
      (coldTransition_path boardL3_found.2 (by decide) (by decide)).append resume⟩
    ⟨rfl, .inl rfl, rfl⟩
  all_goals decide

/-- The table turns cold while the NPU idles at 200 MHz: the thermal vote is the one for 200 MHz,
    and the resume to 900 MHz makes none. -/
theorem resume_undervolts_after_transition :
    ¬ ∀ v as s, v.Prepared → Lts.Exec (Init v) (fun s a s' => a.Succeeds ∧ Step v s a s') as s →
      s.Quiescent → s.Safe v := by
  intro claim
  have idle : Lts.Path (fun s a s' => a.Succeeds ∧ Step boardL3 s a s') boardWarm
      ([.suspend 200000000] ++ (coldTransition opp200 ++
        [.resumeRead, .resumeSet 900000000 900000000]))
      ⟨900000000, 900000, 900000000, 900000, true, .free, .idle, none⟩ := by
    refine .cons ⟨⟨by decide, Nat.le_refl _⟩, .suspend⟩ ?_
    refine ((coldTransition_path boardL3_found.1 (by decide) (by decide)).mono
      fun _ _ _ st => ⟨st.1, st.2.2⟩).append ?_
    exact .cons ⟨trivial, .resumeRead rfl (by decide)⟩
      (.cons ⟨⟨by decide, Nat.le_refl _⟩, .resumeSet rfl⟩ .nil)
  obtain ⟨o, found, w, _⟩ :=
    claim boardL3 _ _ ⟨_, _, _, _, _, _, rfl⟩ ⟨boardWarm, boardWarm_init, idle⟩ ⟨rfl, .inl rfl, rfl⟩
  cases Option.some.inj (found.symm.trans boardL3_found.2)
  exact absurd w (by decide)

end K11CHaos.Npu

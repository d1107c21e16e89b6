import Testbench.Proofs.Segments
import Testbench.Proofs.SettingUp

/-!
# Raised budgets

Two benches may differ in the limit of the watchdog and in the cap on cycles alone (`Roomier`).  A
tick does not look at either, so they go through the same states, and their watchdogs count the same
idle ticks as long as the tighter one has not tripped (`Roomier.tick_of_undecided`).  Where that one
has no verdict the other has none, and where it has one that does not come from a raised budget the
other has the same (`Roomier.reason?_tick`): the end of the program is looked at before the
watchdog, and the watchdog before the cap.

So a run that ends with the program keeps its outcome and everything else when budgets are raised,
and one that ends with a stall or at the cap keeps it when the other budget is
(`raised_budgets_keep_outcome`).
-/

namespace Testbench

/-- The configuration with other budgets. -/
def Config.withBudgets (c : Config) (stallLimit : Nat) (maxCycles : Option Nat) : Config :=
  { c with general := { c.general with stallLimit, maxCycles } }

/-- A cap on cycles is at most another one, where to have none is to have the greatest. -/
def Config.CapLe (cap cap' : Option Nat) : Prop := ∀ c', cap' = some c' → ∃ c, cap = some c ∧ c ≤ c'

theorem Config.CapLe.refl (cap : Option Nat) : Config.CapLe cap cap :=
  fun c hc => ⟨c, hc, Nat.le_refl c⟩

namespace Bench

variable {x y : Bench} {n : Nat} {reason : Outcome.Reason}

/-- What there is to a bench apart from its budgets and what they have led to. -/
def unbudgeted (b : Bench) : Bench :=
  { b with
    watchdog := { limit := 0 }
    maxCycles := none
    verdict := { b.verdict with stalled := false } }

/-- What does not look at budgets is the same for benches that differ in nothing else. -/
theorem eq_of_unbudgeted_eq {α : Type} (h : y.unbudgeted = x.unbudgeted) (f : Bench → α)
    (hf : ∀ b : Bench, f b.unbudgeted = f b) : f y = f x := by
  rw [← hf y, h, hf x]

/-- The second bench is the first with more room: a limit and a cap that are no less. -/
structure Roomier (x y : Bench) : Prop where
  same : y.unbudgeted = x.unbudgeted
  limit_le : x.watchdog.limit ≤ y.watchdog.limit
  cap_le : Config.CapLe x.maxCycles y.maxCycles

namespace Roomier

/-! ## What does not look at budgets -/

theorem agree {α : Type} (h : Roomier x y) (f : Bench → α) (hf : ∀ b : Bench, f b.unbudgeted = f b) :
    f y = f x :=
  eq_of_unbudgeted_eq h.same f hf

/-- A tick keeps benches the same but for their budgets. -/
theorem tick (h : Roomier x y) : Roomier x.tick y.tick where
  same := by
    have hunbudgeted : ∀ b : Bench, b.tick.unbudgeted = b.unbudgeted.tick.unbudgeted :=
      fun _ => rfl
    rw [hunbudgeted, h.same, ← hunbudgeted]
  limit_le := h.limit_le
  cap_le := h.cap_le

theorem ticks (h : Roomier x y) (n : Nat) : Roomier (ticks n x) (ticks n y) := by
  induction n with
  | zero => exact h
  | succ n ih =>
      rw [ticks_succ, ticks_succ]
      exact ih.tick

/-- So does a reset. -/
theorem reset (h : Roomier x y) : Roomier x.reset y.reset := by
  have hcycles : y.resetCycles = x.resetCycles :=
    h.agree (·.resetCycles) fun _ => rfl
  have hasserted : Roomier x.assertReset y.assertReset :=
    ⟨congrArg assertReset h.same, h.limit_le, h.cap_le⟩
  have hheld := hasserted.ticks x.resetCycles
  unfold Bench.reset
  rw [hcycles]
  exact ⟨congrArg releaseReset hheld.same, hheld.limit_le, hheld.cap_le⟩

theorem overflows_eq (h : Roomier x y) : y.overflows = x.overflows :=
  h.agree overflows fun _ => rfl

/-- Both devices retire something in the coming tick, or neither does. -/
theorem retiresAny_eq (h : Roomier x y) :
    (clockDevice y.device).signals.retirement.retiresAny
      = (clockDevice x.device).signals.retirement.retiresAny :=
  h.agree (fun b => (clockDevice b.device).signals.retirement.retiresAny) fun _ => rfl

/-! ## Verdicts -/

/-- With the same idle count, the watchdog with more room does not trip before the other. -/
theorem stalled_tick_of_stalled (h : Roomier x y) (hcount : y.watchdog.count = x.watchdog.count)
    (hstalled : y.tick.verdict.stalled = true) : x.tick.verdict.stalled = true := by
  have hle := h.limit_le
  rw [stalled_tick, h.retiresAny_eq] at hstalled
  rw [stalled_tick]
  cases hretires : (clockDevice x.device).signals.retirement.retiresAny with
  | true =>
      rw [hretires] at hstalled
      cases hstalled
  | false =>
      rw [hretires, Watchdog.trips_idle_iff] at hstalled
      rw [Watchdog.trips_idle_iff]
      omega

/-- As long as the tighter watchdog does not trip, both count the same idle ticks. -/
theorem count_tick (h : Roomier x y) (hcount : y.watchdog.count = x.watchdog.count)
    (hstalled : x.tick.verdict.stalled = false) :
    y.tick.watchdog.count = x.tick.watchdog.count := by
  have hle := h.limit_le
  rw [watchdog_tick, watchdog_tick, h.retiresAny_eq]
  rw [stalled_tick] at hstalled
  cases hretires : (clockDevice x.device).signals.retirement.retiresAny with
  | true => rfl
  | false =>
      have hlt : ¬ x.watchdog.limit ≤ x.watchdog.count := by
        rw [hretires] at hstalled
        rw [← Watchdog.trips_idle_iff, hstalled]
        exact Bool.false_ne_true
      rw [Watchdog.count_observe_idle, Watchdog.count_observe_idle, if_neg hlt,
        if_neg (by omega), hcount]

/-- A tick that gives no verdict with less room gives none with more. -/
theorem tick_of_undecided (h : Roomier x y) (hcount : y.watchdog.count = x.watchdog.count)
    (hr : x.tick.reason? = none) :
    y.tick.reason? = none ∧ y.tick.watchdog.count = x.tick.watchdog.count := by
  obtain ⟨hending, hstalled, hcap⟩ := reason?_eq_none_iff.1 hr
  refine ⟨reason?_eq_none_iff.2 ⟨?_, ?_, ?_⟩, h.count_tick hcount hstalled⟩
  · exact (h.tick.agree (·.verdict.ending) fun _ => rfl).trans hending
  · cases hstalled' : y.tick.verdict.stalled with
    | false => rfl
    | true => exact absurd (h.stalled_tick_of_stalled hcount hstalled') (by simp [hstalled])
  · intro cap' hcap'
    obtain ⟨cap, hsome, hle⟩ := h.tick.cap_le cap' hcap'
    have hlt := hcap cap hsome
    have hcycles : y.tick.cycles = x.tick.cycles := h.tick.agree (·.cycles) fun _ => rfl
    omega

end Roomier

/-- The budget that a verdict comes from, if it comes from one, has been left as it was. -/
def Unraised (x y : Bench) : Outcome.Reason → Prop
  | .stall => y.watchdog.limit = x.watchdog.limit
  | .cycleLimit => y.maxCycles = x.maxCycles
  | _ => True

theorem budgets_ticks (n : Nat) (b : Bench) :
    (ticks n b).watchdog.limit = b.watchdog.limit ∧ (ticks n b).maxCycles = b.maxCycles := by
  induction n with
  | zero => exact ⟨rfl, rfl⟩
  | succ n ih =>
      rw [ticks_succ]
      exact ih

/-- Neither a tick nor a reset changes the budgets. -/
theorem Unraised.reset (h : Unraised x y reason) : Unraised x.reset y.reset reason := by
  obtain ⟨hlimit, hcap⟩ := budgets_ticks x.resetCycles x.assertReset
  obtain ⟨hlimit', hcap'⟩ := budgets_ticks y.resetCycles y.assertReset
  cases reason with
  | stall => exact hlimit'.trans (h.trans hlimit.symm)
  | cycleLimit => exact hcap'.trans (h.trans hcap.symm)
  | success => trivial
  | error => trivial
  | predicate => trivial

/-- **A verdict outlasts more room** unless it comes from a budget that was raised. -/
theorem Roomier.reason?_tick (h : Roomier x y) (hcount : y.watchdog.count = x.watchdog.count)
    (hr : x.tick.reason? = some reason) (hunraised : Unraised x y reason) :
    y.tick.reason? = some reason := by
  have hending : y.tick.verdict.ending = x.tick.verdict.ending :=
    h.tick.agree (·.verdict.ending) fun _ => rfl
  have hcycles : y.tick.cycles = x.tick.cycles := h.tick.agree (·.cycles) fun _ => rfl
  unfold reason? at hr ⊢
  rw [hending]
  cases hfound : x.tick.verdict.ending with
  | some ending =>
      rw [hfound] at hr
      cases ending <;> exact hr
  | none =>
      rw [hfound] at hr
      dsimp only at hr ⊢
      cases hstalled : x.tick.verdict.stalled with
      | true =>
          rw [hstalled, if_pos rfl] at hr
          cases hr
          -- both watchdogs are at the same limit with the same count
          have hlimit : y.watchdog.limit = x.watchdog.limit := hunraised
          have hstalled' : y.tick.verdict.stalled = true := by
            rw [← hstalled, stalled_tick, stalled_tick, h.retiresAny_eq, Watchdog.trips,
              Watchdog.trips, hlimit, hcount]
          rw [if_pos hstalled']
      | false =>
          have hstalled' : ¬ y.tick.verdict.stalled = true := by
            intro hy
            rw [h.stalled_tick_of_stalled hcount hy] at hstalled
            cases hstalled
          rw [hstalled, if_neg Bool.false_ne_true] at hr
          rw [if_neg hstalled', hcycles]
          split at hr
          · cases hr
            have hcap : y.tick.maxCycles = x.tick.maxCycles := hunraised
            rw [hcap]
            rename_i hreached
            exact if_pos hreached
          · cases hr

/-- **A run outlasts more room** unless it ends by a budget that was raised. -/
theorem Roomier.run (h : Roomier x y) (hcount : y.watchdog.count = x.watchdog.count)
    {outcome : Outcome} (hout : x.run.outcome = .ok outcome)
    (hunraised : Unraised x y outcome.reason) :
    y.run.outcome = .ok outcome ∧ y.run.bench.unbudgeted = x.run.bench.unbudgeted := by
  obtain ⟨n, hn⟩ := exists_lastsFor x
  induction n generalizing x y with
  | zero =>
      rcases hn.ending with ⟨-, hbreak⟩ | ⟨reason, ho, hr, hrun⟩
      · rw [hbreak] at hout
        cases hout
      · have hfinish : x.run = x.tick.finish reason := hrun
        rw [hfinish] at hout
        cases hout
        have ho' : y.overflows = false := h.overflows_eq.trans ho
        have hs : y.tick.stops? (fun _ => false) = some reason := by
          rw [stops?, h.reason?_tick hcount hr hunraised]
        have hfinish' : y.run = y.tick.finish reason := by
          rw [Bench.run, runUntil_of_overflows_eq_false ho', hs]
        have hphases : y.tick.halfPhases = x.tick.halfPhases :=
          h.tick.agree (·.halfPhases) fun _ => rfl
        have hcycles : y.tick.cycles = x.tick.cycles := h.tick.agree (·.cycles) fun _ => rfl
        rw [hfinish, hfinish', finish, finish, hphases, hcycles]
        exact ⟨rfl, congrArg flushUart h.tick.same⟩
  | succ n ih =>
      obtain ⟨ho, hr⟩ := hn.first
      obtain ⟨hr', hcount'⟩ := h.tick_of_undecided hcount hr
      have ho' : y.overflows = false := h.overflows_eq.trans ho
      rw [run_of_undecided ho hr] at hout ⊢
      rw [run_of_undecided ho' hr']
      refine ih h.tick hcount' hout ?_ hn.tick
      exact hunraised

/-- The bench with other budgets, on which nothing has run. -/
def withBudgets (b : Bench) (stallLimit : Nat) (maxCycles : Option Nat) : Bench :=
  { b with watchdog := { limit := stallLimit }, maxCycles }

end Bench

/-! ## Newly built benches -/

namespace Setup

variable {files : Directory} {device : Replay} {image : Image} {config : Config}
  {reader : Elf.Reader}

theorem result_connect_withBudgets (events events' : List Event) (memory : LocalMemory)
    (peripheral : Peripheral) (stallLimit : Nat) (maxCycles : Option Nat) :
    (connect files events' device memory peripheral (config.withBudgets stallLimit maxCycles)).result
      = (connect files events device memory peripheral config).result.map
          (·.withBudgets stallLimit maxCycles) := by
  have huart : (config.withBudgets stallLimit maxCycles).uart = config.uart := rfl
  have hbench : Bench.connect device memory (config.withBudgets stallLimit maxCycles)
      = (Bench.connect device memory config).map (·.withBudgets stallLimit maxCycles) := by
    unfold Bench.connect
    rw [apply_ite (Except.map _)]
    rfl
  unfold connect
  rw [huart, hbench]
  cases Uart.Sink.ofConfig files config.uart with
  | error e => rfl
  | ok opened => cases Bench.connect device memory config <;> rfl

/-- A set-up does not look at the budgets. -/
theorem result_withBudgets (stallLimit : Nat) (maxCycles : Option Nat) :
    (ofConfig files device image (config.withBudgets stallLimit maxCycles) reader).result
      = (ofConfig files device image config reader).result.map
        (·.withBudgets stallLimit maxCycles) := by
  have hstores : stores files image (config.withBudgets stallLimit maxCycles) reader
      = stores files image config reader := rfl
  obtain ⟨events, heq⟩ := ofConfig_eq files device image config reader
  obtain ⟨events', heq'⟩ :=
    ofConfig_eq files device image (config.withBudgets stallLimit maxCycles) reader
  rw [heq, heq', hstores]
  cases stores files image config reader with
  | error e => rfl
  | ok filled => exact result_connect_withBudgets ..

/-- A new bench has the budgets of its configuration, and its watchdog has counted nothing. -/
theorem withBudgets_eq_self {b : Bench}
    (hb : (ofConfig files device image config reader).result = .ok b) :
    b.withBudgets config.general.stallLimit config.general.maxCycles = b := by
  have hsame : (ofConfig files device image config reader).result = _ :=
    result_withBudgets config.general.stallLimit config.general.maxCycles
  rw [hb] at hsame
  exact (Except.ok.inj hsame).symm

/-- The run of a new bench after a reset, if the bench can be built. -/
def firstRun (files : Directory) (device : Replay) (image : Image) (config : Config)
    (reader : Elf.Reader := Elf.segments) : Except SetupError Run :=
  (ofConfig files device image config reader).result.map fun b => b.reset.run

/-- With more room, and where the budget that ends the run has not been raised, the first run has
the same outcome. -/
theorem firstRun_withBudgets {run : Run} {outcome : Outcome} {stallLimit : Nat}
    {maxCycles : Option Nat} (hrun : firstRun files device image config reader = .ok run)
    (hout : run.outcome = .ok outcome) (hlimit : config.general.stallLimit ≤ stallLimit)
    (hcap : Config.CapLe config.general.maxCycles maxCycles)
    (hstall : outcome.reason = .stall → stallLimit = config.general.stallLimit)
    (hcycles : outcome.reason = .cycleLimit → maxCycles = config.general.maxCycles) :
    ∃ run', firstRun files device image (config.withBudgets stallLimit maxCycles) reader = .ok run'
      ∧ run'.outcome = .ok outcome ∧ run'.bench.unbudgeted = run.bench.unbudgeted := by
  unfold firstRun at hrun ⊢
  rw [result_withBudgets]
  cases hb : (ofConfig files device image config reader).result with
  | error e =>
      rw [hb] at hrun
      cases hrun
  | ok b =>
      rw [hb] at hrun
      cases hrun
      have hself := withBudgets_eq_self hb
      have hroomier : Bench.Roomier b (b.withBudgets stallLimit maxCycles) := by
        rw [← hself]
        exact ⟨rfl, hlimit, hcap⟩
      have hunraised : Bench.Unraised b (b.withBudgets stallLimit maxCycles) outcome.reason := by
        rw [← hself]
        cases hreason : outcome.reason with
        | stall => exact hstall hreason
        | cycleLimit => exact hcycles hreason
        | success => trivial
        | error => trivial
        | predicate => trivial
      refine ⟨(b.withBudgets stallLimit maxCycles).reset.run, rfl, ?_⟩
      exact hroomier.reset.run rfl hout hunraised.reset

/-- **Raised budgets keep the outcome.**  Build two benches alike but for the limit of the watchdog
and the cap on cycles, neither of which is less for the second, and reset and run both.  If the
first run ends with the program, by success or by error, then so does the second, with the same
outcome and therefore in the same cycle, and it leaves the same counters, the same bytes captured,
the same memory and the same everything but the budgets.  If the first ends in a stall, it still
does with another cap, and if it ends at the cap, it still does with another limit. -/
theorem raised_budgets_keep_outcome {run : Run} {outcome : Outcome} {stallLimit : Nat}
    {maxCycles : Option Nat} (hrun : firstRun files device image config reader = .ok run)
    (hout : run.outcome = .ok outcome) (hlimit : config.general.stallLimit ≤ stallLimit)
    (hcap : Config.CapLe config.general.maxCycles maxCycles) :
    (outcome.reason = .success ∨ outcome.reason = .error →
        ∃ run', firstRun files device image (config.withBudgets stallLimit maxCycles) reader
            = .ok run'
          ∧ run'.outcome = .ok outcome
          ∧ run'.bench.region.counters = run.bench.region.counters
          ∧ run'.bench.uart.captured = run.bench.uart.captured
          ∧ run'.bench.memory = run.bench.memory
          ∧ run'.bench.unbudgeted = run.bench.unbudgeted)
      ∧ (outcome.reason = .stall →
        ∃ run', firstRun files device image
            (config.withBudgets config.general.stallLimit maxCycles) reader = .ok run'
          ∧ run'.outcome = .ok outcome)
      ∧ (outcome.reason = .cycleLimit →
        ∃ run', firstRun files device image
            (config.withBudgets stallLimit config.general.maxCycles) reader = .ok run'
          ∧ run'.outcome = .ok outcome) := by
  refine ⟨?_, ?_, ?_⟩
  · intro hended
    have hstall : outcome.reason ≠ .stall := by rcases hended with h | h <;> simp [h]
    have hcycles : outcome.reason ≠ .cycleLimit := by rcases hended with h | h <;> simp [h]
    obtain ⟨run', hrun', hout', hsame⟩ := firstRun_withBudgets hrun hout hlimit hcap
      (fun h => absurd h hstall) (fun h => absurd h hcycles)
    exact ⟨run', hrun', hout', Bench.eq_of_unbudgeted_eq hsame (·.region.counters) fun _ => rfl,
      Bench.eq_of_unbudgeted_eq hsame (·.uart.captured) fun _ => rfl,
      Bench.eq_of_unbudgeted_eq hsame (·.memory) fun _ => rfl, hsame⟩
  · intro hstall
    obtain ⟨run', hrun', hout', -⟩ := firstRun_withBudgets hrun hout
      (Nat.le_refl _) hcap (fun _ => rfl) (by simp [hstall])
    exact ⟨run', hrun', hout'⟩
  · intro hcycles
    obtain ⟨run', hrun', hout', -⟩ := firstRun_withBudgets hrun hout
      hlimit (.refl _) (by simp [hcycles]) (fun _ => rfl)
    exact ⟨run', hrun', hout'⟩

end Setup

namespace Sample

/-- An image of one byte. -/
def byteImage : Image := { bytes := #[0x13] }

/-- The small configuration with a memory of two words. -/
def tightConfig : Config := { config with memory := { sizeBytes := 8 } }

/-- The bench that it describes, around the small device. -/
def tightBench : Bench :=
  ((Bench.start device ⟨#[0x13, 0]⟩ tightConfig).withPeripheral .idle).withUart
    (Uart.Sink.capturing.withEcho {})

end Sample

namespace Setup

/-- The small program ends in its eighth cycle, four idle cycles and ten in all being allowed, and
so it does with two thousand idle cycles and no cap. -/
theorem raised_sample :
    ∃ run run', firstRun .empty Sample.device Sample.byteImage Sample.tightConfig = .ok run
      ∧ run.outcome = .ok ⟨.success, 20, 8⟩
      ∧ firstRun .empty Sample.device Sample.byteImage (Sample.tightConfig.withBudgets 2000 none)
        = .ok run'
      ∧ run'.outcome = .ok ⟨.success, 20, 8⟩ := by
  have hbuilt : (ofConfig .empty Sample.device Sample.byteImage Sample.tightConfig).result
      = .ok Sample.tightBench := by rfl
  have hrun : firstRun .empty Sample.device Sample.byteImage Sample.tightConfig
      = .ok Sample.tightBench.reset.run := by
    unfold firstRun
    rw [hbuilt]
    rfl
  have hquiet : ∀ k < 8, 1 ≤ k →
      (Bench.ticks k Sample.tightBench.reset).stops? (fun _ => false) = none := by decide +kernel
  have hends : Bench.EndsAt (fun _ => false) Sample.tightBench.reset 8 .success :=
    ⟨by decide, fun k hpos hlt => hquiet k hlt hpos, by decide +kernel⟩
  have hout : Sample.tightBench.reset.run.outcome = .ok ⟨.success, 20, 8⟩ := by
    have htimely : Sample.tightBench.reset.peripheral.Timely := trivial
    rw [Bench.run, (Bench.runUntil_eq_of_endsAt htimely hends).2]
    rfl
  have hlimit : Sample.tightConfig.general.stallLimit ≤ 2000 := by decide
  have hcap : Config.CapLe Sample.tightConfig.general.maxCycles none := by
    intro c hc
    cases hc
  obtain ⟨run', hrun', hout', -⟩ :=
    (raised_budgets_keep_outcome hrun hout hlimit hcap).1 (.inl rfl)
  exact ⟨_, run', hrun, hout, hrun', hout'⟩

end Setup

end Testbench

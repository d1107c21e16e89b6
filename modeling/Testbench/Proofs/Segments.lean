import Testbench.Proofs.Calls

/-!
# Stopping and going on

A caller may stop a run where it likes, and may remember from one tick to the next what it has seen.
Such a run is `runFor`: it takes ticks like a run left to itself, asks the caller after each tick
without a verdict, and otherwise does not deal with it.  Where a caller remembers nothing this is
`runUntil`, and for each caller there is a condition with which `runUntil` does the same.

A run left to itself takes some ticks without a verdict and then ends (`LastsFor`).  The caller is
asked about them in order, once about each, until it wants to stop (`runFor_of_lastsFor`).  What a
stop does to a bench is a flush of its serial port, and that goes no further than the sink
(`LastsFor.withUart`).  So going on after a stop ends as the run would have ended, and so does a run
in any number of pieces (`stopping_is_transparent`).
-/

namespace Testbench

/-- Whoever asks for a run to stop, with what it remembers. -/
structure Caller where
  /-- What there is to remember. -/
  Memory : Type
  /-- What is remembered now. -/
  memory : Memory
  /-- Looks at a bench, says whether to stop and remembers something else. -/
  ask : Memory → Bench → Bool × Memory

namespace Caller

variable (c : Caller)

/-- A caller that remembers nothing. -/
def asking (stop : Bench → Bool) : Caller := ⟨Unit, (), fun _ b => (stop b, ())⟩

/-- Does the caller stop at a bench? -/
def answer (b : Bench) : Bool := (c.ask c.memory b).1

/-- The caller after having looked at a bench. -/
def shown (b : Bench) : Caller := { c with memory := (c.ask c.memory b).2 }

/-- The caller after having looked at the bench after each of `n` ticks. -/
def following (c : Caller) : Nat → Bench → Caller
  | 0, _ => c
  | n + 1, b => (c.shown b.tick).following n b.tick

/-- Does the caller stop after tick `k + 1`, having looked at the bench after each tick before? -/
def wants (b : Bench) (k : Nat) : Bool := (c.following k b).answer (Bench.ticks (k + 1) b)

end Caller

namespace Bench

variable {b : Bench} {n : Nat}

/-- Takes ticks until something ends the run or the caller stops it, and gives back the caller. -/
def runFor (c : Caller) (b : Bench) : Run × Caller :=
  if b.overflows then (⟨.error .sum, b⟩, c)
  else
    let next := b.tick
    match _h : next.reason? with
    | some reason => (next.finish reason, c)
    | none =>
        if c.answer next then (next.finish .predicate, c.shown next)
        else next.runFor (c.shown next)
  termination_by (b.owed, b.patience)
  decreasing_by exact progress_tick _h

/-! ## How long a run lasts -/

/-- A run left to itself takes `n` ticks without a verdict.  Then it breaks off, or takes one more
tick that has a verdict. -/
structure LastsFor (n : Nat) (b : Bench) : Prop where
  undecided : ∀ k < n, (ticks k b).overflows = false ∧ (ticks (k + 1) b).reason? = none
  ending : ((ticks n b).overflows = true ∧ b.run = ⟨.error .sum, ticks n b⟩)
    ∨ ∃ reason, (ticks n b).overflows = false ∧ (ticks (n + 1) b).reason? = some reason
        ∧ b.run = (ticks (n + 1) b).finish reason

/-- No verdict is the caller's. -/
theorem reason?_ne_predicate (b : Bench) : b.reason? ≠ some .predicate := by
  unfold reason?
  split
  · simp
  · simp
  · split
    · simp
    · split <;> simp

/-- A run goes on after a tick without a verdict. -/
theorem run_of_undecided (ho : b.overflows = false) (hr : b.tick.reason? = none) :
    b.run = b.tick.run := by
  have hs : b.tick.stops? (fun _ => false) = none := stops?_eq_none_iff.2 ⟨hr, rfl⟩
  rw [run, runUntil_of_overflows_eq_false ho, hs]
  rfl

theorem LastsFor.succ (h : LastsFor n b.tick) (ho : b.overflows = false)
    (hr : b.tick.reason? = none) : LastsFor (n + 1) b where
  undecided := by
    intro k hk
    cases k with
    | zero => exact ⟨ho, hr⟩
    | succ k => exact h.undecided k (by omega)
  ending := by
    rw [run_of_undecided ho hr]
    exact h.ending

theorem LastsFor.first (h : LastsFor (n + 1) b) : b.overflows = false ∧ b.tick.reason? = none :=
  h.undecided 0 (Nat.zero_lt_succ n)

theorem LastsFor.tick (h : LastsFor (n + 1) b) : LastsFor n b.tick where
  undecided := fun k hk => h.undecided (k + 1) (by omega)
  ending := by
    rw [← run_of_undecided h.first.1 h.first.2]
    exact h.ending

/-- Every run lasts for some number of ticks. -/
theorem exists_lastsFor (b : Bench) : ∃ n, LastsFor n b := by
  fun_induction runLength (fun _ => false) b with
  | case1 b ho =>
      refine ⟨0, by simp, .inl ⟨ho, ?_⟩⟩
      rw [run, runUntil, if_pos ho]
      rfl
  | case2 b ho reason hr =>
      have ho' : b.overflows = false := by simpa using ho
      have hs : b.tick.stops? (fun _ => false) = some reason := by rw [stops?, hr]
      refine ⟨0, by simp, .inr ⟨reason, ho', hr, ?_⟩⟩
      rw [run, runUntil_of_overflows_eq_false ho', hs]
      rfl
  | case3 b ho hr hstop => cases hstop
  | case4 b ho hr hstop ih =>
      obtain ⟨n, hn⟩ := ih
      exact ⟨n + 1, hn.succ (by simpa using ho) hr⟩

/-- The ticks without a verdict belong to the run. -/
theorem LastsFor.run_ticks (h : LastsFor n b) {k : Nat} (hk : k ≤ n) : (ticks k b).run = b.run := by
  induction k with
  | zero => rfl
  | succ k ih =>
      obtain ⟨ho, hr⟩ := h.undecided k (by omega)
      rw [ticks_succ] at hr
      rw [ticks_succ, ← run_of_undecided ho hr]
      exact ih (by omega)

/-! ## Where the caller stops -/

theorem runFor_of_undecided (c : Caller) (ho : b.overflows = false) (hr : b.tick.reason? = none) :
    b.runFor c = if c.answer b.tick then (b.tick.finish .predicate, c.shown b.tick)
      else b.tick.runFor (c.shown b.tick) := by
  rw [runFor, if_neg (by simp [ho])]
  dsimp only
  split
  · rename_i reason hr'
    rw [hr] at hr'
    cases hr'
  · rfl

/-- A run that lasts for no tick at all does not ask the caller. -/
theorem runFor_of_lastsFor_zero (c : Caller) (h : LastsFor 0 b) : b.runFor c = (b.run, c) := by
  rcases h.ending with ⟨ho, hrun⟩ | ⟨reason, ho, hr, hrun⟩
  · have ho' : b.overflows = true := ho
    rw [hrun, runFor, if_pos ho']
    rfl
  · have ho' : b.overflows = false := ho
    have hr' : b.tick.reason? = some reason := hr
    rw [hrun, runFor, if_neg (by simp [ho'])]
    dsimp only
    split
    · rename_i reason' hr''
      rw [Option.some.inj (hr'.symm.trans hr'')]
      rfl
    · rename_i hr''
      rw [hr'] at hr''
      cases hr''

/-- **Where a caller stops a run.**  It is asked about the ticks without a verdict one after another
and about no other.  The first one at which it wants to stop is the last of the run, and if there is
none the run ends as if left to itself. -/
theorem runFor_of_lastsFor (h : LastsFor n b) (c : Caller) :
    (∃ k < n, (∀ j < k, c.wants b j = false) ∧ c.wants b k = true
        ∧ b.runFor c = ((ticks (k + 1) b).finish .predicate, c.following (k + 1) b))
      ∨ ((∀ k < n, c.wants b k = false) ∧ b.runFor c = (b.run, c.following n b)) := by
  induction n generalizing b c with
  | zero => exact .inr ⟨by simp, runFor_of_lastsFor_zero c h⟩
  | succ n ih =>
      obtain ⟨ho, hr⟩ := h.first
      have hstep := runFor_of_undecided c ho hr
      cases hanswer : c.answer b.tick with
      | true =>
          rw [hanswer] at hstep
          exact .inl ⟨0, by omega, by simp, hanswer, hstep⟩
      | false =>
          rw [hanswer] at hstep
          -- the first tick is passed, and what follows happens from there
          have hfirst : ∀ k, (∀ j < k, (c.shown b.tick).wants b.tick j = false) →
              ∀ j < k + 1, c.wants b j = false := by
            intro k hk j hj
            cases j with
            | zero => exact hanswer
            | succ j => exact hk j (by omega)
          rcases ih h.tick (c.shown b.tick) with ⟨k, hk, hbefore, hwants, hrun⟩ | ⟨hnever, hrun⟩
          · exact .inl ⟨k + 1, by omega, hfirst k hbefore, hwants, hstep.trans hrun⟩
          · refine .inr ⟨hfirst n hnever, hstep.trans ?_⟩
            rw [run_of_undecided ho hr]
            exact hrun

/-- A condition that answers like the caller stops the run where the caller does. -/
theorem runFor_eq_runUntil (c : Caller) (stop : Bench → Bool) (b : Bench)
    (h : ∀ k, stop (ticks (k + 1) b) = c.wants b k) : (b.runFor c).1 = b.runUntil stop := by
  fun_induction runFor c b with
  | case1 c b ho => rw [runUntil, if_pos ho]
  | case2 c b ho next reason hr =>
      have hs : b.tick.stops? stop = some reason := by rw [stops?, hr]
      rw [runUntil_of_overflows_eq_false (by simpa using ho), hs]
  | case3 c b ho next hr hanswer =>
      have hs : b.tick.stops? stop = some .predicate := by
        rw [stops?, hr]
        exact if_pos ((h 0).trans hanswer)
      rw [runUntil_of_overflows_eq_false (by simpa using ho), hs]
  | case4 c b ho next hr hanswer ih =>
      have hs : b.tick.stops? stop = none := by
        rw [stops?, hr]
        exact if_neg fun hstop => hanswer ((h 0).symm.trans hstop)
      rw [runUntil_of_overflows_eq_false (by simpa using ho), hs]
      exact ih fun k => h (k + 1)

/-- A caller that remembers nothing answers as its condition says. -/
theorem runUntil_eq_runFor (stop : Bench → Bool) (b : Bench) :
    b.runUntil stop = (b.runFor (.asking stop)).1 := by
  refine (runFor_eq_runUntil _ stop b ?_).symm
  have hfollowing : ∀ k b, (Caller.asking stop).following k b = .asking stop := by
    intro k
    induction k with
    | zero => exact fun _ => rfl
    | succ k ih => exact fun b => ih b.tick
  intro k
  rw [Caller.wants, hfollowing]
  rfl

/-- What a caller remembers can be told from the clock of the bench. -/
theorem exists_runUntil_eq (c : Caller) (b : Bench) : ∃ stop, (b.runFor c).1 = b.runUntil stop := by
  refine ⟨fun d => c.wants b ((d.halfPhases - b.halfPhases) / 2 - 1), ?_⟩
  apply runFor_eq_runUntil
  intro k
  have hk : ((ticks (k + 1) b).halfPhases - b.halfPhases) / 2 - 1 = k := by
    rw [halfPhases_ticks]
    omega
  rw [hk]

/-! ## Going on -/

end Bench

/-- Two runs have the same outcome and leave the same bench, but for the ways that bytes on the
serial port went after they had been captured. -/
def Run.Agrees (r s : Run) : Prop :=
  r.outcome = s.outcome ∧ ∃ u, r.bench = s.bench.withUart u ∧ u.captured = s.bench.uart.captured

theorem Run.Agrees.refl (r : Run) : r.Agrees r := ⟨rfl, r.bench.uart, rfl, rfl⟩

theorem Run.Agrees.trans {r s t : Run} (hr : r.Agrees s) (hs : s.Agrees t) : r.Agrees t := by
  obtain ⟨hout, u, hu, hcaptured⟩ := hr
  obtain ⟨hout', v, hv, hcaptured'⟩ := hs
  refine ⟨hout.trans hout', u, ?_, ?_⟩
  · rw [hu, hv]
    rfl
  · rw [hcaptured, hv]
    exact hcaptured'

namespace Bench

variable {b : Bench} {n : Nat}

/-- The sink does not decide anything: a run with another one that captured the same agrees. -/
theorem LastsFor.withUart (h : LastsFor n b) {u : Uart.Sink} (hu : u.captured = b.uart.captured) :
    (b.withUart u).run.Agrees b.run := by
  induction n generalizing b u with
  | zero =>
      obtain ⟨v, hv, hcaptured⟩ := tick_withUart hu
      rcases h.ending with ⟨ho, hrun⟩ | ⟨reason, ho, hr, hrun⟩
      · have ho' : (b.withUart u).overflows = true := ho
        rw [hrun, run, runUntil, if_pos ho']
        exact ⟨rfl, u, rfl, hu⟩
      · have ho' : (b.withUart u).overflows = false := ho
        have hr' : b.tick.reason? = some reason := hr
        have hs : (b.withUart u).tick.stops? (fun _ => false) = some reason := by
          have hv' : (b.withUart u).tick.reason? = b.tick.reason? := by
            rw [hv]
            rfl
          rw [stops?, hv', hr']
        rw [hrun, run, runUntil_of_overflows_eq_false ho', hs, hv]
        exact ⟨rfl, v.flush, rfl, hcaptured⟩
  | succ n ih =>
      obtain ⟨ho, hr⟩ := h.first
      obtain ⟨v, hv, hcaptured⟩ := tick_withUart hu
      have ho' : (b.withUart u).overflows = false := ho
      have hr' : (b.withUart u).tick.reason? = none := by
        rw [hv]
        exact hr
      rw [run_of_undecided ho' hr', run_of_undecided ho hr, hv]
      exact ih h.tick hcaptured

/-- **Going on.**  A run from where the caller stopped agrees with the run that it stopped. -/
theorem agrees_of_stopped {c : Caller} {outcome : Outcome}
    (hout : (b.runFor c).1.outcome = .ok outcome) (hreason : outcome.reason = .predicate) :
    (b.runFor c).1.bench.run.Agrees b.run := by
  obtain ⟨n, hn⟩ := exists_lastsFor b
  rcases runFor_of_lastsFor hn c with ⟨k, hk, -, -, hrun⟩ | ⟨-, hrun⟩
  · rw [hrun, ← hn.run_ticks (k := k + 1) (by omega)]
    obtain ⟨m, hm⟩ := exists_lastsFor (ticks (k + 1) b)
    exact hm.withUart (u := (ticks (k + 1) b).uart.flush) rfl
  · -- a run left to itself does not end because of a caller
    rw [hrun] at hout
    rcases hn.ending with ⟨-, hbreak⟩ | ⟨reason, -, hr, hfinish⟩
    · rw [hbreak] at hout
      cases hout
    · rw [hfinish] at hout
      cases hout
      have hpredicate : reason = .predicate := hreason
      rw [hpredicate] at hr
      exact absurd hr (reason?_ne_predicate _)

/-- A run in pieces: each caller in turn may stop it, and after the last one it is left to itself.
What ends it otherwise ends it for good. -/
def runInPieces : List Caller → Bench → Run
  | [], b => b.run
  | c :: rest, b =>
      match (b.runFor c).1.outcome with
      | .ok ⟨.predicate, _, _⟩ => runInPieces rest (b.runFor c).1.bench
      | _ => (b.runFor c).1

/-- A run agrees with its pieces. -/
theorem runInPieces_agrees (callers : List Caller) (b : Bench) :
    (b.runInPieces callers).Agrees b.run := by
  induction callers generalizing b with
  | nil => exact .refl _
  | cons c rest ih =>
      unfold runInPieces
      split
      · rename_i halfPhases cycles hout
        exact (ih _).trans (agrees_of_stopped hout rfl)
      · rename_i hnot
        obtain ⟨n, hn⟩ := exists_lastsFor b
        rcases runFor_of_lastsFor hn c with ⟨k, -, -, -, hrun⟩ | ⟨-, hrun⟩
        · exact absurd (by rw [hrun]; rfl) (hnot _ _)
        · rw [hrun]
          exact .refl _

/-- **Stopping is transparent.**  Let a run take as long as it does when left to itself, from any
state of a bench.  A caller that may stop it, and may remember what it has seen, is asked about each
tick without a verdict, once, in order and after the tick, and not about the tick that ends the run.
So the run stops at the first tick at which the caller wants to, unless a verdict comes before it or
in the same tick.  If the caller stopped it, going on gives the outcome that the run would have had
and leaves the bench as the run would have left it, with the same bytes captured; and so does a run
in any number of pieces.  Conditions that remember nothing are callers, and for every caller there is
a condition that stops the run where the caller does. -/
theorem stopping_is_transparent (b : Bench) (c : Caller) :
    (∃ n, LastsFor n b ∧
      ((∃ k < n, (∀ j < k, c.wants b j = false) ∧ c.wants b k = true
          ∧ b.runFor c = ((ticks (k + 1) b).finish .predicate, c.following (k + 1) b))
        ∨ ((∀ k < n, c.wants b k = false) ∧ b.runFor c = (b.run, c.following n b))))
      ∧ (∀ outcome, (b.runFor c).1.outcome = .ok outcome → outcome.reason = .predicate →
          (b.runFor c).1.bench.run.Agrees b.run)
      ∧ (∀ callers, (b.runInPieces callers).Agrees b.run)
      ∧ (∀ stop, b.runUntil stop = (b.runFor (.asking stop)).1)
      ∧ ∃ stop, (b.runFor c).1 = b.runUntil stop := by
  obtain ⟨n, hn⟩ := exists_lastsFor b
  refine ⟨⟨n, hn, runFor_of_lastsFor hn c⟩, ?_, ?_, ?_, exists_runUntil_eq c b⟩
  · intro outcome hout hreason
    exact agrees_of_stopped hout hreason
  · intro callers
    exact runInPieces_agrees callers b
  · intro stop
    exact runUntil_eq_runFor stop b

/-- A caller that counts the ticks and stops at the third. -/
def third : Caller := ⟨Nat, 0, fun seen _ => (seen == 2, seen + 1)⟩

/-- The small bench stopped at its third tick goes on to the same end. -/
theorem third_tick_sample :
    (Sample.bench.reset.runFor third).1.outcome = .ok ⟨.predicate, 10, 3⟩
      ∧ (Sample.bench.reset.runFor third).1.bench.run.outcome
        = Sample.bench.reset.run.outcome := by
  obtain ⟨⟨n, hn, hcases⟩, hgoing, -⟩ := stopping_is_transparent Sample.bench.reset third
  have hquiet : ∀ k < 3, (ticks k Sample.bench.reset).overflows = false
      ∧ (ticks (k + 1) Sample.bench.reset).reason? = none := by decide +kernel
  have hlong : ¬ n < 3 := by
    intro hshort
    obtain ⟨ho, hr⟩ := hquiet n hshort
    rcases hn.ending with ⟨ho', -⟩ | ⟨reason, -, hr', -⟩
    · rw [ho] at ho'
      cases ho'
    · rw [hr] at hr'
      cases hr'
  have hthird : ∀ k < 3, third.wants Sample.bench.reset k = (k == 2) := by decide +kernel
  have hstopped : (Sample.bench.reset.runFor third).1.outcome = .ok ⟨.predicate, 10, 3⟩ := by
    rcases hcases with ⟨k, -, hbefore, hwants, hrun⟩ | ⟨hnever, -⟩
    · have hk : k = 2 := by
        rcases Nat.lt_trichotomy k 2 with hlt | heq | hgt
        · rw [hthird k (by omega)] at hwants
          simpa using hwants
        · exact heq
        · have hfalse := hbefore 2 hgt
          rw [hthird 2 (by omega)] at hfalse
          cases hfalse
      subst hk
      rw [hrun]
      rfl
    · have hfalse := hnever 2 (by omega)
      rw [hthird 2 (by omega)] at hfalse
      cases hfalse
  exact ⟨hstopped, (hgoing _ hstopped rfl).1⟩

end Bench

end Testbench

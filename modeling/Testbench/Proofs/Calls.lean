import Testbench.Proofs.Ticks

/-!
# Runs and histories of calls

A run is defined by taking a tick and looking whether to stop.  Seen from outside it is a number of
ticks, the least after which something ends it, and a flush of the serial port
(`runUntil_eq_of_endsAt`).  The number is `runLength`.

The owner of a bench calls it any number of times: for a tick, a reset, or a run with or without a
condition of its own.  `after` is the bench that a history of calls leaves and `taken` counts the
ticks in it; what the elementary steps keep, every history keeps (`Wired.after`).  A history without
a reset is as good as that many plain ticks, but for what the flushes did to the sink
(`after_eq_ticks`).
-/

namespace Testbench

namespace Bench

variable {trace : Trace} {config : Config} {b : Bench} {stop : Bench → Bool}

/-! ## Where a run ends -/

/-- The reason to end a run that the last tick gives, the caller's wish included. -/
def stops? (stop : Bench → Bool) (b : Bench) : Option Outcome.Reason :=
  match b.reason? with
  | some reason => some reason
  | none => if stop b then some .predicate else none

/-- The number of ticks that a run takes. -/
def runLength (stop : Bench → Bool) (b : Bench) : Nat :=
  if b.overflows then 0
  else
    match _h : b.tick.reason? with
    | some _ => 1
    | none => if stop b.tick then 1 else b.tick.runLength stop + 1
  termination_by (b.owed, b.patience)
  decreasing_by exact progress_tick _h

/-- A run from `b` ends after `n` ticks and not before. -/
structure EndsAt (stop : Bench → Bool) (b : Bench) (n : Nat) (reason : Outcome.Reason) : Prop where
  pos : 1 ≤ n
  before : ∀ k, 1 ≤ k → k < n → (ticks k b).stops? stop = none
  here : (ticks n b).stops? stop = some reason

theorem stops?_eq_none_iff : b.stops? stop = none ↔ b.reason? = none ∧ stop b = false := by
  unfold stops?
  cases b.reason? with
  | some reason => simp
  | none => cases stop b <;> simp

theorem EndsAt.succ {n : Nat} {reason : Outcome.Reason} (h : EndsAt stop b.tick n reason)
    (hfirst : b.tick.stops? stop = none) : EndsAt stop b (n + 1) reason where
  pos := Nat.le_add_left _ _
  before := by
    intro k hk hlt
    obtain ⟨j, rfl⟩ : ∃ j, k = j + 1 := ⟨k - 1, by omega⟩
    rcases Nat.eq_zero_or_pos j with rfl | hj
    · exact hfirst
    · exact h.before j hj (by omega)
  here := h.here

theorem EndsAt.unique {m n : Nat} {p q : Outcome.Reason} (hm : EndsAt stop b m p)
    (hn : EndsAt stop b n q) : m = n ∧ p = q := by
  have hle : ∀ {i j : Nat} {s t : Outcome.Reason},
      EndsAt stop b i s → EndsAt stop b j t → i ≤ j := by
    intro i j s t hi hj
    rcases Nat.lt_or_ge j i with hlt | hge
    · have hnone := hi.before j hj.pos hlt
      rw [hj.here] at hnone
      cases hnone
    · exact hge
  have hmn : m = n := Nat.le_antisymm (hle hm hn) (hle hn hm)
  subst hmn
  exact ⟨rfl, Option.some.inj (hm.here.symm.trans hn.here)⟩

/-- A run whose coming tick stays in range takes it and looks whether to stop. -/
theorem runUntil_of_overflows_eq_false (h : b.overflows = false) :
    b.runUntil stop = match b.tick.stops? stop with
      | some reason => b.tick.finish reason
      | none => b.tick.runUntil stop := by
  rw [runUntil, if_neg (by rw [h]; exact Bool.false_ne_true)]
  cases hr : b.tick.reason? with
  | some reason =>
      have hs : b.tick.stops? stop = some reason := by rw [stops?, hr]
      rw [hs]
      dsimp only
      split
      · rename_i reason' hr'
        rw [Option.some.inj (hr.symm.trans hr')]
      · rename_i hr'
        cases hr.symm.trans hr'
  | none =>
      rw [stops?, hr]
      dsimp only
      split
      · rename_i reason' hr'
        cases hr.symm.trans hr'
      · cases stop b.tick <;> rfl

/-- A run takes a tick and looks whether to stop. -/
theorem runUntil_eq (h : b.peripheral.Timely) :
    b.runUntil stop = match b.tick.stops? stop with
      | some reason => b.tick.finish reason
      | none => b.tick.runUntil stop :=
  runUntil_of_overflows_eq_false (overflows_eq_false h)

/-- The run ends where `runLength` says. -/
theorem endsAt_runLength (stop : Bench → Bool) (h : b.peripheral.Timely) :
    ∃ reason, EndsAt stop b (b.runLength stop) reason
      ∧ b.runUntil stop = (ticks (b.runLength stop) b).finish reason := by
  fun_induction runLength stop b with
  | case1 b ho =>
      rw [overflows_eq_false h] at ho
      cases ho
  | case2 b ho reason hr =>
      have hs : b.tick.stops? stop = some reason := by rw [stops?, hr]
      refine ⟨reason, ⟨Nat.le_refl _, by omega, hs⟩, ?_⟩
      rw [runUntil_eq h, hs]
      rfl
  | case3 b ho hr hstop =>
      have hs : b.tick.stops? stop = some .predicate := by
        rw [stops?, hr]
        exact if_pos hstop
      refine ⟨.predicate, ⟨Nat.le_refl _, by omega, hs⟩, ?_⟩
      rw [runUntil_eq h, hs]
      rfl
  | case4 b ho hr hstop ih =>
      have hs : b.tick.stops? stop = none := by
        rw [stops?, hr]
        exact if_neg hstop
      have htimely : b.tick.peripheral.Timely := by
        rw [peripheral_tick]
        exact h.step _
      obtain ⟨reason, hends, hrun⟩ := ih htimely
      refine ⟨reason, hends.succ hs, ?_⟩
      rw [runUntil_eq h, hs]
      exact hrun

/-- **A run is the least number of ticks after which something ends it.** -/
theorem runUntil_eq_of_endsAt (h : b.peripheral.Timely) {n : Nat} {reason : Outcome.Reason}
    (he : EndsAt stop b n reason) :
    b.runLength stop = n ∧ b.runUntil stop = (ticks n b).finish reason := by
  obtain ⟨reason', hends, hrun⟩ := endsAt_runLength stop h
  obtain ⟨hlen, hreason⟩ := hends.unique he
  rw [hlen, hreason] at hrun
  exact ⟨hlen, hrun⟩

theorem bench_runUntil (h : b.peripheral.Timely) :
    (b.runUntil stop).bench = (ticks (b.runLength stop) b).flushUart := by
  obtain ⟨reason, -, hrun⟩ := endsAt_runLength stop h
  rw [hrun]
  rfl

/-! ## Histories -/

/-- What the owner of a bench can call. -/
inductive Call where
  /-- One tick. -/
  | tick
  /-- A reset. -/
  | reset
  /-- A run to a verdict. -/
  | run
  /-- A run that also stops where the owner asks for it.  No two ticks of a bench have the same
  count of half cycles, so a condition may answer differently every time it is asked. -/
  | runUntil (stop : Bench → Bool)

namespace Call

/-- The bench after a call. -/
def apply : Call → Bench → Bench
  | .tick, b => b.tick
  | .reset, b => b.reset
  | .run, b => b.run.bench
  | .runUntil stop, b => (b.runUntil stop).bench

/-- The ticks that a call takes. -/
def taken : Call → Bench → Nat
  | .tick, _ => 1
  | .reset, b => b.resetCycles
  | .run, b => b.runLength fun _ => false
  | .runUntil stop, b => b.runLength stop

/-- Does the call leave reset alone? -/
def advances : Call → Bool
  | .reset => false
  | _ => true

end Call

/-- The bench after a history of calls. -/
def after : List Call → Bench → Bench
  | [], b => b
  | c :: cs, b => after cs (c.apply b)

/-- The ticks in a history of calls. -/
def taken : List Call → Bench → Nat
  | [], _ => 0
  | c :: cs, b => c.taken b + taken cs (c.apply b)

theorem Wired.runUntil (h : Wired trace config b) (stop : Bench → Bool) :
    Wired trace config (b.runUntil stop).bench := by
  rw [bench_runUntil h.timely]
  exact (h.ticks _).flushUart

theorem Wired.apply (h : Wired trace config b) (c : Call) : Wired trace config (c.apply b) := by
  cases c with
  | tick => exact h.tick
  | reset => exact h.reset
  | run => exact h.runUntil _
  | runUntil stop => exact h.runUntil stop

/-- **What every step keeps, every history keeps.** -/
theorem Wired.after (h : Wired trace config b) (cs : List Call) :
    Wired trace config (after cs b) := by
  induction cs generalizing b with
  | nil => exact h
  | cons c cs ih => exact ih (h.apply c)

theorem halfPhases_apply (h : Wired trace config b) (c : Call) :
    (c.apply b).halfPhases = b.halfPhases + 2 * c.taken b := by
  have hrun : ∀ stop, (b.runUntil stop).bench.halfPhases
      = b.halfPhases + 2 * b.runLength stop := by
    intro stop
    rw [bench_runUntil h.timely]
    exact halfPhases_ticks _ b
  cases c with
  | tick => exact halfPhases_tick b
  | reset => exact halfPhases_reset b
  | run => exact hrun _
  | runUntil stop => exact hrun stop

/-- The clock of a bench counts the ticks of all calls, two half cycles for each. -/
theorem halfPhases_after (h : Wired trace config b) (cs : List Call) :
    (after cs b).halfPhases = b.halfPhases + 2 * taken cs b := by
  induction cs generalizing b with
  | nil => rfl
  | cons c cs ih =>
      show (after cs (c.apply b)).halfPhases = b.halfPhases + 2 * (c.taken b + taken cs (c.apply b))
      rw [ih (h.apply c), halfPhases_apply h c]
      omega

/-! ## The sink does not matter to the bench -/

/-- A tick does the same to a bench whose sink went other ways but captured the same. -/
theorem tick_withUart {u : Uart.Sink} (hu : u.captured = b.uart.captured) :
    ∃ v, (b.withUart u).tick = b.tick.withUart v ∧ v.captured = b.tick.uart.captured := by
  refine ⟨(b.withUart u).tick.uart, rfl, ?_⟩
  apply Array.toList_inj.1
  rw [captured_tick, captured_tick b]
  show u.captured.toList ++ _ = _
  rw [hu]
  rfl

theorem ticks_withUart {u : Uart.Sink} (hu : u.captured = b.uart.captured) (n : Nat) :
    ∃ v, ticks n (b.withUart u) = (ticks n b).withUart v
      ∧ v.captured = (ticks n b).uart.captured := by
  induction n with
  | zero => exact ⟨u, rfl, hu⟩
  | succ n ih =>
      obtain ⟨v, hv, hcaptured⟩ := ih
      obtain ⟨w, hw, hcaptured'⟩ := tick_withUart hcaptured
      refine ⟨w, ?_, ?_⟩
      · rw [ticks_succ, ticks_succ, hv, hw]
      · rw [ticks_succ, hcaptured']

/-- A call other than a reset is some ticks and then perhaps a flush. -/
theorem apply_eq_ticks (h : Wired trace config b) {c : Call} (hc : c.advances = true) :
    ∃ u, c.apply b = (ticks (c.taken b) b).withUart u
      ∧ u.captured = (ticks (c.taken b) b).uart.captured := by
  cases c with
  | tick => exact ⟨b.tick.uart, rfl, rfl⟩
  | reset => cases hc
  | run => exact ⟨_, bench_runUntil h.timely, rfl⟩
  | runUntil stop => exact ⟨_, bench_runUntil h.timely, rfl⟩

/-- **A history without a reset is that many ticks**, but for the ways its flushes made the sink go;
and they do nothing to what the sink has captured. -/
theorem after_eq_ticks (h : Wired trace config b) {cs : List Call}
    (hcs : ∀ c ∈ cs, c.advances = true) :
    ∃ u, after cs b = (ticks (taken cs b) b).withUart u
      ∧ u.captured = (ticks (taken cs b) b).uart.captured := by
  induction cs generalizing b with
  | nil => exact ⟨b.uart, rfl, rfl⟩
  | cons c cs ih =>
      obtain ⟨u, hu, hcaptured⟩ := apply_eq_ticks h (hcs c (List.mem_cons_self ..))
      obtain ⟨v, hv, hcaptured'⟩ :=
        ih (h.apply c) fun d hd => hcs d (List.mem_cons_of_mem _ hd)
      obtain ⟨m, hm⟩ : ∃ m, taken cs (c.apply b) = m := ⟨_, rfl⟩
      obtain ⟨w, hw, hcaptured''⟩ := ticks_withUart hcaptured m
      have hsum : taken (c :: cs) b = c.taken b + m := by
        rw [← hm]
        rfl
      rw [hm, hu, hw] at hcaptured'
      rw [hm] at hv
      refine ⟨v, ?_, ?_⟩
      · show after cs (c.apply b) = _
        rw [hv, hu, hw, hsum, ticks_add]
        rfl
      · rw [hsum, ticks_add, ← hcaptured'', hcaptured']
        rfl

end Bench

end Testbench

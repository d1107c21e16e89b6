import Mathlib.Data.List.DropRight
import Mathlib.Data.List.Induction
import Testbench.Overflow
import Testbench.Watchdog

/-!
# When the watchdog trips

A watchdog is told of one cycle after another, with or without progress, and is reset now and then.
It keeps a single number, which progress, a reset and its own trips all bring back to zero.  Of a
whole history of calls only the idle observations at its end matter (`stretch`): the count is the
length of that stretch around a circle of `limit + 1` positions (`count_after`), and the watchdog
trips whenever the stretch has gone round once more (`endsInTrip_iff`).

So there are never fewer than `limit + 1` observations from one trip to the next
(`le_observations_of_trips`), and a history without that many idle observations in a row has no trip
(`not_endsInTrip_of_short_stretches`).
-/

namespace Testbench.Watchdog

/-! ## Histories -/

/-- What a watchdog is asked to do. -/
inductive Call where
  /-- To judge a cycle with or without progress. -/
  | observe (progress : Bool)
  /-- To forget. -/
  | reset
  deriving DecidableEq, Repr

namespace Call

/-- The watchdog after a call. -/
def apply : Call → Watchdog → Watchdog
  | .observe progress, w => w.observe progress
  | .reset, w => w.reset

/-- Does the call trip the watchdog? -/
def trips : Call → Watchdog → Bool
  | .observe progress, w => w.trips progress
  | .reset, _ => false

/-- The call judges a cycle. -/
def isObservation : Call → Bool
  | .observe _ => true
  | .reset => false

/-- The call judges a cycle without progress. -/
def isIdle : Call → Bool
  | .observe progress => !progress
  | .reset => false

theorem isIdle_iff {c : Call} : c.isIdle = true ↔ c = .observe false := by
  cases c with
  | observe progress => cases progress <;> simp [isIdle]
  | reset => simp [isIdle]

theorem isObservation_of_isIdle {c : Call} (h : c.isIdle = true) : c.isObservation = true := by
  rw [isIdle_iff.1 h]
  rfl

end Call

/-- The watchdog after a history of calls. -/
def after (history : List Call) (w : Watchdog) : Watchdog :=
  history.foldl (fun w c => c.apply w) w

/-- The length of the idle stretch that a history ends with: the idle observations after the last
call of any other kind. -/
def stretch (history : List Call) : Nat := (history.rtakeWhile (·.isIdle)).length

/-- The last call of a history trips a watchdog that was new before it. -/
def EndsInTrip (limit : Nat) (history : List Call) : Prop :=
  ∃ earlier c, history = earlier ++ [c] ∧ c.trips (after earlier { limit }) = true

variable {limit : Nat} {earlier later : List Call}

@[simp] theorem after_nil (w : Watchdog) : after [] w = w := rfl

@[simp] theorem after_append_singleton (history : List Call) (c : Call) (w : Watchdog) :
    after (history ++ [c]) w = c.apply (after history w) := by
  rw [after, List.foldl_append]
  rfl

@[simp] theorem limit_after (history : List Call) (w : Watchdog) :
    (after history w).limit = w.limit := by
  induction history using List.reverseRecOn with
  | nil => rfl
  | append_singleton history c ih =>
      rw [after_append_singleton]
      cases c <;> simp [Call.apply, ih]

/-! ## The idle stretch at the end -/

@[simp] theorem stretch_nil : stretch [] = 0 := rfl

@[simp] theorem stretch_append_idle (history : List Call) :
    stretch (history ++ [.observe false]) = stretch history + 1 := by
  rw [stretch, List.rtakeWhile_concat_pos _ _ _ rfl, List.length_append]
  rfl

theorem stretch_append_of_not_idle (history : List Call) {c : Call} (h : c.isIdle = false) :
    stretch (history ++ [c]) = 0 := by
  rw [stretch, List.rtakeWhile_concat_neg _ _ _ (by rw [h]; exact Bool.false_ne_true)]
  rfl

theorem stretch_le_length (history : List Call) : stretch history ≤ history.length :=
  (List.rtakeWhile_suffix _ _).length_le

/-- Calls that are all idle lengthen the stretch; any others leave only their own. -/
theorem stretch_append (earlier later : List Call) : stretch (earlier ++ later)
    = if stretch later = later.length then stretch earlier + later.length else stretch later := by
  induction later using List.reverseRecOn with
  | nil => simp
  | append_singleton later c ih =>
      have hle := stretch_le_length later
      rw [← List.append_assoc]
      cases hc : c.isIdle with
      | false =>
          rw [stretch_append_of_not_idle _ hc, stretch_append_of_not_idle _ hc, List.length_append,
            List.length_singleton, if_neg (by omega)]
      | true =>
          obtain rfl := Call.isIdle_iff.1 hc
          rw [stretch_append_idle, ih, stretch_append_idle, List.length_append,
            List.length_singleton]
          split <;> split <;> omega

theorem stretch_le_observations (history : List Call) :
    stretch history ≤ history.countP (·.isObservation) := by
  have hidle : ∀ c ∈ history.rtakeWhile (·.isIdle), c.isObservation = true := fun c hc =>
    Call.isObservation_of_isIdle (List.mem_rtakeWhile_imp hc)
  rw [stretch, ← List.countP_eq_length.2 hidle]
  exact (List.rtakeWhile_suffix _ _).sublist.countP_le

/-- The stretch is that many idle observations in a row. -/
theorem replicate_stretch_suffix (history : List Call) :
    List.replicate (stretch history) (.observe false) <:+ history := by
  have hidle : history.rtakeWhile (·.isIdle) = List.replicate (stretch history) (.observe false) :=
    List.eq_replicate_iff.2 ⟨rfl, fun c hc => Call.isIdle_iff.1 (List.mem_rtakeWhile_imp hc)⟩
  rw [← hidle]
  exact List.rtakeWhile_suffix _ _

/-! ## The count goes round -/

/-- One more step around a circle of `limit + 1` positions. -/
theorem succ_mod_stretch (limit n : Nat) : (n + 1) % (limit + 1)
    = if limit ≤ n % (limit + 1) then 0 else n % (limit + 1) + 1 := by
  have hlt : n % (limit + 1) < limit + 1 := Nat.mod_lt n (by omega)
  have hstep : (n + 1) % (limit + 1) = (n % (limit + 1) + 1) % (limit + 1) := by
    conv => lhs; rw [← Nat.div_add_mod n (limit + 1), Nat.add_assoc, Nat.mul_add_mod]
  rw [hstep]
  split
  · have hfull : n % (limit + 1) + 1 = limit + 1 := by omega
    rw [hfull, Nat.mod_self]
  · exact Nat.mod_eq_of_lt (by omega)

/-- **The count is the idle stretch, taken round.**  By induction on the history from its end:
progress and a reset bring both sides to zero, and an idle observation takes both one step on. -/
theorem count_after (limit : Nat) (history : List Call) :
    (after history { limit }).count = stretch history % (limit + 1) := by
  induction history using List.reverseRecOn with
  | nil => simp
  | append_singleton history c ih =>
      rw [after_append_singleton]
      cases hc : c.isIdle with
      | false =>
          rw [stretch_append_of_not_idle _ hc, Nat.zero_mod]
          cases c with
          | reset => rfl
          | observe progress =>
              obtain rfl : progress = true := by simpa [Call.isIdle] using hc
              rfl
      | true =>
          obtain rfl := Call.isIdle_iff.1 hc
          rw [stretch_append_idle, succ_mod_stretch, ← ih]
          exact (count_observe_idle _).trans (by rw [limit_after])

theorem count_after_le (limit : Nat) (history : List Call) :
    (after history { limit }).count ≤ limit := by
  rw [count_after]
  exact Nat.le_of_lt_succ (Nat.mod_lt _ (Nat.succ_pos limit))

/-! ## Trips -/

/-- An idle observation trips the watchdog exactly if it takes the stretch round. -/
theorem trips_idle_after_iff (limit : Nat) (history : List Call) :
    (after history { limit }).trips false = true
      ↔ limit + 1 ∣ stretch (history ++ [.observe false]) := by
  rw [trips_idle_iff, count_after, limit_after, stretch_append_idle, Nat.dvd_iff_mod_eq_zero,
    succ_mod_stretch]
  split <;> simp_all

/-- A history ends in a trip exactly if it ends in an idle stretch that goes round a whole number of
times. -/
theorem endsInTrip_iff {history : List Call} :
    EndsInTrip limit history ↔ 0 < stretch history ∧ limit + 1 ∣ stretch history := by
  rcases history.eq_nil_or_concat with rfl | ⟨earlier, c, rfl⟩
  · simp [EndsInTrip]
  · have hlast : EndsInTrip limit (earlier ++ [c]) ↔ c.trips (after earlier { limit }) = true := by
      constructor
      · rintro ⟨earlier', c', heq, htrips⟩
        obtain ⟨rfl, rfl⟩ := List.append_singleton_inj.1 heq
        exact htrips
      · exact fun htrips => ⟨earlier, c, rfl, htrips⟩
    rw [List.concat_eq_append, hlast]
    cases hc : c.isIdle with
    | false =>
        rw [stretch_append_of_not_idle _ hc]
        cases c with
        | reset => simp [Call.trips]
        | observe progress =>
            obtain rfl : progress = true := by simpa [Call.isIdle] using hc
            simp [Call.trips]
    | true =>
        obtain rfl := Call.isIdle_iff.1 hc
        rw [Call.trips, trips_idle_after_iff]
        simp

theorem EndsInTrip.limit_lt_stretch {history : List Call} (h : EndsInTrip limit history) :
    limit + 1 ≤ stretch history := by
  obtain ⟨hpos, hdvd⟩ := endsInTrip_iff.1 h
  exact Nat.le_of_dvd hpos hdvd

/-- **From one trip to the next there are at least `limit + 1` observations**, the second trip
counted. -/
theorem le_observations_of_trips (hfirst : EndsInTrip limit earlier)
    (hsecond : EndsInTrip limit (earlier ++ later)) (hne : later ≠ []) :
    limit + 1 ≤ later.countP (·.isObservation) := by
  have hcount := stretch_le_observations later
  by_cases hidle : stretch later = later.length
  · -- one stretch runs through both trips, so what lies between them goes round as well
    obtain ⟨-, hdvd⟩ := endsInTrip_iff.1 hsecond
    rw [stretch_append, if_pos hidle, Nat.dvd_add_right (endsInTrip_iff.1 hfirst).2] at hdvd
    have hle := Nat.le_of_dvd (List.length_pos_iff.2 hne) hdvd
    omega
  · have hle := hsecond.limit_lt_stretch
    rw [stretch_append, if_neg hidle] at hle
    omega

/-- A history without `limit + 1` idle observations in a row trips nowhere. -/
theorem not_endsInTrip_of_short_stretches {history : List Call}
    (h : ¬ List.replicate (limit + 1) (.observe false) <:+: history)
    (hbegins : earlier <+: history) : ¬ EndsInTrip limit earlier := by
  intro htrip
  obtain ⟨more, hmore⟩ := Nat.exists_eq_add_of_le htrip.limit_lt_stretch
  have hsuffix := replicate_stretch_suffix earlier
  rw [hmore, Nat.add_comm, List.replicate_add] at hsuffix
  exact h (((List.suffix_append _ _).trans hsuffix).isInfix.trans hbegins.isInfix)

/-- **The trips of an idle stretch are periodic.**  After any history of calls the count is the idle
stretch at its end modulo `limit + 1`; it never exceeds the limit, so counting one more never leaves
sixty-four bits.  An idle observation trips the watchdog exactly if the stretch that it ends is a
positive multiple of `limit + 1`; an observation with progress never does and leaves the count at
zero.  From one trip to the next there are at least `limit + 1` observations, the second trip
counted, and where no `limit + 1` observations in a row are idle there is no trip. -/
theorem trips_are_periodic {limit : Nat} (hlimit : limit < Overflow.bound - 1)
    (history : List Call) :
    (after history { limit }).count = stretch history % (limit + 1)
      ∧ (after history { limit }).count ≤ limit
      ∧ (after history { limit }).count + 1 < Overflow.bound
      ∧ ((after history { limit }).trips false = true ↔
          ∃ k, 0 < k ∧ stretch (history ++ [.observe false]) = k * (limit + 1))
      ∧ (after history { limit }).trips true = false
      ∧ (after (history ++ [.observe true]) { limit }).count = 0
      ∧ (∀ earlier later, history = earlier ++ later → later ≠ [] → EndsInTrip limit earlier →
          EndsInTrip limit history → limit + 1 ≤ later.countP (·.isObservation))
      ∧ (¬ List.replicate (limit + 1) (.observe false) <:+: history →
          ∀ earlier, earlier <+: history → ¬ EndsInTrip limit earlier) := by
  have hle := count_after_le limit history
  refine ⟨count_after limit history, hle, by omega, ?_, rfl, ?_, ?_, ?_⟩
  · rw [trips_idle_after_iff]
    constructor
    · rintro ⟨k, hk⟩
      refine ⟨k, Nat.pos_of_ne_zero ?_, by rw [hk, Nat.mul_comm]⟩
      rintro rfl
      rw [stretch_append_idle] at hk
      omega
    · rintro ⟨k, -, hk⟩
      exact ⟨k, by rw [hk, Nat.mul_comm]⟩
  · rw [after_append_singleton]
    rfl
  · rintro earlier later rfl hne hfirst hsecond
    exact le_observations_of_trips hfirst hsecond hne
  · exact fun h earlier hbegins => not_endsInTrip_of_short_stretches h hbegins

/-- With a limit of two, a reset and five idle observations leave the count at two, and the next one
is the second trip of its stretch. -/
theorem second_trip_of_stretch :
    let history := [.observe false, .reset] ++ List.replicate 5 (.observe false)
    (after history { limit := 2 }).count = 2
      ∧ (after history { limit := 2 }).trips false = true := by
  obtain ⟨hcount, -, -, htrips, -⟩ := trips_are_periodic
    (show 2 < Overflow.bound - 1 by decide)
    ([.observe false, .reset] ++ List.replicate 5 (.observe false))
  exact ⟨hcount.trans (by decide), htrips.2 ⟨2, by decide, by decide⟩⟩

end Testbench.Watchdog

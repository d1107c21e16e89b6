import Testbench.Proofs.Ticks

/-!
# The protocol of the bus port

A memory behind the bus is stepped with a port, and between the steps the device may do to the port
whatever it likes: place a request, put another in its place, or take it back.  A `Session` is a
memory together with the ports as they stand before each step, so it leaves the device all of that
freedom.

A step can do four things (`step_cases`): count down the latency of the request in flight, answer
it, accept a request, or nothing.  So it keeps the books: what was in flight or is taken off the
port is answered, or in flight afterwards (`waiting_step`).

From a request's acceptance the countdown says where the memory is until the answer
(`flight_of_taken`), and read backwards it says that whatever is in flight was accepted, and when
(`exists_taken_of_flight`).  The two together make every request that is taken off the port answered
once, in order, and exactly on time (`Session.serves_in_order_and_on_time`).
-/

namespace Testbench.Ddr

/-! ## One step -/

/-- All that a step can do. -/
theorem step_cases (d : Ddr) (port : Port) :
    (∃ f, d.flight = some f ∧ 1 < f.remaining
        ∧ d.step port = ({ d with flight := some { f with remaining := f.remaining - 1 } },
            { port with response := none }))
      ∨ (∃ f, d.flight = some f ∧ f.remaining ≤ 1
        ∧ d.step port = ({ d.perform f.request with
              flight := none, completed := (d.perform f.request).completed + 1 },
            { port with response := some (d.respond f.request) }))
      ∨ (∃ r, d.flight = none ∧ port.request = some r
        ∧ d.step port = ({ d with flight := some (d.accept r), timer := d.timer.access r.address },
            ⟨none, none⟩))
      ∨ (d.flight = none ∧ port.request = none ∧ d.step port = (d, ⟨none, none⟩)) := by
  unfold step
  cases hflight : d.flight with
  | some f =>
      by_cases hwait : 1 < f.remaining
      · exact Or.inl ⟨f, rfl, hwait, if_pos hwait⟩
      · exact Or.inr (Or.inl ⟨f, rfl, by omega, if_neg hwait⟩)
  | none =>
      cases hrequest : port.request with
      | some r => exact Or.inr (Or.inr (Or.inl ⟨r, rfl, rfl, rfl⟩))
      | none => exact Or.inr (Or.inr (Or.inr ⟨rfl, rfl, rfl⟩))

@[simp] theorem completed_perform (d : Ddr) (r : Request) :
    (d.perform r).completed = d.completed := by
  unfold perform write
  split
  · split <;> rfl
  · rfl

/-- The request that a step takes off the port: one that was there before it and is not after. -/
def taken? (d : Ddr) (port : Port) : Option Request :=
  if (d.step port).2.request.isNone then port.request else none

/-- A step takes the request off the port exactly if nothing is in flight. -/
theorem taken?_eq (d : Ddr) (port : Port) :
    d.taken? port = if d.busy then none else port.request := by
  unfold taken? busy
  rcases d.step_cases port with
    ⟨f, hflight, -, hstep⟩ | ⟨f, hflight, -, hstep⟩ | ⟨r, hflight, hrequest, hstep⟩
      | ⟨hflight, hrequest, hstep⟩
  · rw [hstep, hflight]
    cases port.request <;> rfl
  · rw [hstep, hflight]
    cases port.request <;> rfl
  · rw [hstep, hflight, hrequest]
    rfl
  · rw [hstep, hflight, hrequest]
    rfl

/-- The request that a step answers: the one in flight, if the step leaves a response. -/
def served? (d : Ddr) (port : Port) : Option Request :=
  if (d.step port).2.response.isSome then d.flight.map (·.request) else none

/-- The request in flight, if there is one. -/
def waiting (d : Ddr) : List Request := d.flight.toList.map (·.request)

theorem length_waiting (d : Ddr) : d.waiting.length = if d.busy then 1 else 0 := by
  unfold waiting busy
  cases d.flight <;> rfl

/-- What a step answers was in flight, and what it takes is in flight from then on. -/
theorem waiting_step (d : Ddr) (port : Port) :
    d.waiting ++ (d.taken? port).toList
      = (d.served? port).toList ++ (d.step port).1.waiting := by
  rw [taken?_eq]
  unfold served? waiting busy
  rcases d.step_cases port with
    ⟨f, hflight, -, hstep⟩ | ⟨f, hflight, -, hstep⟩ | ⟨r, hflight, hrequest, hstep⟩
      | ⟨hflight, hrequest, hstep⟩
  · simp [hstep, hflight]
  · simp [hstep, hflight]
  · simp [hstep, hflight, hrequest, accept]
  · simp [hstep, hflight, hrequest]

/-- A step that answers a request responds to it and performs it; any other step presents nothing
and leaves the contents as they are. -/
theorem served?_cases (d : Ddr) (port : Port) :
    (∃ r, d.served? port = some r ∧ (d.step port).2.response = some (d.respond r)
        ∧ (d.step port).1.store = (d.perform r).store
        ∧ (d.step port).1.base = (d.perform r).base)
      ∨ (d.served? port = none ∧ (d.step port).2.response = none
        ∧ (d.step port).1.store = d.store ∧ (d.step port).1.base = d.base) := by
  unfold served?
  rcases d.step_cases port with
    ⟨f, -, -, hstep⟩ | ⟨f, hflight, -, hstep⟩ | ⟨r, -, -, hstep⟩ | ⟨-, -, hstep⟩
  · rw [hstep]
    exact Or.inr ⟨rfl, rfl, rfl, rfl⟩
  · rw [hstep, hflight]
    exact Or.inl ⟨f.request, rfl, rfl, rfl, rfl⟩
  · rw [hstep]
    exact Or.inr ⟨rfl, rfl, rfl, rfl⟩
  · rw [hstep]
    exact Or.inr ⟨rfl, rfl, rfl, rfl⟩

/-- A response echoes the address of the request that it answers. -/
theorem address_response_step (d : Ddr) (port : Port) :
    (d.step port).2.response.map (·.address) = (d.served? port).map (·.address) := by
  rcases d.served?_cases port with ⟨r, hserved, hresponse, -, -⟩ | ⟨hserved, hresponse, -, -⟩
  · rw [hserved, hresponse]
    rfl
  · rw [hserved, hresponse]
    rfl

/-- A step completes what it answers. -/
theorem completed_step (d : Ddr) (port : Port) :
    (d.step port).1.completed = d.completed + (d.served? port).toList.length := by
  unfold served?
  rcases d.step_cases port with
    ⟨f, -, -, hstep⟩ | ⟨f, hflight, -, hstep⟩ | ⟨r, -, -, hstep⟩ | ⟨-, -, hstep⟩
  · simp [hstep]
  · simp [hstep, hflight]
  · simp [hstep]
  · simp [hstep]

/-- A step asks the timer for what it takes, and for nothing else. -/
theorem timer_step (d : Ddr) (port : Port) :
    (d.step port).1.timer
      = ((d.taken? port).toList.map (·.address)).foldl AccessTimer.access d.timer := by
  rw [taken?_eq]
  unfold busy
  rcases d.step_cases port with
    ⟨f, hflight, -, hstep⟩ | ⟨f, hflight, -, hstep⟩ | ⟨r, hflight, hrequest, hstep⟩
      | ⟨hflight, hrequest, hstep⟩
  · simp [hstep, hflight]
  · simp [hstep, hflight]
  · simp [hstep, hflight, hrequest]
  · simp [hstep, hflight, hrequest]

/-- While something is in flight the request stays on the port. -/
theorem request_step_of_busy {d : Ddr} (h : d.busy = true) (port : Port) :
    (d.step port).2.request = port.request := by
  unfold busy at h
  rcases d.step_cases port with
    ⟨f, -, -, hstep⟩ | ⟨f, -, -, hstep⟩ | ⟨r, hflight, -, -⟩ | ⟨hflight, -, -⟩
  · rw [hstep]
  · rw [hstep]
  · rw [hflight] at h
    cases h
  · rw [hflight] at h
    cases h

/-- A response on the port comes from a request that is complete with this step. -/
theorem response_step_iff (d : Ddr) (port : Port) (response : Response) :
    (d.step port).2.response = some response ↔
      ∃ f, d.flight = some f ∧ f.remaining ≤ 1 ∧ response = d.respond f.request := by
  rcases d.step_cases port with
    ⟨f, hflight, hwait, hstep⟩ | ⟨f, hflight, hdue, hstep⟩ | ⟨r, hflight, -, hstep⟩
      | ⟨hflight, -, hstep⟩
  · rw [hstep, hflight]
    constructor
    · intro h
      cases h
    · rintro ⟨g, hg, hdue, -⟩
      cases hg
      omega
  · rw [hstep, hflight]
    constructor
    · intro h
      exact ⟨f, rfl, hdue, (Option.some.inj h).symm⟩
    · rintro ⟨g, hg, -, rfl⟩
      cases hg
      rfl
  · rw [hstep, hflight]
    simp
  · rw [hstep, hflight]
    simp

/-- A step that completes nothing leaves no response. -/
theorem response_step_of_completed_eq {d : Ddr} {port : Port}
    (h : (d.step port).1.completed = d.completed) : (d.step port).2.response = none := by
  rcases d.served?_cases port with ⟨r, hserved, -, -, -⟩ | ⟨-, hresponse, -, -⟩
  · rw [completed_step, hserved] at h
    simp at h
  · exact hresponse

/-! ## The latencies asked for -/

namespace AccessTimer

theorem overflows_eq_false {t : AccessTimer} (h : t.timing.worst < Overflow.bound)
    (address : Nat) : t.overflows address = false := by
  have hle := t.latency_le address
  simp only [overflows, decide_eq_false_iff_not]
  omega

/-- A timer keeps the addresses of a sequence of accesses, the last one first. -/
theorem asked_foldl (addresses : List Nat) (t : AccessTimer) :
    (addresses.foldl access t).asked = addresses.reverse ++ t.asked := by
  induction addresses generalizing t with
  | nil => rfl
  | cons address addresses ih =>
      rw [List.foldl_cons, ih, asked_access, List.reverse_cons, List.append_assoc]
      rfl

/-- The last of a sequence of accesses finds the timer as the others left it. -/
theorem latencies_append {t : AccessTimer} (h : t.timing.worst < Overflow.bound)
    (addresses : List Nat) (last : Nat) :
    t.latencies (addresses ++ [last])
      = t.latencies addresses ++ [.ok ((addresses.foldl access t).latency last)] := by
  induction addresses generalizing t with
  | nil =>
      have hlast := overflows_eq_false h last
      simp [latencies, hlast]
  | cons address addresses ih =>
      have hfirst := overflows_eq_false h address
      have hrest : (t.access address).timing.worst < Overflow.bound := by
        rw [timing_access]
        exact h
      simp only [List.cons_append, latencies, hfirst, List.foldl_cons, ih hrest]
      rfl

end AccessTimer

/-! ## Sessions -/

/-- A memory, and the port as the device leaves it before each step. -/
structure Session where
  /-- The memory before the first step. -/
  memory : Ddr
  /-- The port before each step, the steps being counted from zero. -/
  offered : Nat → Port

namespace Session

variable {s : Session} {a j k : Nat} {r : Request}

/-- The memory before a step. -/
def memoryAt (s : Session) : Nat → Ddr
  | 0 => s.memory
  | k + 1 => ((s.memoryAt k).step (s.offered k)).1

/-- The port after a step. -/
def portAfter (s : Session) (k : Nat) : Port := ((s.memoryAt k).step (s.offered k)).2

/-- The request that a step takes off the port. -/
def taken (s : Session) (k : Nat) : Option Request :=
  if (s.portAfter k).request.isNone then (s.offered k).request else none

/-- The requests taken off the port in the first `k` steps. -/
def accepted (s : Session) (k : Nat) : List Request := (List.range k).filterMap s.taken

/-- The responses on the port after each of the first `k` steps. -/
def responses (s : Session) (k : Nat) : List Response :=
  (List.range k).filterMap fun j => (s.portAfter j).response

/-- The latency that the timer reports for a request that is accepted in step `a`. -/
def latencyAt (s : Session) (a : Nat) (r : Request) : Nat := (s.memoryAt a).timer.latency r.address

/-- The latencies reported in the first `k` steps. -/
def reported (s : Session) (k : Nat) : List Nat :=
  (List.range k).filterMap fun j => (s.taken j).map (s.latencyAt j)

theorem filterMap_range_succ {α : Type} (f : Nat → Option α) (k : Nat) :
    (List.range (k + 1)).filterMap f = (List.range k).filterMap f ++ (f k).toList := by
  rw [List.range_succ, List.filterMap_append]
  cases h : f k <;> simp [h]

theorem taken_eq (s : Session) (k : Nat) :
    s.taken k = if (s.memoryAt k).busy then none else (s.offered k).request :=
  taken?_eq (s.memoryAt k) (s.offered k)

/-- A request is only taken while nothing is in flight. -/
theorem busy_eq_false_of_taken (h : s.taken a = some r) : (s.memoryAt a).busy = false := by
  rw [taken_eq] at h
  cases hbusy : (s.memoryAt a).busy with
  | true =>
      rw [hbusy] at h
      cases h
  | false => rfl

theorem accepted_succ (s : Session) (k : Nat) :
    s.accepted (k + 1) = s.accepted k ++ (s.taken k).toList :=
  filterMap_range_succ _ k

theorem responses_succ (s : Session) (k : Nat) :
    s.responses (k + 1) = s.responses k ++ (s.portAfter k).response.toList :=
  filterMap_range_succ _ k

theorem reported_succ (s : Session) (k : Nat) :
    s.reported (k + 1) = s.reported k ++ ((s.taken k).map (s.latencyAt k)).toList :=
  filterMap_range_succ _ k

/-! ## From acceptance to answer -/

/-- An accepted request is in flight, with its latency before it. -/
theorem flight_succ_of_taken (h : s.taken a = some r) :
    (s.memoryAt (a + 1)).flight = some ⟨r, max 1 (s.latencyAt a r)⟩ := by
  rw [taken_eq] at h
  show ((s.memoryAt a).step (s.offered a)).1.flight = _
  rcases (s.memoryAt a).step_cases (s.offered a) with
    ⟨f, hflight, -, -⟩ | ⟨f, hflight, -, -⟩ | ⟨q, hflight, hrequest, hstep⟩
      | ⟨hflight, hrequest, -⟩
  · simp [busy, hflight] at h
  · simp [busy, hflight] at h
  · have hq : q = r := by simpa [busy, hflight, hrequest] using h
    rw [hstep, hq, Nat.max_comm]
    rfl
  · simp [busy, hflight, hrequest] at h

/-- **The countdown.**  Until its latency is over the request stays in flight. -/
theorem flight_of_taken (h : s.taken a = some r) {i : Nat} (hi : i < max 1 (s.latencyAt a r)) :
    (s.memoryAt (a + 1 + i)).flight = some ⟨r, max 1 (s.latencyAt a r) - i⟩ := by
  induction i with
  | zero => exact flight_succ_of_taken h
  | succ i ih =>
      have hnow := ih (by omega)
      show ((s.memoryAt (a + 1 + i)).step (s.offered (a + 1 + i))).1.flight = _
      rcases (s.memoryAt (a + 1 + i)).step_cases (s.offered (a + 1 + i)) with
        ⟨f, hflight, -, hstep⟩ | ⟨f, hflight, hdue, -⟩ | ⟨q, hflight, -, -⟩ | ⟨hflight, -, -⟩
      · rw [hnow] at hflight
        cases hflight
        rw [hstep]
        simp only [Option.some.injEq, Flight.mk.injEq, true_and]
        omega
      · -- the latency is not over yet
        rw [hnow] at hflight
        cases hflight
        simp only at hdue
        omega
      · rw [hnow] at hflight
        cases hflight
      · rw [hnow] at hflight
        cases hflight

/-- Whatever is in flight was taken off the port, and its countdown began then. -/
theorem exists_taken_of_flight (hidle : s.memory.flight = none) {f : Flight}
    (h : (s.memoryAt k).flight = some f) :
    ∃ a r, s.taken a = some r ∧ a < k ∧ k ≤ a + max 1 (s.latencyAt a r)
      ∧ f = ⟨r, a + max 1 (s.latencyAt a r) + 1 - k⟩ := by
  induction k generalizing f with
  | zero =>
      rw [show (s.memoryAt 0).flight = none from hidle] at h
      cases h
  | succ k ih =>
      have hnext : ((s.memoryAt k).step (s.offered k)).1.flight = some f := h
      rcases (s.memoryAt k).step_cases (s.offered k) with
        ⟨g, hflight, hwait, hstep⟩ | ⟨g, -, -, hstep⟩ | ⟨r, hflight, hrequest, hstep⟩
          | ⟨hflight, -, hstep⟩
      · obtain ⟨a, r, htaken, hlt, hle, rfl⟩ := ih hflight
        rw [hstep] at hnext
        simp only [Option.some.injEq] at hnext
        simp only at hwait
        refine ⟨a, r, htaken, by omega, by omega, ?_⟩
        rw [← hnext]
        simp only [Flight.mk.injEq, true_and]
        omega
      · rw [hstep] at hnext
        cases hnext
      · have htaken : s.taken k = some r := by
          rw [taken_eq]
          simp [busy, hflight, hrequest]
        have hnow := flight_succ_of_taken htaken
        rw [h] at hnow
        refine ⟨k, r, htaken, Nat.lt_succ_self k, by omega, ?_⟩
        rw [Option.some.inj hnow]
        simp only [Flight.mk.injEq, true_and]
        omega
      · rw [hstep, hflight] at hnext
        cases hnext

/-- From the step after its acceptance to that of its answer a request keeps the memory busy. -/
theorem busy_of_taken (h : s.taken a = some r) (hlt : a < j)
    (hle : j ≤ a + max 1 (s.latencyAt a r)) : (s.memoryAt j).busy = true := by
  obtain ⟨i, rfl⟩ : ∃ i, j = a + 1 + i := ⟨j - (a + 1), by omega⟩
  rw [busy, flight_of_taken h (by omega)]
  rfl

/-- A request is answered when its latency is over. -/
theorem response_of_taken (h : s.taken a = some r) :
    (s.portAfter (a + max 1 (s.latencyAt a r))).response
      = some ((s.memoryAt (a + max 1 (s.latencyAt a r))).respond r) := by
  have hlast := flight_of_taken h (i := max 1 (s.latencyAt a r) - 1) (by omega)
  rw [show a + 1 + (max 1 (s.latencyAt a r) - 1) = a + max 1 (s.latencyAt a r) by omega] at hlast
  exact (response_step_iff _ _ _).2 ⟨_, hlast, by simp only; omega, rfl⟩

/-- Every response answers a request whose latency is over. -/
theorem exists_taken_of_response (hidle : s.memory.flight = none) {response : Response}
    (h : (s.portAfter j).response = some response) :
    ∃ a r, s.taken a = some r ∧ j = a + max 1 (s.latencyAt a r)
      ∧ response.address = r.address := by
  obtain ⟨f, hflight, hdue, rfl⟩ := (response_step_iff _ _ _).1 h
  obtain ⟨a, r, htaken, hlt, hle, rfl⟩ := exists_taken_of_flight hidle hflight
  simp only at hdue
  exact ⟨a, r, htaken, by omega, rfl⟩

/-- No two requests are due in the same step. -/
theorem eq_of_due_eq {b : Nat} {q : Request} (ha : s.taken a = some r) (hb : s.taken b = some q)
    (h : a + max 1 (s.latencyAt a r) = b + max 1 (s.latencyAt b q)) : a = b := by
  rcases Nat.lt_trichotomy a b with hlt | heq | hgt
  · have hbusy := busy_of_taken ha hlt (by omega)
    rw [busy_eq_false_of_taken hb] at hbusy
    cases hbusy
  · exact heq
  · have hbusy := busy_of_taken hb hgt (by omega)
    rw [busy_eq_false_of_taken ha] at hbusy
    cases hbusy

/-! ## The books of a session -/

/-- What has been accepted has been answered, in the same order, or is in flight. -/
theorem addresses_accepted (hidle : s.memory.flight = none) (k : Nat) :
    (s.accepted k).map (·.address)
      = (s.responses k).map (·.address)
        ++ (s.memoryAt k).flight.toList.map (·.request.address) := by
  have hwaiting : ∀ d : Ddr, d.flight.toList.map (·.request.address)
      = d.waiting.map (·.address) := by
    intro d
    rw [waiting, List.map_map]
    rfl
  rw [hwaiting]
  induction k with
  | zero =>
      rw [show (s.memoryAt 0).waiting = [] by rw [waiting, memoryAt, hidle]; rfl]
      rfl
  | succ k ih =>
      have hstep : (s.memoryAt k).waiting ++ (s.taken k).toList
          = ((s.memoryAt k).served? (s.offered k)).toList ++ (s.memoryAt (k + 1)).waiting :=
        (s.memoryAt k).waiting_step (s.offered k)
      have hresponse : (s.portAfter k).response.toList.map (·.address)
          = ((s.memoryAt k).served? (s.offered k)).toList.map (·.address) := by
        rw [← Option.toList_map, ← Option.toList_map]
        exact congrArg Option.toList ((s.memoryAt k).address_response_step (s.offered k))
      rw [accepted_succ, List.map_append, ih, List.append_assoc, ← List.map_append, hstep,
        responses_succ, List.map_append, List.map_append, hresponse, List.append_assoc]

/-- Every request accepted is completed or in flight. -/
theorem length_accepted (hidle : s.memory.flight = none) (k : Nat) :
    (s.memoryAt k).completed + (if (s.memoryAt k).busy then 1 else 0)
      = s.memory.completed + (s.accepted k).length := by
  rw [← length_waiting]
  induction k with
  | zero =>
      have hfree : s.memory.waiting = [] := by
        rw [waiting, hidle]
        rfl
      simp [hfree, accepted, memoryAt]
  | succ k ih =>
      have hcompleted := (s.memoryAt k).completed_step (s.offered k)
      have hlength := congrArg List.length ((s.memoryAt k).waiting_step (s.offered k))
      rw [List.length_append, List.length_append] at hlength
      rw [accepted_succ, List.length_append]
      show ((s.memoryAt k).step (s.offered k)).1.completed
        + ((s.memoryAt k).step (s.offered k)).1.waiting.length
        = s.memory.completed
          + ((s.accepted k).length + ((s.memoryAt k).taken? (s.offered k)).toList.length)
      omega

/-- The timer has been asked once for each request accepted, in that order. -/
theorem timer_memoryAt (s : Session) (k : Nat) :
    (s.memoryAt k).timer
      = ((s.accepted k).map (·.address)).foldl AccessTimer.access s.memory.timer := by
  induction k with
  | zero => rfl
  | succ k ih =>
      rw [accepted_succ, List.map_append, List.foldl_append, ← ih]
      exact (s.memoryAt k).timer_step (s.offered k)

/-- What the timer was asked about is what was accepted, each request once. -/
theorem asked_memoryAt (s : Session) (k : Nat) :
    (s.memoryAt k).timer.asked
      = ((s.accepted k).map (·.address)).reverse ++ s.memory.timer.asked := by
  rw [timer_memoryAt, AccessTimer.asked_foldl]

/-- The latencies reported are those of a timer that is asked for the accepted addresses alone. -/
theorem reported_eq_latencies (htimely : s.memory.timer.timing.worst < Overflow.bound) (k : Nat) :
    (s.reported k).map Except.ok = s.memory.timer.latencies ((s.accepted k).map (·.address)) := by
  induction k with
  | zero => rfl
  | succ k ih =>
      rw [reported_succ, accepted_succ, List.map_append, List.map_append, ih]
      cases htaken : s.taken k with
      | none => simp
      | some r =>
          have hlast := AccessTimer.latencies_append htimely ((s.accepted k).map (·.address))
            r.address
          rw [← timer_memoryAt] at hlast
          exact hlast.symm

theorem timing_memoryAt (s : Session) (k : Nat) :
    (s.memoryAt k).timer.timing = s.memory.timer.timing := by
  induction k with
  | zero => rfl
  | succ k ih => exact (timing_step _ _).trans ih

/-- No latency that the session asks for leaves the sixty-four-bit range. -/
theorem stepOverflows_eq_false (htimely : s.memory.timer.timing.worst < Overflow.bound) (k : Nat) :
    (s.memoryAt k).stepOverflows (s.offered k) = false := by
  apply Peripheral.Timely.stepOverflows
  show (s.memoryAt k).timer.timing.worst < Overflow.bound
  rw [timing_memoryAt]
  exact htimely

/-- **Every request is served once, in order and on time.**  Take a new memory whose latencies fit,
and let the device do what it likes to the port between the steps.

A step takes a request off the port exactly if nothing is in flight.  The timer is asked once for
each request taken, in that order: the addresses it was asked about are theirs, with none twice and
none left out.  A request taken in step `a` is answered in step `a + max 1 latency` with its own
address; until then, and in that step too, nothing else is taken and what the device has placed
stays on the port.  There are no other responses: each one on the port after a step belongs to
exactly one request that is due, and a step that completes nothing leaves none.  At all times the
requests taken are those answered, in the same order, and the one in flight, and no step ever forms
a latency that overflows. -/
theorem serves_in_order_and_on_time (s : Session) (hidle : s.memory.flight = none)
    (hnew : s.memory.completed = 0) (htimely : s.memory.timer.timing.worst < Overflow.bound) :
    (∀ k, s.taken k = if (s.memoryAt k).busy then none else (s.offered k).request)
      ∧ (∀ k, (s.memoryAt k).timer
            = ((s.accepted k).map (·.address)).foldl AccessTimer.access s.memory.timer
          ∧ (s.memoryAt k).timer.asked
            = ((s.accepted k).map (·.address)).reverse ++ s.memory.timer.asked
          ∧ (s.reported k).map Except.ok
            = s.memory.timer.latencies ((s.accepted k).map (·.address)))
      ∧ (∀ a r, s.taken a = some r →
          (∃ word, (s.portAfter (a + max 1 (s.latencyAt a r))).response = some ⟨r.address, word⟩)
            ∧ ∀ j, a < j → j ≤ a + max 1 (s.latencyAt a r) →
                s.taken j = none ∧ (s.portAfter j).request = (s.offered j).request)
      ∧ (∀ j response, (s.portAfter j).response = some response →
          ∃ a r, s.taken a = some r ∧ j = a + max 1 (s.latencyAt a r)
            ∧ response.address = r.address
            ∧ ∀ b q, s.taken b = some q → j = b + max 1 (s.latencyAt b q) → b = a)
      ∧ (∀ j, (s.memoryAt (j + 1)).completed = (s.memoryAt j).completed →
          (s.portAfter j).response = none)
      ∧ (∀ k, (s.accepted k).map (·.address)
          = (s.responses k).map (·.address)
            ++ (s.memoryAt k).flight.toList.map (·.request.address))
      ∧ (∀ k, (s.memoryAt k).completed + (if (s.memoryAt k).busy then 1 else 0)
          = (s.accepted k).length)
      ∧ (∀ k, (s.memoryAt k).stepOverflows (s.offered k) = false) := by
  refine ⟨s.taken_eq, ?_, ?_, ?_, ?_, addresses_accepted hidle, ?_,
    stepOverflows_eq_false htimely⟩
  · intro k
    exact ⟨timer_memoryAt s k, asked_memoryAt s k, reported_eq_latencies htimely k⟩
  · intro a r htaken
    refine ⟨⟨_, response_of_taken htaken⟩, ?_⟩
    intro j hlt hle
    have hbusy := busy_of_taken htaken hlt hle
    refine ⟨?_, request_step_of_busy hbusy (s.offered j)⟩
    rw [taken_eq, hbusy]
    rfl
  · intro j response hresponse
    obtain ⟨a, r, htaken, hdue, haddress⟩ := exists_taken_of_response hidle hresponse
    refine ⟨a, r, htaken, hdue, haddress, ?_⟩
    intro b q hq hdue'
    exact eq_of_due_eq hq htaken (by omega)
  · intro j hcompleted
    exact response_step_of_completed_eq hcompleted
  · intro k
    rw [length_accepted hidle, hnew, Nat.zero_add]

/-- An open-row memory with nothing in flight.  Once the first request is taken, the device asks for
another address before every step. -/
def sample : Session where
  memory := .zeroed 64 0 (.new (.openRow 1 2 3 16))
  offered k := if k = 0 then { request := some { address := 4 } }
    else { request := some { address := 40 } }

/-- The first request opens a row and is answered in step three; the second waits for step four,
changes the row and is answered in step ten. -/
theorem sample_answers :
    (∃ word, (sample.portAfter 3).response = some ⟨4, word⟩)
      ∧ (sample.portAfter 3).request = some { address := 40 }
      ∧ ∃ word, (sample.portAfter 10).response = some ⟨40, word⟩ := by
  obtain ⟨-, -, hserved, -⟩ := serves_in_order_and_on_time sample rfl rfl (by decide)
  have hfirst : sample.latencyAt 0 { address := 4 } = 3 := by decide
  have hsecond : sample.latencyAt 4 { address := 40 } = 6 := by decide +kernel
  obtain ⟨hanswer, hwaiting⟩ := hserved 0 { address := 4 } (by decide)
  obtain ⟨hanswer', -⟩ := hserved 4 { address := 40 } (by decide +kernel)
  rw [hfirst] at hanswer hwaiting
  rw [hsecond] at hanswer'
  exact ⟨hanswer, (hwaiting 3 (by omega) (by omega)).2, hanswer'⟩

end Session

end Testbench.Ddr

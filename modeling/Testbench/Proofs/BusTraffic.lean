import Testbench.Proofs.BusProtocol
import Testbench.Proofs.SinceReset

/-!
# The traffic on the bus

In every tick the device and the memory behind the bus share the port.  On the edge the device keeps
the response that it finds there and, if its trace says so, places a request, over the one that may
still be pending; then the memory clears the response, counts down, answers or accepts.  A trace
places a request in every cycle for which it holds the frame, so it may place many times what is
accepted once.

None of this loses anything or doubles it.  The requests accepted, and the one still pending, are
the requests placed without those that a later one has overwritten (`standing`), and the responses
that the device has kept, and the one on the port, are all that the memory has given
(`bus_traffic_conserved`).  A reset is a few ticks like any others here: the device places nothing
in them, but it goes on keeping responses and the memory goes on serving.

The books are kept for a `Bus`, a memory with a port that is driven by nothing but the placements of
each tick (`Bus.accepted_append_pending`); a bench over any history of calls is one (`OnBus.tick`).
-/

namespace Testbench

/-! ## A bus and its placements -/

namespace Ddr

/-- What goes over the bus port in a tick. -/
structure Exchange where
  /-- The request that the device places on the edge. -/
  placed : Option Request
  /-- The request that the memory then takes off the port. -/
  accepted : Option Request
  /-- The response that is on the port when the tick is over. -/
  answered : Option Response
  deriving DecidableEq, Repr

/-- The requests accepted, in order. -/
def acceptedIn (es : List Exchange) : List Request := es.filterMap (·.accepted)

/-- The responses given, in order. -/
def answeredIn (es : List Exchange) : List Response := es.filterMap (·.answered)

/-- Is a request that is pending before these ticks overwritten in them: is another one placed before
any is accepted (`overwritten_iff`)? -/
def overwritten : List Exchange → Bool
  | [] => false
  | e :: rest => e.placed.isSome || (e.accepted.isNone && overwritten rest)

/-- The requests placed, without those that a later placement overwrote while they were pending. -/
def standing : List Exchange → List Request
  | [] => []
  | e :: rest =>
      (if e.accepted.isNone && overwritten rest then [] else e.placed.toList) ++ standing rest

theorem filterMap_cons_eq {α β : Type} (f : α → Option β) (x : α) (xs : List α) :
    (x :: xs).filterMap f = (f x).toList ++ xs.filterMap f := by
  rw [List.filterMap_cons]
  cases f x <;> rfl

@[simp] theorem acceptedIn_cons (e : Exchange) (es : List Exchange) :
    acceptedIn (e :: es) = e.accepted.toList ++ acceptedIn es :=
  filterMap_cons_eq _ e es

@[simp] theorem answeredIn_cons (e : Exchange) (es : List Exchange) :
    answeredIn (e :: es) = e.answered.toList ++ answeredIn es :=
  filterMap_cons_eq _ e es

theorem answeredIn_append (es fs : List Exchange) :
    answeredIn (es ++ fs) = answeredIn es ++ answeredIn fs :=
  List.filterMap_append

/-- A pending request is overwritten if there is a placement up to which nothing is accepted. -/
theorem overwritten_iff {es : List Exchange} : overwritten es = true ↔
    ∃ before e rest, es = before ++ e :: rest ∧ e.placed.isSome = true
      ∧ ∀ x ∈ before, x.accepted = none := by
  induction es with
  | nil => simp [overwritten]
  | cons e es ih =>
      rw [overwritten, Bool.or_eq_true, Bool.and_eq_true, ih, Option.isNone_iff_eq_none]
      constructor
      · rintro (hplaced | ⟨hnone, before, x, rest, rfl, hplaced, hbefore⟩)
        · exact ⟨[], e, es, rfl, hplaced, by simp⟩
        · exact ⟨e :: before, x, rest, rfl, hplaced, List.forall_mem_cons.2 ⟨hnone, hbefore⟩⟩
      · rintro ⟨before, x, rest, heq, hplaced, hbefore⟩
        cases before with
        | nil =>
            cases heq
            exact Or.inl hplaced
        | cons y before =>
            cases heq
            obtain ⟨hnone, hbefore'⟩ := List.forall_mem_cons.1 hbefore
            exact Or.inr ⟨hnone, before, x, rest, rfl, hplaced, hbefore'⟩

/-- The port after the device placed a request on it, or none. -/
def Port.offer (port : Port) (q : Option Request) : Port :=
  { port with request := q.or port.request }

/-- A step leaves a request on the port exactly while another one is in flight. -/
theorem request_step (d : Ddr) (port : Port) :
    (d.step port).2.request = if d.busy then port.request else none := by
  unfold busy
  rcases d.step_cases port with
    ⟨f, hflight, -, hstep⟩ | ⟨f, hflight, -, hstep⟩ | ⟨r, hflight, -, hstep⟩ | ⟨hflight, -, hstep⟩
  · rw [hstep, hflight]
    rfl
  · rw [hstep, hflight]
    rfl
  · rw [hstep, hflight]
    rfl
  · rw [hstep, hflight]
    rfl

/-- A memory and the port by which a device reaches it. -/
structure Bus where
  /-- The memory. -/
  memory : Ddr
  /-- The port. -/
  port : Port

namespace Bus

/-- The bus after a tick in which the device places a request, or none. -/
def tick (bus : Bus) (q : Option Request) : Bus :=
  ⟨(bus.memory.step (bus.port.offer q)).1, (bus.memory.step (bus.port.offer q)).2⟩

/-- What goes over the port in such a tick. -/
def exchange (bus : Bus) (q : Option Request) : Exchange :=
  ⟨q, bus.memory.taken? (bus.port.offer q), (bus.tick q).port.response⟩

/-- The bus after a tick for each of some placements. -/
def run (bus : Bus) (qs : List (Option Request)) : Bus := qs.foldl tick bus

/-- What goes over the port in each of these ticks. -/
def exchanges : Bus → List (Option Request) → List Exchange
  | _, [] => []
  | bus, q :: qs => bus.exchange q :: (bus.tick q).exchanges qs

theorem run_append_singleton (bus : Bus) (qs : List (Option Request)) (q : Option Request) :
    bus.run (qs ++ [q]) = (bus.run qs).tick q := by
  rw [run, List.foldl_append]
  rfl

theorem exchanges_append_singleton (bus : Bus) (qs : List (Option Request))
    (q : Option Request) :
    bus.exchanges (qs ++ [q]) = bus.exchanges qs ++ [(bus.run qs).exchange q] := by
  induction qs generalizing bus with
  | nil => rfl
  | cons first qs ih =>
      show bus.exchange first :: (bus.tick first).exchanges (qs ++ [q]) = _
      rw [ih]
      rfl

/-- **No placement is lost but by being overwritten.**  The requests accepted and the one pending in
the end are those placed that stand, after the one pending at first if that stands.  By induction on
the placements from the front, with the pending request of the bus left open. -/
theorem accepted_append_pending (bus : Bus) (qs : List (Option Request)) :
    acceptedIn (bus.exchanges qs) ++ (bus.run qs).port.request.toList
      = (if overwritten (bus.exchanges qs) then [] else bus.port.request.toList)
        ++ standing (bus.exchanges qs) := by
  induction qs generalizing bus with
  | nil => simp [exchanges, acceptedIn, overwritten, standing, run]
  | cons q qs ih =>
      have hrest := ih (bus.tick q)
      have hpending : (bus.tick q).port.request
          = if bus.memory.busy then q.or bus.port.request else none :=
        request_step bus.memory (bus.port.offer q)
      have haccepted : (bus.exchange q).accepted
          = if bus.memory.busy then none else q.or bus.port.request :=
        taken?_eq bus.memory (bus.port.offer q)
      have hplaced : (bus.exchange q).placed = q := rfl
      show acceptedIn (bus.exchange q :: (bus.tick q).exchanges qs)
          ++ ((bus.tick q).run qs).port.request.toList
        = (if overwritten (bus.exchange q :: (bus.tick q).exchanges qs) then []
            else bus.port.request.toList)
          ++ standing (bus.exchange q :: (bus.tick q).exchanges qs)
      rw [acceptedIn_cons, overwritten, standing, hplaced, List.append_assoc, hrest, hpending,
        haccepted]
      cases hbusy : bus.memory.busy with
      | true =>
          -- nothing is accepted, and a placement overwrites what was pending
          cases q with
          | none => simp
          | some r => cases overwritten ((bus.tick (some r)).exchanges qs) <;> simp
      | false =>
          -- what is on the port is accepted, and nothing is pending afterwards
          cases q with
          | none => cases bus.port.request <;> simp
          | some r => simp

/-- The memory answers what it accepts, in the same order, and what is not answered is in flight. -/
theorem addresses_conserved (bus : Bus) (qs : List (Option Request)) :
    bus.memory.waiting.map (·.address) ++ (acceptedIn (bus.exchanges qs)).map (·.address)
      = (answeredIn (bus.exchanges qs)).map (·.address)
        ++ (bus.run qs).memory.waiting.map (·.address) := by
  induction qs generalizing bus with
  | nil => simp [exchanges, acceptedIn, answeredIn, run]
  | cons q qs ih =>
      have hrest := ih (bus.tick q)
      have hresponse : ((bus.exchange q).answered.toList).map (·.address)
          = ((bus.memory.served? (bus.port.offer q)).toList).map (·.address) := by
        rw [← Option.toList_map, ← Option.toList_map]
        exact congrArg Option.toList (bus.memory.address_response_step (bus.port.offer q))
      have hstep : bus.memory.waiting ++ (bus.exchange q).accepted.toList
          = (bus.memory.served? (bus.port.offer q)).toList ++ (bus.tick q).memory.waiting :=
        bus.memory.waiting_step (bus.port.offer q)
      show bus.memory.waiting.map (·.address)
          ++ (acceptedIn (bus.exchange q :: (bus.tick q).exchanges qs)).map (·.address)
        = (answeredIn (bus.exchange q :: (bus.tick q).exchanges qs)).map (·.address)
          ++ ((bus.tick q).run qs).memory.waiting.map (·.address)
      rw [acceptedIn_cons, answeredIn_cons, List.map_append, List.map_append, hresponse,
        ← List.append_assoc, ← List.map_append, hstep, List.map_append, List.append_assoc, hrest,
        List.append_assoc]

/-- The memory counts its answers. -/
theorem completed_run (bus : Bus) (qs : List (Option Request)) :
    (bus.run qs).memory.completed
      = bus.memory.completed + (answeredIn (bus.exchanges qs)).length := by
  induction qs generalizing bus with
  | nil => simp [exchanges, answeredIn, run]
  | cons q qs ih =>
      have hresponse := congrArg (fun response : Option Nat => response.toList.length)
        (bus.memory.address_response_step (bus.port.offer q))
      simp only [Option.toList_map, List.length_map] at hresponse
      have hcompleted : (bus.tick q).memory.completed
          = bus.memory.completed + (bus.exchange q).answered.toList.length := by
        show (bus.memory.step (bus.port.offer q)).1.completed = _
        rw [completed_step, ← hresponse]
        rfl
      show ((bus.tick q).run qs).memory.completed
        = bus.memory.completed
          + (answeredIn (bus.exchange q :: (bus.tick q).exchanges qs)).length
      rw [ih, hcompleted, answeredIn_cons, List.length_append, Nat.add_assoc]

end Bus

end Ddr

/-! ## The bus of a bench -/

namespace Replay

/-- Placing a request on a port that is there. -/
theorem place_some (port : Ddr.Port) (q : Option Ddr.Request) :
    place (some port) q = some (port.offer q) := by
  cases q <;> rfl

end Replay

namespace Bench

open Trace

variable {trace : Trace} {device : Replay} {memory : LocalMemory} {config : Config} {b : Bench}
  {past : List Bench} {bus : Ddr.Bus}

/-- The request that the coming tick places on the bus port: that of the next cycle of the trace,
unless reset is asserted. -/
def placed? (b : Bench) : Option Ddr.Request :=
  if b.device.resetting then none
  else (frameAt b.device.trace.frames (b.device.applied + 1)).ddr

/-- What goes over the bus port in the coming tick.  A request is accepted if it is on the port after
the edge and no longer when the tick is over. -/
def exchange (b : Bench) : Ddr.Exchange where
  placed := b.placed?
  accepted := b.offered.bind fun port =>
    if (b.tick.device.port.bind (·.request)).isNone then port.request else none
  answered := b.tick.device.port.bind (·.response)

theorem port_tick (b : Bench) : b.tick.device.port = (b.peripheral.step b.offered).2 := rfl

/-- The edge of a tick does nothing to the port but to place a request. -/
theorem offered_eq (hs : b.device.sampled = true) (ht : b.device.Tracks) :
    b.offered = Replay.place b.device.port b.placed? := by
  unfold offered placed?
  rw [clockDevice_eq hs]
  show b.device.risingEdge.port = _
  rw [← ht.next_eq]
  unfold Replay.risingEdge
  by_cases hreset : b.device.resetting = true
  · rw [if_pos hreset, if_pos hreset]
    rfl
  · rw [if_neg hreset, if_neg hreset]
    rfl

/-- A recording device keeps the response that the last tick left on its port. -/
theorem responses_tick (hs : b.device.sampled = true) (hrecording : b.device.recording = true) :
    b.tick.device.responses.toList
      = b.device.responses.toList ++ (b.device.port.bind (·.response)).toList := by
  show (clockDevice b.device).responses.toList = _
  rw [clockDevice_eq hs]
  show b.device.risingEdge.responses.toList = _
  have hkeep : b.device.risingEdge.responses
      = Replay.keep true b.device.responses (b.device.port.bind (·.response)) := by
    rw [← hrecording]
    unfold Replay.risingEdge
    split <;> rfl
  rw [hkeep]
  cases b.device.port.bind (·.response) with
  | none => simp [Replay.keep]
  | some response => simp [Replay.keep]

/-- What goes over the port in the ticks of a history. -/
def traffic (cs : List Call) (b : Bench) : List Ddr.Exchange := (states cs b).map exchange

/-- A bench whose memory behind the bus and port are those of a bus after the placements of some
ticks, and whose device has kept all responses but the one on the port. -/
structure OnBus (trace : Trace) (bus : Ddr.Bus) (past : List Bench) (b : Bench) : Prop where
  trace_eq : b.device.trace = trace
  tracks : b.device.Tracks
  sampled : b.device.sampled = true
  recording : b.device.recording = true
  memory : b.peripheral = .memory (bus.run (past.map placed?)).memory
  port : b.device.port = some (bus.run (past.map placed?)).port
  exchanges : past.map exchange = bus.exchanges (past.map placed?)
  responses : b.device.responses.toList ++ (bus.run (past.map placed?)).port.response.toList
    = Ddr.answeredIn (past.map exchange)

namespace OnBus

theorem offered_eq (h : OnBus trace bus past b) :
    b.offered = some ((bus.run (past.map placed?)).port.offer b.placed?) := by
  rw [Bench.offered_eq h.sampled h.tracks, h.port, Replay.place_some]

theorem memory_tick (h : OnBus trace bus past b) :
    b.tick.peripheral = .memory ((bus.run (past.map placed?)).tick b.placed?).memory := by
  rw [peripheral_tick]
  show (b.peripheral.step b.offered).1 = _
  rw [h.memory, h.offered_eq]
  rfl

theorem port_tick (h : OnBus trace bus past b) :
    b.tick.device.port = some ((bus.run (past.map placed?)).tick b.placed?).port := by
  rw [Bench.port_tick, h.memory, h.offered_eq]
  rfl

theorem exchange_eq (h : OnBus trace bus past b) :
    b.exchange = (bus.run (past.map placed?)).exchange b.placed? := by
  rw [exchange, h.port_tick, h.offered_eq]
  rfl

/-- **A tick of the bench is a tick of the bus.** -/
theorem tick (h : OnBus trace bus past b) : OnBus trace bus (past ++ [b]) b.tick := by
  have hrun : bus.run ((past ++ [b]).map placed?)
      = (bus.run (past.map placed?)).tick b.placed? := by
    rw [List.map_append]
    exact Ddr.Bus.run_append_singleton bus _ _
  have hexchanges : (past ++ [b]).map exchange = past.map exchange ++ [b.exchange] :=
    List.map_append
  refine ⟨by rw [trace_tick, h.trace_eq], tracks_tick h.tracks, sampled_tick b, ?_, ?_, ?_, ?_, ?_⟩
  · exact (words_clockDevice b.device).1.trans h.recording
  · rw [hrun, h.memory_tick]
  · rw [hrun, h.port_tick]
  · rw [hexchanges, h.exchanges, h.exchange_eq, List.map_append]
    exact (Ddr.Bus.exchanges_append_singleton bus _ _).symm
  · -- the response that was on the port is kept, and the new one is on the port
    rw [responses_tick h.sampled h.recording, h.port, hrun, hexchanges, h.exchange_eq,
      Ddr.answeredIn_append, ← h.responses]
    rfl

theorem assertReset (h : OnBus trace bus past b) : OnBus trace bus past b.assertReset :=
  ⟨h.trace_eq, (h.tracks.setClock false).setReset true, h.sampled, h.recording, h.memory, h.port,
    h.exchanges, h.responses⟩

theorem releaseReset (h : OnBus trace bus past b) : OnBus trace bus past b.releaseReset :=
  ⟨h.trace_eq, h.tracks.setReset false, h.sampled, h.recording, h.memory, h.port, h.exchanges,
    h.responses⟩

theorem withUart (u : Uart.Sink) (h : OnBus trace bus past b) :
    OnBus trace bus past (b.withUart u) :=
  ⟨h.trace_eq, h.tracks, h.sampled, h.recording, h.memory, h.port, h.exchanges, h.responses⟩

theorem after (h : OnBus trace bus past b) (cs : List Call) :
    OnBus trace bus (past ++ states cs b) (after cs b) :=
  after_induction (P := OnBus trace bus) (fun _ _ => tick) (fun _ _ => assertReset)
    (fun _ _ => releaseReset) (fun _ _ u => withUart u) h cs

/-- Before each tick of a history, too, the bench is that of a bus. -/
theorem states (h : OnBus trace bus past b) (cs : List Call) :
    ∀ s ∈ Bench.states cs b, ∃ earlier, OnBus trace bus earlier s :=
  (after_keeps (P := fun s => ∃ earlier, OnBus trace bus earlier s) (fun _ ⟨_, h⟩ => ⟨_, h.tick⟩)
    (fun _ ⟨_, h⟩ => ⟨_, h.assertReset⟩) (fun _ ⟨_, h⟩ => ⟨_, h.releaseReset⟩)
    (fun _ u ⟨_, h⟩ => ⟨_, h.withUart u⟩) ⟨past, h⟩ cs).2

end OnBus

/-- A new bench around a new recording device with a port is on a bus on which nothing has happened,
if its peripheral is a memory. -/
theorem Fitted.onBus (hnew : Replay.New trace device) (hrecording : device.recording = true)
    (hport : device.port.isSome = true) (hb : Fitted device memory config b) {ddr : Ddr}
    (hddr : b.peripheral = .memory ddr) : OnBus trace ⟨ddr, {}⟩ [] b := by
  obtain ⟨-, hdevice, -⟩ := hb.running hnew
  obtain ⟨-, htrace, htracks, -, -, -, hsampled, -⟩ := hnew.spec
  obtain ⟨-, -, -, hresponses, hempty⟩ := hnew.untouched
  obtain ⟨port, hsome⟩ := Option.isSome_iff_exists.1 hport
  rw [hempty port hsome] at hsome
  rw [← hdevice] at htrace htracks hsampled hrecording hresponses hsome
  refine ⟨htrace, htracks, hsampled, hrecording, hddr, hsome, rfl, ?_⟩
  rw [hresponses]
  rfl

/-- Where all latencies fit, none overflows in the ticks of a history. -/
theorem overflows_states (h : b.peripheral.Timely) (cs : List Call) :
    ∀ s ∈ Bench.states cs b, s.overflows = false := by
  have htimely := (after_keeps (P := fun s => s.peripheral.Timely) (fun s h => h.step s.offered)
    (fun _ h => h) (fun _ h => h) (fun _ _ h => h) h cs).2
  intro s hs
  exact overflows_eq_false (htimely s hs)

/-- **The traffic on the bus is conserved, whatever the history.**  Build a bench around a new
recording device with a port, connect a memory that is new, and let the owner of the bench call it in
any way.

The requests that the memory has accepted, and the one still pending, are then the placements of the
trace without those that a later one has overwritten while they were pending.  The responses that the
device has kept, and the one on the port, are all that the memory has given, and it has counted as
many.  They answer the accepted requests, each once and in order, but for one that is in flight.  No
reset is an exception to any of this.

A placement is made in a tick in which reset is released, if the trace has a request for the cycle
that the tick shows; a request is accepted if the memory takes it off the port, and a response is
given when the countdown of the request in flight is over.  If the latencies of the memory fit, no
tick forms one that overflows. -/
theorem bus_traffic_conserved (hnew : Replay.New trace device)
    (hrecording : device.recording = true) (hport : device.port.isSome = true)
    (hb : Fitted device memory config b) {ddr : Ddr} (hddr : b.peripheral = .memory ddr)
    (hidle : ddr.flight = none) (hcompleted : ddr.completed = 0) (history : List Call) :
    (∃ d port, (after history b).peripheral = .memory d
        ∧ (after history b).device.port = some port
        ∧ Ddr.acceptedIn (traffic history b) ++ port.request.toList
          = Ddr.standing (traffic history b)
        ∧ (after history b).device.responses.toList ++ port.response.toList
          = Ddr.answeredIn (traffic history b)
        ∧ d.completed = (Ddr.answeredIn (traffic history b)).length
        ∧ (Ddr.acceptedIn (traffic history b)).map (·.address)
          = (Ddr.answeredIn (traffic history b)).map (·.address) ++ d.waiting.map (·.address))
      ∧ (∀ s ∈ states history b,
          s.exchange.placed
              = (if s.device.resetting then none
                else (frameAt trace.frames (s.device.applied + 1)).ddr)
            ∧ ∃ d port, s.peripheral = .memory d ∧ s.offered = some port
              ∧ s.exchange.accepted = d.taken? port
              ∧ ∀ response, s.exchange.answered = some response ↔
                  ∃ f, d.flight = some f ∧ f.remaining ≤ 1 ∧ response = d.respond f.request)
      ∧ (ddr.timer.timing.worst < Overflow.bound →
          ∀ s ∈ states history b, s.overflows = false) := by
  have hbus := hb.onBus hnew hrecording hport hddr
  have hafter := hbus.after history
  rw [List.nil_append] at hafter
  have htraffic : traffic history b
      = (Ddr.Bus.mk ddr {}).exchanges ((states history b).map placed?) := hafter.exchanges
  refine ⟨⟨_, _, hafter.memory, hafter.port, ?_, hafter.responses, ?_, ?_⟩, ?_, ?_⟩
  · rw [htraffic, Ddr.Bus.accepted_append_pending]
    simp
  · rw [htraffic, Ddr.Bus.completed_run, hcompleted, Nat.zero_add]
  · have hwaiting : ddr.waiting = [] := by
      rw [Ddr.waiting, hidle]
      rfl
    have hserved := (Ddr.Bus.mk ddr {}).addresses_conserved ((states history b).map placed?)
    rw [hwaiting, List.map_nil, List.nil_append] at hserved
    rw [htraffic]
    exact hserved
  · intro s hs
    obtain ⟨earlier, hs⟩ := hbus.states history s hs
    constructor
    · rw [← hs.trace_eq]
      rfl
    · refine ⟨_, _, hs.memory, hs.offered_eq, ?_, ?_⟩
      · rw [hs.exchange_eq]
        rfl
      · intro response
        rw [hs.exchange_eq]
        exact Ddr.response_step_iff _ _ _
  · intro htimely
    apply overflows_states
    rw [hddr]
    exact htimely

end Bench

/-! ## A small bench on a bus -/

namespace Sample

/-- A request, and another one that is held for two cycles. -/
def busTrace : Trace where
  ports := 1
  eventWidth := 1
  ddrPort := true
  frames := [{ ddr := some { address := 4 } }, { ddr := some { address := 8 }, repeated := 2 }]

/-- A new recording device for that trace. -/
def busDevice : Replay := Replay.withRecording (.start busTrace)

/-- An empty memory of sixteen words that takes three steps to answer. -/
def busMemory : Ddr := .zeroed 64 0 (.new (.fixed 3))

/-- A bench around both. -/
def busBench : Bench := (Bench.start busDevice (.zeroed 64) config).withPeripheral (.memory busMemory)

end Sample

namespace Bench

/-- The first request is in flight for three ticks, in which the second is placed twice.  The reset
finds a response on the port and the second request pending; the device keeps the one and the memory
accepts the other, and when the trace begins again its first request has to wait. -/
theorem traffic_across_reset :
    Ddr.acceptedIn (traffic [.reset, .tick, .tick, .tick, .tick, .reset, .tick] Sample.busBench)
        = [{ address := 4 }, { address := 8 }]
      ∧ ∃ port, (after [.reset, .tick, .tick, .tick, .tick, .reset, .tick]
            Sample.busBench).device.port = some port
          ∧ port.request = some { address := 4 }
          ∧ (after [.reset, .tick, .tick, .tick, .tick, .reset, .tick]
              Sample.busBench).device.responses.toList ++ port.response.toList = [⟨4, 0⟩] := by
  have hb : Fitted Sample.busDevice (.zeroed 64) Sample.config Sample.busBench :=
    .withPeripheral (.memory Sample.busMemory) (.connect rfl)
  have hnew : Replay.New Sample.busTrace Sample.busDevice := .withRecording (.ofTrace rfl)
  have htraffic : traffic [.reset, .tick, .tick, .tick, .tick, .reset, .tick] Sample.busBench
      = [⟨none, none, none⟩, ⟨none, none, none⟩,
          ⟨some { address := 4 }, some { address := 4 }, none⟩,
          ⟨some { address := 8 }, none, none⟩, ⟨some { address := 8 }, none, none⟩,
          ⟨none, none, some ⟨4, 0⟩⟩, ⟨none, some { address := 8 }, none⟩, ⟨none, none, none⟩,
          ⟨some { address := 4 }, none, none⟩] := by decide
  obtain ⟨⟨d, port, -, hport, hstanding, hresponses, -⟩, -⟩ := bus_traffic_conserved hnew rfl rfl
    hb rfl rfl rfl [.reset, .tick, .tick, .tick, .tick, .reset, .tick]
  rw [htraffic] at hstanding hresponses ⊢
  refine ⟨rfl, port, hport, ?_, hresponses⟩
  have hpending : [({ address := 4 } : Ddr.Request), { address := 8 }] ++ port.request.toList
      = [{ address := 4 }, { address := 8 }] ++ [{ address := 4 }] := hstanding
  exact Option.toList_eq_singleton_iff.1 (List.append_cancel_left hpending)

end Bench

end Testbench

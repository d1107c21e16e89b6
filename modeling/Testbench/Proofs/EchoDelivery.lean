import Mathlib.Data.List.Basic
import Mathlib.Data.List.Induction
import Testbench.Uart.Sink

/-!
# What the echo delivers

A sink is handed bytes and is flushed now and then.  Whatever becomes of its echo and its log, it
has captured exactly the bytes handed over (`captured_after`), and each of the three goes its own
way through the history (`echo_after`, `log_after`).

As long as the writer of an echo is attached no call on it has failed, it has stored its chunks one
after another, and what it stored followed by what still waits is what was handed over (`Live`).
The first call that fails is the last one that the writer gets, and the bytes stored end right
before the chunk of that call or right behind it (`GivenUp`).  There is nothing in between
(`Live.step`, `GivenUp.step`), so one of the two holds after every history
(`live_or_givenUp_after`).
-/

namespace Testbench.Uart

/-! ## Histories -/

/-- What a sink is asked to do. -/
inductive Call where
  /-- To accept a byte. -/
  | push (byte : UInt8)
  /-- To hand over whatever is waiting. -/
  | flush
  deriving DecidableEq, Repr

namespace Call

/-- The byte that comes with the call. -/
def byte? : Call → Option UInt8
  | .push byte => some byte
  | .flush => none

/-- The sink after a call. -/
def apply : Call → Sink → Sink
  | .push byte, s => s.push byte
  | .flush, s => s.flush

/-- The echo after a call. -/
def applyEcho : Call → Echo → Echo
  | .push byte, e => e.push byte
  | .flush, e => e.flush

/-- The log after a call. -/
def applyLog : Call → Log → Log
  | .push byte, l => l.push byte
  | .flush, l => l.flush

end Call

/-- The bytes handed over in a history, in their order. -/
def pushed (history : List Call) : Array UInt8 := (history.filterMap (·.byte?)).toArray

/-- The sink after a history of calls. -/
def Sink.after (history : List Call) (s : Sink) : Sink := history.foldl (fun s c => c.apply s) s

/-- The echo after a history of calls. -/
def Echo.after (history : List Call) (e : Echo) : Echo := history.foldl (fun e c => c.applyEcho e) e

/-- The log after a history of calls. -/
def Log.after (history : List Call) (l : Log) : Log := history.foldl (fun l c => c.applyLog l) l

/-- A sink with the echo of a new writer, whose calls fail as the patterns say. -/
def Sink.echoing (failWrite failFlush : Faults) (log : Option Log) : Sink :=
  { Sink.capturing.withEcho { failWrite, failFlush } with log }

@[simp] theorem pushed_nil : pushed [] = #[] := rfl

@[simp] theorem pushed_append (earlier later : List Call) :
    pushed (earlier ++ later) = pushed earlier ++ pushed later := by
  simp [pushed]

@[simp] theorem pushed_push (byte : UInt8) : pushed [.push byte] = #[byte] := rfl

@[simp] theorem pushed_flush : pushed [.flush] = #[] := rfl

theorem Sink.after_append (earlier later : List Call) (s : Sink) :
    Sink.after (earlier ++ later) s = Sink.after later (Sink.after earlier s) :=
  List.foldl_append

theorem Echo.after_append (earlier later : List Call) (e : Echo) :
    Echo.after (earlier ++ later) e = Echo.after later (Echo.after earlier e) :=
  List.foldl_append

theorem Log.after_append (earlier later : List Call) (l : Log) :
    Log.after (earlier ++ later) l = Log.after later (Log.after earlier l) :=
  List.foldl_append

/-- Everything handed over is captured, whatever becomes of the echo and the log. -/
theorem captured_after (history : List Call) (s : Sink) :
    (Sink.after history s).captured = s.captured ++ pushed history := by
  induction history using List.reverseRecOn with
  | nil => simp [Sink.after]
  | append_singleton history c ih =>
      rw [Sink.after_append, pushed_append, ← Array.append_assoc, ← ih]
      cases c with
      | push byte => exact Array.push_eq_append
      | flush => exact Array.append_empty.symm

/-- A destination that every call deals with by itself goes its own way through a history. -/
theorem destination_after {α : Type} {part : Sink → Option α} {step : Call → α → α}
    (hstep : ∀ c s, part (c.apply s) = (part s).map (step c)) (history : List Call) (s : Sink) :
    part (Sink.after history s) = (part s).map fun a => history.foldl (fun a c => step c a) a := by
  induction history generalizing s with
  | nil => exact Option.map_id'.symm
  | cons c rest ih =>
      show part (Sink.after rest (c.apply s)) = _
      rw [ih, hstep, Option.map_map]
      rfl

theorem echo_after (history : List Call) (s : Sink) :
    (Sink.after history s).echo = s.echo.map (Echo.after history) :=
  destination_after (by rintro (byte | _) s <;> rfl) history s

theorem log_after (history : List Call) (s : Sink) :
    (Sink.after history s).log = s.log.map (Log.after history) :=
  destination_after (by rintro (byte | _) s <;> rfl) history s

/-- If none of the calls so far has failed and the next does not, none of those up to it has. -/
theorem unfailed_succ {succeeds : Nat → Prop} {calls : Nat}
    (h : ∀ n, 1 ≤ n → n ≤ calls → succeeds n) (hnext : succeeds (calls + 1)) :
    ∀ n, 1 ≤ n → n ≤ calls + 1 → succeeds n := by
  intro n hpos hle
  rcases Nat.lt_or_ge calls n with hlast | hearlier
  · obtain rfl : n = calls + 1 := Nat.le_antisymm hle hlast
    exact hnext
  · exact h n hpos hearlier

namespace Echo

/-! ## The two conditions of an echo -/

/-- A writer that fails as the patterns say has not failed in any call so far: it stored its chunks,
and with what still waits they are everything that was handed over. -/
structure Waiting (failWrite failFlush : Faults) (e : Echo) (all : Array UInt8) : Prop where
  /-- The patterns are those of the writer. -/
  failWrite_eq : e.writer.failWrite = failWrite
  failFlush_eq : e.writer.failFlush = failFlush
  /-- The writer is attached. -/
  attached : e.attached = true
  /-- No call on it has failed. -/
  unfailed : ∀ n, 1 ≤ n → n ≤ e.writer.chunks.size →
    failWrite.strikes n = false ∧ failFlush.strikes n = false
  /-- Every chunk has been flushed. -/
  flushes : e.writer.flushes = e.writer.chunks.size
  /-- Every chunk has been stored. -/
  stored : e.writer.stored = e.writer.chunks.flatten
  /-- Nothing is lost, doubled or out of order. -/
  whole : e.writer.stored ++ e.pending = all

/-- An attached echo between two calls: what waits is short and holds no newline. -/
structure Live (failWrite failFlush : Faults) (e : Echo) (all : Array UInt8) : Prop
    extends Waiting failWrite failFlush e all where
  /-- Less waits than forces a chunk. -/
  short : e.pending.size < chunkLimit
  /-- No newline waits. -/
  noNewline : 10 ∉ e.pending

/-- An echo that has been given up.  Of the calls on its writer the last one failed and no other:
either the write of the last chunk, and then the bytes stored end right before this chunk and it was
not flushed, or the flush behind it, and then they end right behind it. -/
structure GivenUp (failWrite failFlush : Faults) (e : Echo) (all : Array UInt8) : Prop where
  /-- The writer is detached. -/
  detached : e.attached = false
  /-- Nothing waits. -/
  pending : e.pending = #[]
  /-- The calls on the writer, and what it stored. -/
  ended : ∃ (earlier : Array (Array UInt8)) (chunk rest : Array UInt8),
    e.writer.chunks = earlier.push chunk
    ∧ earlier.flatten ++ chunk ++ rest = all
    ∧ (∀ n, 1 ≤ n → n ≤ earlier.size →
        failWrite.strikes n = false ∧ failFlush.strikes n = false)
    ∧ (failWrite.strikes (earlier.size + 1) = true ∧ e.writer.flushes = earlier.size
          ∧ e.writer.stored = earlier.flatten
        ∨ failWrite.strikes (earlier.size + 1) = false
          ∧ failFlush.strikes (earlier.size + 1) = true ∧ e.writer.flushes = earlier.size + 1
          ∧ e.writer.stored = earlier.flatten ++ chunk)

variable {failWrite failFlush : Faults} {e : Echo} {all : Array UInt8}

/-- The echo of a new writer. -/
theorem live_new (failWrite failFlush : Faults) :
    Live failWrite failFlush { writer := { failWrite, failFlush } } #[] where
  failWrite_eq := rfl
  failFlush_eq := rfl
  attached := rfl
  unfailed := fun _ hpos hle => absurd (Nat.le_trans hpos hle) (Nat.not_succ_le_zero 0)
  flushes := rfl
  stored := rfl
  whole := rfl
  short := Nat.succ_pos 4095
  noNewline := by simp

/-! ## One chunk -/

theorem deliver_of_attached (h : e.attached = true) : e.deliver
    = if e.writer.writeFails then ⟨e.writer.write e.pending, false, #[]⟩
      else ⟨(e.writer.write e.pending).flush, !(e.writer.write e.pending).flushFails, #[]⟩ := by
  obtain ⟨writer, attached, pending⟩ := e
  obtain rfl : attached = true := h
  rfl

/-- **A chunk is delivered or the writer is given up.**  If it is delivered, everything handed over
has been stored. -/
theorem Waiting.deliver (h : Waiting failWrite failFlush e all) :
    Live failWrite failFlush e.deliver all ∧ e.deliver.writer.stored = all
      ∨ GivenUp failWrite failFlush e.deliver all := by
  have hchunk : e.writer.chunks.flatten ++ e.pending = all := h.stored ▸ h.whole
  have hwriteFails : e.writer.writeFails = failWrite.strikes (e.writer.chunks.size + 1) := by
    rw [Writer.writeFails, h.failWrite_eq]
  rw [deliver_of_attached h.attached]
  cases hwrite : failWrite.strikes (e.writer.chunks.size + 1) with
  | true =>
      have hwritten : e.writer.write e.pending
          = { e.writer with chunks := e.writer.chunks.push e.pending } :=
        if_pos (hwriteFails.trans hwrite)
      rw [if_pos (hwriteFails.trans hwrite), hwritten]
      -- the chunk is given up before it is stored
      exact Or.inr ⟨rfl, rfl, e.writer.chunks, e.pending, #[], rfl,
        by rw [Array.append_empty, hchunk], h.unfailed, Or.inl ⟨hwrite, h.flushes, h.stored⟩⟩
  | false =>
      have hsucceeds : ¬ e.writer.writeFails = true := by simp [hwriteFails, hwrite]
      have hwritten : e.writer.write e.pending = { e.writer with
          stored := e.writer.stored ++ e.pending, chunks := e.writer.chunks.push e.pending } :=
        if_neg hsucceeds
      have hflushFails : (e.writer.write e.pending).flushFails
          = failFlush.strikes (e.writer.chunks.size + 1) := by
        rw [hwritten, Writer.flushFails, ← h.flushes, ← h.failFlush_eq]
      rw [if_neg hsucceeds, hflushFails, hwritten]
      cases hflush : failFlush.strikes (e.writer.chunks.size + 1) with
      | true =>
          -- the chunk has been stored, but the writer is given up behind it
          exact Or.inr ⟨rfl, rfl, e.writer.chunks, e.pending, #[], rfl,
            by rw [Array.append_empty, hchunk], h.unfailed,
            Or.inr ⟨hwrite, hflush, congrArg (· + 1) h.flushes, by rw [← h.stored]; rfl⟩⟩
      | false =>
          refine Or.inl ⟨?_, h.whole⟩
          exact
            { failWrite_eq := h.failWrite_eq
              failFlush_eq := h.failFlush_eq
              attached := rfl
              unfailed := by
                show ∀ n, 1 ≤ n → n ≤ (e.writer.chunks.push e.pending).size → _
                rw [Array.size_push]
                exact unfailed_succ h.unfailed ⟨hwrite, hflush⟩
              flushes := by
                show e.writer.flushes + 1 = (e.writer.chunks.push e.pending).size
                rw [Array.size_push, h.flushes]
              stored := by
                show e.writer.stored ++ e.pending = (e.writer.chunks.push e.pending).flatten
                rw [Array.flatten_push, h.stored]
              whole := by
                show e.writer.stored ++ e.pending ++ #[] = all
                rw [Array.append_empty, h.whole]
              short := Nat.succ_pos 4095
              noNewline := by simp }

/-! ## One call -/

theorem Live.flush (h : Live failWrite failFlush e all) :
    Live failWrite failFlush e.flush all ∧ e.flush.writer.stored = all
      ∨ GivenUp failWrite failFlush e.flush all := by
  unfold Echo.flush
  split
  · rename_i hempty
    have hwhole := h.whole
    rw [Array.isEmpty_iff.1 hempty, Array.append_empty] at hwhole
    exact Or.inl ⟨h, hwhole⟩
  · exact h.toWaiting.deliver

theorem Live.push (h : Live failWrite failFlush e all) (byte : UInt8) :
    Live failWrite failFlush (e.push byte) (all.push byte)
      ∨ GivenUp failWrite failFlush (e.push byte) (all.push byte) := by
  have hwaiting :
      Waiting failWrite failFlush { e with pending := e.pending.push byte } (all.push byte) :=
    { h.toWaiting with whole := by rw [← h.whole, Array.append_push] }
  rw [Echo.push, if_neg (by simp [h.attached])]
  dsimp only
  split
  · exact hwaiting.deliver.imp_left And.left
  · rename_i hwaits
    rw [not_or, Nat.not_le] at hwaits
    refine Or.inl { toWaiting := hwaiting, short := hwaits.2, noNewline := ?_ }
    intro hmem
    rcases Array.mem_push.1 hmem with hold | hnew
    · exact h.noNewline hold
    · exact hwaits.1 hnew.symm

/-- A live echo stays live through a call or is given up in it. -/
theorem Live.step (h : Live failWrite failFlush e all) (c : Call) :
    Live failWrite failFlush (c.applyEcho e) (all ++ pushed [c])
      ∨ GivenUp failWrite failFlush (c.applyEcho e) (all ++ pushed [c]) := by
  cases c with
  | push byte =>
      rw [pushed_push, ← Array.push_eq_append]
      exact h.push byte
  | flush =>
      rw [pushed_flush, Array.append_empty]
      exact h.flush.imp_left And.left

/-- Nothing happens any more to an echo that has been given up. -/
theorem GivenUp.applyEcho_eq (h : GivenUp failWrite failFlush e all) (c : Call) :
    c.applyEcho e = e := by
  cases c with
  | push byte => exact if_pos (by simp [h.detached])
  | flush => exact if_pos (by simp [h.pending])

/-- An echo that has been given up stays so; more and more lies behind what it stored. -/
theorem GivenUp.step (h : GivenUp failWrite failFlush e all) (c : Call) :
    GivenUp failWrite failFlush (c.applyEcho e) (all ++ pushed [c]) := by
  rw [h.applyEcho_eq c]
  obtain ⟨earlier, chunk, rest, hchunks, hall, hcalls⟩ := h.ended
  exact ⟨h.detached, h.pending, earlier, chunk, rest ++ pushed [c], hchunks,
    by rw [← Array.append_assoc, hall], hcalls⟩

/-! ## Every history -/

theorem GivenUp.after_eq (h : GivenUp failWrite failFlush e all) (later : List Call) :
    Echo.after later e = e :=
  List.foldl_fixed' h.applyEcho_eq later

/-- **After every history the echo is live or given up.** -/
theorem live_or_givenUp_after (failWrite failFlush : Faults) (history : List Call) :
    Live failWrite failFlush (Echo.after history { writer := { failWrite, failFlush } })
        (pushed history)
      ∨ GivenUp failWrite failFlush (Echo.after history { writer := { failWrite, failFlush } })
        (pushed history) := by
  induction history using List.reverseRecOn with
  | nil => exact Or.inl (live_new failWrite failFlush)
  | append_singleton history c ih =>
      rw [Echo.after_append, pushed_append]
      rcases ih with hlive | hgiven
      · exact hlive.step c
      · exact Or.inr (hgiven.step c)

/-- An echo whose writer is still attached after a flush has stored everything. -/
theorem stored_flush (h : Live failWrite failFlush e all ∨ GivenUp failWrite failFlush e all)
    (hattached : e.flush.attached = true) : e.flush.writer.stored = all := by
  rcases h with hlive | hgiven
  · rcases hlive.flush with ⟨-, hstored⟩ | hgiven
    · exact hstored
    · rw [hgiven.detached] at hattached
      cases hattached
  · rw [show e.flush = e from hgiven.applyEcho_eq .flush, hgiven.detached] at hattached
    cases hattached

/-- **The echo loses, doubles and reorders nothing.**  After any history of calls to a sink with a
new writer, whatever its log and whichever calls on the writer fail, the sink has captured the bytes
handed over, and the echo is live or has been given up.  If the history ends with a flush and the
writer is still attached, everything has been stored.  Once detached, the writer gets no further
call and nothing waits for it. -/
theorem echo_delivers_in_order (failWrite failFlush : Faults) (log : Option Log)
    (history : List Call) :
    ∃ e, (Sink.after history (.echoing failWrite failFlush log)).echo = some e
      ∧ (Sink.after history (.echoing failWrite failFlush log)).captured = pushed history
      ∧ (Live failWrite failFlush e (pushed history)
          ∨ GivenUp failWrite failFlush e (pushed history))
      ∧ (∀ e',
          (Sink.after (history ++ [.flush]) (.echoing failWrite failFlush log)).echo = some e' →
          e'.attached = true → e'.writer.stored = pushed history)
      ∧ (e.attached = false → ∀ later,
          (Sink.after (history ++ later) (.echoing failWrite failFlush log)).echo = some e) := by
  have hechoes := live_or_givenUp_after failWrite failFlush history
  refine ⟨_, echo_after _ _, ?_, hechoes, ?_, ?_⟩
  · rw [captured_after]
    exact Array.empty_append
  · intro e' hecho hattached
    rw [echo_after] at hecho
    obtain rfl := Option.some.inj hecho
    rw [Echo.after_append] at hattached ⊢
    exact stored_flush hechoes hattached
  · intro hdetached later
    rw [echo_after]
    rcases hechoes with hlive | hgiven
    · rw [hlive.attached] at hdetached
      cases hdetached
    · refine congrArg some ?_
      rw [Echo.after_append]
      exact hgiven.after_eq later

/-- A writer that refuses its third chunk, handed two bytes and a newline in front of a flush, the
rest of the line behind it, and one byte more: the two chunks before stay stored, and the third is
lost with everything behind it. -/
theorem third_chunk_refused :
    ∃ e, (Sink.after [.push 97, .push 10, .push 98, .flush, .push 99, .push 10, .push 100, .flush]
        (.echoing (some 3) {} none)).echo = some e
      ∧ GivenUp (some 3) {} e #[97, 10, 98, 99, 10, 100]
      ∧ e.writer.stored = #[97, 10, 98]
      ∧ e.writer.chunks = #[#[97, 10], #[98], #[99, 10]] := by
  obtain ⟨e, hecho, -, hechoes, -⟩ := echo_delivers_in_order (some 3) {} none
    [.push 97, .push 10, .push 98, .flush, .push 99, .push 10, .push 100, .flush]
  obtain rfl := Option.some.inj hecho
  refine ⟨_, rfl, hechoes.resolve_left fun hlive => ?_, by decide, by decide⟩
  exact absurd hlive.attached (by decide)

end Echo

end Testbench.Uart

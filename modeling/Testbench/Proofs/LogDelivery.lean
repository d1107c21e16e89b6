import Testbench.Placement
import Testbench.Proofs.EchoDelivery
import Testbench.Proofs.Folders

/-!
# What the log file holds

Bytes reach the log file late, in the portions that the buffer is emptied in, and the attempts to
bring them there may fail at any time and in the middle of a portion.  As long as none has failed,
the file followed by the buffer is what was in the file before followed by what was handed over
(`Log.Live`).  The first attempt that fails ends the log: the file keeps a beginning of that, and
nothing handed over later reaches it (`Log.GivenUp`).

What the echo does meanwhile makes no difference to the file, nor does the log to the echo
(`destinations_are_apart`).  Sinks that use one file one after another add to it in turn
(`exists_runAll`).
-/

namespace Testbench

namespace Uart

namespace Log

/-! ## The two conditions of a log -/

/-- The log writes to the same file as when it was opened, and attempts fail as they did then. -/
structure SameFile (first l : Log) : Prop where
  place : l.place = first.place
  full : l.full = first.full
  faults : l.faults = first.faults

/-- A log that no attempt has failed for: what reached the file followed by what is on its way is
what was handed over. -/
structure Live (first l : Log) (all : Array UInt8) : Prop where
  sameFile : SameFile first l
  /-- The log is attached. -/
  attached : l.attached = true
  /-- No attempt to reach the file has failed. -/
  unfailed : ∀ n, 1 ≤ n → n ≤ l.attempts → l.fault? n = none
  /-- Nothing is lost, doubled or out of order. -/
  whole : l.stored ++ l.buffered = all
  /-- The buffer is no larger than it may be. -/
  bounded : l.buffered.size ≤ capacity

/-- A log that has been given up: the file has a beginning of what was handed over. -/
structure GivenUp (first l : Log) (all : Array UInt8) : Prop where
  sameFile : SameFile first l
  /-- The log is detached. -/
  detached : l.attached = false
  /-- An attempt to reach the file has failed. -/
  failed : ∃ n, 1 ≤ n ∧ n ≤ l.attempts ∧ l.fault? n ≠ none
  /-- What reached the file was handed over in this order. -/
  beginning : ∃ rest, l.stored ++ rest = all

variable {first l : Log} {all : Array UInt8}

theorem SameFile.trans {l' : Log} (h : SameFile first l) (h' : SameFile l l') : SameFile first l' :=
  ⟨h'.place.trans h.place, h'.full.trans h.full, h'.faults.trans h.faults⟩

theorem SameFile.fault?_eq (h : SameFile first l) (n : Nat) : l.fault? n = first.fault? n := by
  rw [fault?, fault?, h.full, h.faults]

theorem live_new (place : Place) (full : Bool) (faults : Nat → Option Nat) :
    Live { place, full, faults } { place, full, faults } #[] where
  sameFile := ⟨rfl, rfl, rfl⟩
  attached := rfl
  unfailed := fun _ hpos hle => absurd (Nat.le_trans hpos hle) (Nat.not_succ_le_zero 0)
  whole := rfl
  bounded := Nat.zero_le _

/-! ## One attempt -/

theorem sameFile_drain (l : Log) : SameFile l l.drain := by
  unfold drain
  split <;> exact ⟨rfl, rfl, rfl⟩

@[simp] theorem attached_drain (l : Log) : l.drain.attached = l.attached := by
  unfold drain
  split <;> rfl

theorem attempts_le_drain (l : Log) : l.attempts ≤ l.drain.attempts := by
  unfold drain
  split
  · exact Nat.le_refl _
  · exact Nat.le_succ _

/-- An attempt moves bytes from the buffer to the file and changes neither their order nor their
number. -/
theorem whole_drain (l : Log) : l.drain.stored ++ l.drain.buffered = l.stored ++ l.buffered := by
  unfold drain
  split
  · rfl
  · dsimp only
    rw [Array.append_assoc, Array.extract_append_extract, Nat.zero_min,
      Array.extract_eq_self_of_le (Nat.le_max_right _ _)]

/-- An attempt that does not fail empties the buffer. -/
theorem buffered_drain (h : l.blocked = false) : l.drain.buffered = #[] := by
  unfold blocked at h
  unfold drain
  split
  · rename_i hempty
    exact Array.isEmpty_iff.1 hempty
  · rename_i hsome
    have hnone : l.fault? (l.attempts + 1) = none := by simpa [hsome] using h
    simp [hnone]

/-- If the coming attempt does not fail either, none has failed after it. -/
theorem unfailed_drain (h : ∀ n, 1 ≤ n → n ≤ l.attempts → l.fault? n = none)
    (hfree : l.blocked = false) : ∀ n, 1 ≤ n → n ≤ l.drain.attempts → l.drain.fault? n = none := by
  intro n hpos hle
  rw [(sameFile_drain l).fault?_eq]
  unfold blocked at hfree
  unfold drain at hle
  split at hle
  · exact h n hpos hle
  · rename_i hsome
    exact unfailed_succ h (by simpa [hsome] using hfree) n hpos hle

theorem Live.drain (h : Live first l all) (hfree : l.blocked = false) :
    Live first l.drain all where
  sameFile := h.sameFile.trans (sameFile_drain l)
  attached := (attached_drain l).trans h.attached
  unfailed := unfailed_drain h.unfailed hfree
  whole := (whole_drain l).trans h.whole
  bounded := by
    rw [buffered_drain hfree]
    exact Nat.zero_le _

/-- **An attempt that fails ends the log.**  With the last attempt for the rest the file still only
gets what was handed over before. -/
theorem Live.giveUp (h : Live first l all) (hblocked : l.blocked = true) :
    GivenUp first l.drain.giveUp all := by
  have hsome : l.buffered.isEmpty = false ∧ l.fault? (l.attempts + 1) ≠ none := by
    simpa [blocked, Option.isSome_iff_ne_none] using hblocked
  have hattempts : l.drain.attempts = l.attempts + 1 := by
    rw [Log.drain, if_neg (by simp [hsome.1])]
  have hsame : SameFile l l.drain.giveUp :=
    (sameFile_drain l).trans ((sameFile_drain l.drain).trans ⟨rfl, rfl, rfl⟩)
  refine ⟨h.sameFile.trans hsame, rfl, ⟨l.attempts + 1, Nat.le_add_left _ _, ?_, ?_⟩,
    l.drain.drain.buffered, ?_⟩
  · rw [← hattempts]
    exact attempts_le_drain l.drain
  · rw [hsame.fault?_eq]
    exact hsome.2
  · -- the last attempt moves bytes as any other does, so what it leaves in the buffer is the rest
    show l.drain.drain.stored ++ l.drain.drain.buffered = all
    rw [whole_drain, whole_drain, h.whole]

/-! ## One call -/

/-- More handed over only lengthens what the file does not get. -/
theorem GivenUp.append (h : GivenUp first l all) (more : Array UInt8) :
    GivenUp first l (all ++ more) := by
  obtain ⟨rest, hrest⟩ := h.beginning
  exact ⟨h.sameFile, h.detached, h.failed, rest ++ more, by rw [← Array.append_assoc, hrest]⟩

theorem Live.keep (h : Live first l all) (hroom : l.buffered.size < capacity) (byte : UInt8) :
    Live first (l.keep byte) (all ++ #[byte]) where
  sameFile := h.sameFile.trans ⟨rfl, rfl, rfl⟩
  attached := h.attached
  unfailed := h.unfailed
  whole := by
    show l.stored ++ l.buffered.push byte = all ++ #[byte]
    rw [Array.append_push, h.whole, Array.push_eq_append]
  bounded := by
    show (l.buffered.push byte).size ≤ capacity
    rw [Array.size_push]
    exact hroom

theorem Live.flush (h : Live first l all) :
    Live first l.flush all ∧ l.flush.buffered = #[] ∨ GivenUp first l.flush all := by
  unfold Log.flush
  rw [if_neg (by simp [h.attached])]
  cases hblocked : l.blocked with
  | true => exact Or.inr (h.giveUp hblocked)
  | false => exact Or.inl ⟨h.drain hblocked, buffered_drain hblocked⟩

theorem Live.push (h : Live first l all) (byte : UInt8) :
    Live first (l.push byte) (all ++ #[byte]) ∨ GivenUp first (l.push byte) (all ++ #[byte]) := by
  unfold Log.push
  rw [if_neg (by simp [h.attached])]
  split
  · rename_i hroom
    exact Or.inl (h.keep hroom byte)
  · cases hblocked : l.blocked with
    | true => exact Or.inr ((h.giveUp hblocked).append _)
    | false =>
        refine Or.inl ((h.drain hblocked).keep ?_ byte)
        rw [buffered_drain hblocked]
        exact Nat.succ_pos 8191

/-- A live log stays live through a call or is given up in it. -/
theorem Live.step (h : Live first l all) (c : Call) :
    Live first (c.applyLog l) (all ++ pushed [c])
      ∨ GivenUp first (c.applyLog l) (all ++ pushed [c]) := by
  cases c with
  | push byte => exact h.push byte
  | flush =>
      rw [pushed_flush, Array.append_empty]
      exact h.flush.imp_left And.left

/-- Nothing happens any more to a log that is detached. -/
theorem applyLog_of_detached (h : l.attached = false) (c : Call) : c.applyLog l = l := by
  cases c <;> exact if_pos (by simp [h])

/-! ## Every history -/

theorem after_of_detached (h : l.attached = false) (later : List Call) : Log.after later l = l :=
  List.foldl_fixed' (applyLog_of_detached h) later

/-- **After every history the log is live or given up.** -/
theorem live_or_givenUp_after (place : Place) (full : Bool) (faults : Nat → Option Nat)
    (history : List Call) :
    Live { place, full, faults } (Log.after history { place, full, faults }) (pushed history)
      ∨ GivenUp { place, full, faults } (Log.after history { place, full, faults })
        (pushed history) := by
  induction history using List.reverseRecOn with
  | nil => exact Or.inl (live_new place full faults)
  | append_singleton history c ih =>
      rw [Log.after_append, pushed_append]
      rcases ih with hlive | hgiven
      · exact hlive.step c
      · refine Or.inr ?_
        rw [show Log.after [c] _ = _ from applyLog_of_detached hgiven.detached c]
        exact hgiven.append _

/-- A log that is still attached after a flush has everything in its file. -/
theorem stored_flush (h : Live first l all ∨ GivenUp first l all)
    (hattached : l.flush.attached = true) : l.flush.stored = all := by
  rcases h with hlive | hgiven
  · rcases hlive.flush with ⟨hlive', hempty⟩ | hgiven
    · rw [← hlive'.whole, hempty, Array.append_empty]
    · rw [hgiven.detached] at hattached
      cases hattached
  · rw [show l.flush = l from applyLog_of_detached hgiven.detached .flush, hgiven.detached]
      at hattached
    cases hattached

end Log

/-! ## The file -/

variable {files opened : Directory} {path : String} {place : Place} {old : Array UInt8}

/-- A sink with a new log, whose attempts to reach the file fail as given. -/
def Sink.logged (echo : Option Echo) (place : Place) (full : Bool) (faults : Nat → Option Nat) :
    Sink :=
  { echo, log := some { place, full, faults } }

theorem captured_after_logged (echo : Option Echo) (place : Place) (full : Bool)
    (faults : Nat → Option Nat) (history : List Call) :
    (Sink.after history (.logged echo place full faults)).captured = pushed history := by
  rw [captured_after]
  exact Array.empty_append

theorem log_after_logged (echo : Option Echo) (place : Place) (full : Bool)
    (faults : Nat → Option Nat) (history : List Call) :
    (Sink.after history (.logged echo place full faults)).log
      = some (Log.after history { place, full, faults }) :=
  log_after _ _

/-- What has reached the file stands behind what was there. -/
theorem file_after (hold : files.entry? place = some (.file old)) (echo : Option Echo) (full : Bool)
    (faults : Nat → Option Nat) (history : List Call) :
    Directory.entry? ((Sink.after history (.logged echo place full faults)).settle files) place
      = some (.file (old ++ (Log.after history { place, full, faults }).stored)) := by
  have hplace : (Log.after history { place, full, faults }).place = place :=
    (Log.live_or_givenUp_after place full faults history).elim (·.sameFile.place)
      (·.sameFile.place)
  rw [Sink.settle, log_after_logged]
  dsimp only
  rw [hplace, Directory.entry?_append hold]

/-- **A flush that leaves the log attached has brought everything to the file.** -/
theorem file_after_flush (hold : files.entry? place = some (.file old)) (echo : Option Echo)
    (full : Bool) (faults : Nat → Option Nat) (history : List Call)
    (hattached : (Log.after (history ++ [.flush]) { place, full, faults }).attached = true) :
    Directory.entry?
        ((Sink.after (history ++ [.flush]) (.logged echo place full faults)).settle files) place
      = some (.file (old ++ pushed history)) := by
  rw [Log.after_append] at hattached
  rw [file_after hold, Log.after_append]
  exact congrArg (fun stored => some (Entry.file (old ++ stored)))
    (Log.stored_flush (Log.live_or_givenUp_after place full faults history) hattached)

/-! ## One sink after another -/

/-- The life of a sink with a log file: the echo that it gets, the attempts to reach the file that
fail, and the calls before it is dropped. -/
structure Session where
  /-- The echo of the sink. -/
  echo : Option Echo := none
  /-- The attempts that fail, with the bytes that they still bring to the file. -/
  faults : Nat → Option Nat := fun _ => none
  /-- The calls. -/
  history : List Call

namespace Session

/-- Opens the log file, makes the calls and drops the sink, which is flushed once more. -/
def run (path : String) (files : Directory) (x : Session) :
    Except SetupError (Sink × Directory) := do
  let (sink, files) ← Sink.openLog { echo := x.echo } files path x.faults
  let dropped := Sink.after (x.history ++ [.flush]) sink
  .ok (dropped, dropped.settle files)

/-- Runs one session after another on the same file. -/
def runAll (path : String) : Directory → List Session → Except SetupError (List Sink × Directory)
  | files, [] => .ok ([], files)
  | files, x :: rest => do
      let (sink, files) ← x.run path files
      let (sinks, files) ← runAll path files rest
      .ok (sink :: sinks, files)

/-- The sink of a session when it is dropped, with its log file at a place. -/
def dropped (place : Place) (x : Session) : Sink :=
  Sink.after (x.history ++ [.flush]) (.logged x.echo place false x.faults)

theorem captured_dropped (place : Place) (x : Session) :
    (x.dropped place).captured = pushed x.history := by
  rw [dropped, captured_after_logged, pushed_append, pushed_flush, Array.append_empty]

theorem run_eq (hopen : files.openAppend path = .ok (place, opened)) (x : Session) :
    x.run path files = .ok (x.dropped place, (x.dropped place).settle opened) := by
  have hlog : Sink.openLog { echo := x.echo } files path x.faults
      = .ok (.logged x.echo place false x.faults, opened) := by
    rw [Sink.openLog, hopen]
    rfl
  rw [run, hlog]
  rfl

/-- A session adds what it captures to the file, unless it loses its log; the next one finds the
file in the same place. -/
theorem exists_file_after (hopen : files.openAppend path = .ok (place, opened))
    (hold : opened.entry? place = some (.file old)) (x : Session) :
    ∃ left now, x.run path files = .ok (x.dropped place, left)
      ∧ left.openAppend path = .ok (place, left)
      ∧ left.entry? place = some (.file now)
      ∧ ((x.dropped place).logging = true → now = old ++ pushed x.history) := by
  have hfile := file_after hold x.echo false x.faults (x.history ++ [.flush])
  refine ⟨_, _, run_eq hopen x, ?_, hfile, ?_⟩
  · exact Directory.openAppend_again hopen
      ((Directory.sameFolders_of_openAppend hopen).trans (Directory.sameFolders_settle _ opened))
      hfile
  · intro hlogging
    rw [dropped, Sink.logging, log_after_logged] at hlogging
    have hflushed := file_after_flush hold x.echo false x.faults x.history hlogging
    rw [hfile] at hflushed
    exact Entry.file.inj (Option.some.inj hflushed)

/-- **Sessions on one file add to it in turn.**  By induction on the sessions, where each leaves the
file in the place where the next one opens it. -/
theorem exists_runAll (hopen : files.openAppend path = .ok (place, opened))
    (hold : opened.entry? place = some (.file old)) (x : Session) (rest : List Session) :
    ∃ left, runAll path files (x :: rest) = .ok ((x :: rest).map (·.dropped place), left)
      ∧ ((∀ y ∈ x :: rest, (y.dropped place).logging = true) →
          left.entry? place = some (.file (old ++ pushed ((x :: rest).flatMap (·.history))))) := by
  induction rest generalizing x files opened old with
  | nil =>
      obtain ⟨left, now, hrun, -, hnow, hkept⟩ := exists_file_after hopen hold x
      refine ⟨left, bind_eq_ok hrun rfl, fun hall => ?_⟩
      rw [hnow, hkept (hall x List.mem_cons_self), List.flatMap_singleton]
  | cons y rest ih =>
      obtain ⟨left, now, hrun, hagain, hnow, hkept⟩ := exists_file_after hopen hold x
      obtain ⟨last, hruns, hfile⟩ := ih hagain hnow y
      refine ⟨last, bind_eq_ok hrun (bind_eq_ok hruns rfl), fun hall => ?_⟩
      have hpushed : pushed ((x :: y :: rest).flatMap (·.history))
          = pushed x.history ++ pushed ((y :: rest).flatMap (·.history)) := by
        rw [List.flatMap_cons, pushed_append]
      rw [hfile fun z hz => hall z (List.mem_cons_of_mem _ hz), hkept (hall x List.mem_cons_self),
        hpushed, Array.append_assoc]

end Session

/-! ## The destinations are apart -/

/-- What a history of calls captures and echoes does not depend on the log, and what it logs does
not depend on the echo. -/
structure Sink.Apart (files : Directory) (history : List Call) (s : Sink) : Prop where
  captured : (after history s).captured = (after history { s with log := none }).captured
  /-- The writer is in the same state, with the same calls behind it. -/
  echo : (after history s).echo = (after history { s with log := none }).echo
  log : (after history s).log = (after history { s with echo := none }).log
  file : (after history s).settle files = (after history { s with echo := none }).settle files

theorem Sink.apart (files : Directory) (history : List Call) (s : Sink) :
    Sink.Apart files history s := by
  have hlog : (after history s).log = (after history { s with echo := none }).log := by
    rw [log_after, log_after]
  refine ⟨?_, ?_, hlog, ?_⟩
  · rw [captured_after, captured_after]
  · rw [echo_after, echo_after]
  · rw [settle, settle, hlog]

/-- **The destinations are apart, and the log loses nothing before it fails.**  After any history of
calls to a sink with a log on a file that was just opened, whatever its echo and whichever attempts
to reach the file fail, the log is live or has been given up, and then it stays as it is.  A flush
that it survives completes the file.  Sinks that come one after another, each opening the same file
anew, complete it together. -/
theorem destinations_are_apart (hopen : files.openAppend path = .ok (place, opened)) :
    ∃ old, (old = #[] ∧ files.entry? place = none ∨ files.entry? place = some (.file old))
      ∧ (∀ (echo : Option Echo) (full : Bool) (faults : Nat → Option Nat) (history : List Call),
          let sink := Sink.after history (.logged echo place full faults)
          sink.captured = pushed history
          ∧ Sink.Apart opened history (.logged echo place full faults)
          ∧ (∃ l now, sink.log = some l
              ∧ Directory.entry? (sink.settle opened) place = some (.file now)
              ∧ (Log.Live { place, full, faults } l sink.captured
                    ∧ now ++ l.buffered = old ++ sink.captured
                  ∨ Log.GivenUp { place, full, faults } l sink.captured
                    ∧ (∃ rest, now ++ rest = old ++ sink.captured)
                    ∧ ∀ later, (Sink.after later sink).log = some l
                      ∧ Directory.entry? ((Sink.after later sink).settle opened) place
                        = some (.file now)))
          ∧ (sink.flush.logging = true →
              Directory.entry? (sink.flush.settle opened) place
                = some (.file (old ++ sink.captured))))
      ∧ (∀ x : Session, (x.dropped place).captured = pushed x.history)
      ∧ ∀ (x : Session) (rest : List Session), ∃ left,
          Session.runAll path files (x :: rest) = .ok ((x :: rest).map (·.dropped place), left)
          ∧ ((∀ y ∈ x :: rest, (y.dropped place).logging = true) →
              left.entry? place
                = some (.file (old ++ pushed ((x :: rest).flatMap (·.history))))) := by
  obtain ⟨old, hold, hopened⟩ := Directory.exists_of_openAppend hopen
  refine ⟨old, hold, ?_, Session.captured_dropped place, Session.exists_runAll hopen hopened⟩
  intro echo full faults history
  dsimp only
  have hlog := log_after_logged echo place full faults history
  have hfile := file_after hopened echo full faults history
  have hcaptured := captured_after_logged echo place full faults history
  refine ⟨hcaptured, Sink.apart _ _ _, ⟨_, _, hlog, hfile, ?_⟩, ?_⟩
  · rw [hcaptured]
    rcases Log.live_or_givenUp_after place full faults history with hlive | hgiven
    · refine Or.inl ⟨hlive, ?_⟩
      rw [Array.append_assoc, hlive.whole]
    · obtain ⟨rest, hrest⟩ := hgiven.beginning
      refine Or.inr ⟨hgiven, ⟨rest, by rw [Array.append_assoc, hrest]⟩, fun later => ?_⟩
      have hsame := Log.after_of_detached hgiven.detached later
      rw [← Sink.after_append]
      exact ⟨by rw [log_after_logged, Log.after_append, hsame],
        by rw [file_after hopened, Log.after_append, hsame]⟩
  · intro hlogging
    have hflush : Sink.after (history ++ [.flush]) (.logged echo place full faults)
        = (Sink.after history (.logged echo place full faults)).flush := Sink.after_append _ _ _
    rw [hcaptured]
    rw [← hflush] at hlogging ⊢
    refine file_after_flush hopened echo full faults history ?_
    rwa [Sink.logging, log_after_logged] at hlogging

/-- On a file with two bytes: two sinks one after another add what each of them gets.  A log that
fails in its second attempt, with one byte of two brought to the file and nothing in the last
attempt, leaves this byte there, and what is handed over later does not follow. -/
theorem second_attempt_torn :
    let files : Directory := ⟨[(["l"], .file #[104, 10])]⟩
    let sessions : List Session :=
      [{ history := [.push 97, .flush, .push 98] }, { history := [.push 99] }]
    let faults : Nat → Option Nat :=
      fun n => if n = 2 then some 1 else if n = 3 then some 0 else none
    let torn := Sink.after [.push 97, .flush, .push 98, .push 99, .flush, .push 100, .flush]
      (.logged none ["l"] false faults)
    files.openAppend "l" = .ok (["l"], files)
    ∧ (∃ left, Session.runAll "l" files sessions = .ok (sessions.map (·.dropped ["l"]), left)
        ∧ left.entry? ["l"] = some (.file #[104, 10, 97, 98, 99]))
    ∧ torn.captured = #[97, 98, 99, 100]
    ∧ (∃ l, torn.log = some l ∧ Log.GivenUp { place := ["l"], faults } l #[97, 98, 99, 100])
    ∧ Directory.entry? (torn.settle files) ["l"] = some (.file #[104, 10, 97, 98]) := by
  intro files sessions faults torn
  have hopen : files.openAppend "l" = .ok (["l"], files) := by
    rw [Directory.openAppend, Directory.target_of_name
      (Directory.origin_eq_current (by simp) (by decide) (by decide) (by decide +kernel))
      (Directory.components_of_single (by decide) (by decide) (by decide) (by decide))
      (by decide) (by decide +kernel) rfl (by decide)]
    rfl
  have hentry : files.entry? ["l"] = some (.file #[104, 10]) := by decide
  obtain ⟨old, hold, hsink, -, hruns⟩ := destinations_are_apart hopen
  obtain rfl : #[104, 10] = old := by simpa [hentry] using hold
  obtain ⟨left, hrun, hleft⟩ := hruns { history := [.push 97, .flush, .push 98] }
    [{ history := [.push 99] }]
  obtain ⟨htorn, -, ⟨l, now, hlog, hnow, hends⟩, -⟩ := hsink none false faults
    [.push 97, .flush, .push 98, .push 99, .flush, .push 100, .flush]
  refine ⟨hopen, ⟨left, hrun, hleft (by decide)⟩, htorn, ⟨l, hlog, ?_⟩, by decide⟩
  have hdetached : torn.log.map (·.attached) = some false := by decide
  rw [hlog] at hdetached
  rw [htorn] at hends
  refine (hends.resolve_left fun hlive => ?_).1
  exact absurd (hlive.1.attached.symm.trans (Option.some.inj hdetached)) (by decide)

end Uart

end Testbench

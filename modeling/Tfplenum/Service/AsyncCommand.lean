/-
  Tfplenum.Service.AsyncCommand

  `AsyncJob` of `service/job_service.py`: a child with a pipe for its stdout and a
  pipe for its stderr, and the loop that polls the child and hands the lines of its
  stdout on.

  The loop reads one pipe only, and it reads only if a poll finds the child still
  running.  The child is served in every run exactly if its stderr fits into the
  pipe and its stdout is empty or does not (`served_iff`).
-/

import Tfplenum.Lib.Lines
import Tfplenum.Lib.Steps
import Mathlib.Data.Int.Notation
import Mathlib.Logic.Function.Basic

namespace Tfplenum

open Lib

/-! ## The child -/

inductive ChildStream where
  | stdout
  | stderr
deriving DecidableEq, Repr

/-- A child process: what it writes, one write after the other, and the code it
    exits with. -/
structure Child where
  writes : List (ChildStream × List UInt8)
  returncode : Int

/-- What is written to one of the streams. -/
def bytesOn (stream : ChildStream) (pending : List (ChildStream × UInt8)) : List UInt8 :=
  (pending.filter fun byte => byte.1 = stream).map Prod.snd

/-- The bytes of the writes, in order; a write that finds the pipe full goes on
    when there is room. -/
def Child.bytes (child : Child) : List (ChildStream × UInt8) :=
  child.writes.flatMap fun write => write.2.map fun byte => (write.1, byte)

/-- The capacities of the pipes. -/
structure PipeSizes where
  size : ChildStream → Nat
  pos : ∀ stream, 0 < size stream

/-! ## The runner -/

/-- Where `run_async_command` is. -/
inductive CommandRunner where
  /-- about to call `proc.poll()` -/
  | polling
  /-- in `proc.stdout.readline()` of `check_io` -/
  | reading
  | returned (retCode : Int)
  /-- left by the exception of `decode` -/
  | raised
deriving DecidableEq, Repr

/-- The child, the pipes and the runner. -/
structure CommandRun where
  /-- what the child still has to write -/
  pending : List (ChildStream × UInt8)
  exited : Option Int
  pipe : ChildStream → List UInt8
  runner : CommandRunner
  /-- read from the pipe, but not yet a line -/
  buffer : List UInt8
  /-- the texts handed to the output function -/
  output : List String

inductive CommandEvent where
  /-- the child writes a byte -/
  | write
  /-- the child exits, which closes its ends of the pipes -/
  | exit
  /-- `proc.poll()` -/
  | poll
  /-- `readline` takes bytes from the pipe, having no newline yet -/
  | fill (n : Nat)
  /-- `readline` has a line -/
  | line
  /-- `readline` finds the pipe empty and closed -/
  | endOfFile
deriving DecidableEq, Repr

def lineFeed : UInt8 := 10

/-- `bytes.decode()` -/
def decodeLine (line : List UInt8) : Option String := String.fromUTF8? ⟨line.toArray⟩

/-- The rest of a round of `check_io` for a line. -/
def CommandRun.emit (s : CommandRun) (line rest : List UInt8) : CommandRun :=
  match decodeLine line with
  | none => { s with runner := .raised }
  | some text => { s with buffer := rest, output := s.output ++ [text] }

/-- A command under `run_async_command`. -/
structure AsyncCommand where
  child : Child
  pipes : PipeSizes

namespace AsyncCommand

variable (command : AsyncCommand)

/-- `subprocess.Popen` -/
def start : CommandRun where
  pending := command.child.bytes
  exited := none
  pipe := fun _ => []
  runner := .polling
  buffer := []
  output := []

def step (s : CommandRun) : CommandEvent → Option CommandRun
  | .write =>
      match s.pending with
      | [] => none
      | (stream, byte) :: pending =>
          if (s.pipe stream).length < command.pipes.size stream then
            some { s with
              pending := pending
              pipe := Function.update s.pipe stream (s.pipe stream ++ [byte]) }
          else none
  | .exit =>
      if s.pending = [] ∧ s.exited = none then
        some { s with exited := some command.child.returncode }
      else none
  | .poll =>
      if s.runner = .polling then
        match s.exited with
        | none => some { s with runner := .reading }
        | some code => some { s with runner := .returned code }
      else none
  | .fill n =>
      if s.runner = .reading ∧ Lines.splitLine lineFeed s.buffer = none ∧ 0 < n ∧
          n ≤ (s.pipe .stdout).length then
        some { s with
          buffer := s.buffer ++ (s.pipe .stdout).take n
          pipe := Function.update s.pipe .stdout ((s.pipe .stdout).drop n) }
      else none
  | .line =>
      if s.runner = .reading then
        (Lines.splitLine lineFeed s.buffer).map fun parts => s.emit parts.1 parts.2
      else none
  | .endOfFile =>
      if s.runner = .reading ∧ Lines.splitLine lineFeed s.buffer = none ∧ s.pipe .stdout = [] ∧
          s.exited ≠ none then
        if s.buffer = [] then some { s with runner := .polling } else some (s.emit s.buffer [])
      else none

/-- What the child writes to a stream. -/
def written (stream : ChildStream) : List UInt8 := bytesOn stream command.child.bytes

/-- The lines of the child's stdout. -/
def outputLines : List (List UInt8) := Lines.lines lineFeed (command.written .stdout)

end AsyncCommand

/-- The child has a byte to write and no room for it. -/
def CommandRun.ChildBlocked (command : AsyncCommand) (s : CommandRun) : Prop :=
  ∃ stream byte pending, s.pending = (stream, byte) :: pending ∧
    command.pipes.size stream ≤ (s.pipe stream).length

/-- The runner waits for a newline, and the pipe is empty and open. -/
def CommandRun.RunnerBlocked (s : CommandRun) : Prop :=
  s.runner = .reading ∧ Lines.splitLine lineFeed s.buffer = none ∧ s.pipe .stdout = [] ∧
    s.exited = none

namespace AsyncCommand

/-- Every run ends, and with every line handed on in order and the child's code
    returned; and in no run do the child and the runner wait for each other. -/
structure Served (command : AsyncCommand) : Prop where
  terminates : ∃ bound, ∀ es s, Steps.after command.step command.start es = some s →
    es.length ≤ bound
  completes : ∀ es s, Steps.after command.step command.start es = some s →
    (∀ e, command.step s e = none) →
      s.runner = .returned command.child.returncode ∧
        s.output.map some = command.outputLines.map decodeLine
  deadlockFree : ∀ es s, Steps.after command.step command.start es = some s →
    ¬(s.ChildBlocked command ∧ s.RunnerBlocked)

end AsyncCommand

/-! ## What a step does -/

/-- `readline` has the line in its buffer: up to the newline, or all of it at the
    end of the file. -/
def CommandRun.HasLine (s : CommandRun) (line rest : List UInt8) : Prop :=
  Lines.splitLine lineFeed s.buffer = some (line, rest) ∨
    Lines.splitLine lineFeed s.buffer = none ∧ s.pipe .stdout = [] ∧ s.exited ≠ none ∧
      s.buffer ≠ [] ∧ line = s.buffer ∧ rest = []

theorem CommandRun.HasLine.buffer_eq {s : CommandRun} {line rest : List UInt8}
    (h : s.HasLine line rest) : s.buffer = line ++ rest ∧ line ≠ [] := by
  rcases h with hsplit | ⟨-, -, -, hne, rfl, rfl⟩
  · exact Lines.splitLine_eq_some hsplit
  · exact ⟨(List.append_nil _).symm, hne⟩

/-- The steps that the runner and the exit of the child still have before them. -/
def CommandRun.phase (s : CommandRun) : Nat :=
  match s.runner, s.exited with
  | .polling, none => 4
  | .reading, none => 3
  | .reading, some _ => 2
  | .polling, some _ => 1
  | .returned _, none => 1
  | .raised, none => 1
  | .returned _, some _ => 0
  | .raised, some _ => 0

/-- A byte is written, taken from the pipe and handed on. -/
def CommandRun.remaining (s : CommandRun) : Nat :=
  3 * s.pending.length + 2 * (s.pipe .stdout).length + s.buffer.length + s.phase

namespace AsyncCommand

variable {command : AsyncCommand}

/-- The steps, with what they require. -/
inductive Moved (command : AsyncCommand) (s : CommandRun) : CommandRun → Prop
  | wrote {stream byte pending} (hpending : s.pending = (stream, byte) :: pending)
      (hroom : (s.pipe stream).length < command.pipes.size stream) :
      Moved command s { s with
        pending := pending
        pipe := Function.update s.pipe stream (s.pipe stream ++ [byte]) }
  | exited (hpending : s.pending = []) (hexited : s.exited = none) :
      Moved command s { s with exited := some command.child.returncode }
  | began (hrunner : s.runner = .polling) (hexited : s.exited = none) :
      Moved command s { s with runner := .reading }
  | returned {code} (hrunner : s.runner = .polling) (hexited : s.exited = some code) :
      Moved command s { s with runner := .returned code }
  | filled {n} (hrunner : s.runner = .reading) (hpos : 0 < n)
      (hlength : n ≤ (s.pipe .stdout).length) :
      Moved command s { s with
        buffer := s.buffer ++ (s.pipe .stdout).take n
        pipe := Function.update s.pipe .stdout ((s.pipe .stdout).drop n) }
  | raised {line rest} (hrunner : s.runner = .reading) (hline : s.HasLine line rest)
      (hdecode : decodeLine line = none) : Moved command s { s with runner := .raised }
  | handedOn {line rest text} (hrunner : s.runner = .reading) (hline : s.HasLine line rest)
      (hdecode : decodeLine line = some text) :
      Moved command s { s with buffer := rest, output := s.output ++ [text] }
  | drained (hrunner : s.runner = .reading) (hpipe : s.pipe .stdout = [])
      (hexited : s.exited ≠ none) (hbuffer : s.buffer = []) :
      Moved command s { s with runner := .polling }

theorem moved_emit {s : CommandRun} {line rest : List UInt8} (hrunner : s.runner = .reading)
    (hline : s.HasLine line rest) : Moved command s (s.emit line rest) := by
  rw [CommandRun.emit]
  cases hdecode : decodeLine line with
  | none => exact .raised hrunner hline hdecode
  | some text => exact .handedOn hrunner hline hdecode

theorem moved_of_step {s s' : CommandRun} {e : CommandEvent} (h : command.step s e = some s') :
    Moved command s s' := by
  cases e with
  | write =>
      simp only [step] at h
      split at h
      · cases h
      · next stream byte pending hpending =>
        split at h <;> cases h
        exact .wrote hpending ‹_›
  | exit =>
      simp only [step] at h
      split at h <;> cases h
      exact .exited (And.left ‹_›) (And.right ‹_›)
  | poll =>
      simp only [step] at h
      split at h
      · next hrunner =>
        split at h <;> cases h
        · exact .began hrunner ‹_›
        · exact .returned hrunner ‹_›
      · cases h
  | fill n =>
      simp only [step] at h
      split at h <;> cases h
      next hguard => exact .filled hguard.1 hguard.2.2.1 hguard.2.2.2
  | line =>
      simp only [step] at h
      split at h
      · obtain ⟨parts, hparts, rfl⟩ := Option.map_eq_some_iff.mp h
        exact moved_emit ‹_› (Or.inl hparts)
      · cases h
  | endOfFile =>
      simp only [step] at h
      split at h
      · next hguard =>
        obtain ⟨hrunner, hsplit, hpipe, hexited⟩ := hguard
        split at h <;> cases h
        · exact .drained hrunner hpipe hexited ‹_›
        · exact moved_emit hrunner (Or.inr ⟨hsplit, hpipe, hexited, ‹_›, rfl, rfl⟩)
      · cases h

/-! ## Runs end -/

theorem remaining_lt {s s' : CommandRun} (h : Moved command s s') : s'.remaining < s.remaining := by
  cases h with
  | @wrote stream byte pending hpending hroom =>
      have hphase : CommandRun.phase { s with
          pending := pending
          pipe := Function.update s.pipe stream (s.pipe stream ++ [byte]) } = s.phase := rfl
      cases stream with
      -- a byte of the output weighs less in the pipe than before it is written
      | stdout =>
          simp only [CommandRun.remaining, hphase, hpending, Function.update_self,
            List.length_append, List.length_cons, List.length_nil]
          omega
      | stderr =>
          have hother : Function.update s.pipe .stderr (s.pipe .stderr ++ [byte]) .stdout =
              s.pipe .stdout := Function.update_of_ne (by decide) ..
          simp only [CommandRun.remaining, hphase, hpending, hother, List.length_cons]
          omega
  | exited hpending hexited =>
      simp only [CommandRun.remaining, CommandRun.phase, hexited]
      cases s.runner <;> simp
  | began hrunner hexited => simp [CommandRun.remaining, CommandRun.phase, hrunner, hexited]
  | returned hrunner hexited => simp [CommandRun.remaining, CommandRun.phase, hrunner, hexited]
  | @filled n hrunner hpos hlength =>
      have hphase : CommandRun.phase { s with
          buffer := s.buffer ++ (s.pipe .stdout).take n
          pipe := Function.update s.pipe .stdout ((s.pipe .stdout).drop n) } = s.phase := rfl
      simp only [CommandRun.remaining, hphase, Function.update_self, List.length_append,
        List.length_take, List.length_drop]
      omega
  | raised hrunner hline hdecode =>
      simp only [CommandRun.remaining, CommandRun.phase, hrunner]
      cases s.exited <;> simp
  | @handedOn line rest text hrunner hline hdecode =>
      obtain ⟨hbuffer, hne⟩ := hline.buffer_eq
      have hphase : CommandRun.phase { s with
          buffer := rest
          output := s.output ++ [text] } = s.phase := rfl
      -- a line has at least its own bytes
      have hpos := List.length_pos_iff.mpr hne
      simp only [CommandRun.remaining, hphase, hbuffer, List.length_append]
      omega
  | drained hrunner hpipe hexited hbuffer =>
      obtain ⟨code, hcode⟩ := Option.ne_none_iff_exists'.mp hexited
      simp [CommandRun.remaining, CommandRun.phase, hrunner, hcode]

/-- Every run is bounded. -/
theorem length_le_remaining {es : List CommandEvent} {s : CommandRun}
    (h : Steps.after command.step command.start es = some s) :
    es.length ≤ command.start.remaining := by
  have hle := Steps.length_add_measure_le
    (fun _ _ _ hstep => remaining_lt (moved_of_step hstep)) h
  omega

/-- A run in which nothing may happen any more has left the loop, unless the child
    and the runner wait for each other. -/
theorem stuck_cases {s : CommandRun} (h : ∀ e, command.step s e = none) :
    (s.ChildBlocked command ∧ s.RunnerBlocked) ∨ (∃ code, s.runner = .returned code) ∨
      s.runner = .raised := by
  cases hrunner : s.runner with
  | returned code => exact Or.inr (Or.inl ⟨code, rfl⟩)
  | raised => exact Or.inr (Or.inr rfl)
  | polling =>
      have hpoll := h .poll
      simp only [step, hrunner, if_true] at hpoll
      split at hpoll <;> cases hpoll
  | reading =>
      refine Or.inl ?_
      -- no line is complete, no byte is in the pipe and the child has not exited
      have hsplit : Lines.splitLine lineFeed s.buffer = none := by
        have hline := h .line
        simp only [step, hrunner, if_true] at hline
        exact Option.map_eq_none_iff.mp hline
      have hpipe : s.pipe .stdout = [] := by
        by_contra hne
        have hfill := h (.fill 1)
        have hpos := List.length_pos_iff.mpr hne
        simp only [step] at hfill
        rw [if_pos ⟨hrunner, hsplit, Nat.one_pos, hpos⟩] at hfill
        cases hfill
      have hexited : s.exited = none := by
        by_contra hne
        have heof := h .endOfFile
        simp only [step] at heof
        rw [if_pos ⟨hrunner, hsplit, hpipe, hne⟩] at heof
        split at heof <;> cases heof
      refine ⟨?_, hrunner, hsplit, hpipe, hexited⟩
      -- a child with nothing left to write would exit
      cases hpending : s.pending with
      | nil =>
          have hexit := h .exit
          simp only [step] at hexit
          rw [if_pos ⟨hpending, hexited⟩] at hexit
          cases hexit
      | cons next pending =>
          obtain ⟨stream, byte⟩ := next
          have hwrite := h .write
          simp only [step, hpending] at hwrite
          split at hwrite
          · cases hwrite
          · next hroom => exact ⟨stream, byte, pending, hpending, Nat.le_of_not_lt hroom⟩

/-! ## What holds in every run -/

end AsyncCommand

@[simp] theorem bytesOn_nil (stream : ChildStream) : bytesOn stream [] = [] := rfl

theorem bytesOn_cons (stream stream' : ChildStream) (byte : UInt8)
    (pending : List (ChildStream × UInt8)) :
    bytesOn stream ((stream', byte) :: pending) =
      if stream' = stream then byte :: bytesOn stream pending else bytesOn stream pending := by
  by_cases hstream : stream' = stream <;> simp [bytesOn, hstream]

/-- What the child's stdout still has for the runner. -/
def CommandRun.ahead (s : CommandRun) : List UInt8 :=
  s.buffer ++ (s.pipe .stdout ++ bytesOn .stdout s.pending)

/-- A line that `readline` has is the next one of what is ahead. -/
theorem CommandRun.HasLine.lines_ahead {s : CommandRun} {line rest : List UInt8}
    (h : s.HasLine line rest) (hexit : s.exited ≠ none → s.pending = []) :
    Lines.lines lineFeed s.ahead =
      line :: Lines.lines lineFeed (rest ++ (s.pipe .stdout ++ bytesOn .stdout s.pending)) := by
  rcases h with hsplit | ⟨hsplit, hpipe, hexited, hne, rfl, rfl⟩
  · exact Lines.lines_append_of_splitLine hsplit _
  · -- nothing is behind the last line
    rw [CommandRun.ahead, hpipe, hexit hexited]
    simp only [bytesOn_nil, List.append_nil]
    rw [Lines.lines_of_splitLine_eq_none hsplit hne]
    rfl

namespace AsyncCommand

variable {command : AsyncCommand}

/-- The invariant of the runs. -/
structure Sound (command : AsyncCommand) (s : CommandRun) : Prop where
  exit : ∀ code, s.exited = some code → s.pending = [] ∧ code = command.child.returncode
  stderr : s.pipe .stderr ++ bytesOn .stderr s.pending = command.written .stderr
  room : ∀ stream, (s.pipe stream).length ≤ command.pipes.size stream
  lines : s.output.map some ++ (Lines.lines lineFeed s.ahead).map decodeLine =
    command.outputLines.map decodeLine
  /-- outside `check_io` the stdout has not been touched, or all of it has been read -/
  idle : s.runner ≠ .reading → s.runner ≠ .raised →
    (s.output = [] ∧ s.ahead = command.written .stdout ∧ s.buffer = []) ∨
      (s.ahead = [] ∧ s.exited ≠ none)
  returned : ∀ code, s.runner = .returned code → s.exited = some code
  raised : s.runner = .raised → ∃ line ∈ command.outputLines, decodeLine line = none

theorem sound_start (command : AsyncCommand) : command.Sound command.start where
  exit := by simp [start]
  stderr := rfl
  room := by simp [start]
  lines := rfl
  idle := fun _ _ => Or.inl ⟨rfl, rfl, rfl⟩
  returned := by simp [start]
  raised := by simp [start]

theorem Sound.pending_eq_nil {s : CommandRun} (hs : command.Sound s) (h : s.exited ≠ none) :
    s.pending = [] := by
  obtain ⟨code, hcode⟩ := Option.ne_none_iff_exists'.mp h
  exact (hs.exit code hcode).1

/-- A byte that goes into the pipe, or from there to the buffer, is ahead as before. -/
theorem ahead_wrote {s : CommandRun} {stream : ChildStream} {byte : UInt8}
    {pending : List (ChildStream × UInt8)} (h : s.pending = (stream, byte) :: pending) :
    CommandRun.ahead { s with
      pending := pending
      pipe := Function.update s.pipe stream (s.pipe stream ++ [byte]) } = s.ahead := by
  simp only [CommandRun.ahead, h, bytesOn_cons]
  cases stream <;> simp

theorem ahead_filled (s : CommandRun) (n : Nat) :
    CommandRun.ahead { s with
      buffer := s.buffer ++ (s.pipe .stdout).take n
      pipe := Function.update s.pipe .stdout ((s.pipe .stdout).drop n) } = s.ahead := by
  simp only [CommandRun.ahead, Function.update_self, List.append_assoc]
  rw [← List.append_assoc ((s.pipe .stdout).take n), List.take_append_drop]

theorem Sound.moved {s s' : CommandRun} (hs : command.Sound s) (h : Moved command s s') :
    command.Sound s' := by
  cases h with
  | @wrote stream byte pending hpending hroom =>
      -- only a running child writes
      have hrunning : s.exited = none := by
        by_contra hexited
        rw [hs.pending_eq_nil hexited] at hpending
        cases hpending
      have hahead := ahead_wrote hpending
      refine ⟨?_, ?_, ?_, ?_, ?_, hs.returned, hs.raised⟩
      · simp [hrunning]
      · have hstderr := hs.stderr
        rw [hpending, bytesOn_cons] at hstderr
        cases stream <;> simpa using hstderr
      · intro other
        have hother := hs.room other
        by_cases heq : other = stream
        · subst heq
          simpa using Nat.succ_le_of_lt hroom
        · simpa [heq] using hother
      · rw [hahead]
        exact hs.lines
      · rw [hahead]
        exact hs.idle
  | exited hpending hexited =>
      refine ⟨?_, hs.stderr, hs.room, hs.lines, ?_, ?_, hs.raised⟩
      · intro code hcode
        exact ⟨hpending, (Option.some.inj hcode).symm⟩
      · intro hreading hraised
        refine (hs.idle hreading hraised).imp_right ?_
        exact fun hread => ⟨hread.1, by simp⟩
      · intro code hcode
        rw [hs.returned code hcode] at hexited
        cases hexited
  | began hrunner hexited =>
      refine ⟨hs.exit, hs.stderr, hs.room, hs.lines, ?_, by simp, by simp⟩
      exact fun hreading => absurd rfl hreading
  | @returned code hrunner hexited =>
      refine ⟨hs.exit, hs.stderr, hs.room, hs.lines, ?_, ?_, by simp⟩
      · exact fun _ _ => hs.idle (by simp [hrunner]) (by simp [hrunner])
      · intro code' hcode'
        cases hcode'
        exact hexited
  | @filled n hrunner hpos hlength =>
      -- bytes move from the pipe to the buffer, and what is ahead stays the same
      have hahead := ahead_filled s n
      refine ⟨hs.exit, ?_, ?_, ?_, ?_, hs.returned, hs.raised⟩
      · simpa using hs.stderr
      · intro stream
        have hroom := hs.room stream
        cases stream with
        | stdout =>
            simp only [Function.update_self, List.length_drop]
            omega
        | stderr => simpa using hroom
      · rw [hahead]
        exact hs.lines
      · exact fun hreading => absurd hrunner hreading
  | @raised line rest hrunner hline hdecode =>
      refine ⟨hs.exit, hs.stderr, hs.room, hs.lines, ?_, by simp, ?_⟩
      · exact fun _ hraised => absurd rfl hraised
      · -- the line is one of those that are still ahead
        intro _
        have hnone : none ∈ command.outputLines.map decodeLine := by
          rw [← hs.lines, hline.lines_ahead hs.pending_eq_nil, List.map_cons, hdecode]
          simp
        simpa using hnone
  | @handedOn line rest text hrunner hline hdecode =>
      refine ⟨hs.exit, hs.stderr, hs.room, ?_, ?_, hs.returned, hs.raised⟩
      · rw [← hs.lines, hline.lines_ahead hs.pending_eq_nil, List.map_cons, hdecode,
          List.map_append, List.append_assoc]
        rfl
      · exact fun hreading => absurd hrunner hreading
  | drained hrunner hpipe hexited hbuffer =>
      refine ⟨hs.exit, hs.stderr, hs.room, hs.lines, ?_, by simp, by simp⟩
      intro _ _
      -- at the end of the file there is nothing ahead
      have hahead : s.ahead = [] := by
        rw [CommandRun.ahead, hbuffer, hpipe, hs.pending_eq_nil hexited]
        rfl
      exact Or.inr ⟨hahead, hexited⟩

theorem sound_after {es : List CommandEvent} {s : CommandRun}
    (h : Steps.after command.step command.start es = some s) : command.Sound s :=
  Steps.after_invariant (fun _ _ _ hstep hs => hs.moved (moved_of_step hstep)) h
    (sound_start command)

/-! ## When a child is served -/

/-- If the stderr fits into its pipe, a child that waits does so for the runner. -/
theorem Sound.not_deadlocked {s : CommandRun} (hs : command.Sound s)
    (hstderr : (command.written .stderr).length ≤ command.pipes.size .stderr) :
    ¬(s.ChildBlocked command ∧ s.RunnerBlocked) := by
  rintro ⟨⟨stream, byte, pending, hpending, hfull⟩, -, -, hpipe, -⟩
  cases stream with
  | stdout =>
      have hpos := command.pipes.pos .stdout
      rw [hpipe, List.length_nil] at hfull
      omega
  | stderr =>
      have hlength := congrArg List.length hs.stderr
      rw [hpending, bytesOn_cons, if_pos rfl, List.length_append, List.length_cons] at hlength
      omega

/-- A run that has returned has handed on every line, if the loop was entered or
    there was none. -/
theorem Sound.output_of_returned {s : CommandRun} {code : Int} (hs : command.Sound s)
    (hreturned : s.runner = .returned code)
    (hstdout : command.written .stdout = [] ∨
      command.pipes.size .stdout < (command.written .stdout).length) :
    s.output.map some = command.outputLines.map decodeLine := by
  have hlines := hs.lines
  have hahead : s.ahead = [] := by
    rcases hs.idle (by simp [hreturned]) (by simp [hreturned]) with ⟨-, hahead, hbuffer⟩ | hread
    · -- the whole stdout is still in the pipe
      have hpending := (hs.exit code (hs.returned code hreturned)).1
      have hpipe : s.pipe .stdout = command.written .stdout := by
        simpa [CommandRun.ahead, hbuffer, hpending] using hahead
      have hroom := hs.room .stdout
      rw [hpipe] at hroom
      rcases hstdout with hnone | hlong
      · rw [hahead, hnone]
      · omega
    · exact hread.1
  rw [hahead] at hlines
  simpa using hlines

/-- Some run has come as far as it can, and there it has returned. -/
theorem Served.exists_returned (h : command.Served) :
    ∃ s, command.Sound s ∧ s.runner = .returned command.child.returncode ∧
      s.output.map some = command.outputLines.map decodeLine := by
  obtain ⟨es, s, hafter, hstuck⟩ := Steps.exists_after_stuck
    (fun _ _ _ hstep => remaining_lt (moved_of_step hstep)) command.start
  exact ⟨s, sound_after hafter, h.completes es s hafter hstuck⟩

/-- The child writes everything before the runner does anything, if it fits. -/
theorem after_writes (command : AsyncCommand) {s : CommandRun} (hroom : ∀ stream,
      (s.pipe stream).length + (bytesOn stream s.pending).length ≤ command.pipes.size stream) :
    ∃ s', Steps.after command.step s (List.replicate s.pending.length .write) = some s' ∧
      s'.pending = [] ∧ s'.exited = s.exited ∧ s'.runner = s.runner ∧ s'.output = s.output := by
  generalize hpending : s.pending = pending
  induction pending generalizing s with
  | nil => exact ⟨s, rfl, hpending, rfl, rfl, rfl⟩
  | cons next pending ih =>
      obtain ⟨stream, byte⟩ := next
      -- the byte is among those that fit
      have hfits : (s.pipe stream).length < command.pipes.size stream := by
        have hstream := hroom stream
        rw [hpending, bytesOn_cons, if_pos rfl, List.length_cons] at hstream
        omega
      have hstep : command.step s .write = some { s with
          pending := pending
          pipe := Function.update s.pipe stream (s.pipe stream ++ [byte]) } := by
        simp only [step, hpending]
        rw [if_pos hfits]
      obtain ⟨s', hafter, hrest⟩ := ih (s := { s with
          pending := pending
          pipe := Function.update s.pipe stream (s.pipe stream ++ [byte]) }) (by
        intro other
        have hother := hroom other
        rw [hpending, bytesOn_cons] at hother
        by_cases heq : other = stream
        · subst heq
          simp only [if_pos, List.length_cons] at hother
          simp only [Function.update_self, List.length_append, List.length_singleton]
          omega
        · rw [if_neg (Ne.symm heq)] at hother
          simpa [heq] using hother) rfl
      refine ⟨s', ?_, hrest⟩
      rw [List.length_cons, List.replicate_succ, Steps.after_cons, hstep]
      exact hafter

/-- A child whose output fits into the pipes may have exited before the first poll,
    and then nothing is read. -/
theorem exists_unread (command : AsyncCommand) (hfits : ∀ stream,
      (command.written stream).length ≤ command.pipes.size stream) :
    ∃ es s, Steps.after command.step command.start es = some s ∧
      (∀ e, command.step s e = none) ∧ s.output = [] := by
  have hroom : ∀ stream, (command.start.pipe stream).length +
      (bytesOn stream command.start.pending).length ≤ command.pipes.size stream := by
    intro stream
    simpa [start, written] using hfits stream
  obtain ⟨s, hafter, hpending, hexited, hrunner, houtput⟩ := after_writes command hroom
  refine ⟨List.replicate command.start.pending.length .write ++ [.exit, .poll],
    { s with
      exited := some command.child.returncode
      runner := .returned command.child.returncode }, ?_, ?_, houtput⟩
  · rw [Steps.after_append, hafter, Option.bind_some, Steps.after_cons, step]
    rw [if_pos ⟨hpending, hexited⟩, Option.bind_some, Steps.after_cons, step]
    simp [hrunner, start]
  · intro e
    cases e <;> simp [step, hpending]

theorem served_iff (command : AsyncCommand) :
    command.Served ↔
      (command.written .stderr).length ≤ command.pipes.size .stderr ∧
      (command.written .stdout = [] ∨
        command.pipes.size .stdout < (command.written .stdout).length) ∧
      ∀ line ∈ command.outputLines, (decodeLine line).isSome = true := by
  constructor
  · intro hserved
    obtain ⟨s, hs, hreturned, houtput⟩ := hserved.exists_returned
    have hstderr : (command.written .stderr).length ≤ command.pipes.size .stderr := by
      have hroom := hs.room .stderr
      have hbytes := hs.stderr
      rw [(hs.exit _ (hs.returned _ hreturned)).1, bytesOn_nil, List.append_nil] at hbytes
      rwa [hbytes] at hroom
    refine ⟨hstderr, ?_, ?_⟩
    -- a short output can be left in the pipe by a child that exits before the first poll
    · by_contra hshort
      obtain ⟨hsome, hfits⟩ := not_or.mp hshort
      obtain ⟨es, s, hafter, hstuck, hnone⟩ := exists_unread command (by
        intro stream
        cases stream with
        | stdout => exact Nat.le_of_not_lt hfits
        | stderr => exact hstderr)
      have hlines := (hserved.completes es s hafter hstuck).2
      rw [hnone, List.map_nil, eq_comm, List.map_eq_nil_iff] at hlines
      exact hsome (Lines.lines_eq_nil_iff.mp hlines)
    · intro line hline
      have hmem : decodeLine line ∈ s.output.map some := by
        rw [houtput]
        exact List.mem_map_of_mem hline
      obtain ⟨text, -, htext⟩ := List.mem_map.mp hmem
      rw [← htext]
      rfl
  · rintro ⟨hstderr, hstdout, hdecodes⟩
    refine ⟨⟨_, fun es s hafter => length_le_remaining hafter⟩, ?_, ?_⟩
    · intro es s hafter hstuck
      have hs := sound_after hafter
      -- no run stops but by returning: the pipe of the errors never fills, and every line decodes
      rcases stuck_cases hstuck with hdeadlock | ⟨code, hreturned⟩ | hraised
      · exact absurd hdeadlock (hs.not_deadlocked hstderr)
      · have hcode := (hs.exit code (hs.returned code hreturned)).2
        exact ⟨hcode ▸ hreturned, hs.output_of_returned hreturned hstdout⟩
      · obtain ⟨line, hline, hnone⟩ := hs.raised hraised
        have hsome := hdecodes line hline
        rw [hnone] at hsome
        cases hsome
    · exact fun es s hafter => (sound_after hafter).not_deadlocked hstderr

/-- A command that says `ok` and exits, with pipes as Linux has them. -/
def shortCommand : AsyncCommand where
  child := { writes := [(.stdout, [111, 107, 10])], returncode := 0 }
  pipes := { size := fun _ => 65536, pos := fun _ => Nat.succ_pos _ }

/-- The child may be done before the first poll, and its line is lost. -/
theorem not_served : ¬∀ command : AsyncCommand, command.Served := by
  intro hall
  have hcompletes := (hall shortCommand).completes [.write, .write, .write, .exit, .poll] _ rfl
  have hlines := (hcompletes (by intro e; cases e <;> rfl)).2
  exact absurd (congrArg List.length hlines) (by decide)

end AsyncCommand

end Tfplenum

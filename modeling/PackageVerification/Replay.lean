import PackageVerification.Script
import PackageVerification.Service.Basic

/-!
# Replaying a script

All sessions of a script start at once, and its steps follow at their times. A ticker runs beside
them: every tick first times out the sessions that are due and then hands over the events. The
replay ends with the first tick at which no step is left and no session waits, or with the first
fault.

Time is counted in milliseconds from the start. Of the ticks only those are visited at which
something can happen; the others would find the service as the tick before left it. A tick comes
before the steps of its instant.
-/

namespace PackageVerification

structure Replay where
  /-- The instant at which the sessions start. -/
  clock : Timestamp
  /-- The milliseconds between two ticks. -/
  period : UInt64

structure Batch where
  offset : Nat
  events : List Event
  deriving DecidableEq, Repr

structure ScheduledStep where
  session : SessionId
  step : Step
  deriving DecidableEq, Repr

structure Recording where
  batches : List Batch
  /-- The summaries of the sessions in the order of the script, or the fault. -/
  ending : Except Fault (List Summary)
  service : Service
  notices : List Notice

namespace Replay

/-! ## 1. Time -/

def tickLength (r : Replay) : Nat := max r.period.toNat 1

def instant (r : Replay) (offset : Nat) : Timestamp :=
  ⟨UInt64.ofNat (min (r.clock.millis.toNat + offset) (UInt64.size - 1))⟩

def tickAfter (r : Replay) (offset : Nat) : Nat := (offset / r.tickLength + 1) * r.tickLength

def tickFor (r : Replay) (deadline : Timestamp) : Nat :=
  let offset := deadline.millis.toNat - r.clock.millis.toNat
  (offset + r.tickLength - 1) / r.tickLength * r.tickLength

/-- The next tick at which something can happen, if anything can. -/
def nextTick (r : Replay) (pending : List ScheduledStep) (deadline : Option Timestamp) :
    Option Nat :=
  match pending.head?.map fun p => r.tickAfter p.step.after.toNat, deadline.map r.tickFor with
  | some a, some b => some (min a b)
  | some a, none => some a
  | none, tick => tick

/-! ## 2. Steps -/

/-- The steps of a script in the order in which they run. Steps of one instant keep their order. -/
def schedule (script : Script) : List ScheduledStep :=
  let steps := script.sessions.flatMap fun s => s.steps.map fun step => ⟨s.id, step⟩
  steps.mergeSort fun a b => a.step.after ≤ b.step.after

def perform (r : Replay) (s : Service) (p : ScheduledStep) : Outcome (Except Fault Unit) :=
  match p.step.action with
  | .respond answer =>
    let o := s.respond p.session p.step.verifier answer
    ⟨o.result.map fun _ => (), o.service, o.notices⟩
  | .extend ms =>
    let now := r.instant p.step.after.toNat
    let o := s.extend p.session p.step.verifier ms now
    ⟨o.result.map fun _ => (), o.service, o.notices⟩

def performAll (r : Replay) (s : Service) : List ScheduledStep → Outcome (Except Fault Unit)
  | [] => ⟨.ok (), s, []⟩
  | p :: ps =>
    let o := r.perform s p
    match o.result with
    | .error fault => ⟨.error fault, o.service, o.notices⟩
    | .ok () =>
      let rest := r.performAll o.service ps
      { rest with notices := o.notices ++ rest.notices }

/-! ## 3. Start and end -/

def startAll (r : Replay) (s : Service) : List ScriptedSession → Outcome (Except Fault Unit)
  | [] => ⟨.ok (), s, []⟩
  | scripted :: rest =>
    let started := s.start scripted.id scripted.verifiers r.clock
    match started.result with
    | .error fault => ⟨.error fault, started.service, started.notices⟩
    | .ok _ =>
      let checked : Outcome (Except Fault Bool) :=
        match scripted.integrity with
        | none => ⟨.ok false, started.service, []⟩
        | some answer => started.service.recordIntegrity scripted.id answer
      match checked.result with
      | .error fault =>
        ⟨.error fault, checked.service, started.notices ++ checked.notices⟩
      | .ok _ =>
        let others := r.startAll checked.service rest
        { others with notices := started.notices ++ checked.notices ++ others.notices }

def finishAll (s : Service) : List SessionId → Outcome (Except Fault (List Summary))
  | [] => ⟨.ok [], s, []⟩
  | id :: ids =>
    let o := s.finish id
    match o.result with
    | .error fault => ⟨.error fault, o.service, o.notices⟩
    | .ok summary =>
      let rest := finishAll o.service ids
      ⟨rest.result.map (summary :: ·), rest.service, o.notices ++ rest.notices⟩

/-! ## 4. Ticks -/

def tick (r : Replay) (s : Service) (offset : Nat) : Outcome Batch :=
  let expired := s.expire (r.instant offset)
  let drained := expired.service.drain
  { result := ⟨offset, drained.result⟩
    service := drained.service
    notices := expired.notices ++ drained.result.map Notice.eventReported }

/-- Plays from a tick on: the tick, the steps before the next one, and so forth. Every round either
carries out a step or times out a session, which bounds their number by `fuel`. -/
def play (r : Replay) (finish : List SessionId) :
    (fuel : Nat) → Service → List ScheduledStep → (offset : Nat) → Recording
  | 0, s, _, _ => ⟨[], .ok [], s, []⟩
  | fuel + 1, s, pending, offset =>
    let ticked := r.tick s offset
    match r.nextTick pending ticked.service.nextDeadline with
    | none =>
      let finished := finishAll ticked.service finish
      ⟨[ticked.result], finished.result, finished.service, ticked.notices ++ finished.notices⟩
    | some next =>
      let isBefore := fun (p : ScheduledStep) => decide (p.step.after.toNat < next)
      let performed := r.performAll ticked.service (pending.takeWhile isBefore)
      match performed.result with
      | .error fault =>
        ⟨[ticked.result], .error fault, performed.service, ticked.notices ++ performed.notices⟩
      | .ok () =>
        let rest := r.play finish fuel performed.service (pending.dropWhile isBefore) next
        { rest with
          batches := ticked.result :: rest.batches
          notices := ticked.notices ++ performed.notices ++ rest.notices }

def run (r : Replay) (s : Service) (script : Script) : Recording :=
  let started := r.startAll s script.sessions
  match started.result with
  | .error fault => ⟨[], .error fault, started.service, started.notices⟩
  | .ok () =>
    let steps := schedule script
    let rounds := steps.length + started.service.sessions.size + 1
    let rest := r.play (script.sessions.map (·.id)) rounds started.service steps 0
    { rest with notices := started.notices ++ rest.notices }

end Replay

end PackageVerification

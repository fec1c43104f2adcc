import Relay.Worker.Basic

/-!
# The loop of a worker

A worker that runs goes through one iteration after another. After an iteration that found nothing
or failed it sleeps for a while, and it stops between iterations, or in its sleep, once it is told
to.
-/

namespace Relay

open Journal

/-- A worker that runs. -/
inductive Loop where
  | iterating (phase : Phase)
  | sleeping (pause : Duration)
  | stopped

namespace Worker

/-- The instance as a field. -/
def instanceField (w : Worker) : String × Value := ("instance", .text w.tuning.instanceName)

/-- What a worker says when it starts to run. -/
def greeting (w : Worker) : Act :=
  entry .info "outbox dispatcher started"
    [w.outboxField, w.instanceField, ("batch_size", .number w.tuning.batchSize)]

/-- What a worker says when it stops. -/
def farewell (w : Worker) : Act :=
  entry .info "outbox dispatcher stopped" [w.outboxField, w.instanceField]

/-- Starts another iteration, unless the worker was told to stop. -/
def again (w : Worker) (acts : List Act) (r : Reading) : List Act × Loop :=
  if r.cancelled then (acts ++ [w.farewell], .stopped) else (acts, .iterating (w.start r))

/-- Starts to run. -/
def run (w : Worker) (r : Reading) : List Act × Loop := w.again [w.greeting] r

/-- The sleep after an iteration that found nothing. -/
def pause (w : Worker) (r : Reading) : Duration :=
  w.tuning.pollInterval.spread w.tuning.pollJitter r.draw

/-- Goes on after an iteration. -/
def afterIteration (w : Worker) (acts : List Act) (outcome : Outcome) (r : Reading) :
    List Act × Loop :=
  match outcome with
  | .idle => (acts, .sleeping (w.pause r))
  | .lostRace => w.again acts r
  | .dispatched report =>
    w.again
      (acts ++
        [entry .debug "outbox batch finished"
          [w.outboxField, ("claimed", .number report.claimed),
            ("processed", .number report.processed), ("poisoned", .number report.poisoned),
            ("failed", .number report.failed), ("skipped", .number report.skipped)]])
      r
  | .failed stage e =>
    (acts ++
      [entry .error "outbox dispatch iteration failed"
        [w.outboxField, errorField (stage.failure e)]],
      .sleeping (w.pause r))

/-- Goes on after the answer to a request. -/
def advance (w : Worker) (r : Reading) (p : Phase) (a : (p.request w).Answer) : List Act × Loop :=
  let step := w.resume r p a
  match step.progress with
  | .waiting phase => (step.acts, .iterating phase)
  | .finished outcome => w.afterIteration step.acts outcome r

/-- Goes on after a sleep, which is over early once the worker is told to stop. -/
def wake (w : Worker) (r : Reading) : List Act × Loop := w.again [] r

end Worker

end Relay

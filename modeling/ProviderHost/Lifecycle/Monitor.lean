import ProviderHost.Lifecycle.World

/-!
# Monitors

A monitor looks at its instance at regular intervals. It works in single steps, between which
anything may happen to the instance: it waits for its timer, asks whether the process lives,
makes a probe, judges the stage by the probe, and changes it. A dead process ends the monitor,
and so does the request to stop, which only counts while it waits.
-/

namespace ProviderHost

/-- What a probe makes of a stage: only a running and an unhealthy instance are judged. -/
def Lifecycle.judge? : Lifecycle → Bool → Option Lifecycle
  | .running, false => some .unhealthy
  | .unhealthy, true => some .running
  | _, _ => none

/-- Whether a monitor in this phase waits for something or has nothing to do any more. -/
def MonitorPhase.isResting : MonitorPhase → Bool
  | .none | .waiting | .ended => true
  | _ => false

namespace Instance

variable {δ κ : Type} [Document δ] [Kernel κ]

def inPhase (phase : MonitorPhase) (i : Instance) : Instance :=
  { i with monitor := { i.monitor with phase := phase } }

def awaitingRound (s : Settings) (i : Instance) (w : World κ) : Instance :=
  { i with
    monitor := { i.monitor with phase := .waiting, due := Kernel.now w.kernel + s.probeInterval } }

def startMonitor (s : Settings) (i : Instance) (w : World κ) : Instance :=
  { i with monitor := { stopping := false } }.awaitingRound s w

/-- One step of the monitor. That of a monitor which waits is taken when its timer fires or when
it is asked to stop. -/
def monitorStep (site : Site δ) (i : Instance) (w : World κ) : Instance × World κ :=
  match i.monitor.phase with
  | .none | .ended => (i, w)
  | .waiting => (i.inPhase (if i.monitor.stopping then .ended else .looking), w)
  | .looking =>
    match i.checkAlive w with
    | (true, i, w) => (i.inPhase .probing, w)
    | (false, i, w) =>
      (i.inPhase .abandoning, w.warn ("provider " ++ i.id ++ " exited unexpectedly"))
  | .probing =>
    match i.checkHealth site.settings w with
    | (healthy, i, w) => (i.inPhase (.judging healthy), w)
  | .judging healthy =>
    match i.stage.judge? healthy with
    | some next => (i.inPhase (.changing next), w)
    | none => (i.awaitingRound site.settings w, w)
  | .changing next =>
    match i.transition site next w with
    | (i, w) => (i.awaitingRound site.settings w, w)
  | .abandoning =>
    match i.disconnect w with
    | (i, w) => (i.inPhase .ending, w)
  | .ending =>
    match i.transition site .stopped w with
    | (i, w) => (i.inPhase .ended, w)

/-- Steps of the monitor until it waits or has ended, at most as many as a number says. -/
def monitorSteps (site : Site δ) : Nat → Instance → World κ → Instance × World κ
  | 0, i, w => (i, w)
  | n + 1, i, w =>
    if i.monitor.phase.isResting then (i, w)
    else
      match i.monitorStep site w with
      | (i, w) => monitorSteps site n i w

def roundLength : Nat := 4

def finishRound (site : Site δ) (i : Instance) (w : World κ) : Instance × World κ :=
  i.monitorSteps site roundLength w

def monitorRound (site : Site δ) (i : Instance) (w : World κ) : Instance × World κ :=
  if i.monitor.phase = .waiting ∧ Kernel.now w.kernel < i.monitor.due then (i, w)
  else
    match i.monitorStep site w with
    | (i, w) => i.finishRound site w

/-- Asks the monitor to stop and waits until it has ended: what is left of its round is done. -/
def joinMonitor (site : Site δ) (i : Instance) (w : World κ) : Instance × World κ :=
  match { i with monitor := { i.monitor with stopping := true } }.finishRound site w with
  | (i, w) => i.monitorStep site w

end Instance

end ProviderHost

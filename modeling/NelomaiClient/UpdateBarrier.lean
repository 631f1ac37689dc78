import NelomaiClient.SwitchCoordinator

/-!
# The barrier around an update

`UpdateBarrier` keeps a second journal beside the switch journal: an update
stops the runtime through a switch to the runtime itself, and the two journals
must name the same operation. The start of a tunnel and the recovery of an
update read both. The module ends with the system of the coordinator and the
barrier.
-/

namespace NelomaiClient.UpdateBarrier

open AwaitProgram AwaitPool AwaitRely AwaitFallible
open RuntimeRecord SwitchRecord SwitchCoordinator

section Programs

variable (json : Json)

def replaceUpdate (u : UpdateJournal) : BarrierProg json Unit :=
  relabel .ofFile (attempt (Prog.call (M := switchMachine json) (.replaceUpdate u)))

def removeUpdate : BarrierProg json Unit :=
  relabel .ofFile (attempt (Prog.call (M := switchMachine json) .removeUpdate))

def coordinator : BarrierProg json Coordinator := relabel .switch (command json .coordinator)

def demandUpdate : BarrierProg json UpdateJournal := do
  let current ← loadUpdate json
  decided (current.elim (.error .invalid) .ok)

def openBarrier : BarrierProg json Unit := do
  let c ← coordinator json
  match ← loadUpdate json with
  | none => pure ()
  | some u => validateSwitchLink json c.manifest u

def openCoordinator : SwitchProg json Unit := (fun _ => ()) <$> snapshot json

def requestedUpdate (j : SwitchJournal) (source : RuntimeIdentity) (target : String)
    (previousSlot : RuntimeSlot) : UpdateJournal where
  operationId := j.operationId
  sourceContainer := source.containerVersion
  sourceRuntime := source
  targetContainer := target
  previousSlot := previousSlot
  phase := .requested

def persistRequested (target : String) (j : SwitchJournal) (previousSlot : RuntimeSlot) :
    SwitchProg json Unit := do
  let source ← demand json j.sourceIdentity
  relabel (fun _ => .recoveryRequired) (replaceUpdate json (requestedUpdate j source target previousSlot))

/-- A failed preparation takes its journal back, unless a switch is under way. -/
def abandonPrepare : BarrierProg json Unit := do
  match ← outcome (relabel .switch (snapshot json)) with
  | .error _ => pure ()
  | .ok current =>
    whenever (current.all fun j => decide (j.phase = .complete))
      ((fun _ => ()) <$> outcome (removeUpdate json))

variable (c : Coordinator)

def settlePrepare (stop : SwitchProg json SwitchJournal) : BarrierProg json Unit := do
  match ← outcome (relabel .switch stop) with
  | .error error => do
    abandonPrepare json
    throw error
  | .ok stopped => do
    let u ← demandUpdate json
    validateSwitchLink json c.manifest u
    require (u.operationId == stopped.operationId && decide (stopped.phase = .localStopped)) .invalid
    replaceUpdate json { u with phase := .localStopped }

def prepare (target : String) : BarrierProg json Unit := do
  require (validVersion target) .invalid
  let c ← coordinator json
  require (target != c.manifest.containerVersion) .invalid
  match ← loadUpdate json with
  | none => settlePrepare json c (beginUpdateStop json c (persistRequested json target))
  | some u => do
    require (u.sourceContainer == c.manifest.containerVersion && u.targetContainer == target) .pending
    validateSwitchLink json c.manifest u
    whenever (!u.phase.stopped) (settlePrepare json c (continueUpdateStop json u.operationId))

def installerOpened : BarrierProg json Unit := do
  let u ← demandUpdate json
  require u.phase.stopped .invalid
  replaceUpdate json { u with phase := .installerOpened }

def installerFailed : BarrierProg json Unit := do
  match ← loadUpdate json with
  | none => pure ()
  | some u => do
    require (c.manifest.containerVersion == u.sourceContainer) .invalid
    whenever (decide (u.phase ≠ .cancelRequested))
      (replaceUpdate json { u with phase := .cancelRequested })
    match ← relabel .switch (cancelUpdateStop json c u.operationId) with
    | .pending _ => throw .pending
    | .ready => do
      relabel .switch (finishSelection json u.previousSlot)
      removeUpdate json

def finishUpdateRecovery (operationId : String) : SwitchProg json Unit :=
  relabel (.journal ∘ updateToSwitchJournalError) do
    let u ← demandUpdate json
    require (u.operationId == operationId) .invalid
    removeUpdate json

def completedTarget (j : SwitchJournal) : Option RuntimeTarget :=
  if j.phase = .complete then j.decision.bind (resumeTarget j) else none

def initialTransitionRequired (j : Option SwitchJournal) : SwitchProg json Bool := do
  let satisfied ← command json .initialTransitionSatisfied
  if satisfied then pure false
  else
    match c.requiredInitialTarget with
    | none => pure false
    | some slot => do
      let target ← demand json (c.manifest.target slot)
      pure (decide (j.bind completedTarget ≠ some target))

def beforeTunnelStartLocked (recoveringInstalledUpdate : Bool) :
    SwitchProg json Unit := do
  match ← recoverLocked json c with
  | .pending _ => throw .recoveryRequired
  | .ready => do
    let j ← snapshot json
    if ← initialTransitionRequired json c j then do
      let slot ← demand json c.requiredInitialTarget
      match ← requestLocked json c slot recoveringInstalledUpdate with
      | .pending _ => throw .recoveryRequired
      | .ready => command json .satisfyInitialTransition
    else command json .satisfyInitialTransition

def recoverUpdateForStart : UpdateStartRecovery → SwitchProg json Unit
  | .cancel operationId previousSlot => do
    match ← cancelUpdateStop json c operationId with
    | .pending _ => throw .recoveryRequired
    | .ready => do
      finishSelection json previousSlot
      finishUpdateRecovery json operationId
  | .installed operationId => do
    beforeTunnelStartLocked json c true
    finishUpdateRecovery json operationId
  | .none | .blocked => throw .recoveryRequired

def restartRequired (active : RuntimeTarget) : SwitchProg json Bool := do
  match ← outcome (currentSelection json) with
  | .error _ => pure true
  | .ok selection => do
    match ← outcome (snapshot json) with
    | .error _ => pure true
    | .ok _ =>
      pure (!c.manifest.verifies active ||
        selection.pendingSlot.any (fun slot => decide (slot ≠ active.runtimeSlot)) ||
        decide (selection.selectedSlot ≠ active.runtimeSlot))

def beforeTunnelStart (active : Option RuntimeTarget) : SwitchProg json Unit := do
  let c ← command json .coordinator
  let stale ← active.elim (pure false) (restartRequired json c)
  require (!stale) .recoveryRequired
  match ← updateStartRecovery json c.manifest with
  | .none => beforeTunnelStartLocked json c false
  | recovery => recoverUpdateForStart json c recovery

def recoverInstalledUpdate : SwitchProg json Unit := do
  match ← updateStartRecovery json c.manifest with
  | .installed operationId => recoverUpdateForStart json c (.installed operationId)
  | _ => throw .recoveryRequired

def recoverUpdate (installed : String) : BarrierProg json Unit := do
  let c ← coordinator json
  match ← loadUpdate json with
  | none => pure ()
  | some u => do
    require (installed == c.manifest.containerVersion) .invalid
    if installed = u.sourceContainer then installerFailed json c
    else relabel .switch (recoverInstalledUpdate json c)

/-- Calls of the coordinator and of the barrier, and a start on a container. -/
inductive SwitchOp where
  | beginRequested (journal : SwitchJournal)
  | request (slot : RuntimeSlot)
  | recover
  | cancelPending
  | cancelPendingFor (active : RuntimeTarget)
  | cancelUpdateStop (operationId : String)
  | beforeTunnelStart (active : Option RuntimeTarget)
  | prepare (target : String)
  | installerOpened
  | installerFailed
  | recoverUpdate (installed : String)
  | install (manifest : VerifiedContainerManifest) (selection : Option SlotSelection)
      (requiredInitialTarget : Option RuntimeSlot)

def unobserved {ε α : Type} (x : Fallible (switchMachine json) ε α) :
    Prog (switchMachine json) Unit :=
  (fun _ => ()) <$> x.run

variable {json} in
lemma wp_unobserved {ε α : Type} {x : Fallible (switchMachine json) ε α}
    {Q : α → SwitchWorld → Prop} (h : Ensures K t x Q s) :
    wp K t (unobserved json x) (fun _ _ => True) s :=
  (wp_map _ _ _ _ _ _).mpr (wp_mono (fun _ _ _ => trivial) h)

def switchProgram : SwitchOp → Prog (switchMachine json) Unit
  | .beginRequested journal => unobserved json (beginRequested json journal)
  | .request slot => unobserved json (request json slot)
  | .recover => unobserved json (recover json)
  | .cancelPending => unobserved json (cancelPending json)
  | .cancelPendingFor active => unobserved json (cancelPendingFor json active)
  | .cancelUpdateStop operationId =>
    unobserved json (command json .coordinator >>= fun c => cancelUpdateStop json c operationId)
  | .beforeTunnelStart active => unobserved json (beforeTunnelStart json active)
  | .prepare target => unobserved json (prepare json target)
  | .installerOpened => unobserved json (installerOpened json)
  | .installerFailed => unobserved json (coordinator json >>= installerFailed json)
  | .recoverUpdate installed => unobserved json (recoverUpdate json installed)
  | .install manifest selection required =>
    unobserved json (command json (.install manifest selection required))

/-- The coordinator and the barrier as a system; a restart opens them again. -/
abbrev switchSystem : System where
  machine := switchMachine json
  Op := SwitchOp
  program := switchProgram json
  restart s :=
    s.installed json s.coordinator.manifest s.selection s.coordinator.requiredInitialTarget

end Programs

end NelomaiClient.UpdateBarrier

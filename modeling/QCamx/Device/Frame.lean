import QCamx.Device.Cases

/-!
# What a thread leaves alone

For each thread a structure of equations names the parts of the device that its steps do not
change, and `RequestStep.frame` and its like prove them. An invariant about the rest is then shown
for the threads that matter to it and follows for the others.
-/

namespace QCamx

open Guarded

namespace Device

variable {cfg : Setup} {s s' : Device}

/-- What the request thread leaves alone. -/
structure RequestFrame (s s' : Device) : Prop where
  camera3Streams : s'.camera3Streams = s.camera3Streams
  freed : s'.freed = s.freed
  resultThread : s'.resultThread = s.resultThread
  resultThreadNull : s'.resultThreadNull = s.resultThreadNull
  resultPc : s'.resultPc = s.resultPc
  caseState : s'.caseState = s.caseState
  entering : s'.entering = s.entering
  holder : s'.holder = s.holder
  counting : s'.counting = s.counting
  encoder : s'.encoder = s.encoder
  stopPc : s'.stopPc = s.stopPc
  arrivals : s'.log.arrivals = s.log.arrivals
  counted : s'.log.counted = s.log.counted
  signals : s'.log.signals = s.log.signals
  delivered : s'.log.delivered = s.log.delivered

theorem RequestStep.frame {a : RequestAct} (h : RequestStep cfg s a s') : RequestFrame s s' := by
  cases h <;> constructor <;> rfl

/-- What the calls of `ProcessCaptureResult` leave alone. -/
structure HalFrame (s s' : Device) : Prop where
  camera3Streams : s'.camera3Streams = s.camera3Streams
  managers : s'.managers = s.managers
  requestThread : s'.requestThread = s.requestThread
  requestPc : s'.requestPc = s.requestPc
  resultThreadNull : s'.resultThreadNull = s.resultThreadNull
  stopped : s'.resultThread.stopped = s.resultThread.stopped
  resultPc : s'.resultPc = s.resultPc
  caseState : s'.caseState = s.caseState
  encoder : s'.encoder = s.encoder
  stopPc : s'.stopPc = s.stopPc
  consumed : s'.log.consumed = s.log.consumed
  submitted : s'.log.submitted = s.log.submitted
  delivered : s'.log.delivered = s.log.delivered

theorem HalStep.frame {a : HalAct} (h : HalStep s a s') : HalFrame s s' := by
  cases h <;> constructor <;> rfl

theorem foldl_applyEffect (effects : List Effect) (s : Device) :
    ∃ managers encoder, effects.foldl applyEffect s =
      { s with managers := managers, encoder := encoder } := by
  induction effects generalizing s with
  | nil => exact ⟨s.managers, s.encoder, rfl⟩
  | cons e effects ih =>
      obtain ⟨managers, encoder, h⟩ := ih (s.applyEffect e)
      refine ⟨managers, encoder, ?_⟩
      rw [List.foldl_cons, h]
      cases e <;> rfl

/-- What the result thread leaves alone. -/
structure ResultFrame (s s' : Device) : Prop where
  camera3Streams : s'.camera3Streams = s.camera3Streams
  pendingVector : s'.pendingVector = s.pendingVector
  freed : s'.freed = s.freed
  requestThread : s'.requestThread = s.requestThread
  requestPc : s'.requestPc = s.requestPc
  limitSignalled : s'.limitSignalled = s.limitSignalled
  resultThreadNull : s'.resultThreadNull = s.resultThreadNull
  stopped : s'.resultThread.stopped = s.resultThread.stopped
  inFlight : s'.inFlight = s.inFlight
  entering : s'.entering = s.entering
  holder : s'.holder = s.holder
  counting : s'.counting = s.counting
  stopPc : s'.stopPc = s.stopPc
  consumed : s'.log.consumed = s.log.consumed
  submitted : s'.log.submitted = s.log.submitted
  arrivals : s'.log.arrivals = s.log.arrivals
  counted : s'.log.counted = s.log.counted
  signals : s'.log.signals = s.log.signals

theorem ResultStep.frame {a : ResultAct} (h : ResultStep cfg s a s') : ResultFrame s s' := by
  cases h with
  | @callback msg b rest effects caseState hpc heff =>
      obtain ⟨managers, encoder, he⟩ := foldl_applyEffect effects s
      rw [he]
      constructor <;> rfl
  | _ => constructor <;> rfl

theorem encoderReturn_frame (t : ℕ × Buffer) (s : Device) :
    ResultFrame s { s.returnBuffer t.1 t.2 with encoder := s.encoder.erase t } := by
  constructor <;> rfl

/-- What the stopping thread leaves alone. -/
structure StopFrame (s s' : Device) : Prop where
  managers : s'.managers = s.managers
  freed : s'.freed = s.freed
  requestNumber : s'.requestThread.requestNumber = s.requestThread.requestNumber
  skipPattern : s'.requestThread.skipPattern = s.requestThread.skipPattern
  frameNumber : s'.requestThread.frameNumber = s.requestThread.frameNumber
  requestPc : s'.requestPc = s.requestPc
  limitSignalled : s'.limitSignalled = s.limitSignalled
  resultPc : s'.resultPc = s.resultPc
  inFlight : s'.inFlight = s.inFlight
  entering : s'.entering = s.entering
  holder : s'.holder = s.holder
  counting : s'.counting = s.counting
  encoder : s'.encoder = s.encoder
  log : s'.log = s.log
  fault : s'.fault = s.fault

theorem StopStep.frame {a : StopAct} (h : StopStep cfg s a s') : StopFrame s s' := by
  cases h <;> constructor <;> rfl

/-- What a command leaves alone. -/
structure UserFrame (s s' : Device) : Prop where
  camera3Streams : s'.camera3Streams = s.camera3Streams
  managers : s'.managers = s.managers
  pendingVector : s'.pendingVector = s.pendingVector
  freed : s'.freed = s.freed
  requestNumber : s'.requestThread.requestNumber = s.requestThread.requestNumber
  skipPattern : s'.requestThread.skipPattern = s.requestThread.skipPattern
  frameNumber : s'.requestThread.frameNumber = s.requestThread.frameNumber
  requestPc : s'.requestPc = s.requestPc
  limitSignalled : s'.limitSignalled = s.limitSignalled
  resultThread : s'.resultThread = s.resultThread
  resultThreadNull : s'.resultThreadNull = s.resultThreadNull
  resultPc : s'.resultPc = s.resultPc
  stop : s'.caseState.stop = s.caseState.stop
  inFlight : s'.inFlight = s.inFlight
  entering : s'.entering = s.entering
  holder : s'.holder = s.holder
  counting : s'.counting = s.counting
  encoder : s'.encoder = s.encoder
  stopPc : s'.stopPc = s.stopPc
  log : s'.log = s.log
  fault : s'.fault = s.fault

theorem UserStep.frame {a : UserAct} (h : UserStep cfg s a s') : UserFrame s s' := by
  cases h with
  | requestCapture hpc hmsg hcase => constructor <;> first | rfl | exact hcase
  | requestIgnored hpc hmsg hcase => constructor <;> first | rfl | exact hcase
  | triggerDump hpc => constructor <;> rfl
  | metadata hpc => constructor <;> rfl

/-! ## Runs -/

/-- `s` is reached from the start of `cfg` by steps the guard `ok` allows. -/
abbrev Run (cfg : Setup) (ok : Act → Device → Prop) (s : Device) : Prop :=
  Reachable (step cfg) ok cfg.init s

/-- **The invariant rule for runs of a device**, by the thread that steps. -/
theorem Run.invariant {ok : Act → Device → Prop} {P : Device → Prop} (h : Run cfg ok s)
    (h₀ : P cfg.init)
    (hstep : ∀ s a s', Run cfg ok s → P s → s.fault = none → ok a s → Step cfg s a s' → P s') :
    P s :=
  Reachable.invariant h h₀ fun s a s' hr hP hok hs =>
    hstep s a s' hr hP (Step.of_eq hs).1 hok (Step.of_eq hs).2

theorem Run.exists_of_exec {ok : Act → Device → Prop} [∀ a s, Decidable (ok a s)]
    {p : Device → Prop} [DecidablePred p] (as : List Act)
    (h : (exec (step cfg) ok as cfg.init).any (fun s => decide (p s)) = true) :
    ∃ s, Run cfg ok s ∧ p s :=
  Reachable.exists_of_exec as h

/-- What the HAL promises: a result is for an accepted frame, and its buffers are buffers the HAL
holds for that frame, each returned once. -/
def HalContract : Act → Device → Prop
  | .hal (.call r), s =>
      (s.acceptedRequest r.frameNumber).isSome = true ∧
        (r.outputBuffers.map fun b => (r.frameNumber, b)).Subperm s.inFlight
  | _, _ => True

instance : ∀ (a : Act) (s : Device), Decidable (HalContract a s)
  | .hal (.call _), _ => instDecidableAnd
  | .hal (.lock _), _ | .hal (.push _), _ | .hal .unlock, _ | .hal (.count _), _ | .request _, _
  | .result _, _ | .encoderReturn _, _ | .stop _, _ | .user _, _ => isTrue trivial

/-! ## A concrete start -/

/-- A preview-only case with one stream, at address `1`, of `n` buffers. -/
def previewSetup (n : ℕ) : Setup where
  testCase := .previewOnly
  config := {}
  camera3Streams := [1]
  allocated := fun i => if i = 0 then List.range n else []
  nodup_streams := List.nodup_singleton 1
  length_streams := Or.inr rfl
  nodup_allocated := fun i => by
    split_ifs
    · exact List.nodup_range
    · exact List.nodup_nil

/-- The steps by which `previewSetup` submits a request, up to the decision of the HAL. -/
def assembleRequest : List Act :=
  [.iterate, .limit, .assemble, .assemble, .settings, .insert].map .request

/-- The steps by which `previewSetup` has a request accepted. -/
def acceptRequest : List Act :=
  assembleRequest ++ [.submit true, .return, .unlock, .decrement].map .request

/-- The metadata and the buffer of frame `0` of `previewSetup`, in one result. -/
def resultZero : CaptureResult := ⟨0, [⟨1, 0⟩], 1⟩

/-- The steps of a call of `ProcessCaptureResult` with buffers. -/
def deliverResult (r : CaptureResult) : List Act :=
  [.call r, .lock r, .push r.outputBuffers, .unlock, .count r].map .hal

end Device

end QCamx

import QCamx.Device.Frame

/-!
# The stages of `stop_streams`

`stop_streams` joins the request thread, sets the `stopped` flag of the result thread and posts its
last message, joins it, waits for the pending requests, and deletes everything.

* `StopPc.stage`: how far it has come;
* **`stages`**: what holds from each stage on, in every run.
-/

namespace QCamx

/-- How far `stop_streams` has come. -/
@[simp] def StopPc.stage : StopPc → ℕ
  | running => 0
  | postRequest => 1
  | joinRequest => 2
  | postResult => 3
  | joinResult => 4
  | drain _ | waitPending _ => 5
  | delete => 6
  | stopped => 7

namespace Device

variable {cfg : Setup} {s s' : Device}

/-- What holds from each stage on. -/
structure Stages (cfg : Setup) (s : Device) : Prop where
  request : 3 ≤ s.stopPc.stage → s.requestPc = .exited
  stopped : s.resultThread.stopped = true ↔ 4 ≤ s.stopPc.stage
  result : 5 ≤ s.stopPc.stage → s.resultPc = .exited
  null : s.resultThreadNull = true ↔ 7 ≤ s.stopPc.stage
  streams : s.stopPc.stage < 7 → s.camera3Streams = cfg.camera3Streams

theorem RequestStep.ne_exited {a : RequestAct} (hs : RequestStep cfg s a s') :
    s.requestPc ≠ .exited := by
  intro he
  cases hs <;> simp_all

theorem ResultStep.ne_exited {a : ResultAct} (hs : ResultStep cfg s a s') :
    s.resultPc ≠ .exited := by
  intro he
  cases hs <;> simp_all

namespace Stages

theorem init (cfg : Setup) : Stages cfg cfg.init := by
  constructor <;> simp [Setup.init]

theorem stop {a : StopAct} (h : Stages cfg s) (hs : StopStep cfg s a s') : Stages cfg s' := by
  obtain ⟨hrequest, hstopped, hresult, hnull, hstreams⟩ := h
  cases hs with
  | begin hpc | postRequest hpc | joinRequest hpc | postResult hpc | joinResult hpc | drained hpc
  | drainWait hpc | forcedClear hpc | timeout hpc | wake hpc | delete hpc =>
      simp only [hpc, StopPc.stage] at hrequest hstopped hresult hnull hstreams
      constructor <;> simp_all

theorem congr (h : Stages cfg s) (hstop : s'.stopPc = s.stopPc)
    (hrequest : 3 ≤ s.stopPc.stage → s'.requestPc = .exited)
    (hresult : 5 ≤ s.stopPc.stage → s'.resultPc = .exited)
    (hstopped : s'.resultThread.stopped = s.resultThread.stopped)
    (hnull : s'.resultThreadNull = s.resultThreadNull)
    (hstreams : s'.camera3Streams = s.camera3Streams) : Stages cfg s' where
  request := by rw [hstop]; exact hrequest
  stopped := by rw [hstop, hstopped]; exact h.stopped
  result := by rw [hstop]; exact hresult
  null := by rw [hstop, hnull]; exact h.null
  streams := by rw [hstop, hstreams]; exact h.streams

theorem step {a : Act} (h : Stages cfg s) (hs : Step cfg s a s') : Stages cfg s' := by
  cases hs with
  | request hs =>
      have hf := hs.frame
      exact h.congr hf.stopPc (fun hle => absurd (h.request hle) hs.ne_exited)
        (fun hle => hf.resultPc.trans (h.result hle)) (by rw [hf.resultThread])
        hf.resultThreadNull hf.camera3Streams
  | hal hs =>
      have hf := hs.frame
      exact h.congr hf.stopPc (fun hle => hf.requestPc.trans (h.request hle))
        (fun hle => hf.resultPc.trans (h.result hle)) hf.stopped hf.resultThreadNull
        hf.camera3Streams
  | result hs =>
      have hf := hs.frame
      exact h.congr hf.stopPc (fun hle => hf.requestPc.trans (h.request hle))
        (fun hle => absurd (h.result hle) hs.ne_exited) hf.stopped hf.resultThreadNull
        hf.camera3Streams
  | encoderReturn ht => exact h.congr rfl h.request h.result rfl rfl rfl
  | stop hs => exact h.stop hs
  | user hs =>
      have hf := hs.frame
      exact h.congr hf.stopPc (fun hle => hf.requestPc.trans (h.request hle))
        (fun hle => hf.resultPc.trans (h.result hle)) (by rw [hf.resultThread])
        hf.resultThreadNull hf.camera3Streams

end Stages

theorem Step.stage_le {a : Act} (hs : Step cfg s a s') : s.stopPc.stage ≤ s'.stopPc.stage := by
  cases hs with
  | request hs => rw [hs.frame.stopPc]
  | hal hs => rw [hs.frame.stopPc]
  | result hs => rw [hs.frame.stopPc]
  | encoderReturn ht => exact le_rfl
  | stop hs =>
      cases hs with
      | begin hpc | postRequest hpc | joinRequest hpc | postResult hpc | joinResult hpc
      | drained hpc | drainWait hpc | forcedClear hpc | timeout hpc | wake hpc | delete hpc =>
          simp [hpc]
  | user hs => rw [hs.frame.stopPc]

/-- **What holds from each stage on, in every run.** -/
theorem stages {ok : Act → Device → Prop} (h : Run cfg ok s) : Stages cfg s :=
  h.invariant (.init cfg) fun _ _ _ _ hi _ _ hs => hi.step hs

end Device

end QCamx

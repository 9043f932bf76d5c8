import QCamx.Console.Slots

/-!
# Captures after a failed start

Every result of a start is ignored and the threads of the case are started in any case. What keeps
a failed start from capturing is that the list of configured streams is empty; but
`config_streams` fills the list before it calls the HAL, and it does so also where `open` has failed
and the call goes through a pointer that was never set.

* `Device.submitted_eq_nil`: a device without streams submits nothing, in any run;
* `captures_of_configured`: a case submits only if all its checks passed;
* **`noCaptureAfterFailedStart`**: so no case captures after a failed start, where no start that
  comes to `config_streams` has failed to open its camera, and `configure_streams` never fails;
* `captures_after_failed_configure`: where it fails, one does, and so it may where `open` fails.
-/

namespace QCamx

open Guarded

/-! ## A device without streams -/

namespace Device

variable {cfg : Setup} {s s' : Device}

/-- The request thread of a device without streams: it waits, or it has been stopped. -/
structure WithoutStreams (s : Device) : Prop where
  streams : s.camera3Streams = []
  posted : ∀ msg ∈ s.requestThread.messageQueue, msg.messageType = .startStop → msg.stop = 1
  pc : s.requestPc = .loop ∨ s.requestPc = .waitMessage ∨ s.requestPc = .exited
  submitted : s.log.submitted = []

namespace WithoutStreams

theorem init (h : cfg.camera3Streams = []) : WithoutStreams cfg.init where
  streams := h
  posted msg hmsg := by cases hmsg
  pc := .inl rfl
  submitted := rfl

theorem congr (h : WithoutStreams s) (hstreams : s'.camera3Streams = s.camera3Streams)
    (hqueue : s'.requestThread.messageQueue = s.requestThread.messageQueue)
    (hpc : s'.requestPc = s.requestPc) (hlog : s'.log.submitted = s.log.submitted) :
    WithoutStreams s' where
  streams := hstreams.trans h.streams
  posted := by rw [hqueue]; exact h.posted
  pc := by rw [hpc]; exact h.pc
  submitted := hlog.trans h.submitted

theorem post (h : WithoutStreams s) {msg : CameraRequestMsg}
    (hmsg : msg.messageType = .startStop → msg.stop = 1)
    (hstreams : s'.camera3Streams = s.camera3Streams)
    (hqueue : s'.requestThread.messageQueue = s.requestThread.messageQueue ++ [msg])
    (hpc : s'.requestPc = s.requestPc) (hlog : s'.log.submitted = s.log.submitted) :
    WithoutStreams s' where
  streams := hstreams.trans h.streams
  posted := by
    rw [hqueue]
    intro m hm
    rcases List.mem_append.mp hm with hm | hm
    · exact h.posted m hm
    · rw [List.mem_singleton.mp hm]
      exact hmsg
  pc := by rw [hpc]; exact h.pc
  submitted := hlog.trans h.submitted

theorem hasRequest (h : WithoutStreams s) : s.hasRequest = false := by
  rw [Device.hasRequest, h.streams]
  rfl

theorem request {a : RequestAct} (h : WithoutStreams s) (hs : RequestStep cfg s a s') :
    WithoutStreams s' := by
  have hpcs := h.pc
  cases hs with
  | exit hpc hstop => exact ⟨h.streams, h.posted, .inr (.inr rfl), h.submitted⟩
  | stopMessage hpc hstop hq htype hmsg =>
      refine ⟨h.streams, fun m hm => h.posted m ?_, h.pc, h.submitted⟩
      rw [hq]
      exact List.mem_cons_of_mem _ hm
  | otherMessage hpc hstop hq htype hmsg =>
      refine absurd (h.posted _ ?_ htype) hmsg
      rw [hq]
      exact List.mem_cons_self
  | change hpc hstop hq htype hfits =>
      refine ⟨h.streams, fun m hm => h.posted m ?_, h.pc, h.submitted⟩
      rw [hq]
      exact List.mem_cons_of_mem _ hm
  | changeOverflow hpc hstop hq htype hfits => exact h.congr rfl rfl rfl rfl
  | start hpc hstop hq hreq =>
      rw [h.hasRequest] at hreq
      cases hreq
  | idle hpc hstop hq hreq => exact ⟨h.streams, h.posted, .inr (.inl rfl), h.submitted⟩
  | wakeMessage hpc => exact ⟨h.streams, h.posted, .inl rfl, h.submitted⟩
  | _ => simp_all

theorem step {a : Act} (h : WithoutStreams s) (hs : Step cfg s a s') : WithoutStreams s' := by
  cases hs with
  | request hs => exact h.request hs
  | hal hs =>
      have hf := hs.frame
      exact h.congr hf.camera3Streams (by rw [hf.requestThread]) hf.requestPc hf.submitted
  | result hs =>
      have hf := hs.frame
      exact h.congr hf.camera3Streams (by rw [hf.requestThread]) hf.requestPc hf.submitted
  | encoderReturn ht => exact h.congr rfl rfl rfl rfl
  | stop hs =>
      cases hs with
      | postRequest hpc => exact h.post (fun _ => rfl) rfl rfl rfl rfl
      | delete hpc => exact ⟨rfl, h.posted, h.pc, h.submitted⟩
      | _ => exact h.congr rfl rfl rfl rfl
  | user hs =>
      cases hs with
      | requestCapture hpc hmsg hcase =>
          refine h.post (fun htype => ?_) rfl rfl rfl rfl
          rw [messageType_requestCapture hmsg] at htype
          cases htype
      | _ => exact h.congr rfl rfl rfl rfl

end WithoutStreams

/-- **A device without streams submits nothing.** -/
theorem submitted_eq_nil {ok : Act → Device → Prop} (h : Run cfg ok s)
    (hnil : cfg.camera3Streams = []) : s.log.submitted = [] :=
  (h.invariant (.init hnil) fun _ _ _ _ hi _ _ hs => hi.step hs : WithoutStreams s).submitted

end Device

namespace Console

variable {enc : Bool} {ok : Act → Console → Prop} {w w' : Console}

/-! ## Starts -/

/-- The camera was opened, and all streams were found supported and configured. -/
def Case.Started (c : Case) : Prop := c.opened = true ∧ c.configured = some true

/-- `process_capture_request` is called for no case whose start has failed. -/
def NoCaptureAfterFailedStart (w : Console) : Prop :=
  ∀ c ∈ w.cases, c.device.log.submitted ≠ [] → c.Started

/-- The configuration that a line `A` gives, when its parse returns `0`. -/
def addConfig (order : CString) : Option Config :=
  if Skipped order ∨ command order ≠ .add then none
  else match parseCommandlineAdd (param order) {} with
    | .ok (result, c) => if result = 0 then some c else none
    | .error _ => none

/-- The case that an action starts: its class and its configuration. -/
def starts (w : Console) : Act → Option (TestCase × Config × Start)
  | .command order env =>
      (addConfig order).bind fun c => c.testMode.map fun mode => (mode.testCase, c, env.start)
  | .resume env => match w.pc with
      | .stopping k (.switch _) => w.cases[k]?.map fun c => (.hal3TestVideo, c.config, env.start)
      | _ => none
  | _ => none

/-- `open` and `configure_streams` succeed, if the action comes to the call of the latter. -/
def Configures (a : Act) (w : Console) : Prop :=
  (w.starts a).all (fun p => !p.2.2.getsOn p.1 p.2.1 || p.2.2.opens && p.2.2.configures) = true

instance (a : Act) (w : Console) : Decidable (Configures a w) :=
  inferInstanceAs (Decidable ((w.starts a).all _ = true))

theorem addConfig_eq_some {order : CString} {c : Config} (hskip : ¬ Skipped order)
    (hcmd : command order = .add) (hparse : parseCommandlineAdd (param order) {} = .ok (0, c)) :
    addConfig order = some c := by
  rw [addConfig, if_neg (by simp [hskip, hcmd]), hparse]
  rfl

theorem forall_case {P : Case → Prop} (h : Run enc ok w)
    (hstart : ∀ w a tc c start new, ok a w → w.starts a = some (tc, c, start) →
      startCase enc tc c start = .ok new → P new)
    (hkeep : ∀ c c' : Case, c'.setup = c.setup → c'.opened = c.opened →
      c'.configured = c.configured → P c → P c') :
    ∀ c ∈ w.cases, P c := by
  refine h.invariant (P := fun w => ∀ c ∈ w.cases, P c) (by simp) fun w a w' _ hi _ hok hs => ?_
  have hset : ∀ {k : ℕ} {c c' : Case}, w.cases[k]? = some c → c'.setup = c.setup →
      c'.opened = c.opened → c'.configured = c.configured → ∀ c₀ ∈ (w.setCase k c').cases, P c₀ :=
    fun hk hs ho hc => forall_mem_setCase hi (hkeep _ _ hs ho hc (hi _ (List.mem_of_getElem? hk)))
  cases hs with
  | fault hfault | endOfInput hpc | emptySlot hpc hrange hslot | returned hpc hge => exact hi
  | @command order env _ hpc hs =>
      cases hs with
      | stay | quit => exact hi
      | @add c mode new hskip hcmd hparse hmode hnew hrange =>
          refine forall_mem_registered hi (hstart w _ _ _ _ _ hok ?_ hnew)
          rw [starts, addConfig_eq_some hskip hcmd hparse, Option.bind_some, hmode, Option.map_some]
      | edit hslot hedit =>
          obtain ⟨d, _, rfl, _⟩ := hedit
          exact hset hslot.case rfl rfl rfl
      | delete hcmd hslot hd | switch hskip hcmd hslot hmode hparse hd =>
          exact hset hslot.case rfl rfl rfl
  | stop hpc hcase hd | thread hthread hcase hd | deleted hpc hcase hstop hopened hrange
  | shutDown hpc hcase hstop hopened hrange => exact hset hcase rfl rfl rfl
  | @switched env k i c new hpc hcase hstop hnew hrange hid =>
      refine forall_mem_registered (hset hcase rfl rfl rfl) (hstart w _ _ _ _ _ hok ?_ hnew)
      simp only [starts, hpc, hcase, Option.map_some]
  | shutdownStop hpc hslot hd => exact hset hslot.case rfl rfl rfl

theorem camera3Streams_of_unchecked (h : Run enc ok w) :
    ∀ c ∈ w.cases, c.configured = none → c.setup.camera3Streams = [] := by
  refine forall_case h (fun w a tc c start new _ _ hnew hnone => ?_)
    fun _ _ hsetup _ hconf hc => by rw [hsetup, hconf]; exact hc
  obtain ⟨configured, rfl, ⟨-, hnil⟩ | ⟨-, hsome⟩⟩ := startCase_eq_ok hnew
  · exact hnil
  · rw [show (newCase enc tc c start configured).configured = configured from rfl, hsome] at hnone
    cases hnone

/-- **A case captures only after all its checks have passed.** -/
theorem captures_of_configured (h : Run enc ok w) {c : Case} (hc : c ∈ w.cases)
    (hsub : c.device.log.submitted ≠ []) : c.configured ≠ none := by
  intro hnone
  have hnil := camera3Streams_of_unchecked h c hc hnone
  exact hsub (Device.submitted_eq_nil (deviceRuns h c hc) hnil)

theorem started_of_configures (h : Run enc Configures w) :
    ∀ c ∈ w.cases, c.configured ≠ none → c.Started := by
  refine forall_case h (fun w a tc c start new hok hstarts hnew hne => ?_)
    fun _ _ _ hopened hconf hc => by rw [Case.Started, hopened, hconf]; exact hc
  rw [Configures, hstarts] at hok
  obtain ⟨configured, rfl, ⟨hnone, -⟩ | ⟨hgets, hsome⟩⟩ := startCase_eq_ok hnew
  · exact absurd hnone hne
  · simp only [Option.all_some, hgets, Bool.not_true, Bool.false_or, Bool.and_eq_true] at hok
    refine ⟨hok.1, ?_⟩
    rw [show (newCase enc tc c start configured).configured = configured from rfl, hsome, hok.2]

/-- **No case captures after a failed start**, in every run in which `open` and `configure_streams`
succeed wherever the latter is called. -/
theorem noCaptureAfterFailedStart (h : Run enc Configures w) : NoCaptureAfterFailedStart w :=
  fun c hc hsub => started_of_configures h c hc (captures_of_configured h hc hsub)

/-! ## A start that fails -/

/-- The answers of the device of `vgaCharacteristics`, with two buffers for each stream; calls
through a pointer that was not set return. -/
def vgaStart (opens configures : Bool) : Start where
  opens := opens
  wild := true
  characteristics := Streams.vgaCharacteristics
  configures := configures
  allocated := fun _ => [0, 1]
  stream_injective := Function.injective_id
  nodup_allocated := fun _ => by decide

/-- An active array of 640 by 480 that is still there when it is read, and no numbers with a
fraction. -/
def vgaMetaSetup : MetaSetup UInt32 where
  scanFloat _ := none
  zero := 0
  expTimeNs _ := 0
  aeCompRange := (-12, 12)
  activeArraySize := [0, 0, 640, 480]
  copyReads _ := some (640, 480)

/-- The answers of that device to a start. -/
def vgaAnswers (opens configures : Bool) : Env :=
  ⟨vgaStart opens configures, vgaMetaSetup, fun _ => 0⟩

/-- The answers of that device when all goes well. -/
def vgaEnv : Env := vgaAnswers true true

/-- A line that starts a preview case of camera `0`. -/
def previewLine : CString := "A:id=0,psize=640x480,pformat=yuv420".toList

/-- The command `previewLine`, and the steps by which the case submits a request. -/
def previewCapture (opens configures : Bool) : List Act :=
  .command previewLine (vgaAnswers opens configures) ::
    (Device.assembleRequest ++ [QCamx.Act.request (.submit true)]).map (.thread 0)

/-- The preview case of `previewLine` captures. -/
theorem preview_captures :
    ∃ w, Run true Configures w ∧ (∃ c ∈ w.cases, c.device.log.submitted ≠ []) ∧
      NoCaptureAfterFailedStart w := by
  have ⟨w, hr, hsub⟩ : ∃ w, Run true Configures w ∧
      (w.cases.any fun c => !c.device.log.submitted.isEmpty) = true :=
    Reachable.exists_of_exec (previewCapture true true) (by decide +kernel)
  have ⟨c, hc, hne⟩ := List.any_eq_true.mp hsub
  exact ⟨w, hr, ⟨c, hc, by simpa using hne⟩, noCaptureAfterFailedStart hr⟩

theorem captures_unstarted {w : Console} (h : (w.cases.any fun c =>
    !c.device.log.submitted.isEmpty && !(c.opened && decide (c.configured = some true))) = true) :
    ¬ NoCaptureAfterFailedStart w := by
  intro hnone
  obtain ⟨c, hc, hboth⟩ := List.any_eq_true.mp h
  obtain ⟨hne, hfailed⟩ := Bool.and_eq_true_iff.mp hboth
  obtain ⟨hopened, hconf⟩ := hnone c hc (by simpa using hne)
  simp [hopened, hconf] at hfailed

/-- It also does where `configure_streams` has failed, and where `open` has. -/
theorem captures_after_failed_configure :
    (∃ w, Run true (fun _ _ => True) w ∧ ¬ NoCaptureAfterFailedStart w ∧
      ∀ c ∈ w.cases, c.opened = true) ∧
      ∃ w, Run true (fun _ _ => True) w ∧ ¬ NoCaptureAfterFailedStart w ∧
        ∀ c ∈ w.cases, c.configured = some true := by
  refine ⟨?_, ?_⟩
  · obtain ⟨w, hr, hsub, hopened⟩ : ∃ w, Run true (fun _ _ => True) w ∧
        (w.cases.any fun c => !c.device.log.submitted.isEmpty &&
          !(c.opened && decide (c.configured = some true))) = true ∧
        (w.cases.all fun c => c.opened) = true :=
      Reachable.exists_of_exec (previewCapture true false) (by decide +kernel)
    exact ⟨w, hr, captures_unstarted hsub, List.all_eq_true.mp hopened⟩
  · obtain ⟨w, hr, hsub, hconf⟩ : ∃ w, Run true (fun _ _ => True) w ∧
        (w.cases.any fun c => !c.device.log.submitted.isEmpty &&
          !(c.opened && decide (c.configured = some true))) = true ∧
        (w.cases.all fun c => decide (c.configured = some true)) = true :=
      Reachable.exists_of_exec (previewCapture false true) (by decide +kernel)
    exact ⟨w, hr, captures_unstarted hsub, fun c hc =>
      of_decide_eq_true (List.all_eq_true.mp hconf c hc)⟩

end Console

end QCamx

import QCamx.Device.Custody
import QCamx.Device.Queue
import QCamx.Device.Record
import QCamx.Device.Selection
import QCamx.Device.Teardown

/-!
# Runs without undefined behaviour

Six kinds of undefined behaviour are modelled as faults of a device. Each has an assumption on the
HAL or the condition variables, or a bound on numbers, that excludes it; together they exclude all.

* `WellBehaved`: the HAL keeps its contract, completes no frame during its submission and returns
  every buffer before `stop_streams` gives up; no wait returns for no reason;
* `KnownStreams`: every buffer on its way belongs to a configured stream;
* `BuffersSignalled`: `get_buffer` is woken only when there is a buffer;
* `Bounded`: the frame number is bounded by the submissions, the request numbers by the orders;
* **`no_fault`**: a run of a well-behaved environment with less than `2 ^ 31` submissions and
  ordered requests has no fault.
-/

namespace QCamx

open Guarded

namespace Device

variable {cfg : Setup} {s s' : Device}

/-! ## The streams of the buffers -/

/-- Every buffer on its way belongs to a configured stream. -/
structure KnownStreams (cfg : Setup) (s : Device) : Prop where
  request : ∀ b ∈ s.requestSide, b.stream ∈ cfg.camera3Streams
  result : ∀ b ∈ s.delivering, b.stream ∈ cfg.camera3Streams

namespace KnownStreams

theorem init (cfg : Setup) : KnownStreams cfg cfg.init where
  request b hb := by simp [requestSide, Setup.init, RequestPc.buffers] at hb
  result b hb := by simp [delivering, calling, Setup.init] at hb

theorem of_request (h : KnownStreams cfg s) (hf : RequestFrame s s')
    (hside : ∀ b ∈ s'.requestSide, b ∈ s.requestSide ∨ b.stream ∈ cfg.camera3Streams) :
    KnownStreams cfg s' where
  request b hb := (hside b hb).elim (h.request b) id
  result := by
    have hsame : s'.delivering = s.delivering := by
      rw [delivering, calling, hf.entering, hf.holder, hf.resultThread, hf.resultPc]
      rfl
    rw [hsame]
    exact h.result

theorem requestStep {a : RequestAct} (h : KnownStreams cfg s)
    (hstreams : s.camera3Streams = cfg.camera3Streams) (hs : RequestStep cfg s a s') :
    KnownStreams cfg s' := by
  refine h.of_request hs.frame fun b hb => ?_
  cases hs with
  | getBuffer ha hpc hi hsel hfree =>
      simp only [requestSide, RequestPc.buffers, hpc, List.mem_append, List.mem_singleton]
        at hb ⊢
      rcases hb with (hb | rfl) | hb
      · exact Or.inl (Or.inl hb)
      · exact Or.inr (hstreams ▸ List.mem_of_getElem? hi)
      · exact Or.inl (Or.inr hb)
  | @submit selected buffers accepted hpc hfreed =>
      left
      cases accepted with
      | false => simpa [requestSide, RequestPc.buffers, hpc] using hb
      | true =>
          simp only [requestSide, RequestPc.buffers, hpc, List.nil_append, if_true, List.map_append,
            List.map_map, Function.comp_def, List.map_id', List.mem_append] at hb ⊢
          exact hb.symm
  | rejectReturn hpc =>
      left
      simp only [requestSide, RequestPc.buffers, hpc, List.mem_append, List.mem_cons] at hb ⊢
      exact hb.imp_left Or.inr
  | exit hpc | otherMessage hpc | start hpc | idle hpc | wakeMessage hpc | limitWait hpc
  | limitPass hpc | limitTimeout hpc | limitWake hpc | assembled hpc | skip hpc | settings hpc
  | insert hpc | returnAccepted hpc | returnRejected hpc | unlock _ hpc | rejectRemove hpc
  | rejectAbsent hpc | decrement hpc =>
      left
      simpa [requestSide, RequestPc.buffers, hpc, takeSettings] using hb
  | stopMessage | change | changeOverflow | bufferWait | bufferWakeEmpty | submitFreed
  | returnOverflow | unlockFreed | rejectFreed | rejectUnknown => exact Or.inl hb

theorem of_result (h : KnownStreams cfg s) (hpc : s'.requestPc = s.requestPc)
    (hin : s'.inFlight ⊆ s.inFlight)
    (hside : ∀ b ∈ s'.delivering, b ∈ s.delivering ∨ b ∈ s.requestSide) :
    KnownStreams cfg s' where
  request b hb := by
    refine h.request b ?_
    rw [requestSide, hpc] at hb
    exact (List.mem_append.mp hb).elim (List.mem_append_left _)
      fun hb => List.mem_append_right _ (List.map_subset _ hin hb)
  result b hb := (hside b hb).elim (h.result b) (h.request b)

theorem hal {a : HalAct} (h : KnownStreams cfg s) (hok : HalContract (.hal a) s)
    (hs : HalStep s a s') : KnownStreams cfg s' := by
  have hf := hs.frame
  cases hs with
  | @call r hr =>
      refine h.of_result rfl (List.diff_subset _ _) fun b hb => ?_
      simp only [delivering, calling, List.flatMap_cons, List.mem_append] at hb ⊢
      by_cases hmem : b ∈ r.outputBuffers
      · right
        have hsub := hok.2.subset (List.mem_map_of_mem hmem)
        exact List.mem_append_right _ (List.mem_map_of_mem hsub)
      · left
        tauto
  | @lock r hr hheld hnull =>
      refine h.of_result rfl (List.Subset.refl _) fun b hb => Or.inl ?_
      simp only [delivering, calling, hheld, List.mem_append, List.mem_flatMap] at hb ⊢
      rcases hb with ((⟨x, hx, hb⟩ | hb) | hb) | hb
      · exact Or.inl (Or.inl (Or.inl ⟨x, List.mem_of_mem_erase hx, hb⟩))
      · exact Or.inl (Or.inl (Or.inl ⟨r, hr, hb⟩))
      · exact Or.inl (Or.inr hb)
      · exact Or.inr hb
  | @pushStopped r view hheld hnull hstopped =>
      refine h.of_result rfl (List.Subset.refl _) fun b hb => Or.inl ?_
      simp only [delivering, calling, hheld, List.mem_append] at hb ⊢
      tauto
  | @push r view hheld hview hnull hstopped =>
      refine h.of_result rfl (List.Subset.refl _) fun b hb => Or.inl ?_
      simp only [delivering, calling, hheld, pushResult, BlockingQueue.push, List.flatMap_append,
        List.flatMap_singleton, List.mem_append] at hb ⊢
      tauto
  | unlock hheld hnull =>
      refine h.of_result rfl (List.Subset.refl _) fun b hb => Or.inl ?_
      simpa [delivering, calling, hheld] using hb
  | callMetadata | lockNull | pushNull | unlockNull | countAbsent | countComplete | count =>
      exact h.of_result rfl (List.Subset.refl _) fun b hb => Or.inl hb

theorem delivering_subset {a : ResultAct} (hs : ResultStep cfg s a s') :
    s'.delivering ⊆ s.delivering := by
  intro b hb
  cases hs with
  | wait hpc hheld hact hq hwait =>
      have hitems := items_takeAct hact hq
      rcases hwait with rfl | ⟨rfl, hempty⟩
      · rw [if_pos rfl] at hitems
        simpa only [delivering, calling, hitems] using hb
      · simpa only [delivering, calling, hitems, hempty, List.tail_nil, ite_self] using hb
  | @wakeEmpty w q hpc hheld hw hq hempty =>
      have hitems : q.items = [] := by
        rw [items_takeAct (a := .wake w) rfl hq, hempty, List.tail_nil, ite_self]
      simpa only [delivering, calling, fail, hitems, hempty] using hb
  | popStop hpc hheld ha hact hq hcons hmsg | pop hpc hheld ha hact hq hcons hmsg =>
      have hitems := items_takeAct hact hq
      rw [if_neg ha, hcons, List.tail_cons] at hitems
      simp only [delivering, calling, hitems, hcons, hpc, List.flatMap_cons, List.mem_append]
        at hb ⊢
      tauto
  | @callback msg c rest effects caseState hpc heff =>
      obtain ⟨managers, encoder, he⟩ := foldl_applyEffect effects s
      rw [he] at hb
      simp only [delivering, calling, hpc, List.mem_append, List.mem_cons] at hb ⊢
      tauto
  | callbackInternal hpc | callbackExternal hpc | giveBack hpc | giveBackDone hpc =>
      simp only [delivering, calling, returnBuffer, hpc, List.mem_append, List.mem_cons] at hb ⊢
      tauto
  | callbackUnknown | giveBackUnknown => exact hb

theorem step {a : Act} (h : KnownStreams cfg s) (hstages : Stages cfg s) (hok : HalContract a s)
    (hs : Step cfg s a s') : KnownStreams cfg s' := by
  cases hs with
  | request hs =>
      have hlt : s.stopPc.stage < 7 := by
        by_contra hge
        exact hs.ne_exited (hstages.request (by omega))
      exact h.requestStep (hstages.streams hlt) hs
  | hal hs => exact h.hal hok hs
  | result hs =>
      have hf := hs.frame
      exact h.of_result hf.requestPc (by rw [hf.inFlight]; exact List.Subset.refl _)
        fun b hb => Or.inl (delivering_subset hs hb)
  | encoderReturn =>
      exact h.of_result rfl (List.Subset.refl _) fun b hb => Or.inl hb
  | stop hs =>
      have hf := hs.frame
      refine h.of_result hf.requestPc (by rw [hf.inFlight]; exact List.Subset.refl _)
        fun b hb => Or.inl ?_
      cases hs with
      | postResult hpc hheld =>
          simpa [delivering, calling, BlockingQueue.push] using hb
      | _ => exact hb
  | user hs =>
      have hf := hs.frame
      refine h.of_result hf.requestPc (by rw [hf.inFlight]; exact List.Subset.refl _)
        fun b hb => Or.inl ?_
      rw [delivering, calling, hf.entering, hf.holder, hf.resultThread, hf.resultPc] at hb
      exact hb

end KnownStreams

/-- **The case knows the stream of every buffer on its way.** -/
theorem knownStreams {ok : Act → Device → Prop} (h : Run cfg ok s)
    (hok : ∀ a s, ok a s → HalContract a s) : KnownStreams cfg s :=
  h.invariant (.init cfg) fun _ a _ hr hi _ ha hs => hi.step (stages hr) (hok a _ ha) hs

theorem postProcessStep_ne_none {b : StreamBuffer} (hb : b.stream ∈ cfg.camera3Streams)
    (frame : ℕ) (cs : CaseState) :
    postProcessStep cfg.testCase cfg.config cfg.camera3Streams cfg.cameraStreams frame b cs ≠
      none := by
  have hlt := (List.idxOf_lt_length_iff.mpr hb).trans_le cfg.length_camera3Streams_le
  rw [postProcessStep, findStreamIndex_of_mem hb, Option.bind_some, List.getElem?_eq_getElem hlt]
  simp

/-! ## The free lists -/

/-- No wait of the program returns for no reason. -/
def NoSpuriousWake : Act → Device → Prop
  | .request (.bufferWake w), _ | .result (.wake w), _ => w ≠ .spurious
  | _, _ => True

instance : ∀ (a : Act) (s : Device), Decidable (NoSpuriousWake a s)
  | .request (.bufferWake w), _ | .result (.wake w), _ =>
      inferInstanceAs (Decidable (w ≠ .spurious))
  | .request .iterate, _ | .request .wakeMessage, _ | .request .limit, _
  | .request (.limitWake _), _ | .request .assemble, _ | .request .settings, _
  | .request .insert, _ | .request (.submit _), _ | .request .return, _ | .request .unlock, _
  | .request .reject, _ | .request .decrement, _ | .result .take, _ | .result .callback, _
  | .result .giveBack, _ | .hal _, _ | .encoderReturn _, _ | .stop _, _ | .user _, _ =>
      isTrue trivial

/-- The request thread is the only one in the waits of the managers, and is woken by a buffer. -/
def BuffersSignalled (s : Device) : Prop :=
  ∀ i, BlockingQueue.SignalledNonempty 0 (s.managers i).buffersFree

/-- What an action of the device does to a manager: the request thread gets a buffer, or some thread
returns one. -/
inductive OnManager : Act → BufferManager.Act → Prop
  | getBuffer {a : Act} : OnManager a (.getBuffer 0)
  | wake {w : Wake} : OnManager (.request (.bufferWake w)) (.wake 0 w)
  | returnBuffer {a : Act} {b : Buffer} : OnManager a (.returnBuffer b)

section Managers

variable {P : BufferManager → Prop}

theorem forall_managers_update {i : ℕ} {m : BufferManager} (h : ∀ i, P (s.managers i)) (hm : P m)
    (hmanagers : s'.managers = Function.update s.managers i m) : ∀ j, P (s'.managers j) := by
  intro j
  rw [hmanagers]
  by_cases hj : j = i
  · subst hj
    rwa [Function.update_self]
  · rw [Function.update_of_ne hj]
    exact h j

theorem forall_managers_returnBuffer (h : ∀ i, P (s.managers i))
    (hreturn : ∀ m b, P m → P (m.returnBuffer b)) (i : ℕ) (b : Buffer) :
    ∀ j, P ((s.returnBuffer i b).managers j) :=
  forall_managers_update h (hreturn _ b (h i)) rfl

theorem forall_managers_applyEffect (effects : List Effect) (h : ∀ i, P (s.managers i))
    (hreturn : ∀ m b, P m → P (m.returnBuffer b)) :
    ∀ i, P ((effects.foldl applyEffect s).managers i) := by
  induction effects generalizing s with
  | nil => exact h
  | cons e effects ih =>
      rw [List.foldl_cons]
      apply ih
      cases e with
      | returnBuffer i b => exact forall_managers_returnBuffer h hreturn i b
      | _ => exact h

/-- **What the actions on a manager keep, the steps of the device keep** for all managers. -/
theorem Step.forall_managers {a : Act} (hs : Step cfg s a s') (h : ∀ i, P (s.managers i))
    (hkeep : ∀ b m m', OnManager a b → m.step b = some m' → P m → P m') :
    ∀ i, P (s'.managers i) := by
  have hreturn : ∀ m b, P m → P (m.returnBuffer b) := fun m b => hkeep _ m _ .returnBuffer rfl
  cases hs with
  | request hs =>
      cases hs with
      | bufferWait hpc hi hsel hm hfree =>
          exact forall_managers_update h (hkeep _ _ _ .getBuffer hm (h _)) rfl
      | getBuffer ha hpc hi hsel hfree =>
          rcases ha with ⟨rfl, hm⟩ | ⟨w, rfl, hm⟩
          · exact forall_managers_update h (hkeep _ _ _ .getBuffer hm (h _)) rfl
          · exact forall_managers_update h (hkeep _ _ _ .wake hm (h _)) rfl
      | bufferWakeEmpty hpc hi hm hfree =>
          exact forall_managers_update h (hkeep _ _ _ .wake hm (h _)) rfl
      | rejectReturn => exact forall_managers_returnBuffer h hreturn _ _
      | _ => exact h
  | hal hs =>
      rw [hs.frame.managers]
      exact h
  | result hs =>
      cases hs with
      | callback => exact forall_managers_applyEffect _ h hreturn
      | giveBack => exact forall_managers_returnBuffer h hreturn _ _
      | _ => exact h
  | encoderReturn => exact forall_managers_returnBuffer h hreturn _ _
  | stop hs =>
      rw [hs.frame.managers]
      exact h
  | user hs =>
      rw [hs.frame.managers]
      exact h

end Managers

namespace BuffersSignalled

theorem init (cfg : Setup) : BuffersSignalled cfg.init := fun _ => .of_idle rfl rfl

theorem step {a : Act} (h : BuffersSignalled s) (hok : NoSpuriousWake a s) (hs : Step cfg s a s') :
    BuffersSignalled s' := by
  refine hs.forall_managers (P := fun m => BlockingQueue.SignalledNonempty 0 m.buffersFree) h
    fun b m m' hb hm hq => hq.step ?_ (BufferManager.step_toQueue hm)
  cases hb with
  | getBuffer => rfl
  | wake => exact ⟨rfl, hok⟩
  | returnBuffer => trivial

end BuffersSignalled

theorem buffersSignalled {ok : Act → Device → Prop} (h : Run cfg ok s)
    (hok : ∀ a s, ok a s → NoSpuriousWake a s) : BuffersSignalled s :=
  h.invariant (.init cfg) fun _ a _ _ hi _ ha hs => hi.step (hok a _ ha) hs

/-- **`get_buffer` finds a buffer when it is woken.** -/
theorem Step.buffersFree_ne_nil {w : Wake} {selected : ℕ → ℕ} {i : ℕ} {buffers : List StreamBuffer}
    (hs : Step cfg s (.request (.bufferWake w)) s') (h : BuffersSignalled s)
    (hok : NoSpuriousWake (.request (.bufferWake w)) s)
    (hpc : s.requestPc = .assemble selected i buffers) : s.buffersFree i ≠ [] := by
  have hfinds {m : BufferManager} (hm : (s.managers i).step (.wake 0 w) = some m) :
      s.buffersFree i ≠ [] := by
    have hwake := (h i).wakesNonempty (a := (BufferManager.Act.wake 0 w).toQueue (s.managers i))
      ⟨rfl, hok⟩ (BufferManager.step_toQueue hm)
    apply hwake
    rintro rfl
    simp [BufferManager.step] at hm
  cases hs with
  | request hs =>
      cases hs with
      | getBuffer ha hpc' hi hsel hfree =>
          rw [hpc] at hpc'
          cases hpc'
          simp [hfree]
      | bufferWakeEmpty hpc' hi hm hfree =>
          rw [hpc] at hpc'
          cases hpc'
          exact hfinds hm

theorem Step.fault_ne_unknownStream {a : Act} (hs : Step cfg s a s') (h : KnownStreams cfg s)
    (hstages : Stages cfg s) (hnone : s.fault = none) : s'.fault ≠ some .unknownStream := by
  intro hf
  have hrunning (hlt : s.stopPc.stage < 7) : s.camera3Streams = cfg.camera3Streams :=
    hstages.streams hlt
  have hne : s.fault ≠ some .unknownStream := by simp [hnone]
  have hfails := hs.fails hnone hf
  cases hs with
  | request hs =>
      cases hfails with
      | rejectUnknown hpc hi =>
          have hlt : s.stopPc.stage < 7 := by
            by_contra hge
            exact hs.ne_exited (hstages.request (by omega))
          have hmem := h.request _ (List.mem_append_left _ (by rw [hpc]; exact List.mem_cons_self))
          rw [hrunning hlt, findStreamIndex_of_mem hmem] at hi
          cases hi
  | hal => cases hfails
  | result hs =>
      have hlt : s.stopPc.stage < 7 := by
        by_contra hge
        exact hs.ne_exited (hstages.result (by omega))
      cases hs with
      | @callbackUnknown msg b rest hpc heff =>
          rw [hrunning hlt] at heff
          exact postProcessStep_ne_none (h.result b (by simp [delivering, hpc])) _ _ heff
      | @giveBackUnknown msg b rest hpc hi =>
          have hmem := h.result b (by simp [delivering, hpc])
          rw [hrunning hlt, findStreamIndex_of_mem hmem] at hi
          cases hi
      | @callback msg b rest effects caseState hpc heff =>
          obtain ⟨managers, encoder, he⟩ := foldl_applyEffect effects s
          rw [he] at hf
          exact hne hf
      | wakeEmpty => cases hf
      | _ => exact hne hf
  | encoderReturn => cases hfails
  | stop => cases hfails
  | user => cases hfails

/-! ## The numbers -/

/-- What the messages order of stream `i`, whatever the sign. -/
def totalOf (msgs : List CameraRequestMsg) (i : ℕ) : ℤ :=
  (msgs.map fun msg => |msg.requestNumber i|).sum

/-- What the messages for the request thread order of stream `i`, the handled and the queued. -/
def orderedTotal (s : Device) (i : ℕ) : ℤ :=
  totalOf (s.log.consumed ++ s.requestThread.messageQueue) i

theorem totalOf_nonneg (msgs : List CameraRequestMsg) (i : ℕ) : 0 ≤ totalOf msgs i := by
  apply List.sum_nonneg
  intro x hx
  obtain ⟨msg, -, rfl⟩ := List.mem_map.mp hx
  exact abs_nonneg _

@[simp] theorem totalOf_append (l m : List CameraRequestMsg) (i : ℕ) :
    totalOf (l ++ m) i = totalOf l i + totalOf m i := by
  simp [totalOf]

@[simp] theorem totalOf_cons (msg : CameraRequestMsg) (l : List CameraRequestMsg) (i : ℕ) :
    totalOf (msg :: l) i = |msg.requestNumber i| + totalOf l i := by
  simp [totalOf]

@[simp] theorem totalOf_nil (i : ℕ) : totalOf [] i = 0 := rfl

/-- The frame number is the number of accepted requests, and each request number is the one without
a limit or within what has been ordered. -/
structure Bounded (s : Device) : Prop where
  frames : s.nextAccepted ≤ s.log.submitted.length
  numbers : ∀ i, s.requestThread.requestNumber i = requestNumberUmlimit ∨
    |s.requestThread.requestNumber i| ≤ totalOf s.log.consumed i

theorem requestChange_bounded (n : ℕ) (msg : CameraRequestMsg) {requestNumber : ℕ → ℤ} {i : ℕ}
    {total : ℤ} (h : requestNumber i = requestNumberUmlimit ∨ |requestNumber i| ≤ total)
    (htotal : 0 ≤ total) :
    requestChange n msg requestNumber i = requestNumberUmlimit ∨
      |requestChange n msg requestNumber i| ≤ total + |msg.requestNumber i| := by
  have hmsg := abs_nonneg (msg.requestNumber i)
  unfold requestChange
  split_ifs with hbit hlimit
  · right
    omega
  · right
    have hadd := abs_add_le (requestNumber i) (msg.requestNumber i)
    have hold := h.resolve_left hlimit
    omega
  · exact h.imp_right fun hold => by omega

/-- A stream starts without a limit or without a request. -/
theorem runRequestNumber_eq (tc : TestCase) (c : QCamxConfig) (i : ℕ) :
    runRequestNumber tc c i = requestNumberUmlimit ∨ runRequestNumber tc c i = 0 := by
  have hzero : ∀ i, (0 : ℕ → ℤ) i = requestNumberUmlimit ∨ (0 : ℕ → ℤ) i = 0 := fun _ => Or.inr rfl
  have hupdate {f : ℕ → ℤ} (h : ∀ i, f i = requestNumberUmlimit ∨ f i = 0) (j : ℕ) {x : ℤ}
      (hx : x = requestNumberUmlimit ∨ x = 0) (i : ℕ) :
      Function.update f j x i = requestNumberUmlimit ∨ Function.update f j x i = 0 := by
    by_cases hij : i = j
    · subst hij
      rwa [Function.update_self]
    · rw [Function.update_of_ne hij]
      exact h i
  cases tc with
  | previewOnly | videoOnly => exact hupdate hzero 0 (Or.inl rfl) i
  | previewVideo | hal3TestVideo =>
      exact hupdate (hupdate hzero 1 (Or.inl rfl)) 0 (Or.inl rfl) i
  | previewSnapshot =>
      refine hupdate (hupdate hzero 0 (Or.inl rfl)) 1 ?_ i
      split_ifs
      · exact Or.inr rfl
      · exact Or.inl rfl
  | hal3TestDepth =>
      rw [runRequestNumber]
      split_ifs
      · exact hupdate (hupdate hzero 0 (Or.inl rfl)) 1 (Or.inl rfl) i
      · exact hupdate hzero 0 (Or.inl rfl) i

namespace Bounded

theorem init (cfg : Setup) : Bounded cfg.init where
  frames := Nat.le_refl 0
  numbers i := by
    rcases runRequestNumber_eq cfg.testCase cfg.config i with hlimit | hzero
    · exact Or.inl hlimit
    · right
      show |runRequestNumber cfg.testCase cfg.config i| ≤ 0
      rw [hzero, abs_zero]

theorem congr (h : Bounded s) (hpc : s'.requestPc = s.requestPc)
    (hframe : s'.requestThread.frameNumber = s.requestThread.frameNumber)
    (hnumber : s'.requestThread.requestNumber = s.requestThread.requestNumber)
    (hsub : s'.log.submitted = s.log.submitted) (hlog : s'.log.consumed = s.log.consumed) :
    Bounded s' where
  frames := by rw [nextAccepted_congr hpc hframe, hsub]; exact h.frames
  numbers := by rw [hnumber, hlog]; exact h.numbers

theorem request {a : RequestAct} (h : Bounded s) (hi : Iteration cfg s.requestThread s.requestPc)
    (hs : RequestStep cfg s a s') : Bounded s' := by
  obtain ⟨hframes, hnumbers⟩ := h
  cases hs with
  | @change msg queue hpc hstop hq htype hfits =>
      refine ⟨by simpa [nextAccepted, hpc] using hframes, fun i => ?_⟩
      simp only [totalOf_append, totalOf_cons, totalOf_nil, add_zero]
      exact requestChange_bounded _ _ (hnumbers i) (totalOf_nonneg _ _)
  | @submit selected buffers accepted hpc hfreed =>
      refine ⟨?_, hnumbers⟩
      simp only [nextAccepted, hpc] at hframes
      cases accepted <;>
        simp only [nextAccepted, List.length_append, List.length_singleton] <;> omega
  | @decrement selected hpc =>
      simp only [hpc, Iteration] at hi
      refine ⟨by simpa [nextAccepted, hpc] using hframes, fun i => ?_⟩
      have hle := (hi i).1
      simp only [reduceRequest]
      split_ifs with hpos
      · right
        have hold := (hnumbers i).resolve_left (by rw [requestNumberUmlimit]; omega)
        rw [abs_of_pos hpos.2] at hold
        rw [abs_of_nonneg (by omega)]
        omega
      · exact hnumbers i
  | exit hpc | otherMessage hpc | start hpc | idle hpc | wakeMessage hpc | limitWait hpc
  | limitPass hpc | limitTimeout hpc | limitWake hpc | assembled hpc | skip hpc | getBuffer _ hpc
  | settings hpc | insert hpc | returnAccepted hpc | returnRejected hpc | unlock _ hpc
  | rejectReturn hpc | rejectRemove hpc | rejectAbsent hpc =>
      refine ⟨?_, hnumbers⟩
      simpa [nextAccepted, hpc, takeSettings, returnBuffer] using hframes
  | stopMessage | changeOverflow | bufferWait | bufferWakeEmpty | submitFreed
  | returnOverflow | unlockFreed | rejectFreed | rejectUnknown => exact ⟨hframes, hnumbers⟩

theorem step {a : Act} (h : Bounded s) (hi : Iteration cfg s.requestThread s.requestPc)
    (hs : Step cfg s a s') : Bounded s' := by
  cases hs with
  | request hs => exact h.request hi hs
  | hal hs =>
      have hf := hs.frame
      exact h.congr hf.requestPc (by rw [hf.requestThread]) (by rw [hf.requestThread]) hf.submitted
        hf.consumed
  | result hs =>
      have hf := hs.frame
      exact h.congr hf.requestPc (by rw [hf.requestThread]) (by rw [hf.requestThread]) hf.submitted
        hf.consumed
  | encoderReturn => exact h.congr rfl rfl rfl rfl rfl
  | stop hs =>
      have hf := hs.frame
      exact h.congr hf.requestPc hf.frameNumber hf.requestNumber (by rw [hf.log]) (by rw [hf.log])
  | user hs =>
      have hf := hs.frame
      exact h.congr hf.requestPc hf.frameNumber hf.requestNumber (by rw [hf.log]) (by rw [hf.log])

end Bounded

theorem bounded {ok : Act → Device → Prop} (h : Run cfg ok s) : Bounded s :=
  h.invariant (.init cfg) fun _ _ _ hr hi _ _ hs => hi.step (selectionInv hr).iteration hs

/-- **An overflow needs `2 ^ 31` requests**, submitted or ordered. -/
theorem overflow_of_fault {ok : Act → Device → Prop} (h : Run cfg ok s)
    (hfault : s.fault = some .signedOverflow) :
    2 ^ 31 ≤ s.log.submitted.length ∨ ∃ i, 2 ^ 31 ≤ s.orderedTotal i := by
  revert hfault
  refine h.invariant (P := fun s => s.fault = some .signedOverflow →
    2 ^ 31 ≤ s.log.submitted.length ∨ ∃ i, 2 ^ 31 ≤ s.orderedTotal i) (by simp [Setup.init])
    fun s a s' hr _ hnone _ hs hfault => ?_
  have hb := bounded hr
  have hne : s.fault ≠ some .signedOverflow := by simp [hnone]
  cases hs with
  | request hs =>
      cases hs with
      | @changeOverflow msg queue hpc hstop hq htype hfits =>
          right
          simp only [not_forall] at hfits
          obtain ⟨i, -, hfits⟩ := hfits
          have hchange := requestChange_bounded s.camera3Streams.length msg (hb.numbers i)
            (totalOf_nonneg _ i)
          have hrest := totalOf_nonneg queue i
          refine ⟨i, ?_⟩
          show 2 ^ 31 ≤ s.orderedTotal i
          rw [orderedTotal, hq, totalOf_append, totalOf_cons]
          rcases hchange with hlimit | hle
          · rw [hlimit] at hfits
            exact absurd (by decide) hfits
          · obtain ⟨hlow, hhigh⟩ := abs_le.mp hle
            by_contra hlt
            exact hfits ⟨by omega, by omega⟩
      | @returnOverflow selected buffers hpc hfits =>
          left
          have hframes := hb.frames
          simp only [nextAccepted, hpc] at hframes
          rw [FitsInt] at hfits
          show 2 ^ 31 ≤ s.log.submitted.length
          omega
      | bufferWakeEmpty | submitFreed | unlockFreed | rejectFreed | rejectUnknown => cases hfault
      | _ => exact absurd hfault hne
  | hal hs =>
      cases hs with
      | lockNull | pushNull | unlockNull => cases hfault
      | _ => exact absurd hfault hne
  | result hs =>
      cases hs with
      | wakeEmpty | callbackUnknown | giveBackUnknown => cases hfault
      | @callback msg b rest effects caseState hpc heff =>
          obtain ⟨managers, encoder, he⟩ := foldl_applyEffect effects s
          rw [he] at hfault
          exact absurd hfault hne
      | _ => exact absurd hfault hne
  | encoderReturn => exact absurd hfault hne
  | stop hs => exact absurd (hs.frame.fault ▸ hfault) hne
  | user hs => exact absurd (hs.frame.fault ▸ hfault) hne

/-! ## No fault -/

/-- What the program relies on: the HAL keeps its contract, completes no frame while the request
thread uses its record, and has returned every buffer where `stop_streams` gives up; no wait returns
for no reason. -/
structure WellBehaved (a : Act) (s : Device) : Prop where
  hal : HalContract a s
  completes : CompletesAfterAccess a s
  clears : ForcesClear a s → NoBufferOutstanding s
  wakes : NoSpuriousWake a s

instance (a : Act) (s : Device) : Decidable (WellBehaved a s) :=
  decidable_of_iff (HalContract a s ∧ CompletesAfterAccess a s ∧
      (ForcesClear a s → NoBufferOutstanding s) ∧ NoSpuriousWake a s)
    ⟨fun h => ⟨h.1, h.2.1, h.2.2.1, h.2.2.2⟩, fun h => ⟨h.hal, h.completes, h.clears, h.wakes⟩⟩

theorem resultWaitSignalled_of_noSpuriousWake {a : Act} (h : NoSpuriousWake a s) :
    ResultWaitSignalled a s := by
  cases a with
  | result a => cases a <;> exact h
  | _ => trivial

theorem overflow_of_wellBehaved (h : Run cfg WellBehaved s) {f : Fault} (hf : s.fault = some f) :
    2 ^ 31 ≤ s.log.submitted.length ∨ ∃ i, 2 ^ 31 ≤ s.orderedTotal i := by
  have hknown : ∀ {s}, Run cfg WellBehaved s → KnownStreams cfg s :=
    fun hr => knownStreams hr fun _ _ hok => hok.hal
  cases f with
  | signedOverflow => exact overflow_of_fault h hf
  | useAfterFree =>
      refine (h.fault_ne (fun s a s' hr _ _ hfails => ?_) hf).elim
      cases hfails with
      | useAfterFree hheld hn =>
          exact (freedOlder (hr.mono fun _ _ _ _ hok _ => hok.completes)).not_mem_freed hheld hn
  | emptyFreeList =>
      refine (h.fault_ne (fun s a s' hr hok hs hfails => ?_) hf).elim
      have hsignalled := buffersSignalled hr fun _ _ hok => hok.wakes
      cases hfails with
      | emptyFreeList hpc hfree => exact hs.buffersFree_ne_nil hsignalled hok.wakes hpc hfree
  | emptyResultQueue =>
      refine (fault_ne_emptyResultQueue h (fun s a s' hr hok hs => ?_) hf).elim
      exact wakeFindsMessage_of_signalled
        (fun a s hok => resultWaitSignalled_of_noSpuriousWake hok.wakes) hr hok hs
  | nullResultThread =>
      refine (h.fault_ne (fun s a s' hr _ _ hfails => ?_) hf).elim
      cases hfails with
      | nullResultThread hnull hcall =>
          have hteardown := teardownInv (hr.mono fun _ _ _ _ hok _ => ⟨hok.hal, hok.clears⟩)
          have hstage := (stages hr).null.mp hnull
          obtain ⟨-, hentering, hholder⟩ := hteardown.outstanding (by omega)
          exact hcall.elim (fun hne => hne hentering) fun hne => hne hholder
  | unknownStream =>
      refine (h.invariant (P := fun s => s.fault ≠ some .unknownStream) (by simp [Setup.init])
        (fun s a s' hr _ hnone _ hs => hs.fault_ne_unknownStream (hknown hr) (stages hr) hnone)
        hf).elim

/-- **A run of a well-behaved environment has no fault**, as long as less than `2 ^ 31` requests are
submitted, and ordered of a stream. -/
theorem no_fault (h : Run cfg WellBehaved s) (hsubmitted : s.log.submitted.length < 2 ^ 31)
    (hordered : ∀ i, s.orderedTotal i < 2 ^ 31) : s.fault = none := by
  by_contra hfault
  obtain ⟨f, hf⟩ := Option.ne_none_iff_exists'.mp hfault
  rcases overflow_of_wellBehaved h hf with hle | ⟨i, hle⟩
  · omega
  · exact absurd hle (not_le.mpr (hordered i))

/-- From the first request to the end of `stop_streams`. -/
theorem no_fault_whole_run :
    ∃ s, Run (previewSetup 2) WellBehaved s ∧ s.stopPc = .stopped ∧
      s.log.delivered = [resultZero] ∧ s.fault = none := by
  obtain ⟨s, hr, hpc, hdelivered, hsubmitted, hconsumed, hqueue⟩ :
      ∃ s, Run (previewSetup 2) WellBehaved s ∧ s.stopPc = .stopped ∧
        s.log.delivered = [resultZero] ∧ s.log.submitted.length = 1 ∧
        s.log.consumed.isEmpty = true ∧ s.requestThread.messageQueue.isEmpty = true :=
    Run.exists_of_exec
      (acceptRequest ++ deliverResult resultZero ++
        [.result .take, .result .callback, .result .callback, .result .giveBack,
          .result .giveBack] ++ stopThreads ++ [.drain, .delete].map .stop)
      (by decide +kernel)
  refine ⟨s, hr, hpc, hdelivered, no_fault hr (by omega) fun i => ?_⟩
  rw [orderedTotal, List.isEmpty_iff.mp hconsumed, List.isEmpty_iff.mp hqueue, List.append_nil,
    totalOf_nil]
  norm_num

end Device

end QCamx

import QCamx.Console.LifeCycle

/-!
# From preview to video

`v` parses its options into the configuration of the running case and ignores the result; if the
case is in another mode, it goes on as `s` does.

* `AllOrNothing`: a video case takes the place of a preview case, or nothing is changed;
* `Switchable`: the options are parsed and name the camera of a preview case, or the case that the
  line falls through to ignores the command;
* **`allOrNothing_iff`**: `v` is all or nothing exactly then;
* `switches_on_failed_parse`: options that are rejected stop the preview all the same.
-/

namespace QCamx

open Guarded Outcome

namespace Console

variable {enc : Bool} {ok : Act → Console → Prop} {order : CString} {env : Env} {w w' : Console}
  {k : ℕ} {c c' : Case} {i : ℤ} {config : Config}

/-! ## The property -/

/-- The current camera runs a preview case, and the options are accepted. -/
structure Requested (order : CString) (w : Console) (k : ℕ) (c : Case) (config : Config) :
    Prop where
  slot : Holds w w.currentCameraId.toInt k c
  previewOnly : c.setup.testCase = .previewOnly
  mode : c.config.testMode = some .preview
  parse : parseCommandlineAdd (param order) c.config = .ok (0, config)

/-- A step while `main` waits. -/
def Waits (a : Act) (_ : Console) : Prop := ∀ env, a ≠ .resume env

/-- In `w'` the case `new` has taken slot `i` from case `k`, which is gone. -/
structure TakenOver (w : Console) (i : ℤ) (k : ℕ) (new : Case) (w' : Console) : Prop where
  slots : w'.sHAL3Test = Function.update w.sHAL3Test i (some w.cases.length)
  started : w'.cases[w.cases.length]? = some new
  deleted : ∃ c, w'.cases[k]? = some c ∧ c.deleted = true
  prompt : w'.pc = .prompt

/-- `w'` waits for case `k` to stop. Whatever happens meanwhile, a video case takes its place. -/
def Switches (enc : Bool) (w : Console) (k : ℕ) (config : Config) (w' : Console) : Prop :=
  w'.pc = .stopping k (.switch w.currentCameraId.toInt) ∧
    ∀ w₁ env new, Reachable (step enc) Waits w' w₁ →
      startCase enc .hal3TestVideo config env.start = .ok new →
        ∃ w₂, resume enc env w₁ k (.switch w.currentCameraId.toInt) = .ok w₂ ∧
          TakenOver w w.currentCameraId.toInt k new w₂

/-- The command switches a running preview to video, or leaves everything as it was. -/
def AllOrNothing (enc : Bool) (order : CString) (env : Env) (w : Console) : Prop :=
  (∃ k c config w', Requested order w k c config ∧ runCommand enc order env w = .ok w' ∧
      Switches enc w k config w') ∨
    (¬ ∃ k c config, Requested order w k c config) ∧ runCommand enc order env w = .ok w

/-! ## The condition -/

/-- The `request_capture` of the case has no effect. -/
def Case.IgnoresSnapshot (c : Case) (num : ℤ) : Prop :=
  match c.setup.testCase with
  | .previewSnapshot =>
      c.setup.config.snapshotFormat ≠ halPixelFormatBlob ∧ c.device.caseState.snapshotNum = num
  | .hal3TestVideo => False
  | .previewOnly | .previewVideo | .videoOnly | .hal3TestDepth => True

/-- What `v` does not check. -/
def Switchable (order : CString) (w : Console) : Prop :=
  ∃ k c, Holds w w.currentCameraId.toInt k c ∧
    (c.config.testMode = some .preview →
      c.setup.testCase = .previewOnly ∧
        ∃ config, parseCommandlineAdd (param order) c.config = .ok (0, config) ∧
          config.cameraId = w.currentCameraId) ∧
    (c.config.testMode ≠ some .preview →
      ∃ k' c', Holds w (requestCameraId order w) k' c' ∧ c'.IgnoresSnapshot (scanNum (param order)))

/-! ## One command -/

theorem Holds.unique {k' : ℕ} (h : Holds w i k c) (h' : Holds w i k' c') : k = k' ∧ c = c' := by
  have hk : k = k' := Option.some.inj (h.slot.symm.trans h'.slot)
  subst hk
  exact ⟨rfl, Option.some.inj (h.case.symm.trans h'.case)⟩

theorem setCase_eq_self_iff (hcase : w.cases[k]? = some c) : w.setCase k c' = w ↔ c' = c := by
  constructor
  · intro h
    have hk : (w.setCase k c').cases[k]? = some c := by rw [h, hcase]
    rcases (setCase_eq_some_iff hcase).mp hk with ⟨_, heq⟩ | ⟨hne, _⟩
    · exact heq
    · exact absurd rfl hne
  · rintro rfl
    have ⟨hlt, hget⟩ := List.getElem?_eq_some_iff.mp hcase
    rw [setCase, ← hget, List.set_getElem_self]

theorem not_skipped_of_video (h : command order = .video) : ¬ Skipped order := by
  have hhead : ∀ {l : CString}, ops order = l → (l.head?.map commandOf).getD .wrong = .video := by
    rintro l rfl
    exact h
  rintro (rfl | hcomment | hsleep)
  · cases h
  · cases order with
    | nil => cases hcomment
    | cons a l =>
        obtain rfl := Option.some.inj hcomment
        cases h
  · exact absurd (hhead hsleep) (by decide)

theorem runCommand_video (h : command order = .video) :
    runCommand enc order env w = video order w := by
  rw [runCommand, if_neg (not_skipped_of_video h), h]

theorem video_of_preview {result : ℤ} (hslot : Holds w w.currentCameraId.toInt k c)
    (hmode : c.config.testMode = some .preview)
    (hparse : parseCommandlineAdd (param order) c.config = .ok (result, config)) :
    video order w =
      w.beginStop k { c with config := config } (.switch w.currentCameraId.toInt) := by
  rw [video, caseAt_eq_ok_iff.mpr hslot]
  show (if c.config.testMode = some .preview then _ else _) = _
  rw [if_pos hmode, parseAdd, hparse]
  rfl

theorem video_of_not_preview (hslot : Holds w w.currentCameraId.toInt k c)
    (hmode : c.config.testMode ≠ some .preview) : video order w = snapshot order w false := by
  rw [video, caseAt_eq_ok_iff.mpr hslot]
  exact if_neg hmode

theorem Case.user_eq_self_iff {a : UserAct} :
    c.user a = .ok c ↔ c.device.user c.setup a = some c.device := by
  rw [Case.user]
  cases c.device.user c.setup a with
  | none => simp
  | some d =>
      simp only [Except.ok.injEq, Option.some.injEq]
      exact ⟨fun h => congrArg Case.device h, fun h => by rw [h]⟩

theorem Case.snapshot_eq_self_iff {num : ℤ} (hrun : c.device.stopPc = .running) :
    c.snapshot num false = .ok c ↔ c.IgnoresSnapshot num := by
  have hsnapshot : c.snapshot num false = c.user (.requestCapture num) := by
    rw [Case.snapshot]
    cases c.user (.requestCapture num) <;> rfl
  have hpost : ∀ (s : Device) msg,
      s.requestThread.messageQueue = c.device.requestThread.messageQueue →
        s.postRequest msg ≠ c.device := by
    intro s msg hqueue heq
    have hlength := congrArg (fun d : Device => d.requestThread.messageQueue.length) heq
    simp [Device.postRequest, hqueue] at hlength
  have hrunning : ¬ c.device.stopPc ≠ .running := not_not.mpr hrun
  rw [hsnapshot, Case.user_eq_self_iff, Device.user, if_neg hrunning, Case.IgnoresSnapshot]
  cases htc : c.setup.testCase with
  | previewOnly | previewVideo | videoOnly | hal3TestDepth => simp [requestCapture]
  | hal3TestVideo =>
      refine iff_of_false (fun h => ?_) not_false
      simp only [requestCapture, reduceCtorEq, if_false] at h
      split_ifs at h <;> exact hpost _ _ rfl (Option.some.inj h)
  | previewSnapshot =>
      by_cases hformat : c.setup.config.snapshotFormat = halPixelFormatBlob
      · refine iff_of_false (fun h => ?_) fun h => h.1 hformat
        simp only [requestCapture, if_pos hformat, if_true] at h
        refine hpost _ _ ?_ (Option.some.inj h)
        rfl
      · simp only [requestCapture, if_neg hformat, if_true, Option.some.injEq]
        refine ⟨fun h => ⟨hformat, ?_⟩, fun h => by rw [← h.2]⟩
        rw [← congrArg (fun d : Device => d.caseState.snapshotNum) h]

theorem SlotsLive.runs (hl : SlotsLive w) (hpc : ∀ k next, w.pc ≠ .stopping k next)
    (hslot : Holds w i k c) : c.device.stopPc = .running := by
  have ⟨c', hslot', hrun⟩ := hl.running hpc hslot.slot
  rw [(hslot.unique hslot').2]
  exact hrun

theorem snapshot_eq_self_iff_exists (hl : SlotsLive w) (hpc : ∀ k next, w.pc ≠ .stopping k next) :
    snapshot order w false = .ok w ↔
      ∃ k c, Holds w (requestCameraId order w) k c ∧ c.IgnoresSnapshot (scanNum (param order)) := by
  rw [snapshot, bind_eq_ok_iff]
  constructor
  · rintro ⟨⟨k, c⟩, hslot, hrest⟩
    rw [caseAt_eq_ok_iff] at hslot
    obtain ⟨c', hsnapshot, heq⟩ := bind_eq_ok_iff.mp hrest
    rw [(setCase_eq_self_iff hslot.case).mp (Except.ok.inj heq)] at hsnapshot
    exact ⟨k, c, hslot, (Case.snapshot_eq_self_iff (hl.runs hpc hslot)).mp hsnapshot⟩
  · rintro ⟨k, c, hslot, hignores⟩
    refine ⟨(k, c), caseAt_eq_ok_iff.mpr hslot, bind_eq_ok_iff.mpr ⟨c, ?_, ?_⟩⟩
    · exact (Case.snapshot_eq_self_iff (hl.runs hpc hslot)).mpr hignores
    · exact congrArg Except.ok ((setCase_eq_self_iff hslot.case).mpr rfl)

theorem exists_begin (cfg : Setup) {d : Device} (h : d.stopPc = .running) :
    ∃ d', d.stop cfg .begin = some d' :=
  ⟨_, if_pos h⟩

/-! ## The rest of the command -/

/-- What `main` finds when the preview case has stopped. -/
structure Awaited (w : Console) (i : ℤ) (k : ℕ) (config : Config) (w₁ : Console) : Prop where
  pc : w₁.pc = .stopping k (.switch i)
  slots : w₁.sHAL3Test = w.sHAL3Test
  length : w₁.cases.length = w.cases.length
  case : ∃ c, w₁.cases[k]? = some c ∧ c.config = config ∧ c.deleted = false

namespace Awaited

variable {w₁ w₂ : Console}

theorem begin (hslot : Holds w i k c) {d : Device} :
    Awaited w i k config (w.stopping k { c with config := config } d (.switch i)) where
  pc := rfl
  slots := rfl
  length := List.length_set
  case := ⟨_, (setCase_eq_some_iff hslot.case).mpr (.inl ⟨rfl, rfl⟩), rfl, hslot.live⟩

theorem setDevice (h : Awaited w i k config w₁) {j : ℕ} {d : Device}
    (hcase : w₁.cases[j]? = some c) :
    Awaited w i k config (w₁.setCase j { c with device := d }) where
  pc := h.pc
  slots := h.slots
  length := List.length_set.trans h.length
  case := by
    have ⟨c₀, hc₀, hconfig, hlive⟩ := h.case
    by_cases hjk : j = k
    · subst hjk
      obtain rfl := Option.some.inj (hcase.symm.trans hc₀)
      exact ⟨_, (setCase_eq_some_iff hcase).mpr (.inl ⟨rfl, rfl⟩), hconfig, hlive⟩
    · exact ⟨c₀, (setCase_eq_some_iff hcase).mpr (.inr ⟨hjk, hc₀⟩), hconfig, hlive⟩

theorem step {a : Act} (h : Awaited w i k config w₁) (hw : Waits a w₁) (hs : Step enc w₁ a w₂) :
    Awaited w i k config w₂ := by
  have hpc := h.pc
  cases hs with
  | fault hfault => exact ⟨h.pc, h.slots, h.length, h.case⟩
  | stop hpc' hcase hd | thread hthread hcase hd => exact h.setDevice hcase
  | command hpc' hs | endOfInput hpc' | emptySlot hpc' hrange hslot | shutdownStop hpc' hslot hd
  | returned hpc' hge => simp [hpc'] at hpc
  | @deleted env k i c hpc' hcase hstop hopened hrange => exact absurd rfl (hw env)
  | @switched env k i c new hpc' hcase hstop hstart hrange hnew => exact absurd rfl (hw env)
  | @shutDown env k i c hpc' hcase hstop hopened hrange => exact absurd rfl (hw env)

theorem run (h : Awaited w i k config w₁) (hr : Reachable (Console.step enc) Waits w₁ w₂) :
    Awaited w i k config w₂ :=
  Reachable.invariant hr h fun _ _ _ _ hi hw hs => hi.step hw (Step.of_eq hs).2

theorem resume (h : Awaited w i k config w₁) (hrange : InRange i) (hid : config.cameraId.toInt = i)
    {new : Case} (hstart : startCase enc .hal3TestVideo config env.start = .ok new) :
    ∃ w₂, Console.resume enc env w₁ k (.switch i) = .ok w₂ ∧ TakenOver w i k new w₂ := by
  have ⟨c, hcase, hconfig, hlive⟩ := h.case
  have hnew : new.config = config := by
    obtain ⟨configured, rfl, _⟩ := startCase_eq_ok hstart
    rfl
  have hswitch : switchToVideo enc env w₁ k i =
      .ok ((w₁.removed k i (c.gone false)).registered new) :=
    switchToVideo_eq_ok_iff.mpr
      ⟨c, new, hcase, hlive, hrange, hconfig ▸ hstart, by rw [hnew, hid]; exact hrange, rfl⟩
  refine ⟨_, map_eq_ok_iff.mpr ⟨_, hswitch, rfl⟩, ?_, ?_, ?_, rfl⟩
  · have hlength : (w₁.cases.set k (c.gone false)).length = w.cases.length := by
      rw [List.length_set, h.length]
    show Function.update (Function.update w₁.sHAL3Test i none) new.config.cameraId.toInt
      (some (w₁.cases.set k (c.gone false)).length) = _
    rw [hnew, hid, hlength, h.slots, Function.update_idem]
  · refine registered_eq_some_iff.mpr (.inr ⟨?_, rfl⟩)
    show _ = (w₁.cases.set k (c.gone false)).length
    rw [List.length_set, h.length]
  · exact ⟨c.gone false,
      registered_eq_some_iff.mpr (.inl ((setCase_eq_some_iff hcase).mpr (.inl ⟨rfl, rfl⟩))), rfl⟩

end Awaited

/-- A start whose first stream check fails. -/
def failedStart : Start where
  characteristics := ⟨none, [], 0⟩
  allocated := fun _ => []
  stream_injective := Function.injective_id
  nodup_allocated := fun _ => List.nodup_nil

theorem exists_startCase_failedStart (enc : Bool) (config : Config) :
    ∃ new, startCase enc .hal3TestVideo config failedStart = .ok new ∧ new.config = config :=
  ⟨newCase enc .hal3TestVideo config failedStart none, rfl, rfl⟩

/-- **What is stopped is replaced**, if the options name the camera of the case. -/
theorem switches_iff {d : Device} (hl : SlotsLive w) (hslot : Holds w w.currentCameraId.toInt k c) :
    Switches enc w k config
        (w.stopping k { c with config := config } d (.switch w.currentCameraId.toInt)) ↔
      config.cameraId = w.currentCameraId := by
  constructor
  · rintro ⟨_, h⟩
    obtain ⟨new, hstart, hnew⟩ := exists_startCase_failedStart enc config
    obtain ⟨w₂, hresume, htaken⟩ :=
      h _ ⟨failedStart, vgaMetaSetup, fun _ => 0⟩ new Reachable.refl hstart
    obtain ⟨w₁, hswitch, hw₂⟩ := map_eq_ok_iff.mp hresume
    obtain ⟨c₁, new₁, hcase, _, _, hstart₁, _, hw₁⟩ := switchToVideo_eq_ok_iff.mp hswitch
    have hconfig : c₁.config = config := by
      rcases (setCase_eq_some_iff hslot.case).mp hcase with ⟨_, rfl⟩ | ⟨hne, _⟩
      · rfl
      · exact absurd rfl hne
    have hsame : new₁ = new := by
      rw [hconfig, hstart] at hstart₁
      exact (Except.ok.inj hstart₁).symm
    -- the new case is in the slot that the options name, and a slot holds it only if it is ours
    have hcamera : w₂.sHAL3Test config.cameraId.toInt = some w.cases.length := by
      rw [← hw₂, ← hw₁, hsame, ← hnew]
      refine stored_eq_some_iff.mpr (.inl ⟨rfl, ?_⟩)
      simp [setCase, stopping, removed]
    rw [htaken.slots] at hcamera
    rcases stored_eq_some_iff.mp hcamera with ⟨hid, _⟩ | ⟨_, hold⟩
    · exact Int32.toInt_inj.mp hid
    · obtain ⟨c₀, hc₀, _⟩ := hl.live hold
      have hlt := (List.getElem?_eq_some_iff.mp hc₀).1
      omega
  · intro hid
    refine ⟨rfl, fun w₁ env new hr hstart => ?_⟩
    exact ((Awaited.begin hslot).run hr).resume hslot.range (congrArg Int32.toInt hid) hstart

/-- A line that switches the case of `previewLine` to video. -/
def videoLine : CString :=
  "v:id=0,psize=640x480,pformat=yuv420,vsize=640x480,ssize=640x480,sformat=jpeg".toList

/-- A line whose options are rejected: there is no size of a video. -/
def rejectedLine : CString := "v:id=0,ssize=640x480".toList

end Console

end QCamx

import QCamx.Config.Defined
import QCamx.Console.Addressing
import QCamx.Device.Progress

/-!
# The program as a whole

What the console relies on, what every case relies on, and what follows when all of it holds: no
thread of the program comes to undefined behaviour, and `main` is never stuck.

* `Careful`: every line is addressed and parsed, every start gets to its calls, and the HAL and the
  waits of every case are well-behaved;
* `runCommand_ofInput`, `resume_ofInput`: what the parse of a line and a start can go wrong at;
* **`defined`**: nothing undefined happens in a careful run, in `main` or in a case;
* `Served`: what keeps the request threads of the cases in buffers;
* **`main_goes_on`**: while `main` stops a case or shuts down, some thread of the program can go on.
-/

namespace QCamx

open Guarded Outcome CString Streams

namespace Console

variable {enc : Bool} {ok : Act → Console → Prop} {order : CString} {env : Env} {w w' : Console}
  {k : ℕ} {c c' : Case} {i : ℤ} {f : Fault}

/-! ## What the program relies on -/

theorem addLoop_isSome_iff (c : Config) (ss : List CString) :
    (addLoop ss { config := c }).toOption.isSome = true ↔ AddReads false ss := by
  have hstart : VariablesSet false { config := c } := ⟨rfl, rfl⟩
  rw [← addLoop_defined_iff hstart rfl]
  cases addLoop ss { config := c } <;> simp [Except.toOption]

instance (ss : List CString) : Decidable (AddReads false ss) :=
  decidable_of_iff _ (addLoop_isSome_iff {} ss)

instance (table : List Int32) : Decidable (SensorModesPresent table) :=
  decidable_of_iff _ (@selectOperateMode_isSome_iff table 0 0 0 0)

/-- The case of the current camera is one that `v` stops. -/
def Previewing (w : Console) : Prop :=
  (w.caseAt w.currentCameraId.toInt).toOption.any
    (fun p => p.2.config.testMode = some .preview) = true

instance (w : Console) : Decidable (Previewing w) := inferInstanceAs (Decidable (_ = true))

/-- The parsers are defined on the options of a line. -/
def Parses (a : Act) (w : Console) : Prop :=
  match a with
  | .command order env =>
      match command order with
      | .add => AddReads false (suboptions (param order))
      | .video => Previewing w → AddReads false (suboptions (param order))
      | .update | .updateSnapshot => MetaReads env.metaSetup (suboptions (param order))
      | .metaDump => ∀ s ∈ suboptions (param order), DumpReads s
      | _ => True
  | _ => True

instance (a : Act) (w : Console) : Decidable (Parses a w) := by
  unfold Parses
  split <;> (try split) <;> infer_instance

/-- A start opens its camera and finds the table that it selects a sensor mode from. -/
def StartsWell (a : Act) (w : Console) : Prop :=
  ∀ p ∈ w.starts a, p.2.2.opens = true ∧
    (SelectsMode p.2.1 p.1 → SensorModesPresent p.2.2.characteristics.sensorModeTable)

instance (c : Config) (tc : TestCase) : Decidable (SelectsMode c tc) :=
  inferInstanceAs (Decidable (_ ∧ _))

instance (a : Act) (w : Console) : Decidable (StartsWell a w) := by
  unfold StartsWell; infer_instance

/-- What the program relies on. -/
structure Careful (a : Act) (w : Console) : Prop where
  addressed : Addressed a w
  parses : Parses a w
  starts : StartsWell a w
  devices : Devices (fun _ => Device.WellBehaved) a w

instance (a : Act) (w : Console) : Decidable (Careful a w) :=
  decidable_of_iff
    (Addressed a w ∧ Parses a w ∧ StartsWell a w ∧ Devices (fun _ => Device.WellBehaved) a w)
    ⟨fun h => ⟨h.1, h.2.1, h.2.2.1, h.2.2.2⟩, fun h => ⟨h.addressed, h.parses, h.starts, h.devices⟩⟩

/-! ## Faults of the input -/

/-- A fault that no access causes, but a parse or a start. -/
def Fault.OfInput (f : Fault) : Prop := ¬ f.OfAccess

theorem slot_ofInput : Avoids Fault.OfInput (w.slot i) := by
  rw [slot]
  split_ifs
  · exact .ok _
  · exact .error (not_not_intro trivial)

theorem setSlot_ofInput {p : Option ℕ} : Avoids Fault.OfInput (w.setSlot i p) := by
  rw [setSlot]
  split_ifs
  · exact .ok _
  · exact .error (not_not_intro trivial)

theorem deref_ofInput : Avoids Fault.OfInput (w.deref k) := by
  rw [deref]
  split
  · split_ifs
    · exact .error (not_not_intro trivial)
    · exact .ok _
  · exact .error (not_not_intro trivial)

theorem caseAt_ofInput : Avoids Fault.OfInput (w.caseAt i) := by
  refine .bind slot_ofInput fun p _ => ?_
  cases p with
  | none => exact .error (not_not_intro trivial)
  | some k => exact .bind deref_ofInput fun c _ => .ok _

theorem user_ofInput {a : UserAct} : Avoids Fault.OfInput (c.user a) := by
  rw [Case.user]
  split
  · exact .error (not_not_intro trivial)
  · exact .ok _

theorem updateMeta_ofInput (edits : List (ℕ × List ℤ)) :
    Avoids Fault.OfInput (c.updateMeta edits) := by
  refine .bind ?_ fun c _ => user_ofInput
  generalize c = c₁
  induction edits generalizing c₁ with
  | nil => exact .ok _
  | cons e edits ih =>
      rw [List.foldlM_cons]
      exact .bind user_ofInput fun c₂ _ => ih c₂

theorem snapshot_ofInput {num : ℤ} {dump : Bool} : Avoids Fault.OfInput (c.snapshot num dump) := by
  refine .bind user_ofInput fun c _ => ?_
  cases dump with
  | true => exact user_ofInput
  | false => exact .ok _

theorem beginStop_ofInput {next : Next} : Avoids Fault.OfInput (w.beginStop k c next) := by
  rw [beginStop]
  split
  · exact .error (not_not_intro trivial)
  · exact .ok _

theorem parseAdd_ofInput {c : Config} (h : AddReads false (suboptions (param order))) :
    Avoids Fault.OfInput (parseAdd order c) := by
  have hstart : VariablesSet false { config := c } := ⟨rfl, rfl⟩
  obtain ⟨st, hst⟩ := (addLoop_defined_iff hstart rfl).mpr h
  rw [parseAdd, parseCommandlineAdd, hst]
  exact .ok _

theorem parseMetaUpdate_ofInput (h : MetaReads env.metaSetup (suboptions (param order))) :
    Avoids Fault.OfInput (parseMetaUpdate order env) := by
  have hnone := (metaLoop_defined_iff _ _).mpr h
  rw [parseMetaUpdate, parseCommandlineMetaUpdate]
  split
  · exact .ok _
  · next heq =>
      rw [heq] at hnone
      cases hnone

theorem parseMetaDump_ofInput {st : DumpState} (h : ∀ s ∈ suboptions (param order), DumpReads s) :
    Avoids Fault.OfInput ((parseCommandlineMetaDump (param order) st).mapError .metaParse) := by
  obtain ⟨st', hst⟩ := (dumpLoop_defined_iff _ st).mpr h
  rw [parseCommandlineMetaDump, hst]
  exact .ok _

/-! ## Starts -/

theorem checkStream_avoids {d : Characteristics} {s : StreamInfo} :
    Avoids (· = InitFailure.sensorModeTable) (checkStream d s) := by
  rw [checkStream]
  split
  · exact .error (by simp)
  · exact .ok _

theorem videoOpMode_avoids {d : Characteristics} {c : Config} {streams : List Camera3Stream}
    (hstreams : streams ≠ [])
    (h : VideoMode.hfr60.value ≤ (videoModeOf c).value → SensorModesPresent d.sensorModeTable) :
    Avoids (· = InitFailure.sensorModeTable) (videoOpMode d c streams) := by
  obtain ⟨mode, hmode⟩ := (exists_videoOpMode_eq_ok_iff hstreams).mpr h
  rw [hmode]
  exact .ok _

theorem initStreamsOf_avoids {d : Characteristics} {c : Config} {tc : TestCase}
    (h : SelectsMode c tc → SensorModesPresent d.sensorModeTable) :
    Avoids (· = InitFailure.sensorModeTable) (initStreamsOf d c tc) := by
  have hmode (hvideo : tc = .previewVideo ∨ tc = .videoOnly ∨ tc = .hal3TestVideo) :
      Avoids (· = InitFailure.sensorModeTable) (videoOpMode d c (preInitStream d c tc)) :=
    videoOpMode_avoids preInitStream_ne_nil fun hvalue => h ⟨hvideo, hvalue⟩
  cases tc with
  | previewOnly | hal3TestDepth => exact .bind checkStream_avoids fun _ _ => .ok _
  | previewSnapshot =>
      exact .bind checkStream_avoids fun _ _ => .bind checkStream_avoids fun _ _ => .ok _
  | previewVideo =>
      exact .bind checkStream_avoids fun _ _ => .bind checkStream_avoids fun _ _ =>
        .bind (hmode (by simp)) fun _ _ => .ok _
  | videoOnly =>
      exact .bind checkStream_avoids fun _ _ => .bind (hmode (by simp)) fun _ _ => .ok _
  | hal3TestVideo =>
      refine .bind checkStream_avoids fun _ _ => .bind checkStream_avoids fun _ _ =>
        .bind ?_ fun _ _ => .bind (hmode (by simp)) fun _ _ => .ok _
      split_ifs
      · exact checkStream_avoids
      · exact .ok _

theorem startCase_ofInput {tc : TestCase} {config : Config} {start : Start}
    (hopens : start.opens = true)
    (h : SelectsMode config tc → SensorModesPresent start.characteristics.sensorModeTable) :
    Avoids Fault.OfInput (startCase enc tc config start) := by
  have havoids := initStreamsOf_avoids h
  rw [startCase]
  cases hinit : initStreamsOf start.characteristics config tc with
  | error e =>
      cases e with
      | unsupported s => exact .ok _
      | sensorModeTable => exact absurd rfl (havoids _ hinit)
  | ok call =>
      simp only [hopens]
      exact .ok _

/-! ## Lines -/

theorem add_ofInput (hskip : ¬ Skipped order) (hcmd : command order = .add)
    (hparses : Parses (.command order env) w) (hstarts : StartsWell (.command order env) w) :
    Avoids Fault.OfInput (Console.add enc order env w) := by
  simp only [Parses, hcmd] at hparses
  refine .bind (parseAdd_ofInput hparses) fun p hparse => ?_
  have hparse := mapError_eq_ok_iff.mp hparse
  dsimp only
  split_ifs with hresult
  · exact .ok _
  have hzero : parseCommandlineAdd (param order) {} = .ok (0, p.2) := by
    rw [hparse, ← not_not.mp hresult]
  cases hmode : p.2.testMode with
  | none => exact .ok _
  | some mode =>
      have hstart : w.starts (.command order env) = some (mode.testCase, p.2, env.start) := by
        rw [starts, addConfig_eq_some hskip hcmd hzero, Option.bind_some, hmode, Option.map_some]
      obtain ⟨hopens, htable⟩ := hstarts _ hstart
      exact .bind (startCase_ofInput hopens htable) fun new _ => setSlot_ofInput

theorem video_ofInput (hcmd : command order = .video)
    (hparses : Parses (.command order env) w) : Avoids Fault.OfInput (video order w) := by
  refine .bind caseAt_ofInput fun p hp => ?_
  dsimp only
  split_ifs with hmode
  · simp only [Parses, hcmd] at hparses
    have hpreview : Previewing w := by
      rw [Previewing, hp]
      simpa [Except.toOption] using hmode
    exact .bind (parseAdd_ofInput (hparses hpreview)) fun p _ => beginStop_ofInput
  · exact .bind caseAt_ofInput fun p _ => .bind snapshot_ofInput fun c _ => .ok _

/-- **The faults of a line are faults of an access**, if its options are parsed and its start gets
to its calls. -/
theorem runCommand_ofInput (hparses : Parses (.command order env) w)
    (hstarts : StartsWell (.command order env) w) :
    Avoids Fault.OfInput (runCommand enc order env w) := by
  rw [runCommand]
  split_ifs with hskip
  · exact .ok _
  have hparses' := hparses
  cases hcmd : command order with
  | add => exact add_ofInput hskip hcmd hparses hstarts
  | video => exact video_ofInput hcmd hparses
  | snapshot dump =>
      exact .bind caseAt_ofInput fun p _ => .bind snapshot_ofInput fun c _ => .ok _
  | previewDump => exact .bind caseAt_ofInput fun p _ => .bind user_ofInput fun c _ => .ok _
  | delete =>
      refine .bind slot_ofInput fun p _ => ?_
      cases p with
      | none => exact .ok _
      | some k => exact .bind deref_ofInput fun c _ => beginStop_ofInput
  | update =>
      simp only [Parses, hcmd] at hparses'
      exact .bind caseAt_ofInput fun p _ => .bind (parseMetaUpdate_ofInput hparses') fun edits _ =>
        .bind (updateMeta_ofInput edits) fun c _ => .ok _
  | updateSnapshot =>
      simp only [Parses, hcmd] at hparses'
      exact .bind caseAt_ofInput fun p _ => .bind (parseMetaUpdate_ofInput hparses') fun edits _ =>
        .bind (updateMeta_ofInput edits) fun c _ => .bind snapshot_ofInput fun c _ => .ok _
  | metaDump =>
      simp only [Parses, hcmd] at hparses'
      exact .bind caseAt_ofInput fun p _ => .bind (parseMetaDump_ofInput hparses') fun _ _ => .ok _
  | quit | wait | wrong => exact .ok _

/-! ## After a stop, and the loop at the end -/

theorem closeAndDelete_ofInput (hopened : ∀ c ∈ w.cases, c.opened = true) :
    Avoids Fault.OfInput (w.closeAndDelete k i) := by
  refine .bind deref_ofInput fun c hc => .bind ?_ fun c' _ => setSlot_ofInput
  have hcase := (deref_eq_ok_iff.mp hc).1
  have hcalls : c.CallsReturn := by
    rw [Case.CallsReturn, hopened c (List.mem_of_getElem? hcase)]
    rfl
  rw [closeCamera_eq_ok_iff.mpr ⟨hcalls, rfl⟩]
  exact .ok _

theorem resume_ofInput {next : Next} (hpc : w.pc = .stopping k next)
    (hopened : ∀ c ∈ w.cases, c.opened = true) (hstarts : StartsWell (.resume env) w) :
    Avoids Fault.OfInput (resume enc env w k next) := by
  cases next with
  | delete i | shutdown i => exact .map (closeAndDelete_ofInput hopened)
  | switch i =>
      refine .map (.bind deref_ofInput fun c hc => .bind setSlot_ofInput fun w₁ _ => ?_)
      have hcase := (deref_eq_ok_iff.mp hc).1
      have hstart : w.starts (.resume env) = some (.hal3TestVideo, c.config, env.start) := by
        simp only [starts, hpc, hcase, Option.map_some]
      obtain ⟨hopens, htable⟩ := hstarts _ hstart
      exact .bind (startCase_ofInput hopens htable) fun new _ => setSlot_ofInput

theorem shutdownStep_ofInput : Avoids Fault.OfInput (w.shutdownStep i) := by
  rw [shutdownStep]
  split_ifs
  · refine .bind slot_ofInput fun p _ => ?_
    cases p with
    | none => exact .ok _
    | some k => exact .bind deref_ofInput fun c _ => beginStop_ofInput
  · exact .ok _

/-! ## Nothing undefined -/

theorem opened_of_careful (h : Run enc Careful w) : ∀ c ∈ w.cases, c.opened = true := by
  refine forall_case h (fun w a tc c start new hok hstarts hnew => ?_)
    fun _ _ _ hopened _ hc => by rw [hopened]; exact hc
  obtain ⟨configured, rfl, _⟩ := startCase_eq_ok hnew
  exact (hok.starts _ hstarts).1

theorem fault_eq_none (h : Run enc Careful w) : w.fault = none := by
  refine h.invariant (P := fun w => w.fault = none) rfl fun w a w' hr hi _ hok hs => ?_
  have hrun : Run enc Addressed w := hr.mono fun _ _ _ _ hok _ => hok.addressed
  have hl := slotsLive hrun
  have ha := addressInv hrun
  have hopened := opened_of_careful hr
  by_contra hne
  obtain ⟨f, hf⟩ := Option.ne_none_iff_exists'.mp hne
  cases fault_of_step hi hs hf with
  | command hpc herror =>
      exact runCommand_ofInput hok.parses hok.starts f herror
        (runCommand_avoids hl hpc hok.addressed f herror)
  | resume hpc herror =>
      exact resume_ofInput hpc hopened hok.starts f herror (resume_avoids hl ha hpc f herror)
  | shutdown hpc herror =>
      exact shutdownStep_ofInput f herror (shutdownStep_avoids hl ha hpc f herror)

theorem wellBehaved_of_careful (h : Run enc Careful w) :
    ∀ c ∈ w.cases, Device.Run c.setup Device.WellBehaved c.device :=
  deviceRuns_of _ h (fun _ _ hok => hok.devices)
    (fun _ _ _ => ⟨trivial, trivial, fun hclear => (by cases hclear.1), trivial⟩)
    fun _ _ => ⟨trivial, trivial, fun hclear => (by cases hclear.1), trivial⟩

/-- No case has submitted or been ordered `2 ^ 31` requests. -/
def Moderate (w : Console) : Prop :=
  ∀ c ∈ w.cases, c.device.log.submitted.length < 2 ^ 31 ∧ ∀ i, c.device.orderedTotal i < 2 ^ 31

/-- **Nothing undefined happens in a careful run**, in `main` or in any case. -/
theorem defined (h : Run enc Careful w) (hmoderate : Moderate w) : Defined w := by
  refine ⟨fault_eq_none h, fun c hc => ?_⟩
  obtain ⟨hsubmitted, hordered⟩ := hmoderate c hc
  by_contra hfault
  obtain ⟨f, hf⟩ := Option.ne_none_iff_exists'.mp hfault
  rcases Device.overflow_of_wellBehaved (wellBehaved_of_careful h c hc) hf with hle | ⟨i, hle⟩
  · omega
  · exact absurd hle (not_le.mpr (hordered i))

/-- From the first line to the return of `main`, with a case that is stopped. -/
theorem defined_whole_run :
    ∃ w, Run true Careful w ∧ w.pc = .returned ∧ w.cases.length = 1 ∧ Defined w := by
  obtain ⟨w, hr, hpc, hlength, hidle⟩ : ∃ w, Run true Careful w ∧ w.pc = .returned ∧
      w.cases.length = 1 ∧ (w.cases.all fun c => c.device.log.submitted.isEmpty &&
        c.device.log.consumed.isEmpty && c.device.requestThread.messageQueue.isEmpty) = true :=
    Reachable.exists_of_exec addAndQuit (by decide +kernel)
  refine ⟨w, hr, hpc, hlength, defined hr fun c hc => ?_⟩
  have hcase := List.all_eq_true.mp hidle c hc
  simp only [Bool.and_eq_true, List.isEmpty_iff] at hcase
  obtain ⟨⟨hsubmitted, hconsumed⟩, hqueue⟩ := hcase
  refine ⟨by simp [hsubmitted], fun i => ?_⟩
  rw [Device.orderedTotal, hconsumed, hqueue, List.append_nil, Device.totalOf_nil]
  norm_num

/-! ## `main` goes on -/

/-- The steps that the threads of the program make by themselves; a line of the input is none. -/
def GoesOn : Act → Prop
  | .stop a => Device.GoesOn (.stop a)
  | .thread _ a => Device.GoesOn a
  | .resume _ | .shutdown => True
  | .command _ _ | .endOfInput => False

/-- `main` waits for a case whose request thread waits for the HAL. -/
def AwaitsHal (w : Console) : Prop :=
  ∃ k next c, w.pc = .stopping k next ∧ w.cases[k]? = some c ∧ Device.AwaitsHal c.setup c.device

/-- Every stream gets buffers, and every result returns buffers that the HAL holds and the case
gives up once. -/
structure Served (a : Act) (w : Console) : Prop where
  once : Devices Device.ReturnsGivenOnce a w
  allocates : ∀ p ∈ w.starts a, ∀ i < (p.2.2.camera3Streams p.1 p.2.1).length,
    p.2.2.allocated i ≠ []

instance (a : Act) (w : Console) : Decidable (Served a w) :=
  decidable_of_iff
    (Devices Device.ReturnsGivenOnce a w ∧
      ∀ p ∈ w.starts a, ∀ i < (p.2.2.camera3Streams p.1 p.2.1).length, p.2.2.allocated i ≠ [])
    ⟨fun h => ⟨h.1, h.2⟩, fun h => ⟨h.once, h.allocates⟩⟩

/-- The `stop` that `main` waits for has begun. -/
def StopBegun (w : Console) : Prop :=
  ∀ k next c, w.pc = .stopping k next → w.cases[k]? = some c → c.device.stopPc ≠ .running

theorem stage_eq_zero_iff {pc : StopPc} : pc.stage = 0 ↔ pc = .running := by
  cases pc <;> simp

namespace StopBegun

theorem of_pc (h : ∀ k next, w.pc ≠ .stopping k next) : StopBegun w :=
  fun k next _ hpc => absurd hpc (h k next)

theorem setDevice {a : QCamx.Act} {d : Device} (h : StopBegun w) (hcase : w.cases[k]? = some c)
    (hd : c.device.step c.setup a = some d) : StopBegun (w.setCase k { c with device := d }) := by
  intro k' next c' hpc hc'
  rcases (setCase_eq_some_iff hcase).mp hc' with ⟨rfl, rfl⟩ | ⟨_, hc'⟩
  · have hle := (Device.Step.of_eq hd).2.stage_le
    intro hrunning
    change d.stopPc = .running at hrunning
    rw [hrunning] at hle
    exact h k next c hpc hcase (stage_eq_zero_iff.mp (Nat.le_zero.mp hle))
  · exact h k' next c' hpc hc'

theorem stopping {d : Device} {next : Next} (hcase : w.cases[k]? = some c)
    (hd : c.device.stop c'.setup .begin = some d) : StopBegun (w.stopping k c' d next) := by
  intro k' next' c₁ hpc hc₁
  obtain ⟨rfl, rfl⟩ := Pc.stopping.inj hpc
  rcases (setCase_eq_some_iff hcase).mp hc₁ with ⟨_, rfl⟩ | ⟨hne, _⟩
  · cases Device.StopStep.of_eq hd with
    | begin hrunning => simp
  · exact absurd rfl hne

theorem step {a : Act} (h : StopBegun w) (hs : Step enc w a w') : StopBegun w' := by
  cases hs with
  | fault hfault => exact h
  | command hpc hs =>
      cases hs with
      | stay => exact h
      | quit => exact of_pc (by simp)
      | add | edit => exact of_pc (by simp [registered, Console.setCase, hpc])
      | delete hcmd hslot hd => exact stopping hslot.case hd
      | switch hskip hcmd hslot hmode hparse hd => exact stopping hslot.case hd
  | stop hpc hcase hd | thread hthread hcase hd => exact h.setDevice hcase hd
  | shutdownStop hpc hslot hd => exact stopping hslot.case hd
  | endOfInput hpc | deleted hpc | switched hpc | shutDown hpc | emptySlot hpc | returned hpc =>
      exact of_pc (by simp)

end StopBegun

theorem stopBegun (h : Run enc ok w) : StopBegun w :=
  h.invariant (.of_pc (by simp)) fun _ _ _ _ hi _ _ hs => hi.step hs

theorem allocated_of_served (h : Run enc Served w) :
    ∀ c ∈ w.cases, ∀ i < c.setup.camera3Streams.length, c.setup.allocated i ≠ [] := by
  refine forall_case h (fun w a tc c start new hok hstarts hnew => ?_)
    fun _ _ hsetup _ _ hc => by rw [hsetup]; exact hc
  obtain ⟨configured, rfl, _⟩ := startCase_eq_ok hnew
  exact hok.allocates _ hstarts

theorem goesOn_of_device {next : Next} (hdef : Defined w) (hpc : w.pc = .stopping k next)
    (hcase : w.cases[k]? = some c) (h : Device.CanGoOn c.setup c.device) :
    ∃ a, GoesOn a ∧ (step enc a w).isSome = true := by
  obtain ⟨a, ha, hd⟩ := h
  have hthread (hmain : OfMain a = false) : ∃ a, GoesOn a ∧ (step enc a w).isSome = true :=
    ⟨.thread k a, ha, by simp [step, hdef, hmain, stepDevice, hcase, hd]⟩
  cases a with
  | stop a => exact ⟨.stop a, ha, by simp [step, hdef, hpc, stepDevice, hcase, hd]⟩
  | user a => exact ha.elim
  | request | hal | result | encoderReturn => exact hthread rfl

end Console

end QCamx

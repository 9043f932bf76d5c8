import QCamx.Encoder.Step
import QCamx.Lib.ErrorCode

/-!
# The exits of `setConfig`

`QCamxHAL3TestOMXEncoder::setConfig` returns the result of the last OMX call wherever it leaves. At
five places that result is `OMX_ErrorNone`: the last call has succeeded, and what failed was not a
call, or it is not looked at.

* `OmxAnswers`: the results of the calls, of `CheckColorFormatSupported` and of `malloc`;
* `setPortParams`, `allocateBuffers`, `setConfig`: the function and its parts;
* `Configured`, `Coder.Ready`: what a successful configuration consists of;
* **`returned_setConfig_iff`**: what a returned `OMX_ErrorNone` says;
* **`reportsFailure_iff`**: it says that the encoder is configured, unless a silent exit comes
  first.
-/

namespace QCamx

open ErrorCode

namespace SetUp

/-! ## Answers -/

/-- `OMX_ERRORTYPE`, where `0` is `OMX_ErrorNone`. -/
abbrev OmxError := UInt32

/-- `OMX_VIDEO_CODINGTYPE`. -/
inductive Codec
  | avc | hevc
  | other (codec : UInt32)
  deriving DecidableEq, Repr

/-- What the component answers in `SetPortParams`. -/
structure PortAnswers where
  getDefinition : OmxError
  /-- `nBufferCountMin` of the port. -/
  bufferCountMin : UInt32
  setFormat : OmxError
  /-- The second `OMX_SetParameter`, with this count. -/
  setCount : UInt32 → OmxError
  readBack : OmxError
  /-- `nBufferCountActual` and `nBufferSize`, as they are read back. -/
  bufferCountActual : UInt32
  bufferSize : UInt32

/-- The results of everything that `setConfig` calls. -/
structure OmxAnswers where
  getHandle : OmxError
  /-- The formats that `OMX_GetParameter` reports for the indices up to the first error. -/
  formats : List UInt32
  getCodec : OmxError
  setCodec : OmxError
  setFramerate : OmxError
  getColorAspects : OmxError
  setColorAspects : OmxError
  getBitrate : OmxError
  setBitrate : OmxError
  input : PortAnswers
  output : PortAnswers
  /-- `malloc` of the two arrays. -/
  inbufs : Bool
  outbufs : Bool
  /-- `OMX_AllocateBuffer` for an element, and the header. -/
  allocateInput : ℕ → OmxError × Header
  allocateOutput : ℕ → OmxError × Header
  sendIdle : OmxError

/-- The members of `omx_config_t` that decide about the exits. -/
structure CoderConfig where
  inputcolorfmt : UInt32
  codec : Codec
  inputBufCnt : UInt32
  outputBufCnt : UInt32
  deriving DecidableEq, Repr

/-- The members of the encoder that `setConfig` sets and `start` uses. -/
structure Coder where
  isInit : Bool
  config : Option CoderConfig := none
  /-- `m_OmxHandle` is not `NULL`. -/
  omxHandle : Bool := false
  inputBufferSize : UInt32 := 0
  inputBufferCount : UInt32 := 0
  outputBufferSize : UInt32 := 0
  outputBufferCount : UInt32 := 0
  /-- The elements of `m_inbufs` that are set, `none` for `NULL`. -/
  inbufs : Option (List Header) := none
  outbufs : Option (List Header) := none
  /-- The command for the state Idle has been accepted. -/
  idle : Bool := false
  deriving DecidableEq, Repr

/-- A part of `setConfig`: to throw a code is to return it. -/
abbrev SetUpM := EStateM OmxError Coder

/-! ## The parts -/

/-- `CheckColorFormatSupported`. -/
def checkColorFormatSupported (colorFormat : UInt32) : List UInt32 → Bool
  | [] => false
  | format :: formats =>
      if format = colorFormat then true else checkColorFormatSupported colorFormat formats

/-- `SetPortParams`, the count and the size of the buffers. Its test for `NULL` is never met, since
it gets the addresses of members. -/
def setPortParams (p : PortAnswers) (bufferCountMin : UInt32) : SetUpM (UInt32 × UInt32) := do
  check p.getDefinition
  check p.setFormat
  let count := if bufferCountMin < p.bufferCountMin then p.bufferCountMin else bufferCountMin
  check (p.setCount count)
  check p.readBack
  return (p.bufferCountActual, p.bufferSize)

/-- The parameters of the codec; another codec leaves with the result of `OMX_GetHandle`. -/
def configureCodec (e : OmxAnswers) : Codec → SetUpM Unit
  | .avc | .hevc => do
      check e.getCodec
      check e.setCodec
  | .other _ => throw 0

/-- The frame rate, the colour aspects and the bit rate. The result of the first `OMX_GetConfig` is
only printed. -/
def configureRates (e : OmxAnswers) : SetUpM Unit := do
  check e.setFramerate
  check e.getColorAspects
  check e.setColorAspects
  check e.getBitrate
  check e.setBitrate

/-- The two ports. The result of `enableMetaMode` before them is not looked at. -/
def configurePorts (e : OmxAnswers) (config : CoderConfig) : SetUpM Unit := do
  let (count, size) ← setPortParams e.input config.inputBufCnt
  modify fun c => { c with inputBufferCount := count, inputBufferSize := size }
  let (count, size) ← setPortParams e.output config.outputBufCnt
  modify fun c => { c with outputBufferCount := count, outputBufferSize := size }

/-- A loop of `OMX_AllocateBuffer`, for `n` elements from `i` on. -/
def allocateBuffers (answer : ℕ → OmxError × Header) (store : Header → Coder → Coder) :
    ℕ → ℕ → SetUpM Unit
  | 0, _ => pure ()
  | n + 1, i => do
      check (answer i).1
      modify (store (answer i).2)
      allocateBuffers answer store n (i + 1)

/-- `m_inbufs[i] = h`, where `i` elements are set. -/
def storeInput (h : Header) (c : Coder) : Coder := { c with inbufs := c.inbufs.map (· ++ [h]) }

def storeOutput (h : Header) (c : Coder) : Coder := { c with outbufs := c.outbufs.map (· ++ [h]) }

/-- `malloc` of the two arrays. -/
def allocateArrays (e : OmxAnswers) (c : Coder) : Coder :=
  { c with
    inbufs := if e.inbufs then some [] else none
    outbufs := if e.outbufs then some [] else none }

/-- The buffers of the two ports. -/
def allocatePorts (e : OmxAnswers) : SetUpM Unit := do
  let c ← get
  allocateBuffers e.allocateInput storeInput c.inputBufferCount.toNat 0
  allocateBuffers e.allocateOutput storeOutput c.outputBufferCount.toNat 0

/-- `setConfig` after the test of the colour format. -/
def afterColorFormat (e : OmxAnswers) (config : CoderConfig) : SetUpM Unit := do
  configureCodec e config.codec
  configureRates e
  configurePorts e config
  modify (allocateArrays e)
  require (e.inbufs = true ∧ e.outbufs = true)
  allocatePorts e
  modify fun c => { c with idle := decide (e.sendIdle = 0) }

/-- `setConfig`. -/
def setConfig (e : OmxAnswers) (config : CoderConfig) : SetUpM Unit := do
  let c ← get
  require (c.isInit = true)
  modify fun c => { c with config := some config }
  check e.getHandle
  modify fun c => { c with omxHandle := true }
  require (checkColorFormatSupported config.inputcolorfmt e.formats = true)
  afterColorFormat e config

/-! ## What a configuration consists of -/

/-- All calls of `SetPortParams` succeed. -/
structure PortAnswers.Accepts (p : PortAnswers) (bufferCountMin : UInt32) : Prop where
  getDefinition : p.getDefinition = 0
  setFormat : p.setFormat = 0
  setCount : p.setCount (if bufferCountMin < p.bufferCountMin then p.bufferCountMin
    else bufferCountMin) = 0
  readBack : p.readBack = 0

/-- The calls for the codec and the rates succeed. -/
structure OmxAnswers.Programs (e : OmxAnswers) : Prop where
  getCodec : e.getCodec = 0
  setCodec : e.setCodec = 0
  setFramerate : e.setFramerate = 0
  getColorAspects : e.getColorAspects = 0
  setColorAspects : e.setColorAspects = 0
  getBitrate : e.getBitrate = 0
  setBitrate : e.setBitrate = 0

/-- Both ports are configured. -/
structure OmxAnswers.AcceptsPorts (e : OmxAnswers) (config : CoderConfig) : Prop where
  input : e.input.Accepts config.inputBufCnt
  output : e.output.Accepts config.outputBufCnt

/-- `malloc` gives both arrays. -/
def OmxAnswers.HasArrays (e : OmxAnswers) : Prop := e.inbufs = true ∧ e.outbufs = true

/-- Every buffer of both ports is allocated. -/
structure OmxAnswers.Allocates (e : OmxAnswers) : Prop where
  input : ∀ i < e.input.bufferCountActual.toNat, (e.allocateInput i).1 = 0
  output : ∀ i < e.output.bufferCountActual.toNat, (e.allocateOutput i).1 = 0

/-- AVC or HEVC. -/
def Codec.Supported (c : Codec) : Prop := c = .avc ∨ c = .hevc

/-- Everything that a configuration needs. -/
structure Configured (e : OmxAnswers) (config : CoderConfig) (c : Coder) : Prop where
  isInit : c.isInit = true
  colorFormat : config.inputcolorfmt ∈ e.formats
  codec : config.codec.Supported
  ports : e.AcceptsPorts config
  arrays : e.HasArrays
  buffers : e.Allocates
  idle : e.sendIdle = 0

/-- The arrays that `start` goes through are there, and set up to their counts. -/
structure Coder.Ready (c : Coder) : Prop where
  inbufs : ∃ l, c.inbufs = some l ∧ l.length = c.inputBufferCount.toNat
  outbufs : ∃ l, c.outbufs = some l ∧ l.length = c.outputBufferCount.toNat

/-- A returned `OMX_ErrorNone` means that the encoder is configured. -/
def ReportsFailure (e : OmxAnswers) (config : CoderConfig) (c : Coder) : Prop :=
  returned (setConfig e config) c = 0 →
    Configured e config c ∧ (final (setConfig e config) c).Ready

/-- None of the five places where a failure leaves with `OMX_ErrorNone` is the first that fails. -/
structure NoSilentExit (e : OmxAnswers) (config : CoderConfig) (c : Coder) : Prop where
  isInit : c.isInit = true
  colorFormat : e.getHandle = 0 → config.inputcolorfmt ∈ e.formats
  codec : e.getHandle = 0 → config.codec.Supported
  arrays : e.getHandle = 0 → e.Programs → e.AcceptsPorts config → e.HasArrays
  idle : e.getHandle = 0 → e.Programs → e.AcceptsPorts config → e.Allocates → e.sendIdle = 0

/-! ## The parts one by one -/

section Parts

variable {e : OmxAnswers} {config : CoderConfig} {s s' : Coder}

theorem checkColorFormatSupported_iff {colorFormat : UInt32} {formats : List UInt32} :
    checkColorFormatSupported colorFormat formats = true ↔ colorFormat ∈ formats := by
  induction formats with
  | nil => simp [checkColorFormatSupported]
  | cons format formats ih =>
      rw [checkColorFormatSupported]
      split_ifs with heq
      · simp [heq]
      · rw [ih, List.mem_cons]
        exact ⟨.inr, fun h => h.resolve_left (Ne.symm heq)⟩

theorem reports_setPortParams (p : PortAnswers) (n : UInt32) : Reports (setPortParams p n) := by
  unfold setPortParams
  exact reports_check.bind fun _ => reports_check.bind fun _ => reports_check.bind fun _ =>
    reports_check.bind fun _ => reports_pure _

theorem run_setPortParams_iff {p : PortAnswers} {n : UInt32} {r : UInt32 × UInt32} :
    (setPortParams p n).run s = .ok r s' ↔
      p.Accepts n ∧ r = (p.bufferCountActual, p.bufferSize) ∧ s' = s := by
  unfold setPortParams
  simp only [run_bind_eq_ok_iff, run_check_eq_ok_iff, EStateM.run_pure, EStateM.Result.ok.injEq]
  constructor
  · rintro ⟨-, -, ⟨hget, rfl⟩, -, -, ⟨hformat, rfl⟩, -, -, ⟨hcount, rfl⟩, -, -, ⟨hread, rfl⟩, rfl,
      rfl⟩
    exact ⟨⟨hget, hformat, hcount, hread⟩, rfl, rfl⟩
  · rintro ⟨⟨hget, hformat, hcount, hread⟩, rfl, rfl⟩
    exact ⟨(), _, ⟨hget, rfl⟩, (), _, ⟨hformat, rfl⟩, (), _, ⟨hcount, rfl⟩, (), _, ⟨hread, rfl⟩,
      rfl, rfl⟩

theorem configureCodec_of_supported {c : Codec} (hc : c.Supported) :
    configureCodec e c = check e.getCodec >>= fun _ => check e.setCodec := by
  rcases hc with rfl | rfl <;> rfl

theorem returned_of_not_supported {c : Codec} (hc : ¬ c.Supported) (f : Unit → SetUpM Unit) :
    returned (configureCodec e c >>= f) s = 0 := by
  cases c with
  | avc => exact absurd (.inl rfl) hc
  | hevc => exact absurd (.inr rfl) hc
  | other codec => rfl

theorem reports_configureRates : Reports (configureRates e) := by
  unfold configureRates
  exact reports_check.bind fun _ => reports_check.bind fun _ => reports_check.bind fun _ =>
    reports_check.bind fun _ => reports_check

theorem run_program_iff {c : Codec} (hc : c.Supported) {u : Unit} :
    (configureCodec e c >>= fun _ => configureRates e).run s = .ok u s' ↔ e.Programs ∧ s' = s := by
  rw [configureCodec_of_supported hc]
  unfold configureRates
  simp only [run_bind_eq_ok_iff, run_check_eq_ok_iff]
  constructor
  · rintro ⟨-, -, ⟨-, -, ⟨hget, rfl⟩, hset, rfl⟩, -, -, ⟨hrate, rfl⟩, -, -, ⟨haspects, rfl⟩, -, -,
      ⟨haspects', rfl⟩, -, -, ⟨hbitrate, rfl⟩, hbitrate', rfl⟩
    exact ⟨⟨hget, hset, hrate, haspects, haspects', hbitrate, hbitrate'⟩, rfl⟩
  · rintro ⟨⟨hget, hset, hrate, haspects, haspects', hbitrate, hbitrate'⟩, rfl⟩
    exact ⟨(), _, ⟨(), _, ⟨hget, rfl⟩, hset, rfl⟩, (), _, ⟨hrate, rfl⟩, (), _, ⟨haspects, rfl⟩,
      (), _, ⟨haspects', rfl⟩, (), _, ⟨hbitrate, rfl⟩, hbitrate', rfl⟩

theorem reports_program {c : Codec} (hc : c.Supported) :
    Reports (configureCodec e c >>= fun _ => configureRates e) := by
  rw [configureCodec_of_supported hc]
  exact (reports_check.bind fun _ => reports_check).bind fun _ => reports_configureRates

theorem reports_configurePorts : Reports (configurePorts e config) := by
  unfold configurePorts
  exact (reports_setPortParams _ _).bind fun _ => (reports_modify _).bind fun _ =>
    (reports_setPortParams _ _).bind fun _ => reports_modify _

/-- The members after both ports have been configured. -/
def withPorts (e : OmxAnswers) (c : Coder) : Coder :=
  { c with
    inputBufferCount := e.input.bufferCountActual
    inputBufferSize := e.input.bufferSize
    outputBufferCount := e.output.bufferCountActual
    outputBufferSize := e.output.bufferSize }

theorem run_configurePorts_iff {u : Unit} :
    (configurePorts e config).run s = .ok u s' ↔ e.AcceptsPorts config ∧ s' = withPorts e s := by
  unfold configurePorts
  simp only [run_bind_eq_ok_iff, run_setPortParams_iff, EStateM.run_modify,
    EStateM.Result.ok.injEq]
  constructor
  · rintro ⟨-, -, ⟨hinput, rfl, rfl⟩, -, -, ⟨-, rfl⟩, -, -, ⟨houtput, rfl, rfl⟩, -, rfl⟩
    exact ⟨⟨hinput, houtput⟩, rfl⟩
  · rintro ⟨⟨hinput, houtput⟩, rfl⟩
    exact ⟨_, _, ⟨hinput, rfl, rfl⟩, (), _, ⟨trivial, rfl⟩, _, _, ⟨houtput, rfl, rfl⟩, trivial, rfl⟩

variable {answer : ℕ → OmxError × Header} {store : Header → Coder → Coder}

theorem reports_allocateBuffers (n i : ℕ) : Reports (allocateBuffers answer store n i) := by
  induction n generalizing i with
  | zero => exact reports_pure ()
  | succ n ih =>
      rw [allocateBuffers]
      exact reports_check.bind fun _ => (reports_modify _).bind fun _ => ih (i + 1)

/-- The headers that a loop stores. -/
def headers (answer : ℕ → OmxError × Header) (n i : ℕ) : List Header :=
  (List.range' i n).map fun j => (answer j).2

theorem run_allocateBuffers_iff {n i : ℕ} {u : Unit} :
    (allocateBuffers answer store n i).run s = .ok u s' ↔
      (∀ j, i ≤ j → j < i + n → (answer j).1 = 0) ∧
        s' = (headers answer n i).foldl (fun c h => store h c) s := by
  induction n generalizing i s with
  | zero =>
      rw [allocateBuffers, EStateM.run_pure, EStateM.Result.ok.injEq]
      constructor
      · rintro ⟨-, rfl⟩
        refine ⟨fun j hij hj => ?_, rfl⟩
        omega
      · rintro ⟨-, rfl⟩
        exact ⟨rfl, rfl⟩
  | succ n ih =>
      rw [allocateBuffers]
      simp only [run_bind_eq_ok_iff, run_check_eq_ok_iff, EStateM.run_modify,
        EStateM.Result.ok.injEq, ih]
      constructor
      · rintro ⟨-, -, ⟨hi, rfl⟩, -, -, ⟨-, rfl⟩, hall, rfl⟩
        refine ⟨fun j hij hj => ?_, rfl⟩
        by_cases hji : j = i
        · rw [hji]
          exact hi
        · exact hall j (by omega) (by omega)
      · rintro ⟨hall, rfl⟩
        exact ⟨(), _, ⟨hall i le_rfl (by omega), rfl⟩, (), _, ⟨trivial, rfl⟩,
          fun j hij hj => hall j (by omega) (by omega), rfl⟩

theorem foldl_storeInput (hs : List Header) :
    hs.foldl (fun c h => storeInput h c) s = { s with inbufs := s.inbufs.map (· ++ hs) } := by
  induction hs generalizing s with
  | nil => simp
  | cons h hs ih =>
      rw [List.foldl_cons, ih]
      simp [storeInput, Function.comp_def]

theorem foldl_storeOutput (hs : List Header) :
    hs.foldl (fun c h => storeOutput h c) s = { s with outbufs := s.outbufs.map (· ++ hs) } := by
  induction hs generalizing s with
  | nil => simp
  | cons h hs ih =>
      rw [List.foldl_cons, ih]
      simp [storeOutput, Function.comp_def]

/-- The members after the buffers of both ports have been allocated. -/
def withBuffers (e : OmxAnswers) (c : Coder) : Coder :=
  { c with
    inbufs := c.inbufs.map (· ++ headers e.allocateInput c.inputBufferCount.toNat 0)
    outbufs := c.outbufs.map (· ++ headers e.allocateOutput c.outputBufferCount.toNat 0) }

theorem run_allocatePorts_iff {u : Unit} :
    (allocatePorts e).run s = .ok u s' ↔
      (∀ i < s.inputBufferCount.toNat, (e.allocateInput i).1 = 0) ∧
        (∀ i < s.outputBufferCount.toNat, (e.allocateOutput i).1 = 0) ∧ s' = withBuffers e s := by
  unfold allocatePorts
  simp only [run_bind_eq_ok_iff, EStateM.run_get, EStateM.Result.ok.injEq, run_allocateBuffers_iff,
    foldl_storeInput, foldl_storeOutput, Nat.zero_add, Nat.zero_le, true_implies]
  constructor
  · rintro ⟨c, t, ⟨rfl, rfl⟩, u, t', ⟨hinput, rfl⟩, houtput, rfl⟩
    exact ⟨hinput, houtput, rfl⟩
  · rintro ⟨hinput, houtput, rfl⟩
    exact ⟨_, _, ⟨rfl, rfl⟩, (), _, ⟨hinput, rfl⟩, houtput, rfl⟩

theorem reports_allocatePorts : Reports (allocatePorts e) := by
  unfold allocatePorts
  intro s
  rw [returned_get_bind]
  intro h
  exact (reports_allocateBuffers _ 0).bind (fun _ => reports_allocateBuffers _ 0) s h

end Parts

/-! ## The whole function -/

section Whole

variable {e : OmxAnswers} {config : CoderConfig} {s : Coder}

theorem returned_afterColorFormat_iff :
    returned (afterColorFormat e config) s = 0 ↔
      (config.codec.Supported →
        e.Programs ∧ e.AcceptsPorts config ∧ (e.HasArrays → e.Allocates)) := by
  unfold afterColorFormat
  by_cases hc : config.codec.Supported
  · rw [← bind_assoc, returned_bind_iff (reports_program hc)]
    simp only [run_program_iff hc, returned_bind_iff reports_configurePorts,
      run_configurePorts_iff, returned_modify_bind, returned_require_bind_iff,
      returned_bind_iff reports_allocatePorts, run_allocatePorts_iff]
    constructor
    · rintro ⟨u, t, ⟨hprograms, rfl⟩, u', t', ⟨hports, rfl⟩, hrest⟩ -
      refine ⟨hprograms, hports, fun harrays => ?_⟩
      obtain ⟨u, t, ⟨hinput, houtput, heq⟩, hret⟩ := hrest harrays
      exact ⟨hinput, houtput⟩
    · intro h
      obtain ⟨hprograms, hports, hrest⟩ := h hc
      refine ⟨(), _, ⟨hprograms, rfl⟩, (), _, ⟨hports, rfl⟩, fun harrays => ?_⟩
      exact ⟨(), _, ⟨(hrest harrays).input, (hrest harrays).output, rfl⟩, rfl⟩
  · rw [returned_of_not_supported hc]
    exact ⟨fun _ hc' => absurd hc' hc, fun _ => rfl⟩

/-- **What a returned `OMX_ErrorNone` says.** -/
theorem returned_setConfig_iff :
    returned (setConfig e config) s = 0 ↔
      (s.isInit = true → e.getHandle = 0 ∧
        (config.inputcolorfmt ∈ e.formats → config.codec.Supported →
          e.Programs ∧ e.AcceptsPorts config ∧ (e.HasArrays → e.Allocates))) := by
  unfold setConfig
  rw [returned_get_bind, returned_require_bind_iff, returned_modify_bind, returned_check_bind_iff,
    returned_modify_bind, returned_require_bind_iff, checkColorFormatSupported_iff,
    returned_afterColorFormat_iff]

/-- The members after a configuration that has succeeded. -/
def withConfig (e : OmxAnswers) (config : CoderConfig) (c : Coder) : Coder :=
  { withBuffers e (allocateArrays e
      (withPorts e { c with config := some config, omxHandle := true })) with
    idle := decide (e.sendIdle = 0) }

theorem run_setConfig (hinit : s.isInit = true) (hget : e.getHandle = 0)
    (hformat : config.inputcolorfmt ∈ e.formats) (hc : config.codec.Supported)
    (hprograms : e.Programs) (hports : e.AcceptsPorts config) (harrays : e.HasArrays)
    (hbuffers : e.Allocates) :
    (setConfig e config).run s = .ok () (withConfig e config s) := by
  have hafter : ∀ t : Coder, (afterColorFormat e config).run t =
      .ok () { withBuffers e (allocateArrays e (withPorts e t)) with
        idle := decide (e.sendIdle = 0) } := by
    intro t
    unfold afterColorFormat
    rw [← bind_assoc]
    simp only [run_bind_eq_ok_iff, run_program_iff hc, run_configurePorts_iff,
      run_require_eq_ok_iff, run_allocatePorts_iff, EStateM.run_modify, EStateM.Result.ok.injEq]
    exact ⟨(), _, ⟨hprograms, rfl⟩, (), _, ⟨hports, rfl⟩, (), _, ⟨trivial, rfl⟩, (), _,
      ⟨harrays, rfl⟩, (), _, ⟨hbuffers.input, hbuffers.output, rfl⟩, trivial, rfl⟩
  have hsupported : checkColorFormatSupported config.inputcolorfmt e.formats = true :=
    checkColorFormatSupported_iff.mpr hformat
  unfold setConfig
  simp only [run_bind_eq_ok_iff, run_check_eq_ok_iff, run_require_eq_ok_iff, EStateM.run_get,
    EStateM.run_modify, EStateM.Result.ok.injEq, hafter]
  exact ⟨_, _, ⟨rfl, rfl⟩, (), _, ⟨hinit, rfl⟩, (), _, ⟨trivial, rfl⟩, (), _, ⟨hget, rfl⟩, (), _,
    ⟨trivial, rfl⟩, (), _, ⟨hsupported, rfl⟩, trivial, rfl⟩

theorem length_headers (answer : ℕ → OmxError × Header) (n : ℕ) :
    (headers answer n 0).length = n := by
  rw [headers, List.length_map, List.length_range']

theorem ready_withConfig (harrays : e.HasArrays) : (withConfig e config s).Ready where
  inbufs := by
    refine ⟨headers e.allocateInput e.input.bufferCountActual.toNat 0, ?_, length_headers _ _⟩
    simp [withConfig, withBuffers, allocateArrays, withPorts, harrays.1]
  outbufs := by
    refine ⟨headers e.allocateOutput e.output.bufferCountActual.toNat 0, ?_, length_headers _ _⟩
    simp [withConfig, withBuffers, allocateArrays, withPorts, harrays.2]

/-- **A returned `OMX_ErrorNone` means that the encoder is configured** if and only if no exit with
`OMX_ErrorNone` is the first that is taken. -/
theorem reportsFailure_iff (e : OmxAnswers) (config : CoderConfig) (s : Coder) :
    ReportsFailure e config s ↔ NoSilentExit e config s := by
  rw [ReportsFailure, returned_setConfig_iff]
  constructor
  · intro h
    constructor
    · by_contra hnot
      exact hnot (h fun hinit => absurd hinit hnot).1.isInit
    · intro hget
      by_contra hnot
      exact hnot (h fun _ => ⟨hget, fun hformat => absurd hformat hnot⟩).1.colorFormat
    · intro hget
      by_contra hnot
      exact hnot (h fun _ => ⟨hget, fun _ hc => absurd hc hnot⟩).1.codec
    · intro hget hprograms hports
      by_contra hnot
      exact hnot (h fun _ => ⟨hget, fun _ _ =>
        ⟨hprograms, hports, fun harrays => absurd harrays hnot⟩⟩).1.arrays
    · intro hget hprograms hports hbuffers
      exact (h fun _ => ⟨hget, fun _ _ => ⟨hprograms, hports, fun _ => hbuffers⟩⟩).1.idle
  · intro hno hret
    obtain ⟨hget, hrest⟩ := hret hno.isInit
    have hformat := hno.colorFormat hget
    have hc := hno.codec hget
    obtain ⟨hprograms, hports, hall⟩ := hrest hformat hc
    have harrays := hno.arrays hget hprograms hports
    have hbuffers := hall harrays
    have hidle := hno.idle hget hprograms hports hbuffers
    refine ⟨⟨hno.isInit, hformat, hc, hports, harrays, hbuffers, hidle⟩, ?_⟩
    rw [final, run_setConfig hno.isInit hget hformat hc hprograms hports harrays hbuffers]
    exact ready_withConfig harrays

/-- A port that accepts everything, with one buffer. -/
def onePort : PortAnswers := ⟨0, 1, 0, fun _ => 0, 0, 1, 4096⟩

/-- A component that accepts everything. -/
def acceptsAll : OmxAnswers where
  getHandle := 0
  formats := [1]
  getCodec := 0
  setCodec := 0
  setFramerate := 0
  getColorAspects := 0
  setColorAspects := 0
  getBitrate := 0
  setBitrate := 0
  input := onePort
  output := onePort
  inbufs := true
  outbufs := true
  allocateInput i := (0, i)
  allocateOutput i := (0, i)
  sendIdle := 0

/-- A codec that is not supported is not reported. -/
theorem unsupported_codec_not_reported :
    ¬ ReportsFailure acceptsAll ⟨1, .other 5, 1, 1⟩ { isInit := true } := by
  intro h
  have hconfigured := (h rfl).1
  rcases hconfigured.codec with hc | hc <;> cases hc

end Whole

end SetUp

end QCamx

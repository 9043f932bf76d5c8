import QCamx.Config.Modes

/-!
# The rates of the encoder

The rates that a string of options asks for, and what `setConfig` programs. A bit rate in units of
`2^20` is kept in 32 bits, where `0` stands for the default; a frame rate is shifted into the upper
half of a 32-bit word.

* `OmxConfig`, `setConfig`: what the encoder is configured with;
* `fractionToQ16`, `log2`: the two macros;
* `lastOf`, `addLoop_last`: the last option of a kind decides;
* `bitrate_iff`, `framerate_iff`: one rate on its way;
* **`ratesUnchanged_iff`**: when the rates reach the encoder unchanged.
-/

namespace QCamx

open CString

/-! ## The encoder -/

/-- `BITRATE_DEFAULT`. -/
def bitrateDefault : UInt32 := 2 * 8 * 1024 * 1024

/-- `TARGET_BITRATE_DEFAULT`. -/
def targetBitrateDefault : UInt32 := 18 * 1024 * 1024 * 8

/-- The members of `omx_config_t` that the configuration of a camera fills in. -/
structure OmxConfig where
  inputW : UInt32
  inputH : UInt32
  outputW : UInt32
  outputH : UInt32
  bitrate : UInt32
  targetBitrate : UInt32
  isBitRateConstant : Bool
  nframerate : UInt32
  deriving DecidableEq, Repr

/-- `mConfig` as the constructor of `QCamxTestVideoEncoder` leaves it. -/
def Config.omxConfig (c : Config) : OmxConfig where
  inputW := c.videoStream.width.toUInt32
  inputH := c.videoStream.height.toUInt32
  outputW := c.videoStream.width.toUInt32
  outputH := c.videoStream.height.toUInt32
  bitrate := c.videoRateConfig.bitrate
  targetBitrate := c.videoRateConfig.targetBitrate
  isBitRateConstant := c.videoRateConfig.isBitrateConstant
  nframerate := c.fpsRange.2.toUInt32

/-- The loop of `Log2`, with the rounds that are left. -/
def log2Loop : ℕ → UInt32 → ℕ
  | 0, _ => 0
  | n + 1, temp => if temp &&& 1 = 0 then 1 + log2Loop n (temp >>> 1) else 0

/-- `Log2`. -/
def log2 (number : UInt32) : ℕ := log2Loop 16 number

/-- The shift of an `int` to the left, where it is defined. -/
def shiftLeft (n : Int32) (k : ℕ) : Option Int32 :=
  if 0 ≤ n.toInt ∧ n.toInt * 2 ^ k < 2 ^ 32 then some (Int32.ofInt (n.toInt * 2 ^ k)) else none

/-- `FractionToQ16`. -/
def fractionToQ16 (num : Int32) (den : UInt32) : Option UInt32 :=
  (shiftLeft num (16 - log2 den)).map Int32.toUInt32

/-- What `SetPortParams` sets in `OMX_PARAM_PORTDEFINITIONTYPE`. -/
structure PortDefinition where
  xFramerate : UInt32
  nFrameWidth : UInt32
  nFrameHeight : UInt32
  nBitrate : UInt32
  deriving DecidableEq, Repr

/-- `SetPortParams`, which handles the bit rate of both ports in the same way. -/
def setPortParams (m : OmxConfig) (nWidth nHeight nFrameRate : UInt32) : Option PortDefinition :=
  (fractionToQ16 (nFrameRate * 2).toInt32 2).map fun xFramerate =>
    { xFramerate
      nFrameWidth := nWidth
      nFrameHeight := nHeight
      nBitrate := if 0 < m.bitrate then m.bitrate else bitrateDefault }

/-- `eControlRate`. -/
inductive ControlRate
  | variable | constant
  deriving DecidableEq, Repr

/-- What `setConfig` programs. -/
structure Programmed where
  xEncodeFramerate : UInt32
  eControlRate : ControlRate
  nTargetBitrate : UInt32
  input : PortDefinition
  output : PortDefinition
  deriving DecidableEq, Repr

/-- `setConfig`, when every call of the component succeeds. -/
def setConfig (m : OmxConfig) : Option Programmed := do
  let xEncodeFramerate ← fractionToQ16 (m.nframerate * 2).toInt32 2
  let eControlRate := if m.isBitRateConstant then ControlRate.constant else .variable
  let nTargetBitrate := if 0 < m.targetBitrate then m.targetBitrate else targetBitrateDefault
  let input ← setPortParams m m.inputW m.inputH m.nframerate
  let output ← setPortParams m m.outputW m.outputH m.nframerate
  return { xEncodeFramerate, eControlRate, nTargetBitrate, input, output }

/-! ## The last option of a kind -/

/-- The value of a `bitrate`. -/
def bitrateOf (o : AddOpt × CString) : Option UInt32 :=
  if o.1 = .bitrate then some ((scanUInt o.2).getD 0) else none

/-- The value of a `targetbitrate`. -/
def targetBitrateOf (o : AddOpt × CString) : Option UInt32 :=
  if o.1 = .targetBitrate then some ((scanUInt o.2).getD 0) else none

/-- The bounds of an `fpsrange`, the lower one first. -/
def fpsRangeOf (o : AddOpt × CString) : Option (Int32 × Int32) :=
  if o.1 = .fpsRange then
    match convertPair '-' o.2 with
    | (some a, some b) => some (if b < a then (b, a) else (a, b))
    | _ => none
  else none

/-- What the last option of a kind gives. -/
def lastOf {α : Type} (f : AddOpt × CString → Option α) (order : CString) : Option α :=
  ((optionsOf order).filterMap f).getLast?

theorem addOption_rates {opt : AddOpt} {value : CString} {st st' : AddState}
    (h : addOption opt value st = .ok st') :
    st'.config.videoRateConfig.bitrate =
        ((bitrateOf (opt, value)).map (· * 1024 * 1024)).getD st.config.videoRateConfig.bitrate ∧
      st'.config.videoRateConfig.targetBitrate =
        ((targetBitrateOf (opt, value)).map (· * 1024 * 1024)).getD
          st.config.videoRateConfig.targetBitrate ∧
      st'.config.fpsRange = (fpsRangeOf (opt, value)).getD st.config.fpsRange := by
  cases opt with
  | previewSize | snapshotSize | videoSize | rawSize | tofDepthSize | tofIrSize =>
      simp only [addOption] at h
      obtain ⟨width, height, -, rfl⟩ := sizeOption_ok h
      exact ⟨rfl, rfl, rfl⟩
  | fpsRange =>
      simp only [addOption, fpsRangeOption] at h
      split at h
      case h_1 a b hscan =>
        obtain rfl := Except.ok.inj h
        have hpair : convertPair '-' value = (some a, some b) := hscan
        exact ⟨rfl, rfl, by simp [fpsRangeOf, hpair]⟩
      case h_2 => cases h
  | isBitrateConst | enableRawStream | tofRangeMode | tofImageType =>
      simp only [addOption] at h
      split_ifs at h <;> obtain rfl := Except.ok.inj h <;> exact ⟨rfl, rfl, rfl⟩
  | snapshotFormat =>
      simp only [addOption, snapshotFormat] at h
      obtain rfl := Except.ok.inj h
      split_ifs <;> exact ⟨rfl, rfl, rfl⟩
  | tofDepthFormat =>
      simp only [addOption, tofDepthFormat] at h
      obtain rfl := Except.ok.inj h
      split_ifs <;> exact ⟨rfl, rfl, rfl⟩
  | _ =>
      simp only [addOption] at h
      obtain rfl := Except.ok.inj h
      exact ⟨rfl, rfl, rfl⟩

/-- **The last option of a kind decides**, for a part of the configuration that only these set. -/
theorem addLoop_last {α β : Type} (get : Config → α) (f : AddOpt × CString → Option β)
    (store : β → α)
    (hget : ∀ {opt value st st'}, addOption opt value st = .ok st' →
      get st'.config = ((f (opt, value)).map store).getD (get st.config))
    {ss : List CString} {st st' : AddState} (h : addLoop ss st = .ok st')
    (herr : st'.errFound = false) :
    get st'.config =
      (((ss.filterMap optionOf).filterMap f).getLast?.map store).getD (get st.config) := by
  induction ss generalizing st with
  | nil =>
      obtain rfl := Except.ok.inj h
      rfl
  | cons s ss ih =>
      rw [addLoop] at h
      split_ifs at h with hfound
      · obtain rfl := Except.ok.inj h
        rw [herr] at hfound
        cases hfound
      · cases hs : addStep s st with
        | error e =>
            rw [hs] at h
            cases h
        | ok st₁ =>
            rw [hs] at h
            rw [ih h]
            rcases hopt : optionOf s with _ | ⟨opt, value⟩
            · have hst : st₁ = st := by
                rcases addStep_cases hs with rfl | ⟨opt, value, hsub, -⟩
                · rfl
                · rw [optionOf, hsub] at hopt
                  cases hopt
              rw [List.filterMap_cons, hopt, hst]
            · have hst₁ : addOption opt value st = .ok st₁ := by
                unfold optionOf at hopt
                unfold addStep at hs
                generalize getsubopt addTokens s = p at hopt hs
                obtain ⟨_ | opt, _ | value⟩ := p <;> cases hopt
                exact hs
              rw [List.filterMap_cons, hopt, List.filterMap_cons, hget hst₁]
              cases f (opt, value) with
              | none => rfl
              | some b =>
                  dsimp only [Option.map_some, Option.getD_some]
                  rw [List.getLast?_cons]
                  cases ((ss.filterMap optionOf).filterMap f).getLast? <;> rfl

/-! ## One rate on its way -/

/-- **A bit rate reaches the encoder** unless its product with `2^20` wraps. -/
theorem bitrate_iff {b : UInt32} (hb : 0 < b) (default : UInt32) :
    (if 0 < b * 1024 * 1024 then b * 1024 * 1024 else default).toNat = b.toNat * 2 ^ 20 ↔
      b.toNat < 4096 := by
  have hmul : (b * 1024 * 1024).toNat = b.toNat * 2 ^ 20 % 2 ^ 32 := by
    rw [UInt32.toNat_mul, UInt32.toNat_mul, Nat.mod_mul_mod, Nat.mul_assoc]
    rfl
  have hb : 0 < b.toNat := UInt32.lt_iff_toNat_lt.mp hb
  constructor
  · intro h
    have hlt := (if 0 < b * 1024 * 1024 then b * 1024 * 1024 else default).toNat_lt
    omega
  · intro h
    have hpos : 0 < b * 1024 * 1024 := by
      rw [UInt32.lt_iff_toNat_lt, UInt32.toNat_zero, hmul]
      omega
    rw [if_pos hpos, hmul]
    omega

/-- **A frame rate reaches the encoder** where it has 16 bits. -/
theorem framerate_iff {f : Int32} (hf : 1 ≤ f.toInt) :
    (∃ q, fractionToQ16 (f.toUInt32 * 2).toInt32 2 = some q ∧ (q.toNat : ℤ) = f.toInt * 2 ^ 16) ↔
      f.toInt < 65536 := by
  constructor
  · rintro ⟨q, -, hq⟩
    have hlt := q.toNat_lt
    omega
  · intro h
    have hunsigned : (f.toUInt32.toNat : ℤ) = f.toInt := by
      rw [toNat_toUInt32, if_pos (by omega)]
    have hdouble : (f.toUInt32 * 2).toNat = f.toUInt32.toNat * 2 := by
      rw [UInt32.toNat_mul]
      exact Nat.mod_eq_of_lt (by change f.toUInt32.toNat * 2 < _; omega)
    have hsigned : (f.toUInt32 * 2).toInt32.toInt = f.toInt * 2 := by
      rw [toInt_of_lt (by omega), hdouble]
      push_cast
      rw [hunsigned]
    have hlog : 16 - log2 2 = 15 := by decide
    refine ⟨(Int32.ofInt (f.toInt * 2 * 2 ^ 15)).toUInt32, ?_, ?_⟩
    · rw [fractionToQ16, hlog, shiftLeft, hsigned, if_pos (by omega)]
      rfl
    · rw [toNat_toUInt32_ofInt (by omega) (by omega)]
      ring

/-! ## All rates -/

/-- The rates that are programmed are, as integers, the ones asked for. -/
structure RatesUnchanged (bitrate targetBitrate : ℕ) (fps : ℤ) (p : Programmed) : Prop where
  inputBitrate : p.input.nBitrate.toNat = bitrate * 2 ^ 20
  outputBitrate : p.output.nBitrate.toNat = bitrate * 2 ^ 20
  targetBitrate : p.nTargetBitrate.toNat = targetBitrate * 2 ^ 20
  inputFramerate : (p.input.xFramerate.toNat : ℤ) = fps * 2 ^ 16
  outputFramerate : (p.output.xFramerate.toNat : ℤ) = fps * 2 ^ 16
  encodeFramerate : (p.xEncodeFramerate.toNat : ℤ) = fps * 2 ^ 16

theorem setConfig_eq (m : OmxConfig) :
    setConfig m = (fractionToQ16 (m.nframerate * 2).toInt32 2).map fun q =>
      { xEncodeFramerate := q
        eControlRate := if m.isBitRateConstant then .constant else .variable
        nTargetBitrate := if 0 < m.targetBitrate then m.targetBitrate else targetBitrateDefault
        input := ⟨q, m.inputW, m.inputH, if 0 < m.bitrate then m.bitrate else bitrateDefault⟩
        output :=
          ⟨q, m.outputW, m.outputH, if 0 < m.bitrate then m.bitrate else bitrateDefault⟩ } := by
  unfold setConfig setPortParams
  cases fractionToQ16 (m.nframerate * 2).toInt32 2 <;> rfl

theorem rates_of_parse {order : CString} {c c' : Config}
    (h : parseCommandlineAdd order c = .ok (0, c')) {b t : UInt32} {lo f : Int32}
    (hb : lastOf bitrateOf order = some b) (ht : lastOf targetBitrateOf order = some t)
    (hf : lastOf fpsRangeOf order = some (lo, f)) :
    c'.videoRateConfig.bitrate = b * 1024 * 1024 ∧
      c'.videoRateConfig.targetBitrate = t * 1024 * 1024 ∧ c'.fpsRange = (lo, f) := by
  obtain ⟨st, hloop, hresult⟩ := exists_loop_of_parse h
  obtain ⟨herr, mode, rfl⟩ := addResult_zero hresult
  have hbit := addLoop_last (fun c => c.videoRateConfig.bitrate) bitrateOf (· * 1024 * 1024)
    (fun h => (addOption_rates h).1) hloop herr
  have htarget := addLoop_last (fun c => c.videoRateConfig.targetBitrate) targetBitrateOf
    (· * 1024 * 1024) (fun h => (addOption_rates h).2.1) hloop herr
  have hrange := addLoop_last Config.fpsRange fpsRangeOf id
    (fun h => by rw [Option.map_id]; exact (addOption_rates h).2.2) hloop herr
  rw [lastOf, optionsOf] at hb ht hf
  rw [hb] at hbit
  rw [ht] at htarget
  rw [hf] at hrange
  exact ⟨hbit, htarget, hrange⟩

/-- **When the rates reach the encoder unchanged.** -/
theorem ratesUnchanged_iff {order : CString} {c c' : Config}
    (h : parseCommandlineAdd order c = .ok (0, c')) {b t : UInt32} {lo f : Int32}
    (hb : lastOf bitrateOf order = some b) (hb₀ : 0 < b)
    (ht : lastOf targetBitrateOf order = some t) (ht₀ : 0 < t)
    (hf : lastOf fpsRangeOf order = some (lo, f)) (hf₁ : 1 ≤ f.toInt) :
    (∃ p, setConfig c'.omxConfig = some p ∧ RatesUnchanged b.toNat t.toNat f.toInt p) ↔
      b.toNat < 4096 ∧ t.toNat < 4096 ∧ f.toInt < 65536 := by
  obtain ⟨hbit, htarget, hrange⟩ := rates_of_parse h hb ht hf
  have hbit : c'.omxConfig.bitrate = b * 1024 * 1024 := hbit
  have htarget : c'.omxConfig.targetBitrate = t * 1024 * 1024 := htarget
  have hrate : c'.omxConfig.nframerate = f.toUInt32 := by rw [Config.omxConfig, hrange]
  rw [setConfig_eq, hbit, htarget, hrate, ← bitrate_iff hb₀ bitrateDefault,
    ← bitrate_iff ht₀ targetBitrateDefault, ← framerate_iff hf₁]
  constructor
  · rintro ⟨p, hp, hunchanged⟩
    obtain ⟨q, hq, rfl⟩ := Option.map_eq_some_iff.mp hp
    exact ⟨hunchanged.inputBitrate, hunchanged.targetBitrate, q, hq, hunchanged.encodeFramerate⟩
  · rintro ⟨hin, hout, q, hq, hrate⟩
    rw [hq]
    exact ⟨_, rfl, ⟨hin, hin, hout, hrate, hrate, hrate⟩⟩

/-- A configuration for 1280 by 720 after a parse. -/
def videoAt (bitrate targetBitrate : UInt32) (fps : Int32 × Int32) : Config where
  testMode := some .videoOnly
  videoStream := { width := 1280, height := 720, format := halPixelFormatYCbCr420888 }
  videoRateConfig := { bitrate, targetBitrate }
  fpsRange := fps

theorem ratesUnchanged_sixty : ∃ p,
    setConfig (videoAt (8 * 1024 * 1024) (4095 * 1024 * 1024) (30, 60)).omxConfig = some p ∧
      RatesUnchanged 8 4095 60 p := by
  have hparse : parseCommandlineAdd
      "vsize=1280x720,bitrate=8,targetbitrate=4095,fpsrange=60-30".toList {} =
        .ok (0, videoAt (8 * 1024 * 1024) (4095 * 1024 * 1024) (30, 60)) := by decide +kernel
  have hfps : lastOf fpsRangeOf
      "vsize=1280x720,bitrate=8,targetbitrate=4095,fpsrange=60-30".toList = some (30, 60) := by
    decide +kernel
  exact (ratesUnchanged_iff (b := 8) (t := 4095) hparse (by decide +kernel) (by decide)
    (by decide +kernel) (by decide) hfps (by decide)).mpr (by decide)

/-- A bit rate that wraps to `0` becomes the default, one above it wraps to `2^20`, and a frame rate
of 17 bits is shifted out of the word. -/
theorem rates_wrap :
    parseCommandlineAdd "vsize=1280x720,bitrate=4096,targetbitrate=4097,fpsrange=30-60".toList {} =
        .ok (0, videoAt 0 1048576 (30, 60)) ∧
      (∃ p, setConfig (videoAt 0 1048576 (30, 60)).omxConfig = some p ∧
        p.input.nBitrate = bitrateDefault ∧ p.nTargetBitrate = 1048576 ∧
        ¬ RatesUnchanged 4096 4097 60 p) ∧
      parseCommandlineAdd "vsize=1280x720,fpsrange=30-65536".toList {} =
        .ok (0, videoAt 0 0 (30, 65536)) ∧
      setConfig (videoAt 0 0 (30, 65536)).omxConfig = none := by
  refine ⟨by decide +kernel, ?_, by decide +kernel, by decide +kernel⟩
  refine ⟨_, rfl, rfl, rfl, fun h => ?_⟩
  exact absurd h.inputBitrate (by decide)

end QCamx

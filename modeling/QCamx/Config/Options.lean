import QCamx.Config

/-!
# What each option of `parse_commandline_add` sets

Every option has its own part of the configuration, which it replaces by something that depends on
its value and on that part alone. Options of different parts therefore commute.

* `Part`, `Config.get`, `Config.set`: the parts of a configuration;
* `AddOpt.modeBit`, `rejects`: what an option does to `mode_config` and `err_found`;
* `addOption_ok`: both, for any option that is read without a fault;
* `effect`: the configuration after an option;
* **`effect_eq_set`**: an option replaces its own part;
* `LoopKeeps`, `addLoop_invariant`: a condition on every step that the loop makes, and the
  invariants that follow from it.
-/

namespace QCamx

open CString

/-! ## Sizes, modes and errors -/

/-- The options that read a size. -/
def AddOpt.isSize : AddOpt → Bool
  | .previewSize | .snapshotSize | .videoSize | .rawSize | .tofDepthSize | .tofIrSize => true
  | _ => false

/-- The bit that an option sets in `mode_config`. -/
def AddOpt.modeBit : AddOpt → ℕ
  | .previewSize => 1 <<< TestMode.preview.bit
  | .snapshotSize => 1 <<< TestMode.snapshot.bit
  | .videoSize => 1 <<< TestMode.video.bit
  | .tofDepthSize | .tofIrSize => 1 <<< TestMode.depth.bit
  | _ => 0

/-- The `mode_config` after a list of options. -/
def modeBits (os : List (AddOpt × CString)) (m : ℕ) : ℕ := os.foldl (fun m o => m ||| o.1.modeBit) m

/-- The values that an option answers with `err_found`. -/
def rejects (opt : AddOpt) (value : CString) : Bool :=
  match opt with
  | .enableRawStream =>
      let format := (scanUInt value).getD 0
      decide (¬ (format = halPixelFormatRaw16.toUInt32 ∨ format = halPixelFormatRaw12.toUInt32 ∨
        format = halPixelFormatRaw10.toUInt32))
  | .tofRangeMode => decide (¬ (atoi value = 0 ∨ atoi value = 1))
  | .tofImageType => decide (¬ (0 ≤ atoi value ∧ atoi value ≤ 4))
  | _ => false

theorem sizeOption_ok {value : CString} {store : Int32 → Int32 → Config → Config} {mode : ℕ}
    {st st' : AddState} (h : sizeOption value store mode st = .ok st') :
    ∃ width height, scanPair 'x' value (st.width, st.height) = (some width, some height) ∧
      st' = { st with
        config := store width height st.config
        width := some width
        height := some height
        modeConfig := st.modeConfig ||| mode } := by
  unfold sizeOption at h
  split at h
  case h_1 width height hscan => exact ⟨width, height, hscan, (Except.ok.inj h).symm⟩
  case h_2 => cases h

/-- **What an option does to `mode_config` and `err_found`.** -/
theorem addOption_ok {opt : AddOpt} {value : CString} {st st' : AddState}
    (h : addOption opt value st = .ok st') :
    st'.modeConfig = st.modeConfig ||| opt.modeBit ∧
      st'.errFound = (st.errFound || rejects opt value) := by
  cases opt with
  | previewSize | snapshotSize | videoSize | rawSize | tofDepthSize | tofIrSize =>
      simp only [addOption] at h
      obtain ⟨width, height, -, rfl⟩ := sizeOption_ok h
      exact ⟨rfl, (Bool.or_false _).symm⟩
  | fpsRange =>
      simp only [addOption, fpsRangeOption] at h
      split at h
      case h_1 =>
        obtain rfl := Except.ok.inj h
        exact ⟨(Nat.or_zero _).symm, (Bool.or_false _).symm⟩
      case h_2 => cases h
  | isBitrateConst | enableRawStream | tofRangeMode | tofImageType =>
      simp only [addOption] at h
      split_ifs at h with hvalue <;> obtain rfl := Except.ok.inj h <;>
        simp [AddOpt.modeBit, rejects, hvalue]
  | _ =>
      simp only [addOption] at h
      obtain rfl := Except.ok.inj h
      exact ⟨(Nat.or_zero _).symm, (Bool.or_false _).symm⟩

/-! ## The parts of a configuration -/

/-- The parts of a configuration that options set one by one. -/
inductive Part
  | camera | preview | snapshot | zsl | video | fps | codec | rates | raw | rawStream | rangeMode
  | imageType | depth | nothing | opmode | showFps
  deriving DecidableEq, Repr

/-- The type of a part. -/
abbrev Part.Val : Part → Type
  | camera | codec | rangeMode | imageType | showFps => Int32
  | preview | video | rawStream => StreamInfo
  | snapshot => StreamInfo × Bool
  | zsl => Bool
  | fps => Int32 × Int32
  | rates => VideoBitrateConfig
  | raw => Bool × Int32
  | depth => StreamInfo × StreamInfo × Bool
  | nothing => Unit
  | opmode => UInt32

namespace Config

/-- The content of a part. -/
def get (c : Config) : (p : Part) → p.Val
  | .camera => c.cameraId
  | .preview => c.previewStream
  | .snapshot => (c.snapshotStream, c.heicSnapshot)
  | .zsl => c.zslEnabled
  | .video => c.videoStream
  | .fps => c.fpsRange
  | .codec => c.isH265
  | .rates => c.videoRateConfig
  | .raw => (c.rawStreamEnable, c.rawformat)
  | .rawStream => c.rawStream
  | .rangeMode => c.rangeMode
  | .imageType => c.imageType
  | .depth => (c.depthStream, c.depthIRBGStream, c.depthIRBGEnabled)
  | .nothing => ()
  | .opmode => c.forceOpmode
  | .showFps => c.showFps

/-- The configuration with another content of a part. -/
def set (c : Config) : (p : Part) → p.Val → Config
  | .camera, x => { c with cameraId := x }
  | .preview, x => { c with previewStream := x }
  | .snapshot, x => { c with snapshotStream := x.1, heicSnapshot := x.2 }
  | .zsl, x => { c with zslEnabled := x }
  | .video, x => { c with videoStream := x }
  | .fps, x => { c with fpsRange := x }
  | .codec, x => { c with isH265 := x }
  | .rates, x => { c with videoRateConfig := x }
  | .raw, x => { c with rawStreamEnable := x.1, rawformat := x.2 }
  | .rawStream, x => { c with rawStream := x }
  | .rangeMode, x => { c with rangeMode := x }
  | .imageType, x => { c with imageType := x }
  | .depth, x => { c with depthStream := x.1, depthIRBGStream := x.2.1, depthIRBGEnabled := x.2.2 }
  | .nothing, _ => c
  | .opmode, x => { c with forceOpmode := x }
  | .showFps, x => { c with showFps := x }

@[simp] theorem get_set_self (c : Config) (p : Part) (x : p.Val) : (c.set p x).get p = x := by
  cases p <;> rfl

theorem get_set_of_ne (c : Config) {p q : Part} (h : p ≠ q) (x : p.Val) :
    (c.set p x).get q = c.get q := by
  cases p <;> cases q <;> first | rfl | exact absurd rfl h

theorem set_comm (c : Config) {p q : Part} (h : p ≠ q) (x : p.Val) (y : q.Val) :
    (c.set p x).set q y = (c.set q y).set p x := by
  cases p <;> cases q <;> first | rfl | exact absurd rfl h

end Config

/-- The part that an option sets. -/
def AddOpt.part : AddOpt → Part
  | .id => .camera
  | .previewSize | .previewFormat => .preview
  | .snapshotSize | .snapshotFormat => .snapshot
  | .zslMode => .zsl
  | .videoSize | .videoFormat => .video
  | .fpsRange => .fps
  | .codecType => .codec
  | .bitrate | .isBitrateConst | .targetBitrate => .rates
  | .enableRawStream => .raw
  | .rawSize => .rawStream
  | .tofRangeMode => .rangeMode
  | .tofImageType => .imageType
  | .tofDepthSize | .tofIrSize | .tofDepthFormat => .depth
  | .resultFile | .logFile => .nothing
  | .forceOpmode => .opmode
  | .showFps => .showFps

/-! ## An option replaces its own part -/

/-- The configuration after an option; the variables of a size that its value does not set are
`0`. -/
def effect (o : AddOpt × CString) (c : Config) : Config :=
  match addOption o.1 o.2 { config := c, width := some 0, height := some 0 } with
  | .ok st => st.config
  | .error _ => c

theorem exists_scanPair (sep : Char) (value : CString) (a b : Int32) :
    ∃ x y, scanPair sep value (some a, some b) = (some x, some y) := by
  rw [scanPair_eq]
  cases (convertPair sep value).1 <;> cases (convertPair sep value).2 <;> exact ⟨_, _, rfl⟩

/-- **An option replaces its own part** by something that depends on that part alone. -/
theorem effect_eq_set (o : AddOpt × CString) (c : Config) :
    effect o c =
      c.set o.1.part ((effect o (({} : Config).set o.1.part (c.get o.1.part))).get o.1.part) := by
  obtain ⟨opt, value⟩ := o
  cases opt with
  | previewSize | snapshotSize | videoSize | rawSize | tofDepthSize | tofIrSize =>
      obtain ⟨x, y, hscan⟩ := exists_scanPair 'x' value 0 0
      simp only [effect, addOption, sizeOption, hscan]
      rfl
  | fpsRange =>
      simp only [effect, addOption, fpsRangeOption]
      obtain ⟨a, b⟩ := scanPair '-' value (none, none)
      cases a <;> cases b <;> rfl
  | snapshotFormat =>
      simp only [effect, addOption, snapshotFormat]
      split_ifs <;> rfl
  | tofDepthFormat =>
      simp only [effect, addOption, tofDepthFormat]
      split_ifs <;> rfl
  | isBitrateConst | enableRawStream | tofRangeMode | tofImageType =>
      simp only [effect, addOption]
      split_ifs <;> rfl
  | _ => rfl

/-! ## The steps of the loop -/

/-- Every step that the loop makes meets the condition. -/
def LoopKeeps (P : CString → AddState → Prop) : List CString → AddState → Prop
  | [], _ => True
  | s :: ss, st => st.errFound = true ∨ P s st ∧
      match addStep s st with
      | .ok st' => LoopKeeps P ss st'
      | .error _ => True

instance decidableLoopKeeps (P : CString → AddState → Prop) [∀ s st, Decidable (P s st)] :
    ∀ ss st, Decidable (LoopKeeps P ss st)
  | [], _ => isTrue trivial
  | s :: ss, st =>
      have : Decidable (match addStep s st with
          | .ok st' => LoopKeeps P ss st'
          | .error _ => True) :=
        match addStep s st with
        | .ok st' => decidableLoopKeeps P ss st'
        | .error _ => isTrue trivial
      inferInstanceAs (Decidable (_ ∨ _ ∧ _))

/-- **The invariant rule of the loop.** -/
theorem addLoop_invariant {P : CString → AddState → Prop} {I : AddState → Prop}
    (hstep : ∀ s st st', I st → P s st → addStep s st = .ok st' → I st') {ss : List CString}
    {st st' : AddState} (hkeeps : LoopKeeps P ss st) (hst : I st)
    (h : addLoop ss st = .ok st') : I st' := by
  induction ss generalizing st with
  | nil =>
      obtain rfl := Except.ok.inj h
      exact hst
  | cons s ss ih =>
      rw [addLoop] at h
      split_ifs at h with herr
      · obtain rfl := Except.ok.inj h
        exact hst
      · obtain ⟨hP, hrest⟩ := hkeeps.resolve_left herr
        cases hs : addStep s st with
        | error f =>
            rw [hs] at h
            cases h
        | ok st₁ =>
            rw [hs] at h hrest
            exact ih hrest (hstep s st st₁ hst hP hs) h

theorem addStep_cases {s : CString} {st st' : AddState} (h : addStep s st = .ok st') :
    st' = st ∨ ∃ opt value, getsubopt addTokens s = (some opt, some value) ∧
      addOption opt value st = .ok st' := by
  unfold addStep at h
  split at h
  case h_1 => exact Or.inl (Except.ok.inj h).symm
  case h_2 => cases h
  case h_3 opt value hget => exact Or.inr ⟨opt, value, hget, h⟩

end QCamx

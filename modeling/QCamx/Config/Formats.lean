import QCamx.Config.Options
import QCamx.Lib.Guarded

/-!
# Formats and subformats

Allocation and the set-up of the streams look at the subformat of a stream, or at `_heic_snapshot`,
without the format that goes with it. The options set a subformat together with the format
`HAL_PIXEL_FORMAT_IMPLEMENTATION_DEFINED`, but no option takes it back when it sets another format.

* `Config.Consistent`: formats and subformats that go together;
* `KeepsFormat`: the options that leave no subformat behind;
* **`consistent_of_parsed`**: under that condition every configuration is consistent, after any
  number of parses;
* `not_consistent_of_not_keepsFormat`: any other option breaks this at once.
-/

namespace QCamx

open CString Guarded

/-! ## The invariant -/

/-- A stream with a subformat has the format that it refines. -/
def StreamInfo.Consistent (s : StreamInfo) : Prop :=
  s.subformat ≠ .none → s.format = halPixelFormatImplementationDefined

/-- The formats and subformats of a configuration go together. -/
structure Config.Consistent (c : Config) : Prop where
  preview : c.previewStream.Consistent
  snapshot : c.snapshotStream.Consistent
  video : c.videoStream.Consistent
  heic : c.heicSnapshot = true → c.snapshotStream.format = halPixelFormatImplementationDefined ∧
    c.snapshotStream.subformat = .yuv420NV12

/-- The format names without a subformat. -/
def AddOpt.plainFormats : AddOpt → List CString
  | .previewFormat => ["yuv420", "raw10", "raw12", "raw16", "y16"].map String.toList
  | .snapshotFormat => ["yuv420", "jpeg", "raw10", "raw12", "raw16"].map String.toList
  | .videoFormat => ["yuv420", "raw10", "raw12", "raw16", "y16"].map String.toList
  | _ => []

/-- An option that sets a format without a subformat finds no subformat in its stream. -/
def KeepsFormat (opt : AddOpt) (value : CString) (c : Config) : Prop :=
  match opt with
  | .previewFormat => value ∈ opt.plainFormats → c.previewStream.subformat = .none
  | .snapshotFormat => value ∈ opt.plainFormats → c.snapshotStream.subformat = .none
  | .videoFormat => value ∈ opt.plainFormats → c.videoStream.subformat = .none
  | .videoSize => c.videoStream.subformat = .none
  | _ => True

instance (opt : AddOpt) (value : CString) (c : Config) : Decidable (KeepsFormat opt value c) := by
  cases opt <;> unfold KeepsFormat <;> infer_instance

/-- The same for the next suboption of a string. -/
def StepKeepsFormat (s : CString) (st : AddState) : Prop :=
  match getsubopt addTokens s with
  | (some opt, some value) => KeepsFormat opt value st.config
  | _ => True

instance (s : CString) (st : AddState) : Decidable (StepKeepsFormat s st) := by
  unfold StepKeepsFormat
  split <;> infer_instance

/-- A parse of which every step meets the condition. -/
def ParseKeepsFormats (order : CString) (c : Config) : Prop :=
  LoopKeeps StepKeepsFormat (suboptions order) { config := c }

instance (order : CString) (c : Config) : Decidable (ParseKeepsFormats order c) :=
  inferInstanceAs (Decidable (LoopKeeps _ _ _))

/-- One parse of a configuration, whatever it returns. -/
def parseStep (order : CString) (c : Config) : Option Config :=
  ((parseCommandlineAdd order c).toOption).map Prod.snd

/-- The configurations that parses of the given kind lead to. -/
abbrev Parsed (ok : CString → Config → Prop) (c : Config) : Prop := Reachable parseStep ok {} c

/-! ## The handlers -/

theorem StreamInfo.Consistent.of_none {s : StreamInfo} (h : s.subformat = .none) : s.Consistent :=
  fun hne => absurd h hne

theorem previewFormat_consistent {value : CString} {s : StreamInfo} (h : s.Consistent)
    (hplain : value ∈ AddOpt.previewFormat.plainFormats → s.subformat = .none) :
    (previewFormat value s).Consistent := by
  unfold previewFormat
  split_ifs with h₁ h₂ h₃ h₄ h₅ h₆ h₇
  · exact .of_none (hplain (by rw [h₁]; decide))
  · exact fun _ => rfl
  · exact fun _ => rfl
  · exact .of_none (hplain (by rw [h₄]; decide))
  · exact .of_none (hplain (by rw [h₅]; decide))
  · exact .of_none (hplain (by rw [h₆]; decide))
  · exact .of_none (hplain (by rw [h₇]; decide))
  · exact h

theorem videoFormat_consistent {value : CString} {s : StreamInfo} (h : s.Consistent)
    (hplain : value ∈ AddOpt.videoFormat.plainFormats → s.subformat = .none) :
    (videoFormat value s).Consistent := by
  unfold videoFormat
  split_ifs with h₁ h₂ h₃ h₄ h₅ h₆ h₇ h₈ h₉
  · exact .of_none (hplain (by rw [h₁]; decide))
  · exact fun _ => rfl
  · exact fun _ => rfl
  · exact fun _ => rfl
  · exact fun _ => rfl
  · exact .of_none (hplain (by rw [h₆]; decide))
  · exact .of_none (hplain (by rw [h₇]; decide))
  · exact .of_none (hplain (by rw [h₈]; decide))
  · exact .of_none (hplain (by rw [h₉]; decide))
  · exact h

/-- A snapshot stream without a subformat is not for HEIC. -/
theorem Config.Consistent.of_snapshot {c : Config} (h : c.Consistent) {s : StreamInfo}
    (hbefore : c.snapshotStream.subformat = .none) (hs : s.subformat = .none) :
    Config.Consistent { c with snapshotStream := s } := by
  refine ⟨h.preview, .of_none hs, h.video, fun hheic => ?_⟩
  have := (h.heic hheic).2
  rw [hbefore] at this
  cases this

theorem snapshotFormat_consistent {value : CString} {c : Config} (h : c.Consistent)
    (hplain : value ∈ AddOpt.snapshotFormat.plainFormats → c.snapshotStream.subformat = .none) :
    (snapshotFormat value c).Consistent := by
  unfold snapshotFormat
  split_ifs with h₁ h₂ h₃ h₄ h₅ h₆
  · have hnone := hplain (by rw [h₁]; decide)
    exact h.of_snapshot hnone hnone
  · exact ⟨h.preview, fun _ => rfl, h.video, fun _ => ⟨rfl, rfl⟩⟩
  · have hnone := hplain (by rw [h₃]; decide)
    exact h.of_snapshot hnone hnone
  · have hnone := hplain (by rw [h₄]; decide)
    exact h.of_snapshot hnone hnone
  · have hnone := hplain (by rw [h₅]; decide)
    exact h.of_snapshot hnone hnone
  · have hnone := hplain (by rw [h₆]; decide)
    exact h.of_snapshot hnone hnone
  · exact h

/-- **What one option keeps.** -/
theorem addOption_consistent {opt : AddOpt} {value : CString} {st st' : AddState}
    (h : st.config.Consistent) (hkeeps : KeepsFormat opt value st.config)
    (hs : addOption opt value st = .ok st') : st'.config.Consistent := by
  obtain ⟨hpreview, hsnapshot, hvideo, hheic⟩ := h
  cases opt with
  | previewSize | snapshotSize | rawSize | tofDepthSize | tofIrSize =>
      simp only [addOption] at hs
      obtain ⟨width, height, -, rfl⟩ := sizeOption_ok hs
      exact ⟨hpreview, hsnapshot, hvideo, hheic⟩
  | videoSize =>
      simp only [addOption] at hs
      obtain ⟨width, height, -, rfl⟩ := sizeOption_ok hs
      exact ⟨hpreview, hsnapshot, .of_none hkeeps, hheic⟩
  | previewFormat =>
      obtain rfl := Except.ok.inj hs
      exact ⟨previewFormat_consistent hpreview hkeeps, hsnapshot, hvideo, hheic⟩
  | snapshotFormat =>
      obtain rfl := Except.ok.inj hs
      exact snapshotFormat_consistent ⟨hpreview, hsnapshot, hvideo, hheic⟩ hkeeps
  | videoFormat =>
      obtain rfl := Except.ok.inj hs
      exact ⟨hpreview, hsnapshot, videoFormat_consistent hvideo hkeeps, hheic⟩
  | fpsRange =>
      simp only [addOption, fpsRangeOption] at hs
      split at hs
      case h_1 =>
        obtain rfl := Except.ok.inj hs
        exact ⟨hpreview, hsnapshot, hvideo, hheic⟩
      case h_2 => cases hs
  | isBitrateConst | enableRawStream | tofRangeMode | tofImageType =>
      simp only [addOption] at hs
      split_ifs at hs <;> obtain rfl := Except.ok.inj hs <;>
        exact ⟨hpreview, hsnapshot, hvideo, hheic⟩
  | tofDepthFormat =>
      simp only [addOption, tofDepthFormat] at hs
      obtain rfl := Except.ok.inj hs
      split_ifs <;> exact ⟨hpreview, hsnapshot, hvideo, hheic⟩
  | _ =>
      obtain rfl := Except.ok.inj hs
      exact ⟨hpreview, hsnapshot, hvideo, hheic⟩

/-! ## Runs -/

theorem addStep_consistent {s : CString} {st st' : AddState} (h : st.config.Consistent)
    (hkeeps : StepKeepsFormat s st) (hs : addStep s st = .ok st') : st'.config.Consistent := by
  rcases addStep_cases hs with rfl | ⟨opt, value, hget, hopt⟩
  · exact h
  · unfold StepKeepsFormat at hkeeps
    rw [hget] at hkeeps
    exact addOption_consistent h hkeeps hopt

theorem parseStep_consistent {order : CString} {c c' : Config} (h : c.Consistent)
    (hkeeps : ParseKeepsFormats order c) (hs : parseStep order c = some c') : c'.Consistent := by
  unfold parseStep parseCommandlineAdd at hs
  cases hloop : addLoop (suboptions order) { config := c } with
  | error f =>
      rw [hloop] at hs
      cases hs
  | ok st =>
      have hst : st.config.Consistent :=
        addLoop_invariant (I := fun st => st.config.Consistent)
          (fun _ _ _ => addStep_consistent) hkeeps h hloop
      rw [hloop] at hs
      simp only [Except.map, Except.toOption, Option.map_some, Option.some.injEq] at hs
      obtain rfl := hs
      obtain ⟨hpreview, hsnapshot, hvideo, hheic⟩ := hst
      cases testModeOf st.modeConfig <;> exact ⟨hpreview, hsnapshot, hvideo, hheic⟩

theorem consistent_init : ({} : Config).Consistent where
  preview := .of_none rfl
  snapshot := .of_none rfl
  video := .of_none rfl
  heic h := by cases h

/-- **Formats and subformats go together**, after any parses that meet the condition. -/
theorem consistent_of_parsed {c : Config} (h : Parsed ParseKeepsFormats c) : c.Consistent :=
  h.invariant consistent_init fun _ _ _ _ hc hok hs => parseStep_consistent hc hok hs

/-! ## What is left behind -/

/-- A format without a subformat, and the subformat that the stream had. -/
def LeavesSubformat (s s' : StreamInfo) : Prop :=
  s'.format ≠ halPixelFormatImplementationDefined ∧ s'.subformat = s.subformat

theorem not_consistent_of_leaves {s s' : StreamInfo} (h : LeavesSubformat s s')
    (hne : s.subformat ≠ .none) : ¬ s'.Consistent :=
  fun hc => h.1 (hc (by rw [h.2]; exact hne))

theorem previewFormat_leaves {value : CString} (h : value ∈ AddOpt.previewFormat.plainFormats)
    (s : StreamInfo) : LeavesSubformat s (previewFormat value s) := by
  unfold previewFormat
  split_ifs with h₁ h₂ h₃ h₄ h₅ h₆ h₇
  · exact ⟨by dsimp only; decide, rfl⟩
  · rw [h₂] at h
    exact absurd h (by decide)
  · rw [h₃] at h
    exact absurd h (by decide)
  · exact ⟨by dsimp only; decide, rfl⟩
  · exact ⟨by dsimp only; decide, rfl⟩
  · exact ⟨by dsimp only; decide, rfl⟩
  · exact ⟨by dsimp only; decide, rfl⟩
  · simp only [AddOpt.plainFormats, List.map, List.mem_cons, List.not_mem_nil, h₁, h₄, h₅, h₆, h₇,
      or_self] at h

theorem videoFormat_leaves {value : CString} (h : value ∈ AddOpt.videoFormat.plainFormats)
    (s : StreamInfo) : LeavesSubformat s (videoFormat value s) := by
  unfold videoFormat
  split_ifs with h₁ h₂ h₃ h₄ h₅ h₆ h₇ h₈ h₉
  · exact ⟨by dsimp only; decide, rfl⟩
  · rw [h₂] at h
    exact absurd h (by decide)
  · rw [h₃] at h
    exact absurd h (by decide)
  · rw [h₄] at h
    exact absurd h (by decide)
  · rw [h₅] at h
    exact absurd h (by decide)
  · exact ⟨by dsimp only; decide, rfl⟩
  · exact ⟨by dsimp only; decide, rfl⟩
  · exact ⟨by dsimp only; decide, rfl⟩
  · exact ⟨by dsimp only; decide, rfl⟩
  · simp only [AddOpt.plainFormats, List.map, List.mem_cons, List.not_mem_nil, h₁, h₆, h₇, h₈, h₉,
      or_self] at h

theorem snapshotFormat_leaves {value : CString} (h : value ∈ AddOpt.snapshotFormat.plainFormats)
    (c : Config) : LeavesSubformat c.snapshotStream (snapshotFormat value c).snapshotStream := by
  unfold snapshotFormat
  split_ifs with h₁ h₂ h₃ h₄ h₅ h₆
  · exact ⟨by dsimp only; decide, rfl⟩
  · rw [h₂] at h
    exact absurd h (by decide)
  · exact ⟨by dsimp only; decide, rfl⟩
  · exact ⟨by dsimp only; decide, rfl⟩
  · exact ⟨by dsimp only; decide, rfl⟩
  · exact ⟨by dsimp only; decide, rfl⟩
  · simp only [AddOpt.plainFormats, List.map, List.mem_cons, List.not_mem_nil, h₁, h₃, h₄, h₅, h₆,
      or_self] at h

theorem not_consistent_of_not_keepsFormat {opt : AddOpt} {value : CString} {st st' : AddState}
    (hnot : ¬ KeepsFormat opt value st.config) (hs : addOption opt value st = .ok st') :
    ¬ st'.config.Consistent := by
  intro hc
  cases opt with
  | previewFormat =>
      obtain rfl := Except.ok.inj hs
      simp only [KeepsFormat, Classical.not_imp] at hnot
      exact not_consistent_of_leaves (previewFormat_leaves hnot.1 _) hnot.2 hc.preview
  | snapshotFormat =>
      obtain rfl := Except.ok.inj hs
      simp only [KeepsFormat, Classical.not_imp] at hnot
      exact not_consistent_of_leaves (snapshotFormat_leaves hnot.1 _) hnot.2 hc.snapshot
  | videoFormat =>
      obtain rfl := Except.ok.inj hs
      simp only [KeepsFormat, Classical.not_imp] at hnot
      exact not_consistent_of_leaves (videoFormat_leaves hnot.1 _) hnot.2 hc.video
  | videoSize =>
      simp only [addOption] at hs
      obtain ⟨width, height, -, rfl⟩ := sizeOption_ok hs
      have hleaves : LeavesSubformat st.config.videoStream
          { st.config.videoStream with
            width := width, height := height, format := halPixelFormatYCbCr420888 } :=
        ⟨by dsimp only; decide, rfl⟩
      exact not_consistent_of_leaves hleaves hnot hc.video
  | _ => exact hnot trivial

/-! ## Runs on fixed strings -/

theorem consistent_two_parses : ∃ c : Config, c.videoStream.subformat = .p010 ∧ c.Consistent := by
  obtain ⟨c, hc, hvideo⟩ : ∃ c, Parsed ParseKeepsFormats c ∧ c.videoStream.subformat = .p010 :=
    Reachable.exists_of_exec
      ["psize=640x480,vsize=1280x720,pformat=yuv420".toList, "vformat=p010".toList]
      (by decide +kernel)
  exact ⟨c, hvideo, consistent_of_parsed hc⟩

/-- A running preview is switched to 10-bit video and then to a video of another size: the format
is now `HAL_PIXEL_FORMAT_YCBCR_420_888`, the subformat still `P010`. -/
theorem p010_left_behind : ∃ c, Parsed (fun _ _ => True) c ∧
    c.videoStream.format = halPixelFormatYCbCr420888 ∧ c.videoStream.subformat = .p010 ∧
    ¬ c.Consistent := by
  obtain ⟨c, hc, hformat, hsubformat⟩ : ∃ c, Parsed (fun _ _ => True) c ∧
      c.videoStream.format = halPixelFormatYCbCr420888 ∧ c.videoStream.subformat = .p010 :=
    Reachable.exists_of_exec
      ["psize=640x480,vsize=1280x720,vformat=p010".toList, "psize=640x480,vsize=1920x1080".toList]
      (by decide +kernel)
  refine ⟨c, hc, hformat, hsubformat, fun h => ?_⟩
  have hvideo := h.video (by rw [hsubformat]; decide)
  rw [hformat] at hvideo
  exact absurd hvideo (by decide)

end QCamx

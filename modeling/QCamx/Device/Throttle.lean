import QCamx.Console.State
import QCamx.Device.Selection
import QCamx.Lib.Printf

/-!
# How often preview is in a request

At a high frame rate the video cases leave preview out of most requests: the upper bound of
`fpsrange` gives a video mode, the mode a skip pattern, and the request thread puts preview into the
frames that the pattern divides. The ladder of modes ends at 480 frames a second.

* `length_le_of_dvd`: how many multiples of a number a stretch has;
* `containingBetween_le`: a stream in a stretch of frame numbers, in every run;
* **`throttled_iff`**: the frame rates at which preview keeps to 60 frames a second.
-/

namespace QCamx

open Guarded CString

/-! ## Multiples in a stretch -/

theorem length_le_of_dvd {l : List ℕ} {r m k : ℕ} (hr : 0 < r) (hnodup : l.Nodup)
    (hl : ∀ n ∈ l, r ∣ n ∧ k ≤ n ∧ n < k + m * r) : l.length ≤ m := by
  -- the quotients are distinct, and begin with the first multiple from `k` on
  have hinj : ∀ a ∈ l, ∀ b ∈ l, a / r = b / r → a = b := by
    intro a ha b hb hab
    rw [← Nat.div_mul_cancel (hl a ha).1, ← Nat.div_mul_cancel (hl b hb).1, hab]
  have hquotients : (l.map (· / r)).Nodup :=
    (List.nodup_map_iff_inj_on hnodup).mpr hinj
  have hrange : l.map (· / r) ⊆ List.range' ((k + r - 1) / r) m := by
    intro q hq
    obtain ⟨n, hn, rfl⟩ := List.mem_map.mp hq
    obtain ⟨⟨d, rfl⟩, hle, hlt⟩ := hl n hn
    rw [List.mem_range'_1, Nat.mul_div_cancel_left d hr]
    have hfirst : (k + r - 1) / r ≤ d := by
      rw [← Nat.lt_succ_iff, Nat.div_lt_iff_lt_mul hr, Nat.succ_mul, mul_comm d r]
      omega
    refine ⟨hfirst, ?_⟩
    have hnext : k ≤ (k + r - 1) / r * r := by
      have := Nat.lt_div_mul_add hr (a := k + r - 1)
      omega
    by_contra hge
    have hle' : ((k + r - 1) / r + m) * r ≤ d * r := Nat.mul_le_mul_right r (not_lt.mp hge)
    rw [add_mul, mul_comm d r] at hle'
    omega
  have hlength := (hquotients.subperm hrange).length_le
  rwa [List.length_map, List.length_range'] at hlength

namespace Device

variable {cfg : Setup} {s : Device}

/-! ## A stream in a stretch of frame numbers -/

/-- The submitted requests that contain stream `i`, among the frame numbers `k, …, k + f - 1`. -/
def containingBetween (cfg : Setup) (s : Device) (i k f : ℕ) : ℕ :=
  s.log.submitted.countP fun x =>
    k ≤ x.frameNumber ∧ x.frameNumber < k + f ∧ Contains cfg x i

/-- A stream is in no more requests of a stretch than its skip pattern has multiples there. -/
theorem containingBetween_le {ok : Act → Device → Prop} (h : Run cfg ok s) {i f m : ℕ}
    (hi : i < cfg.camera3Streams.length) (hpos : 0 < runSkipPattern cfg.testCase cfg.config i)
    (hf : f ≤ m * runSkipPattern cfg.testCase cfg.config i) (k : ℕ) :
    containingBetween cfg s i k f ≤ m := by
  have hinv := selectionInv h
  unfold containingBetween
  rw [List.countP_eq_length_filter, ← List.length_map (·.frameNumber)]
  apply length_le_of_dvd (k := k) hpos
  · have hsorted := hinv.sorted.imp fun hlt => ne_of_lt hlt
    exact hsorted.sublist (List.filter_sublist.map _)
  · intro n hn
    obtain ⟨x, hx, rfl⟩ := List.mem_map.mp hn
    obtain ⟨hmem, hin⟩ := List.mem_filter.mp hx
    obtain ⟨hle, hlt, hcontains⟩ := of_decide_eq_true hin
    exact ⟨(((hinv.contents x hmem).contains_iff i hi).mp hcontains).2, hle, by omega⟩

/-- Among any `f` consecutive frame numbers at most 60 contain preview, `f` being the upper bound
of `fpsrange`. -/
def Throttled (cfg : Setup) (s : Device) : Prop :=
  ∀ k, containingBetween cfg s 0 k cfg.config.fpsRangeMax.toNat ≤ 60

/-- The two cases that throttle preview. -/
def ThrottlesPreview (tc : TestCase) : Prop := tc = .previewVideo ∨ tc = .hal3TestVideo

/-! ## The ladder of video modes -/

theorem runSkipPattern_preview {tc : TestCase} (htc : ThrottlesPreview tc) (c : QCamxConfig) :
    runSkipPattern tc c 0 = previewSkipPattern (videoMode c) := by
  rcases htc with rfl | rfl <;> rfl

theorem previewSkipPattern_pos (m : VideoMode) : 0 < previewSkipPattern m := by
  cases m <;> decide

/-- The skip pattern of every rung brings its frame rates down to 60. -/
theorem fpsRangeMax_le {c : QCamxConfig} (hf : c.fpsRangeMax ≤ 480) :
    c.fpsRangeMax.toNat ≤ 60 * previewSkipPattern (videoMode c) := by
  have hvalues : previewSkipPattern .normal = 1 ∧ previewSkipPattern .hfr60 = 1 ∧
      previewSkipPattern .hfr90 = 2 ∧ previewSkipPattern .hfr120 = 2 ∧
      previewSkipPattern .hfr240 = 4 ∧ previewSkipPattern .hfr480 = 8 := by decide
  unfold videoMode
  split_ifs <;> simp only [hvalues] <;> omega

/-- **Up to 480 frames a second preview is throttled**, in every run. -/
theorem throttled_of_le (htc : ThrottlesPreview cfg.testCase) (hf : cfg.config.fpsRangeMax ≤ 480)
    {ok : Act → Device → Prop} (h : Run cfg ok s) : Throttled cfg s := by
  intro k
  have hskip := runSkipPattern_preview htc cfg.config
  by_cases hnil : cfg.camera3Streams = []
  · have hzero : containingBetween cfg s 0 k cfg.config.fpsRangeMax.toNat = 0 := by
      rw [containingBetween, List.countP_eq_zero]
      intro x hx
      simp [Contains, hnil]
    omega
  · apply containingBetween_le h (List.length_pos_iff.mpr hnil)
    · rw [hskip]
      exact previewSkipPattern_pos _
    · rw [hskip]
      exact fpsRangeMax_le hf

/-! ## Beyond the ladder -/

theorem nodup_pair : [1, 2].Nodup := by decide

/-- A preview-video case with one buffer for each of its two streams. -/
def videoSetup (c : QCamxConfig) : Setup where
  testCase := .previewVideo
  config := c
  callbacks := some ⟨true, true, true⟩
  camera3Streams := [1, 2]
  allocated _ := [0]
  nodup_streams := nodup_pair
  length_streams := Or.inr rfl
  nodup_allocated _ := List.nodup_singleton 0

/-- One frame of `videoSetup` with both streams: its request is accepted, its result delivered, and
both buffers are given back. -/
def videoFrame (n : ℕ) : List Act :=
  [.iterate, .limit, .assemble, .assemble, .assemble, .settings, .insert, .submit true, .return,
    .unlock, .decrement].map .request ++
  deliverResult ⟨n, [⟨1, 0⟩, ⟨2, 0⟩], 1⟩ ++ [.take, .callback, .callback, .callback].map .result

/-- `id=0,psize=1280x720,pformat=yuv420,vsize=1280x720`, one by one. -/
def hdOptions : List CString :=
  ["id=0".toList, "psize=1280x720".toList, "pformat=yuv420".toList, "vsize=1280x720".toList]

/-- The value `30-f`. -/
def rangeValue (f : Int32) : CString := "30-".toList ++ printInt f.toInt

/-- The options `hdOptions` with `fpsrange=30-f`. -/
def fastOptions (f : Int32) : CString :=
  List.intercalate [','] (hdOptions ++ ["fpsrange".toList ++ '=' :: rangeValue f])

/-- The configuration of `fastOptions`. -/
def fastConfig (f : Int32) : Config where
  testMode := some .previewVideoOnly
  cameraId := 0
  previewStream :=
    { type := some .preview, width := 1280, height := 720, format := halPixelFormatYCbCr420888 }
  videoStream := { width := 1280, height := 720, format := halPixelFormatYCbCr420888 }
  fpsRange := (30, f)

theorem addLoop_append (ss ts : List CString) (st : AddState) :
    addLoop (ss ++ ts) st = (addLoop ss st).bind (addLoop ts) := by
  induction ss generalizing st with
  | nil => rfl
  | cons s ss ih =>
      rw [List.cons_append, addLoop, addLoop]
      split_ifs with herr
      · rw [Except.bind]
        cases ts with
        | nil => rfl
        | cons t ts => rw [addLoop, if_pos herr]
      · cases addStep s st with
        | error e => rfl
        | ok st' => exact ih st'

theorem scanPair_rangeValue (f : Int32) :
    scanPair '-' (rangeValue f) (none, none) = (some 30, some f) := by
  have hhigh : readInteger (printInt f.toInt) = some (f.toInt, []) := by
    have hend : ∀ c ∈ ([] : CString).head?, c.isDigit = false := by simp
    simpa using readInteger_printInt f.toInt hend
  have hlow : readInteger (rangeValue f) = some (30, '-' :: printInt f.toInt) :=
    readInteger_printInt 30 (by rintro c ⟨⟩; rfl)
  have hfits : toInt32 f.toInt = f := by
    have hlo := f.le_toInt
    have hhi := f.toInt_lt
    rw [toInt32, min_eq_right (by omega), max_eq_right (by omega), Int32.ofInt_toInt]
  have hthirty : toInt32 30 = 30 := by decide
  simp only [scanPair, scanInt, hlow, hhigh, hfits, hthirty, Option.map_some, if_true]

theorem addStep_rangeValue {f : Int32} (hf : 30 ≤ f.toInt) (st : AddState) :
    addStep ("fpsrange".toList ++ '=' :: rangeValue f) st =
      .ok { st with config := { st.config with fpsRange := (30, f) } } := by
  have hrange : ¬ f < 30 := by
    rw [Int32.lt_iff_toInt_lt]
    exact not_lt.mpr hf
  rw [addStep, getsubopt_append (a := AddOpt.fpsRange) (by decide) (by decide)]
  show addOption .fpsRange (rangeValue f) st = _
  rw [addOption, fpsRangeOption, scanPair_rangeValue]
  simp only [if_neg hrange]

theorem parse_fastOptions {f : Int32} (hf : 30 ≤ f.toInt) :
    parseCommandlineAdd (fastOptions f) {} = .ok (0, fastConfig f) := by
  have hcomma : ',' ∉ printInt f.toInt := by
    intro h
    rw [printInt, printSign, if_neg (by omega), List.nil_append] at h
    exact absurd (isDigit_toDigits _ _ h) (by decide)
  have hsplit : suboptions (fastOptions f) =
      hdOptions ++ ["fpsrange".toList ++ '=' :: rangeValue f] := by
    apply suboptions_intercalate
    intro s hs
    rcases List.mem_append.mp hs with hs | hs
    · exact (by decide : ∀ s ∈ hdOptions, ',' ∉ s ∧ s ≠ []) s hs
    · rw [List.mem_singleton.mp hs]
      simp [rangeValue, hcomma]
  obtain ⟨st, hst, hconfig, hmode, herr⟩ : ∃ st, addLoop hdOptions { config := {} } = .ok st ∧
      (∀ f, { st.config with testMode := some .previewVideoOnly, fpsRange := (30, f) } =
        fastConfig f) ∧ testModeOf st.modeConfig = some .previewVideoOnly ∧ st.errFound = false :=
    ⟨_, rfl, fun _ => rfl, by decide +kernel, rfl⟩
  have hlast : addLoop ["fpsrange".toList ++ '=' :: rangeValue f] st =
      .ok { st with config := { st.config with fpsRange := (30, f) } } := by
    rw [addLoop, if_neg (by simp [herr]), addStep_rangeValue hf]
    rfl
  rw [parseCommandlineAdd, hsplit, addLoop_append, hst, Except.bind, hlast, Except.map]
  simp only [hmode, herr, ← hconfig f]
  rfl

/-- A device with an output of `1280x720`, with one buffer for each stream. -/
def hdStart : Console.Start where
  characteristics :=
    ⟨some [halPixelFormatYCbCr420888, 1280, 720, Streams.configurationsOutput], [], (1280, 720)⟩
  stream := Nat.succ
  allocated _ := [0]
  stream_injective := Nat.succ_injective
  nodup_allocated _ := List.nodup_singleton 0

/-- The preview-video case that `fastOptions` starts on that device. -/
def fastSetup (f : Int32) : Setup := Console.setup false .previewVideo (fastConfig f) hdStart

theorem videoMode_fastConfig {f : Int32} (hf : 480 < f.toInt) :
    videoMode ((fastConfig f).toQCamxConfig false) = .normal := by
  have hmax : ((fastConfig f).toQCamxConfig false).fpsRangeMax = f.toInt := rfl
  rw [videoMode, hmax]
  split_ifs <;> first | rfl | omega

theorem initStreamsOf_fastConfig {f : Int32} (hf : 480 < f.toInt) :
    Streams.initStreamsOf hdStart.characteristics (fastConfig f) .previewVideo =
      .ok ⟨Streams.preInitStream hdStart.characteristics (fastConfig f) .previewVideo,
        Streams.normalMode⟩ := by
  have hcheck : Streams.checkStream hdStart.characteristics (fastConfig f).previewStream = .ok () ∧
      Streams.checkStream hdStart.characteristics (fastConfig f).videoStream = .ok () :=
    ⟨rfl, rfl⟩
  have hmode : ¬ VideoMode.hfr60.value ≤ (Streams.videoModeOf (fastConfig f)).value := by
    rw [Streams.videoModeOf, videoMode_fastConfig hf]
    decide
  rw [Streams.initStreamsOf, Streams.initVideoStream, hcheck.1, hcheck.2, Streams.videoOpMode,
    if_neg hmode]
  rfl

theorem fastSetup_eq {f : Int32} (hf : 480 < f.toInt) :
    fastSetup f = videoSetup ((fastConfig f).toQCamxConfig false) := by
  have hstreams : hdStart.camera3Streams .previewVideo (fastConfig f) = [1, 2] := by
    rw [Console.Start.camera3Streams, initStreamsOf_fastConfig hf]
    rfl
  rw [fastSetup, Console.setup, videoSetup, Setup.mk.injEq]
  exact ⟨rfl, rfl, rfl, hstreams, rfl, ite_self _, ite_self _⟩

theorem exists_run_fast : ∃ s, Run (fastSetup 481) HalContract s ∧
    containingBetween (fastSetup 481) s 0 0 61 = 61 :=
  Run.exists_of_exec ((List.range 61).flatMap videoFrame) (by decide +kernel)

theorem run_fast {f : Int32} (hf : 480 < f.toInt) {ok : Act → Device → Prop}
    (h : Run (fastSetup 481) ok s) : Run (fastSetup f) ok s := by
  have h481 : 480 < (481 : Int32).toInt := by decide
  have hmode := videoMode_fastConfig hf
  have hmode481 := videoMode_fastConfig h481
  rw [fastSetup_eq h481] at h
  rw [fastSetup_eq hf]
  have hinit : (videoSetup ((fastConfig 481).toQCamxConfig false)).init =
      (videoSetup ((fastConfig f).toQCamxConfig false)).init := by
    simp only [Setup.init, videoSetup, runRequestThread, runSkipPattern, hmode, hmode481]
    rfl
  have hpending : (videoSetup ((fastConfig 481).toQCamxConfig false)).maxPendingSize =
      (videoSetup ((fastConfig f).toQCamxConfig false)).maxPendingSize := by
    simp only [Setup.maxPendingSize, videoSetup, livingRequestExtAppend, hmode, hmode481]
  have hstep : step (videoSetup ((fastConfig 481).toQCamxConfig false)) =
      step (videoSetup ((fastConfig f).toQCamxConfig false)) := by
    funext a s
    unfold step
    split_ifs with hfault
    · rfl
    · cases a with
      | request a =>
          cases a with
          | limit => simp only [request, hpending]
          | _ => rfl
      | _ => rfl
  rw [Run, ← hinit, ← hstep]
  exact h

theorem containingBetween_mono {i k f g : ℕ} (hle : f ≤ g) :
    containingBetween cfg s i k f ≤ containingBetween cfg s i k g := by
  apply List.countP_mono_left
  intro x hx
  simp only [decide_eq_true_eq]
  rintro ⟨hk, hlt, hcontains⟩
  exact ⟨hk, by omega, hcontains⟩

theorem exists_not_throttled {f : Int32} (hf : 480 < f.toInt) :
    ∃ s, Run (fastSetup f) HalContract s ∧ ¬ Throttled (fastSetup f) s := by
  obtain ⟨s, hs, hcount⟩ := exists_run_fast
  refine ⟨s, run_fast hf hs, fun hthrottled => ?_⟩
  have h481 : 480 < (481 : Int32).toInt := by decide
  have hsame : ∀ k n, containingBetween (fastSetup 481) s 0 k n =
      containingBetween (fastSetup f) s 0 k n := by
    intro k n
    rw [fastSetup_eq h481, fastSetup_eq hf]
    rfl
  have hmax : (fastSetup f).config.fpsRangeMax = f.toInt := rfl
  have hle : containingBetween (fastSetup f) s 0 0 61 ≤
      containingBetween (fastSetup f) s 0 0 f.toInt.toNat :=
    containingBetween_mono (by omega)
  have hthrottled := hthrottled 0
  rw [hmax] at hthrottled
  rw [hsame] at hcount
  omega

/-- **The frame rates at which preview is throttled**: those of the ladder. For every other the
parser accepts options that give a case in which it is not. -/
theorem throttled_iff (f : Int32) :
    ((∀ (c : Config) (enableVideoEncoder : Bool) (tc : TestCase) (start : Console.Start)
      (s : Device), c.fpsRange.2 = f → ThrottlesPreview tc →
      Run (Console.setup enableVideoEncoder tc c start) (fun _ _ => True) s →
      Throttled (Console.setup enableVideoEncoder tc c start) s) ↔ f.toInt ≤ 480) ∧
    (480 < f.toInt → ∃ c start s, parseCommandlineAdd (fastOptions f) {} = .ok (0, c) ∧
      c.fpsRange.2 = f ∧ c.testMode.map TestMode.testCase = some .previewVideo ∧
      Run (Console.setup false .previewVideo c start) HalContract s ∧
      ¬ Throttled (Console.setup false .previewVideo c start) s) := by
  refine ⟨⟨fun h => ?_, fun hle c enableVideoEncoder tc start s hc htc hs => ?_⟩, fun hf => ?_⟩
  · by_contra hlt
    obtain ⟨s, hs, hnot⟩ := exists_not_throttled (not_le.mp hlt)
    exact hnot (h (fastConfig f) false .previewVideo hdStart s rfl (Or.inl rfl)
      (hs.mono fun _ _ _ _ _ _ => trivial))
  · apply throttled_of_le htc _ hs
    change c.fpsRange.2.toInt ≤ 480
    rw [hc]
    exact hle
  · obtain ⟨s, hs, hnot⟩ := exists_not_throttled hf
    exact ⟨fastConfig f, hdStart, s, parse_fastOptions (by omega), rfl, rfl, hs, hnot⟩

/-- At `fpsrange=30-481` preview is not throttled. -/
theorem not_throttled_fast : ∃ (c : Config) (start : Console.Start) (s : Device),
    parseCommandlineAdd "id=0,psize=1280x720,pformat=yuv420,vsize=1280x720,fpsrange=30-481".toList
      {} = .ok (0, c) ∧
    c.testMode.map TestMode.testCase = some .previewVideo ∧
      Run (Console.setup false .previewVideo c start) HalContract s ∧
      ¬ Throttled (Console.setup false .previewVideo c start) s := by
  obtain ⟨s, hs, hnot⟩ := exists_not_throttled (f := 481) (by decide)
  exact ⟨fastConfig 481, hdStart, s, by decide +kernel, rfl, hs, hnot⟩

end Device

end QCamx

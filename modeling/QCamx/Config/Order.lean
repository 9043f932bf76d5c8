import QCamx.Config.Options

/-!
# The order of the options

A string of options is parsed from left to right, so that an option could overwrite what an earlier
one has set. Of all pairs of options one does: `vsize` sets the format of the video stream, which
`vformat` sets as well.

* `orderText`: the text of a list of options, read back by `parse_orderText`;
* `effect_comm`: two options commute unless they are `vsize` and a `vformat` other than `yuv420`;
* **`orderIndependent_iff`**: the lists of options whose order does not matter.
-/

namespace QCamx

open CString

/-! ## Lists of options and their text -/

/-- The name of an option. -/
def AddOpt.name (opt : AddOpt) : CString :=
  ((addTokens.find? fun t => t.2 = opt).map Prod.fst).getD []

/-- `name=value`. -/
def optionText (o : AddOpt × CString) : CString := o.1.name ++ '=' :: o.2

/-- The options, separated by commas. -/
def orderText (os : List (AddOpt × CString)) : CString :=
  List.intercalate [','] (os.map optionText)

/-- The format names that an option knows. -/
def AddOpt.formats : AddOpt → List CString
  | .previewFormat =>
      ["yuv420", "yuv_ubwc", "yuv_ubwc_enc", "raw10", "raw12", "raw16", "y16"].map String.toList
  | .snapshotFormat => ["yuv420", "heic", "jpeg", "raw10", "raw12", "raw16"].map String.toList
  | .videoFormat =>
      ["yuv420", "yuv_ubwc", "ubwctp10", "p010", "yuv_ubwc_enc", "raw10", "raw12", "raw16",
        "y16"].map String.toList
  | .tofDepthFormat => ["raw10", "raw12", "raw16"].map String.toList
  | _ => []

/-- The values that an option is meant for. -/
def ValidValue (opt : AddOpt) (value : CString) : Prop :=
  match opt with
  | .previewSize | .snapshotSize | .videoSize | .rawSize | .tofDepthSize | .tofIrSize =>
      ∃ a b, convertPair 'x' value = (some a, some b)
  | .fpsRange => ∃ a b, convertPair '-' value = (some a, some b)
  | .previewFormat | .snapshotFormat | .videoFormat | .tofDepthFormat => value ∈ opt.formats
  | .id | .zslMode | .codecType | .isBitrateConst | .showFps => scanInt value ≠ none
  | .bitrate | .targetBitrate | .forceOpmode => scanUInt value ≠ none
  | .enableRawStream | .tofRangeMode | .tofImageType => rejects opt value = false
  | .resultFile | .logFile => True

/-- A list of well-formed options with distinct names. -/
structure WellFormed (os : List (AddOpt × CString)) : Prop where
  nodup : (os.map Prod.fst).Nodup
  noComma : ∀ o ∈ os, ',' ∉ o.2
  valid : ∀ o ∈ os, ValidValue o.1 o.2

theorem WellFormed.perm {os ps : List (AddOpt × CString)} (h : WellFormed os) (hp : ps.Perm os) :
    WellFormed ps where
  nodup := ((hp.map Prod.fst).nodup_iff).mpr h.nodup
  noComma o ho := h.noComma o (hp.mem_iff.mp ho)
  valid o ho := h.valid o (hp.mem_iff.mp ho)

theorem getsubopt_optionText (o : AddOpt × CString) :
    getsubopt addTokens (optionText o) = (some o.1, some o.2) := by
  obtain ⟨opt, value⟩ := o
  have hname : '=' ∉ opt.name := by cases opt <;> decide
  have hfind : addTokens.find? (fun t => t.1 = opt.name) = some (opt.name, opt) := by
    cases opt <;> decide
  exact getsubopt_append hname hfind value

theorem suboptions_orderText {os : List (AddOpt × CString)} (h : ∀ o ∈ os, ',' ∉ o.2) :
    suboptions (orderText os) = os.map optionText := by
  apply suboptions_intercalate
  intro s hs
  obtain ⟨o, ho, rfl⟩ := List.mem_map.mp hs
  have hname : ',' ∉ o.1.name := by cases o.1 <;> decide
  refine ⟨?_, by simp [optionText]⟩
  simp only [optionText, List.mem_append, List.mem_cons, not_or]
  exact ⟨hname, by decide, h o ho⟩

/-! ## Valid options -/

theorem addOption_of_valid {o : AddOpt × CString} (h : ValidValue o.1 o.2) (st : AddState) :
    ∃ st', addOption o.1 o.2 st = .ok st' ∧ st'.config = effect o st.config := by
  obtain ⟨opt, value⟩ := o
  cases opt with
  | previewSize | snapshotSize | videoSize | rawSize | tofDepthSize | tofIrSize =>
      obtain ⟨a, b, hscan⟩ := h
      have hpair : ∀ v, scanPair 'x' value v = (some a, some b) := by
        intro v
        rw [scanPair_eq, hscan]
        rfl
      simp only [effect, addOption, sizeOption, hpair]
      exact ⟨_, rfl, rfl⟩
  | fpsRange =>
      obtain ⟨a, b, hscan⟩ := h
      have hpair : scanPair '-' value (none, none) = (some a, some b) := hscan
      simp only [effect, addOption, fpsRangeOption, hpair]
      exact ⟨_, rfl, rfl⟩
  | isBitrateConst | enableRawStream | tofRangeMode | tofImageType =>
      simp only [effect, addOption]
      split_ifs <;> exact ⟨_, rfl, rfl⟩
  | _ => exact ⟨_, rfl, rfl⟩

theorem rejects_of_valid {opt : AddOpt} {value : CString} (h : ValidValue opt value) :
    rejects opt value = false := by
  cases opt with
  | enableRawStream | tofRangeMode | tofImageType => exact h
  | _ => rfl

/-- The configuration after a list of options. -/
def effects (os : List (AddOpt × CString)) (c : Config) : Config :=
  os.foldl (fun c o => effect o c) c

theorem addLoop_map_optionText {os : List (AddOpt × CString)}
    (h : ∀ o ∈ os, ValidValue o.1 o.2) {st : AddState} (herr : st.errFound = false) :
    ∃ st', addLoop (os.map optionText) st = .ok st' ∧ st'.config = effects os st.config ∧
      st'.modeConfig = modeBits os st.modeConfig ∧ st'.errFound = false := by
  induction os generalizing st with
  | nil => exact ⟨st, rfl, rfl, rfl, herr⟩
  | cons o os ih =>
      have ho := h o List.mem_cons_self
      obtain ⟨st₁, hst₁, hconfig⟩ := addOption_of_valid ho st
      obtain ⟨hmode, herr₁⟩ := addOption_ok hst₁
      rw [herr, rejects_of_valid ho] at herr₁
      obtain ⟨st', hst', hc, hm, he⟩ := ih (fun p hp => h p (List.mem_cons_of_mem _ hp)) herr₁
      refine ⟨st', ?_, ?_, ?_, he⟩
      · rw [List.map_cons, addLoop, herr, addStep, getsubopt_optionText]
        simp only [hst₁]
        exact hst'
      · rw [hc, hconfig]
        rfl
      · rw [hm, hmode]
        rfl

/-- **The text of a list of valid options is parsed option by option.** -/
theorem parse_orderText {os : List (AddOpt × CString)} (h : WellFormed os) (c : Config) :
    parseCommandlineAdd (orderText os) c =
      .ok (match testModeOf (modeBits os 0) with
        | some mode => (0, { effects os c with testMode := some mode })
        | none => (-1, effects os c)) := by
  have hst : ({ config := c } : AddState).errFound = false := rfl
  obtain ⟨st', hst', hc, hm, he⟩ := addLoop_map_optionText h.valid hst
  rw [parseCommandlineAdd, suboptions_orderText h.noComma, hst', Except.map, hm, hc, he]
  rfl

/-! ## Options that commute -/

/-- The pairs of options that set one part. -/
def sharedParts : List (AddOpt × AddOpt) :=
  [(.previewSize, .previewFormat), (.snapshotSize, .snapshotFormat), (.videoSize, .videoFormat),
    (.bitrate, .isBitrateConst), (.bitrate, .targetBitrate), (.isBitrateConst, .targetBitrate),
    (.tofDepthSize, .tofIrSize), (.tofDepthSize, .tofDepthFormat), (.tofIrSize, .tofDepthFormat),
    (.resultFile, .logFile)]

theorem mem_sharedParts (a b : AddOpt) : a ≠ b → a.part = b.part →
    (a, b) ∈ sharedParts ∨ (b, a) ∈ sharedParts := by
  cases a <;> cases b <;> decide

theorem effect_comm_of_part_ne {a b : AddOpt × CString} (h : a.1.part ≠ b.1.part) (c : Config) :
    effect a (effect b c) = effect b (effect a c) := by
  have ha := effect_eq_set a
  have hb := effect_eq_set b
  rw [ha (effect b c), hb (effect a c), hb c, ha c, Config.get_set_of_ne c h.symm,
    Config.get_set_of_ne c h, Config.set_comm c h]

/-- `vsize` and a `vformat` other than `yuv420`: both set the format of the video stream. -/
def Conflict (a b : AddOpt × CString) : Prop :=
  a.1 = .videoSize ∧ b.1 = .videoFormat ∧ b.2 ≠ "yuv420".toList

theorem effect_comm_of_mem {a b : AddOpt × CString} (h : (a.1, b.1) ∈ sharedParts)
    (hconflict : ¬ Conflict a b) (c : Config) :
    effect a (effect b c) = effect b (effect a c) := by
  obtain ⟨a, x⟩ := a
  obtain ⟨b, y⟩ := b
  obtain ⟨w, h', hscan⟩ := exists_scanPair 'x' x 0 0
  simp only [sharedParts, List.mem_cons, Prod.mk.injEq, List.not_mem_nil, or_false] at h
  rcases h with ⟨rfl, rfl⟩ | ⟨rfl, rfl⟩ | ⟨rfl, rfl⟩ | ⟨rfl, rfl⟩ | ⟨rfl, rfl⟩ | ⟨rfl, rfl⟩ |
    ⟨rfl, rfl⟩ | ⟨rfl, rfl⟩ | ⟨rfl, rfl⟩ | ⟨rfl, rfl⟩
  · simp only [effect, addOption, sizeOption, hscan, previewFormat]
    split_ifs <;> rfl
  · simp only [effect, addOption, sizeOption, hscan, snapshotFormat]
    split_ifs <;> rfl
  · have hy : y = "yuv420".toList := by
      by_contra hne
      exact hconflict ⟨rfl, rfl, hne⟩
    simp only [effect, addOption, sizeOption, hscan, videoFormat, if_pos hy]
  · simp only [effect, addOption]
    split_ifs <;> rfl
  · rfl
  · simp only [effect, addOption]
    split_ifs <;> rfl
  · obtain ⟨w₂, h₂, hscan₂⟩ := exists_scanPair 'x' y 0 0
    simp only [effect, addOption, sizeOption, hscan, hscan₂]
  · simp only [effect, addOption, sizeOption, hscan, tofDepthFormat]
    split_ifs <;> rfl
  · simp only [effect, addOption, sizeOption, hscan, tofDepthFormat]
    split_ifs <;> rfl
  · rfl

/-- **Two options commute** unless they conflict. -/
theorem effect_comm {a b : AddOpt × CString} (hne : a.1 ≠ b.1) (hab : ¬ Conflict a b)
    (hba : ¬ Conflict b a) (c : Config) : effect a (effect b c) = effect b (effect a c) := by
  by_cases hpart : a.1.part = b.1.part
  · rcases mem_sharedParts _ _ hne hpart with h | h
    · exact effect_comm_of_mem h hab c
    · exact (effect_comm_of_mem h hba c).symm
  · exact effect_comm_of_part_ne hpart c

theorem modeBits_perm {os ps : List (AddOpt × CString)} (h : ps.Perm os) (m : ℕ) :
    modeBits ps m = modeBits os m := by
  apply h.foldl_eq'
  intro a _ b _ m
  rw [Nat.or_assoc, Nat.or_comm a.1.modeBit, ← Nat.or_assoc]

theorem effects_perm {os ps : List (AddOpt × CString)} (h : ps.Perm os) (hos : WellFormed os)
    (hconflict : ∀ a ∈ os, ∀ b ∈ os, ¬ Conflict a b) (c : Config) :
    effects ps c = effects os c := by
  have hps := hos.perm h
  apply h.foldl_eq'
  intro a ha b hb c
  by_cases hab : a = b
  · rw [hab]
  · have hne : a.1 ≠ b.1 := fun heq => hab (List.inj_on_of_nodup_map hps.nodup ha hb heq)
    have ha' := h.mem_iff.mp ha
    have hb' := h.mem_iff.mp hb
    exact effect_comm hne.symm (hconflict b hb' a ha') (hconflict a ha' b hb') c

/-! ## Options that conflict -/

theorem effects_videoFormat {os : List (AddOpt × CString)}
    (h : ∀ o ∈ os, o.1 ≠ .videoSize ∧ o.1 ≠ .videoFormat) (c : Config) :
    (effects os c).videoStream = c.videoStream := by
  induction os generalizing c with
  | nil => rfl
  | cons o os ih =>
      have hpart : o.1.part ≠ .video := by
        obtain ⟨hsize, hformat⟩ := h o List.mem_cons_self
        revert hsize hformat
        cases o.1 <;> simp [AddOpt.part]
      have hkeep : (effect o c).videoStream = c.videoStream := by
        rw [effect_eq_set]
        exact Config.get_set_of_ne c hpart _
      exact (ih (fun p hp => h p (List.mem_cons_of_mem _ hp)) _).trans hkeep

theorem format_ne_of_conflict {value : CString} (hvalid : value ∈ AddOpt.videoFormat.formats)
    (hne : value ≠ "yuv420".toList) (s : StreamInfo) :
    (videoFormat value s).format ≠ halPixelFormatYCbCr420888 := by
  unfold videoFormat
  split_ifs with h₁ h₂ h₃ h₄ h₅ h₆ h₇ h₈ h₉
  · exact absurd h₁ hne
  case neg =>
    simp only [AddOpt.formats, List.map, List.mem_cons, List.not_mem_nil, h₁, h₂, h₃, h₄, h₅, h₆,
      h₇, h₈, h₉, or_self] at hvalid
  all_goals
    dsimp only
    decide

/-! ## The order of a list -/

/-- Every order of the options gives the same return code and the same configuration. -/
def OrderIndependent (os : List (AddOpt × CString)) : Prop :=
  ∀ ps : List (AddOpt × CString), ps.Perm os →
    parseCommandlineAdd (orderText ps) {} = parseCommandlineAdd (orderText os) {}

theorem videoStream_of_parse {os : List (AddOpt × CString)} (h : WellFormed os)
    {r : ℤ × Config} (hr : parseCommandlineAdd (orderText os) {} = .ok r) :
    r.2.videoStream = (effects os {}).videoStream := by
  rw [parse_orderText h] at hr
  obtain rfl := Except.ok.inj hr
  cases testModeOf (modeBits os 0) <;> rfl

theorem not_orderIndependent {os : List (AddOpt × CString)} (h : WellFormed os)
    {a b : AddOpt × CString} (ha : a ∈ os) (hb : b ∈ os) (hconflict : Conflict a b) :
    ¬ OrderIndependent os := by
  obtain ⟨hsize, hformat, hvalue⟩ := hconflict
  have hne : a ≠ b := by
    rintro rfl
    rw [hsize] at hformat
    cases hformat
  -- the other options
  have hb' : b ∈ os.erase a := (List.mem_erase_of_ne hne.symm).mpr hb
  let rest := (os.erase a).erase b
  have hab : (a :: b :: rest).Perm os :=
    ((List.perm_cons_erase hb').symm.cons a).trans (List.perm_cons_erase ha).symm
  have hba : (b :: a :: rest).Perm os := (List.Perm.swap a b rest).trans hab
  have hrest : ∀ o ∈ rest, o.1 ≠ .videoSize ∧ o.1 ≠ .videoFormat := by
    intro o ho
    have hnodup := (h.perm hab).nodup
    simp only [List.map_cons, List.nodup_cons, List.mem_cons, not_or] at hnodup
    have hmem : o.1 ∈ rest.map Prod.fst := List.mem_map_of_mem ho
    refine ⟨fun heq => hnodup.1.2 ?_, fun heq => hnodup.2.1 ?_⟩
    · rw [hsize, ← heq]
      exact hmem
    · rw [hformat, ← heq]
      exact hmem
  intro hind
  have hsame := (hind _ hab).trans (hind _ hba).symm
  have hr₁ := parse_orderText (h.perm hab) {}
  have hr₂ := parse_orderText (h.perm hba) {}
  have hvideo := (videoStream_of_parse (h.perm hab) hr₁).symm.trans
    ((congrArg (fun r : ℤ × Config => r.2.videoStream)
      (Except.ok.inj (hr₁.symm.trans (hsame.trans hr₂)))).trans
      (videoStream_of_parse (h.perm hba) hr₂))
  have hfirst : (effects (a :: b :: rest) {}).videoStream =
      (effect b (effect a {})).videoStream := effects_videoFormat hrest _
  have hsecond : (effects (b :: a :: rest) {}).videoStream =
      (effect a (effect b {})).videoStream := effects_videoFormat hrest _
  rw [hfirst, hsecond] at hvideo
  obtain ⟨a, x⟩ := a
  obtain ⟨b, y⟩ := b
  obtain rfl : a = .videoSize := hsize
  obtain rfl : b = .videoFormat := hformat
  obtain ⟨w, z, hscan⟩ := exists_scanPair 'x' x 0 0
  apply format_ne_of_conflict (h.valid _ hb) hvalue
    (effect (.videoSize, x) {}).videoStream
  simp only [effect, addOption, sizeOption, hscan] at hvideo ⊢
  exact congrArg StreamInfo.format hvideo

/-- **The lists whose order does not matter**: those without `vsize` or without a `vformat` other
than `yuv420`. -/
theorem orderIndependent_iff {os : List (AddOpt × CString)} (h : WellFormed os) :
    OrderIndependent os ↔ ∀ a ∈ os, ∀ b ∈ os, ¬ Conflict a b := by
  constructor
  · intro hind a ha b hb hconflict
    exact not_orderIndependent h ha hb hconflict hind
  · intro hconflict ps hp
    rw [parse_orderText h, parse_orderText (h.perm hp), effects_perm hp h hconflict,
      modeBits_perm hp]

/-- A preview size, a video size and a video format. -/
def videoOptions (format : CString) : List (AddOpt × CString) :=
  [(.previewSize, "640x480".toList), (.videoSize, "1280x720".toList), (.videoFormat, format)]

theorem wellFormed_videoOptions {format : CString} (h : format ∈ AddOpt.videoFormat.formats) :
    WellFormed (videoOptions format) where
  nodup := by simp [videoOptions]
  noComma o ho := by
    simp only [videoOptions, List.mem_cons, List.not_mem_nil, or_false] at ho
    rcases ho with rfl | rfl | rfl
    · decide
    · decide
    · revert format
      decide
  valid o ho := by
    simp only [videoOptions, List.mem_cons, List.not_mem_nil, or_false] at ho
    rcases ho with rfl | rfl | rfl
    · exact ⟨640, 480, by decide⟩
    · exact ⟨1280, 720, by decide⟩
    · exact h

theorem orderIndependent_yuv420 : OrderIndependent (videoOptions "yuv420".toList) := by
  apply (orderIndependent_iff (wellFormed_videoOptions (by decide))).mpr
  rintro a ha b hb ⟨-, hformat, hvalue⟩
  simp only [videoOptions, List.mem_cons, List.not_mem_nil, or_false] at hb
  rcases hb with rfl | rfl | rfl
  · cases hformat
  · cases hformat
  · exact hvalue rfl

/-- `vsize` after `vformat=p010` takes the format back. -/
theorem order_matters :
    WellFormed (videoOptions "p010".toList) ∧
      (parseCommandlineAdd "psize=640x480,vsize=1280x720,vformat=p010".toList {}).map
        (fun r => (r.1, r.2.videoStream.format)) = .ok (0, halPixelFormatImplementationDefined) ∧
      (parseCommandlineAdd "vformat=p010,vsize=1280x720,psize=640x480".toList {}).map
        (fun r => (r.1, r.2.videoStream.format)) = .ok (0, halPixelFormatYCbCr420888) ∧
      ¬ OrderIndependent (videoOptions "p010".toList) := by
  have h₁ : (parseCommandlineAdd "psize=640x480,vsize=1280x720,vformat=p010".toList {}).map
      (fun r => (r.1, r.2.videoStream.format)) = .ok (0, halPixelFormatImplementationDefined) := by
    decide +kernel
  have h₂ : (parseCommandlineAdd "vformat=p010,vsize=1280x720,psize=640x480".toList {}).map
      (fun r => (r.1, r.2.videoStream.format)) = .ok (0, halPixelFormatYCbCr420888) := by
    decide +kernel
  refine ⟨wellFormed_videoOptions (by decide), h₁, h₂, fun h => ?_⟩
  have hsame := h _ (List.reverse_perm _)
  have htext₁ : orderText (videoOptions "p010".toList) =
      "psize=640x480,vsize=1280x720,vformat=p010".toList := by decide
  have htext₂ : orderText (videoOptions "p010".toList).reverse =
      "vformat=p010,vsize=1280x720,psize=640x480".toList := by decide
  rw [htext₁, htext₂] at hsame
  rw [hsame, h₁] at h₂
  exact absurd h₂ (by decide)

end QCamx

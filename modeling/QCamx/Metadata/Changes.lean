import QCamx.Metadata.Handle

/-!
# The changes that are logged

Whether the blocks of `handle_metadata` log a value exactly when it differs from the recorded one.

* `record_eq_self`, `recorded_foldl`, `exists_line_foldl_iff`: what other blocks leave alone;
* `Exact`: one block on one result;
* `Changed`: the comparison of two values of a field, whatever its block tests;
* **`exact_of_regular`**: a block with a record of its own;
* **`exact_sceneMode_iff`**, **`exact_zoomValue`**, **`exact_showCropRegion_iff`**: the other three;
* **`reportsChanges_iff`**: all blocks on all results.
-/

namespace QCamx

/-! ## Loops that compare -/

theorem firstDifference_lt_iff {α : Type} [DecidableEq α] {a b : ℕ → α} {n i : ℕ} :
    firstDifference a b n i < i + n ↔ ∃ j, i ≤ j ∧ j < i + n ∧ a j ≠ b j := by
  induction n generalizing i with
  | zero =>
      constructor
      · intro h
        simp [firstDifference] at h
      · rintro ⟨j, hij, hj, -⟩
        omega
  | succ n ih =>
      rw [firstDifference]
      by_cases hne : a i ≠ b i
      · rw [if_pos hne]
        exact ⟨fun _ => ⟨i, le_rfl, by omega, hne⟩, fun _ => by omega⟩
      · rw [if_neg hne, show i + (n + 1) = i + 1 + n by omega, ih]
        constructor
        · rintro ⟨j, hij, hj, hd⟩
          exact ⟨j, by omega, hj, hd⟩
        · rintro ⟨j, hij, hj, hd⟩
          refine ⟨j, ?_, hj, hd⟩
          by_contra hlt
          obtain rfl : j = i := by omega
          exact hne hd

theorem cropDiffers_iff {a b : Vector Int32 4} : cropDiffers a b = true ↔ a ≠ b := by
  rw [cropDiffers, decide_eq_true_iff]
  show firstDifference (a[·]?) (b[·]?) 4 0 < 0 + 4 ↔ a ≠ b
  rw [firstDifference_lt_iff]
  constructor
  · rintro ⟨j, -, -, hd⟩ rfl
    exact hd rfl
  · intro hne
    by_contra hall
    apply hne
    ext i hi
    by_contra hd
    refine hall ⟨i, Nat.zero_le i, by omega, fun heq => hd ?_⟩
    rwa [Vector.getElem?_eq_getElem hi, Vector.getElem?_eq_getElem hi, Option.some_inj] at heq

/-- The test of the scene results sees the last four of them only. -/
theorem asdDiffers_iff {a b : Vector Int32 10} :
    asdDiffers a b = true ↔ ¬ ∀ j, 6 ≤ j → j < 10 → a[j]? = b[j]? := by
  rw [asdDiffers, decide_eq_true_iff]
  refine (firstDifference_lt_iff (n := 4) (i := 6)).trans ?_
  push Not
  rfl

/-! ## One block -/

namespace MetaEntry

variable {α : Type} (e : MetaEntry α) (h : MetaHandler) (r : MetadataResult) (st : MetaStat)

/-- The test of the block finds a difference. -/
def Differs : Prop := ∃ v, e.value h r = some v ∧ e.differs v (e.recorded st) = true

variable {e h r st}

theorem report_of_off (hoff : e.switch h.metaDump = 0) : e.report h r st = (st, []) := by
  rw [report, if_pos hoff]

theorem report_of_not_differs (hd : ¬ e.Differs h r st) : e.report h r st = (st, []) := by
  rw [report]
  split_ifs
  · rfl
  · split
    · rfl
    · rename_i v hv
      rw [if_neg fun heq => hd ⟨v, hv, heq⟩]

theorem report_of_differs (hon : e.switch h.metaDump ≠ 0) {v : α} (hv : e.value h r = some v)
    (hd : e.differs v (e.recorded st) = true) :
    e.report h r st = (e.store v st, e.lines r.frameNumber v (e.recorded st)) := by
  rw [report, if_neg hon, hv]
  simp only [hd, if_true]

end MetaEntry

namespace MetaField

variable {f g : MetaField} {h : MetaHandler} {r : MetadataResult} {st : MetaStat}

/-- The numeric fields, which have one line each. -/
def Numeric : MetaField → Prop
  | aeMode | awbMode | afMode | aeAntiMode | colorCorrectMode | controlMode => False
  | _ => True

/-- Two values of a field are different: numbers are compared as numbers, arrays as a whole. -/
def Changed : (f : MetaField) → f.Value → f.Value → Prop
  | afValue => fun a b : Binary32 => a.ne b = true
  | colorCorrectValue => fun a b : Binary32 => a.ne b = true
  | _ => fun a b => a ≠ b

/-- They are not. -/
def Same (f : MetaField) (a b : f.Value) : Prop := a = b ∨ ¬ f.Changed a b

/-- The value in a result is not the recorded one; an absent value is no change. -/
def Changes (f : MetaField) (h : MetaHandler) (r : MetadataResult) (st : MetaStat) : Prop :=
  ∃ v, f.entry.value h r = some v ∧ f.Changed v (f.entry.recorded st)

/-- The test of every block but that of the scene results is the comparison of the values. -/
theorem differs_iff_changed (hf : f ≠ sceneMode) {a b : f.Value} :
    f.entry.differs a b = true ↔ f.Changed a b := by
  cases f with
  | sceneMode => exact absurd rfl hf
  | zoomValue | showCropRegion => exact cropDiffers_iff
  | afValue | colorCorrectValue => exact Iff.rfl
  | exposureValue => exact bne_iff_ne (α := UInt64)
  | expPriority => exact bne_iff_ne (α := Int64)
  | _ => exact bne_iff_ne (α := Int32)

/-- The block whose record a block uses. -/
def record : MetaField → MetaField
  | showCropRegion => zoomValue
  | f => f

theorem report_eq (hf : f ≠ sceneMode) : f.report h r st = f.entry.report h r st := by
  cases f with
  | sceneMode => exact absurd rfl hf
  | _ => rfl

theorem lines_ne_nil (hf : f.Numeric) (frame : UInt32) (v old : f.Value) :
    f.entry.lines frame v old ≠ [] := by
  cases f with
  | aeMode | awbMode | afMode | aeAntiMode | colorCorrectMode | controlMode => exact hf.elim
  | _ => exact List.cons_ne_nil _ _

theorem recorded_store_self (v : f.Value) : f.entry.recorded (f.entry.store v st) = v := by
  cases f <;> rfl

theorem recorded_store (hne : f.record ≠ g.record) (v : g.Value) :
    f.entry.recorded (g.entry.store v st) = f.entry.recorded st := by
  cases f <;> cases g <;> first | rfl | exact absurd rfl hne

theorem reportSceneMode_of_present (hr : r.i32 .asdResults ≠ []) :
    reportSceneMode h r st = sceneModeEntry.report h r st := by
  simp only [reportSceneMode, if_neg hr, MetaEntry.report, sceneModeEntry, asdDiffers,
    decide_eq_true_eq]

/-- Without an entry, it prints and stores zeros. -/
theorem reportSceneMode_of_absent (hon : h.metaDump.sceneMode ≠ 0) (hr : r.i32 .asdResults = []) :
    reportSceneMode h r st =
      (sceneModeEntry.store (r.array 10 .asdResults) st,
        sceneModeEntry.lines r.frameNumber (r.array 10 .asdResults) st.asdresults) := by
  rw [reportSceneMode, if_neg hon]
  simp only [if_pos hr, if_pos (show 0 < 10 by decide), sceneModeEntry]

theorem report_fst (g : MetaField) (h : MetaHandler) (r : MetadataResult) (st : MetaStat) :
    (g.report h r st).1 = st ∨ ∃ v, (g.report h r st).1 = g.entry.store v st := by
  have hentry : (g.entry.report h r st).1 = st ∨
      ∃ v, (g.entry.report h r st).1 = g.entry.store v st := by
    rw [MetaEntry.report]
    split_ifs
    · exact .inl rfl
    · split
      · exact .inl rfl
      · split_ifs
        · exact .inr ⟨_, rfl⟩
        · exact .inl rfl
  by_cases hg : g = sceneMode
  · subst hg
    by_cases hon : h.metaDump.sceneMode = 0
    · rw [report, reportSceneMode, if_pos hon]
      exact .inl rfl
    · by_cases hr : r.i32 .asdResults = []
      · rw [report, reportSceneMode_of_absent hon hr]
        exact .inr ⟨_, rfl⟩
      · rw [report, reportSceneMode_of_present hr]
        exact hentry
  · rw [report_eq hg]
    exact hentry

theorem recorded_report (hne : f.record ≠ g.record) :
    f.entry.recorded (g.report h r st).1 = f.entry.recorded st := by
  rcases report_fst g h r st with heq | ⟨v, heq⟩
  · rw [heq]
  · rw [heq, recorded_store hne]

end MetaField

/-! ## The blocks of a result -/

open MetaField

section Blocks

variable {f : MetaField} {fs : List MetaField} {h : MetaHandler} {r : MetadataResult}

theorem recorded_foldl {v : f.Value}
    (hfs : ∀ g ∈ fs, ∀ st, f.entry.recorded st = v → f.entry.recorded (g.report h r st).1 = v)
    {p : MetaStat × List LogLine} (hp : f.entry.recorded p.1 = v) :
    f.entry.recorded (fs.foldl (handleStep h r) p).1 = v := by
  induction fs generalizing p with
  | nil => exact hp
  | cons g fs ih =>
      rw [List.foldl_cons]
      apply ih
      · intro g' hg'
        exact hfs g' (List.mem_cons_of_mem _ hg')
      · exact hfs g List.mem_cons_self p.1 hp

theorem exists_line_foldl_iff (hf : f ∉ fs) {p : MetaStat × List LogLine} :
    (∃ l ∈ (fs.foldl (handleStep h r) p).2, l.field = f) ↔ ∃ l ∈ p.2, l.field = f := by
  induction fs generalizing p with
  | nil => rfl
  | cons g fs ih =>
      rw [List.foldl_cons, ih fun hmem => hf (List.mem_cons_of_mem _ hmem), handleStep]
      have hne : g ≠ f := fun heq => hf (heq ▸ List.mem_cons_self)
      constructor
      · rintro ⟨l, hl, hfield⟩
        rcases List.mem_append.mp hl with hl | hl
        · exact ⟨l, hl, hfield⟩
        · obtain ⟨t, -, rfl⟩ := List.mem_map.mp hl
          exact absurd hfield hne
      · rintro ⟨l, hl, hfield⟩
        exact ⟨l, List.mem_append_left _ hl, hfield⟩

end Blocks

namespace MetaField

/-- The blocks before a block. -/
def preBlocks (f : MetaField) : List MetaField := MetaField.all.takeWhile (· ≠ f)

/-- The blocks after it. -/
def postBlocks (f : MetaField) : List MetaField := (MetaField.all.dropWhile (· ≠ f)).tail

theorem all_eq (f : MetaField) : MetaField.all = f.preBlocks ++ f :: f.postBlocks := by
  cases f <;> rfl

theorem not_mem_preBlocks (f : MetaField) : f ∉ f.preBlocks := by
  intro hmem
  have hne := List.mem_takeWhile_imp hmem
  simp at hne

theorem not_mem_postBlocks (f : MetaField) : f ∉ f.postBlocks := by
  cases f <;> decide

theorem record_eq_self {f : MetaField} (hf : f ≠ showCropRegion) : f.record = f := by
  cases f with
  | showCropRegion => exact absurd rfl hf
  | _ => rfl

/-- Only the zoom and the shown crop region have a record together. -/
theorem record_ne {f g : MetaField} (hzoom : f ≠ zoomValue) (hshow : f ≠ showCropRegion)
    (hne : g ≠ f) : f.record ≠ g.record := by
  rw [record_eq_self hshow]
  by_cases hg : g = showCropRegion
  · rw [hg]
    exact hzoom
  · rw [record_eq_self hg]
    exact hne.symm

end MetaField

/-! ## One block on one result -/

section Exact

variable (f : MetaField) (h : MetaHandler) (r : MetadataResult) (st : MetaStat)

/-- `_meta_stat` where a block begins. -/
def statBefore : MetaStat := (f.preBlocks.foldl (handleStep h r) (st, [])).1

/-- A line is logged exactly if the value differs from the recorded one, and what is recorded
afterwards is the value. -/
structure Exact : Prop where
  logged : (∃ l ∈ (handleMetadata h r st).2, l.field = f) ↔ f.Changes h r st
  recorded : f.Same ((f.entry.value h r).getD (f.entry.recorded st))
    (f.entry.recorded (handleMetadata h r st).1)

variable {f h r st}

theorem handleMetadata_eq (hpart : 1 ≤ r.partialResult) :
    handleMetadata h r st = f.postBlocks.foldl (handleStep h r)
      (handleStep h r (f.preBlocks.foldl (handleStep h r) (st, [])) f) := by
  rw [handleMetadata, if_pos hpart, f.all_eq, List.foldl_append, List.foldl_cons]

theorem exists_line_iff (hpart : 1 ≤ r.partialResult) :
    (∃ l ∈ (handleMetadata h r st).2, l.field = f) ↔
      (f.report h r (statBefore f h r st)).2 ≠ [] := by
  rw [handleMetadata_eq (f := f) hpart, exists_line_foldl_iff f.not_mem_postBlocks]
  have hpre := exists_line_foldl_iff (h := h) (r := r) f.not_mem_preBlocks (p := (st, []))
  simp only [List.not_mem_nil, false_and, exists_false, iff_false] at hpre
  rw [handleStep, ← statBefore]
  constructor
  · rintro ⟨l, hl, hfield⟩ hnil
    rw [hnil, List.map_nil, List.append_nil] at hl
    exact hpre ⟨l, hl, hfield⟩
  · intro hne
    obtain ⟨t, ht⟩ := List.exists_mem_of_ne_nil _ hne
    exact ⟨_, List.mem_append_right _ (List.mem_map_of_mem ht), rfl⟩

theorem recorded_statBefore
    (hpre : ∀ g ∈ f.preBlocks, ∀ st', f.entry.recorded st' = f.entry.recorded st →
      f.entry.recorded (g.report h r st').1 = f.entry.recorded st) :
    f.entry.recorded (statBefore f h r st) = f.entry.recorded st :=
  recorded_foldl hpre rfl

theorem recorded_handleMetadata (hpart : 1 ≤ r.partialResult) {v : f.Value}
    (hv : f.entry.recorded (f.report h r (statBefore f h r st)).1 = v)
    (hpost : ∀ g ∈ f.postBlocks, ∀ st', f.entry.recorded st' = v →
      f.entry.recorded (g.report h r st').1 = v) :
    f.entry.recorded (handleMetadata h r st).1 = v := by
  rw [handleMetadata_eq (f := f) hpart]
  exact recorded_foldl hpost hv

theorem exact_of_recorded (hpart : 1 ≤ r.partialResult) (hnum : f.Numeric)
    (hon : f.entry.switch h.metaDump ≠ 0)
    (htest : ∀ v, f.entry.value h r = some v →
      (f.entry.differs v (f.entry.recorded st) = true ↔ f.Changed v (f.entry.recorded st)))
    (hreport : f.report h r (statBefore f h r st) = f.entry.report h r (statBefore f h r st))
    (hbefore : f.entry.recorded (statBefore f h r st) = f.entry.recorded st)
    (hafter : f.entry.recorded (handleMetadata h r st).1 =
      f.entry.recorded (f.entry.report h r (statBefore f h r st)).1) : Exact f h r st := by
  have hdiffers : f.entry.Differs h r (statBefore f h r st) ↔ f.Changes h r st := by
    rw [MetaEntry.Differs, Changes, hbefore]
    exact exists_congr fun v => and_congr_right fun hv => htest v hv
  by_cases hd : f.entry.Differs h r (statBefore f h r st)
  · obtain ⟨v, hv, hne⟩ := hd
    have hrep := MetaEntry.report_of_differs hon hv hne
    constructor
    · rw [exists_line_iff hpart, hreport, hrep]
      exact ⟨fun _ => hdiffers.mp ⟨v, hv, hne⟩, fun _ => f.lines_ne_nil hnum _ _ _⟩
    · rw [hafter, hrep, f.recorded_store_self, hv]
      exact .inl rfl
  · have hrep := MetaEntry.report_of_not_differs hd
    constructor
    · rw [exists_line_iff hpart, hreport, hrep]
      exact ⟨fun hne => absurd rfl hne, fun hd' => absurd (hdiffers.mpr hd') hd⟩
    · rw [hafter, hrep, hbefore]
      cases hv : f.entry.value h r with
      | none => exact .inl rfl
      | some v =>
          right
          rw [Option.getD_some]
          exact fun hne => hd (hdiffers.mpr ⟨v, hv, hne⟩)

theorem recorded_report_of_ne (hzoom : f ≠ .zoomValue) (hshow : f ≠ .showCropRegion)
    {g : MetaField} (hg : g ≠ f) {v : f.Value} {st' : MetaStat} (hv : f.entry.recorded st' = v) :
    f.entry.recorded (g.report h r st').1 = v := by
  rw [recorded_report (record_ne hzoom hshow hg), hv]

/-- **A block with a record of its own reports exactly the changes.** -/
theorem exact_of_regular (hpart : 1 ≤ r.partialResult) (hnum : f.Numeric)
    (hon : f.entry.switch h.metaDump ≠ 0) (hscene : f ≠ .sceneMode) (hzoom : f ≠ .zoomValue)
    (hshow : f ≠ .showCropRegion) : Exact f h r st := by
  apply exact_of_recorded hpart hnum hon (fun _ _ => differs_iff_changed hscene)
    (report_eq hscene)
  · apply recorded_statBefore
    intro g hg st' hv
    exact recorded_report_of_ne hzoom hshow (ne_of_mem_of_not_mem hg f.not_mem_preBlocks) hv
  · apply recorded_handleMetadata hpart (by rw [report_eq hscene])
    intro g hg st' hv
    exact recorded_report_of_ne hzoom hshow (ne_of_mem_of_not_mem hg f.not_mem_postBlocks) hv

/-! ## The other three blocks -/

theorem asdresults_statBefore : (statBefore .sceneMode h r st).asdresults = st.asdresults := by
  apply recorded_statBefore (f := .sceneMode)
  intro g hg st' hv
  exact recorded_report_of_ne (by decide) (by decide)
    (ne_of_mem_of_not_mem hg (not_mem_preBlocks .sceneMode)) hv

theorem asdresults_handleMetadata (hpart : 1 ≤ r.partialResult) {v : Vector Int32 10}
    (hv : (MetaField.report .sceneMode h r (statBefore .sceneMode h r st)).1.asdresults = v) :
    (handleMetadata h r st).1.asdresults = v := by
  apply recorded_handleMetadata (f := .sceneMode) hpart hv
  intro g hg st' hv'
  exact recorded_report_of_ne (by decide) (by decide)
    (ne_of_mem_of_not_mem hg (not_mem_postBlocks .sceneMode)) hv'

/-- The scene results of a result. -/
def MetadataResult.asd (r : MetadataResult) : Vector Int32 10 := r.array 10 .asdResults

theorem changes_sceneMode_iff : MetaField.Changes .sceneMode h r st ↔ r.asd ≠ st.asdresults := by
  constructor
  · rintro ⟨v, hv, hne⟩
    rw [← Option.some.inj hv] at hne
    exact hne
  · exact fun hne => ⟨r.asd, rfl, hne⟩

/-- Without an entry zeros are logged, whatever was recorded. -/
theorem exact_sceneMode_of_absent (hpart : 1 ≤ r.partialResult) (hon : h.metaDump.sceneMode ≠ 0)
    (hr : r.i32 .asdResults = []) :
    Exact .sceneMode h r st ↔ st.asdresults ≠ Vector.replicate 10 0 := by
  have hchanges := @changes_sceneMode_iff h r st
  have hrep : reportSceneMode h r (statBefore .sceneMode h r st) = _ :=
    reportSceneMode_of_absent hon hr
  have hlogged : ∃ l ∈ (handleMetadata h r st).2, l.field = .sceneMode := by
    rw [exists_line_iff hpart, MetaField.report, hrep]
    exact List.cons_ne_nil _ _
  have hzero : r.asd = Vector.replicate 10 0 := r.array_of_absent hr
  rw [hzero] at hchanges
  constructor
  · intro hexact heq
    exact hchanges.mp (hexact.logged.mp hlogged) heq.symm
  · intro hne
    constructor
    · exact iff_of_true hlogged (hchanges.mpr (Ne.symm hne))
    · have hreported : (MetaField.report .sceneMode h r
          (statBefore .sceneMode h r st)).1.asdresults = r.asd := by
        rw [MetaField.report, hrep]
        rfl
      exact .inl (asdresults_handleMetadata hpart hreported).symm

/-- An entry is reported properly unless it has changed in the first six elements only. -/
theorem exact_sceneMode_of_present (hpart : 1 ≤ r.partialResult) (hon : h.metaDump.sceneMode ≠ 0)
    (hr : r.i32 .asdResults ≠ []) :
    Exact .sceneMode h r st ↔ ¬ (r.asd ≠ st.asdresults ∧
      ∀ j, 6 ≤ j → j < 10 → r.asd[j]? = st.asdresults[j]?) := by
  have hrep : MetaField.report .sceneMode h r (statBefore .sceneMode h r st) =
      (MetaField.entry .sceneMode).report h r (statBefore .sceneMode h r st) :=
    reportSceneMode_of_present hr
  constructor
  · rintro hexact ⟨hne, hlast⟩
    -- the block sees no difference and logs nothing
    have hnot : ¬ sceneModeEntry.Differs h r (statBefore .sceneMode h r st) := by
      rintro ⟨v, hv, hd⟩
      rw [← Option.some.inj hv] at hd
      refine asdDiffers_iff.mp hd fun j hlo hhi => ?_
      rw [show sceneModeEntry.recorded (statBefore .sceneMode h r st) = st.asdresults from
        asdresults_statBefore]
      exact hlast j hlo hhi
    have hline := hexact.logged.mpr (changes_sceneMode_iff.mpr hne)
    have hnone : (MetaField.entry .sceneMode).report h r (statBefore .sceneMode h r st) = _ :=
      MetaEntry.report_of_not_differs hnot
    rw [exists_line_iff hpart, hrep, hnone] at hline
    exact hline rfl
  · intro hnot
    apply exact_of_recorded (f := .sceneMode) hpart trivial hon ?_ hrep asdresults_statBefore
    · rw [← hrep]
      exact asdresults_handleMetadata hpart rfl
    · intro v hv
      obtain rfl := Option.some.inj hv
      constructor
      · rintro hd heq
        refine asdDiffers_iff.mp hd fun j _ _ => ?_
        rw [heq]
      · intro hne
        by_contra hd
        refine hnot ⟨hne, fun j hlo hhi => ?_⟩
        by_contra hj
        exact hd (asdDiffers_iff.mpr fun hall => hj (hall j hlo hhi))

/-- **The scene results** are not reported properly exactly where they are absent and the recorded
ones are zeros, and where they have changed but for the last four. -/
theorem exact_sceneMode_iff (hpart : 1 ≤ r.partialResult) (hon : h.metaDump.sceneMode ≠ 0) :
    Exact .sceneMode h r st ↔
      ¬ (r.i32 .asdResults = [] ∧ st.asdresults = Vector.replicate 10 0) ∧
      ¬ (r.i32 .asdResults ≠ [] ∧ r.asd ≠ st.asdresults ∧
        ∀ j, 6 ≤ j → j < 10 → r.asd[j]? = st.asdresults[j]?) := by
  by_cases hr : r.i32 .asdResults = []
  · rw [exact_sceneMode_of_absent hpart hon hr]
    simp only [hr, true_and, ne_eq, not_true_eq_false, false_and, not_false_eq_true, and_true]
  · rw [exact_sceneMode_of_present hpart hon hr]
    simp only [hr, false_and, not_false_eq_true, ne_eq, true_and]

/-- The crop region of a result. -/
def MetadataResult.cropRegion (r : MetadataResult) : Vector Int32 4 := r.array 4 .scalerCropRegion

theorem differs_crop_iff :
    zoomValueEntry.Differs h r st ↔ r.cropRegion ≠ st.cropregion := by
  rw [← cropDiffers_iff]
  simp [MetaEntry.Differs, zoomValueEntry, MetadataResult.cropRegion]

theorem report_zoomValue :
    MetaField.report .zoomValue h r st = zoomValueEntry.report h r st := rfl

theorem report_showCropRegion :
    MetaField.report .showCropRegion h r st = showCropRegionEntry.report h r st := rfl

theorem cropregion_report {g : MetaField} (hg : g.record ≠ .zoomValue) :
    (g.report h r st).1.cropregion = st.cropregion :=
  recorded_report (f := .zoomValue) hg.symm

theorem cropregion_report_of_eq (g : MetaField) (hst : st.cropregion = r.cropRegion) :
    (g.report h r st).1.cropregion = r.cropRegion := by
  have hnot : ¬ zoomValueEntry.Differs h r st := by
    rw [differs_crop_iff, not_not]
    exact hst.symm
  have hnot' : ¬ showCropRegionEntry.Differs h r st := hnot
  by_cases hg : g.record = .zoomValue
  · cases g with
    | zoomValue => rw [report_zoomValue, MetaEntry.report_of_not_differs hnot, hst]
    | showCropRegion => rw [report_showCropRegion, MetaEntry.report_of_not_differs hnot', hst]
    | _ => cases hg
  · rw [cropregion_report hg, hst]

theorem cropregion_report_zoom (hon : h.metaDump.zoomValue ≠ 0) :
    (MetaField.report .zoomValue h r st).1.cropregion = r.cropRegion := by
  by_cases hst : st.cropregion = r.cropRegion
  · exact cropregion_report_of_eq .zoomValue hst
  · obtain ⟨v, hv, hd⟩ := differs_crop_iff.mpr (Ne.symm hst)
    rw [report_zoomValue, MetaEntry.report_of_differs hon hv hd]
    exact (Option.some.inj hv).symm

/-- **The zoom is reported properly**, whatever the block of the shown crop region does. -/
theorem exact_zoomValue (hpart : 1 ≤ r.partialResult) (hon : h.metaDump.zoomValue ≠ 0) :
    Exact .zoomValue h r st := by
  have hpre : ∀ g ∈ MetaField.preBlocks .zoomValue, g.record ≠ .zoomValue := by decide
  have hrep : ∀ st', MetaField.report .zoomValue h r st' =
      (MetaField.entry .zoomValue).report h r st' := fun _ => rfl
  apply exact_of_recorded (f := .zoomValue) hpart trivial hon
    (fun _ _ => differs_iff_changed (by decide)) (hrep _)
  · apply recorded_statBefore (f := .zoomValue)
    intro g hg st' hv
    exact (cropregion_report (hpre g hg)).trans hv
  · rw [← hrep]
    apply recorded_handleMetadata (f := .zoomValue) hpart rfl
    intro g hg st' hv
    have hzoom : (MetaField.report .zoomValue h r (statBefore .zoomValue h r st)).1.cropregion =
        r.cropRegion := cropregion_report_zoom hon
    exact (cropregion_report_of_eq g (hv.trans hzoom)).trans hzoom.symm

theorem cropregion_statBefore_show (hon : h.metaDump.zoomValue ≠ 0) :
    (statBefore .showCropRegion h r st).cropregion = r.cropRegion := by
  have hsplit : MetaField.preBlocks .showCropRegion = MetaField.preBlocks .zoomValue ++
      .zoomValue :: [.zslMode, .numFrames, .expMetering, .selPriority, .expPriority,
        .jpegquality] := by decide
  rw [statBefore, hsplit, List.foldl_append, List.foldl_cons]
  apply recorded_foldl (f := .zoomValue)
  · intro g _ st' hv
    exact cropregion_report_of_eq g hv
  · exact cropregion_report_zoom hon

/-- **The shown crop region** is not reported properly exactly where the zoom is logged too and the
region has changed. -/
theorem exact_showCropRegion_iff (hpart : 1 ≤ r.partialResult)
    (hon : h.metaDump.showCropRegion ≠ 0) :
    Exact .showCropRegion h r st ↔
      ¬ (h.metaDump.zoomValue ≠ 0 ∧ r.cropRegion ≠ st.cropregion) := by
  have hrep : ∀ st', MetaField.report .showCropRegion h r st' =
      (MetaField.entry .showCropRegion).report h r st' := fun _ => rfl
  have hpost : ∀ g ∈ MetaField.postBlocks .showCropRegion, g.record ≠ .zoomValue := by decide
  constructor
  · rintro hexact ⟨hzoom, hne⟩
    have hsame : ¬ zoomValueEntry.Differs h r (statBefore .showCropRegion h r st) := by
      rw [differs_crop_iff, not_not]
      exact (cropregion_statBefore_show hzoom).symm
    have hnot : ¬ showCropRegionEntry.Differs h r (statBefore .showCropRegion h r st) := hsame
    have hline := hexact.logged.mpr ⟨_, rfl, hne⟩
    rw [exists_line_iff hpart, report_showCropRegion,
      MetaEntry.report_of_not_differs hnot] at hline
    exact hline rfl
  · intro hnot
    apply exact_of_recorded (f := .showCropRegion) hpart trivial hon
      (fun _ _ => differs_iff_changed (by decide)) (hrep _)
    · apply recorded_statBefore (f := .showCropRegion)
      intro g hg st' hv
      have hv' : st'.cropregion = st.cropregion := hv
      by_cases hg' : g.record = .zoomValue
      · have hgz : g = .zoomValue := by
          cases g with
          | zoomValue => rfl
          | showCropRegion => exact absurd hg (not_mem_preBlocks .showCropRegion)
          | _ => cases hg'
        subst hgz
        by_cases hzoom : h.metaDump.zoomValue = 0
        · rw [report_zoomValue, MetaEntry.report_of_off hzoom]
          exact hv
        · have heq : r.cropRegion = st.cropregion := by
            by_contra hne
            exact hnot ⟨hzoom, hne⟩
          exact (cropregion_report_of_eq .zoomValue (hv'.trans heq.symm)).trans heq
      · exact (cropregion_report hg').trans hv
    · rw [← hrep]
      apply recorded_handleMetadata (f := .showCropRegion) hpart rfl
      intro g hg st' hv
      exact (cropregion_report (hpost g hg)).trans hv

end Exact

/-! ## All blocks -/

section Run

variable {h : MetaHandler} {st : MetaStat}

/-- Every numeric field whose switch is on is reported properly. -/
def ReportsChanges (h : MetaHandler) (r : MetadataResult) (st : MetaStat) : Prop :=
  ∀ f : MetaField, f.Numeric → f.entry.switch h.metaDump ≠ 0 → Exact f h r st

/-- The scene results are wanted and absent, and those recorded are zeros. -/
def NoScene (h : MetaHandler) (r : MetadataResult) (st : MetaStat) : Prop :=
  h.metaDump.sceneMode ≠ 0 ∧ r.i32 .asdResults = [] ∧ st.asdresults = Vector.replicate 10 0

/-- The scene results are wanted and have changed, but the last four have not. -/
def SceneUnseen (h : MetaHandler) (r : MetadataResult) (st : MetaStat) : Prop :=
  h.metaDump.sceneMode ≠ 0 ∧ r.i32 .asdResults ≠ [] ∧ r.asd ≠ st.asdresults ∧
    ∀ j, 6 ≤ j → j < 10 → r.asd[j]? = st.asdresults[j]?

/-- Both blocks with a crop region are on, and it has changed. -/
def CropTwice (h : MetaHandler) (r : MetadataResult) (st : MetaStat) : Prop :=
  h.metaDump.zoomValue ≠ 0 ∧ h.metaDump.showCropRegion ≠ 0 ∧ r.cropRegion ≠ st.cropregion

theorem reportsChanges_step_iff {r : MetadataResult} (hpart : 1 ≤ r.partialResult) :
    ReportsChanges h r st ↔ ¬ NoScene h r st ∧ ¬ SceneUnseen h r st ∧ ¬ CropTwice h r st := by
  constructor
  · intro hall
    refine ⟨?_, ?_, ?_⟩
    · rintro ⟨hon, habsent⟩
      exact ((exact_sceneMode_iff hpart hon).mp (hall .sceneMode trivial hon)).1 habsent
    · rintro ⟨hon, hunseen⟩
      exact ((exact_sceneMode_iff hpart hon).mp (hall .sceneMode trivial hon)).2 hunseen
    · rintro ⟨hzoom, hon, hne⟩
      exact (exact_showCropRegion_iff hpart hon).mp (hall .showCropRegion trivial hon)
        ⟨hzoom, hne⟩
  · rintro ⟨hscene, hunseen, hcrop⟩ f hnum hon
    by_cases hf : f = .sceneMode
    · subst hf
      exact (exact_sceneMode_iff hpart hon).mpr
        ⟨fun habsent => hscene ⟨hon, habsent⟩, fun h => hunseen ⟨hon, h⟩⟩
    by_cases hf' : f = .zoomValue
    · subst hf'
      exact exact_zoomValue hpart hon
    by_cases hf'' : f = .showCropRegion
    · subst hf''
      exact (exact_showCropRegion_iff hpart hon).mpr fun hne => hcrop ⟨hne.1, hon, hne.2⟩
    exact exact_of_regular hpart hnum hon hf hf' hf''

/-- Something holds of every result that is handled, and of what was recorded before it. -/
def AtEachResult (h : MetaHandler) (results : List MetadataResult) (st : MetaStat)
    (P : MetadataResult → MetaStat → Prop) : Prop :=
  ∀ pre r post, results = pre ++ r :: post → 1 ≤ r.partialResult → P r (statAfter h pre st)

/-- A handler that logs the scene results. -/
def sceneHandler : MetaHandler where
  metaDump := { sceneMode := 1 }

/-- A first result without any entry. -/
def emptyResult : MetadataResult where
  frameNumber := 0
  partialResult := 1
  whole _ := .inl rfl

/-- A first result with ten scene results, the last four of them zeros. -/
def landscapeResult : MetadataResult where
  frameNumber := 0
  partialResult := 1
  i32 t := if t = .asdResults then [1, 2, 3, 4, 5, 6, 0, 0, 0, 0] else []
  whole t := by
    split_ifs with ht
    · exact .inr (by rw [ht]; decide)
    · exact .inl rfl

end Run

end QCamx

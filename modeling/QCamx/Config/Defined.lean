import QCamx.Config.MetaDump
import QCamx.Config.Rounds
import QCamx.Config.Sizes
import QCamx.Lib.Outcome

/-!
# The strings on which the three parsers are defined

A handler reads its value without looking whether there is one, and most handlers do not look at
what `sscanf` returns. For each parser, the strings for which nothing goes wrong are described by
their suboptions.

* `addLoop_defined_iff`: `parse_commandline_add`; the first size has to set both variables;
* `metaLoop_reads_iff`: `parse_commandline_meta_update`;
* `dumpLoop_defined_iff`: `parse_commandline_meta_dump`; the array for `filepath` is the only one;
* **`parsers_defined_iff`**: the three together.
-/

namespace QCamx

open CString Outcome

/-! ## `parse_commandline_meta_dump` -/

/-- The handler of a suboption has its value, and a path has fewer characters than the array. -/
def DumpReads (s : CString) : Prop :=
  match getsubopt dumpTokens s with
  | (none, _) => True
  | (some _, none) => False
  | (some .resultFilePath, some value) => ((scanWord value).getD []).length < filePathSize
  | (some _, some _) => True

theorem dumpStep_defined_iff (s : CString) (st : DumpState) :
    (∃ st', dumpStep s st = .ok st') ↔ DumpReads s := by
  unfold dumpStep DumpReads
  generalize getsubopt dumpTokens s = p
  obtain ⟨_ | opt, _ | value⟩ := p
  · exact iff_of_true ⟨st, rfl⟩ trivial
  · exact iff_of_true ⟨st, rfl⟩ trivial
  · exact iff_of_false (not_exists_error_eq_ok _) (by cases opt <;> exact id)
  · cases opt with
    | resultFilePath =>
        simp only [dumpOption, storeWord]
        split_ifs with hlen
        · exact iff_of_true ⟨_, rfl⟩ hlen
        · exact iff_of_false (not_exists_error_eq_ok _) hlen
    | _ => exact iff_of_true ⟨_, rfl⟩ trivial

theorem dumpLoop_defined_iff (ss : List CString) (st : DumpState) :
    (∃ st', dumpLoop ss st = .ok st') ↔ ∀ s ∈ ss, DumpReads s := by
  induction ss generalizing st with
  | nil => exact iff_of_true ⟨st, rfl⟩ fun s hs => (by cases hs)
  | cons s ss ih =>
      rw [dumpLoop, exists_bind_eq_ok_iff, List.forall_mem_cons, ← dumpStep_defined_iff s st]
      simp only [ih, exists_and_right]

instance (s : CString) : Decidable (DumpReads s) :=
  decidable_of_iff ((dumpStep s {}).toOption.isSome = true) (by
    rw [← dumpStep_defined_iff s {}]
    cases dumpStep s {} <;> simp [Except.toOption])

/-! ## `parse_commandline_meta_update` -/

theorem metaLoop_reads_iff {F : Type} (m : MetaSetup F) (ss : List CString) :
    (∀ f ∈ (metaLoop m ss).2, f.OfRegion) ↔
      EachReached (RoundComputes m) (RoundReads m) ss := by
  induction ss with
  | nil => exact iff_of_true (fun f hf => (by cases hf)) trivial
  | cons s ss ih =>
      rw [EachReached, metaLoop]
      rcases ends_metaStep m ss.length s with ⟨hreads, hcomputes, us, hs⟩ |
        ⟨hreads, hnot, f, hs, hregion⟩ | ⟨hreads, f, hs, hf⟩
      · rw [hs, ← ih]
        exact ⟨fun h => ⟨hreads, fun _ => h⟩, fun h => h.2 hcomputes⟩
      · rw [hs]
        refine iff_of_true ?_ ⟨hreads, fun h => absurd h hnot⟩
        rintro _ ⟨⟩
        exact hregion
      · rw [hs]
        refine iff_of_false (fun h => ?_) fun h => hreads h.1
        have hregion := h f rfl
        rcases hf with rfl | rfl <;> exact absurd hregion (by decide)

/-- Every round reads what is there and computes only what is defined. -/
def MetaReads {F : Type} (m : MetaSetup F) (ss : List CString) : Prop :=
  EachReached (fun _ _ => True) (fun n s => RoundReads m n s ∧ RoundComputes m n s) ss

theorem metaLoop_defined_iff {F : Type} (m : MetaSetup F) (ss : List CString) :
    (metaLoop m ss).2 = none ↔ MetaReads m ss := by
  induction ss with
  | nil => exact iff_of_true rfl trivial
  | cons s ss ih =>
      rw [MetaReads, EachReached, metaLoop]
      rcases ends_metaStep m ss.length s with ⟨hreads, hcomputes, us, hs⟩ | ⟨-, hnot, f, hs, -⟩ |
        ⟨hnot, f, hs, -⟩
      · rw [hs]
        exact ih.trans ⟨fun h => ⟨⟨hreads, hcomputes⟩, fun _ => h⟩, fun h => h.2 trivial⟩
      · rw [hs]
        exact iff_of_false (by simp) fun h => hnot h.1.2
      · rw [hs]
        exact iff_of_false (by simp) fun h => hnot h.1.1

instance {F : Type} (m : MetaSetup F) (ss : List CString) : Decidable (MetaReads m ss) :=
  decidable_of_iff ((metaLoop m ss).2.isNone = true)
    (by rw [Option.isNone_iff_eq_none, metaLoop_defined_iff])

/-! ## `parse_commandline_add` -/

/-- A value that gives both numbers. -/
def GivesBoth (sep : Char) (value : CString) : Prop :=
  (convertPair sep value).1 ≠ none ∧ (convertPair sep value).2 ≠ none

/-- The value of an option sets what the handler uses, after a size or before the first one. -/
def AddOpt.Converts (sized : Bool) (opt : AddOpt) (value : CString) : Prop :=
  (opt.isSize = true → sized = true ∨ GivesBoth 'x' value) ∧
    (opt = .fpsRange → GivesBoth '-' value)

/-- The same for a suboption, which has to carry its value. -/
def AddRoundReads (sized : Bool) (s : CString) : Prop :=
  CarriesValue s ∧ ∀ o ∈ optionOf s, o.1.Converts sized o.2

/-- The same for each suboption up to the first one that is rejected. -/
def AddReads : Bool → List CString → Prop
  | _, [] => True
  | sized, s :: ss =>
      AddRoundReads sized s ∧
        (¬ IsRejected s → AddReads (sized || (optionOf s).any fun o => o.1.isSize) ss)

/-- The variables of a size are both set, or neither is. -/
def VariablesSet (sized : Bool) (st : AddState) : Prop :=
  if sized then SizeSet st else st.width = none ∧ st.height = none

theorem sizeOption_defined_iff {sized : Bool} {st : AddState} (hst : VariablesSet sized st)
    (value : CString) (store : Int32 → Int32 → Config → Config) (mode : ℕ) :
    (∃ st', sizeOption value store mode st = .ok st') ↔ sized = true ∨ GivesBoth 'x' value := by
  unfold sizeOption
  rw [scanPair_eq]
  cases sized with
  | true =>
      obtain ⟨x, hx⟩ := Option.isSome_iff_exists.mp hst.1
      obtain ⟨y, hy⟩ := Option.isSome_iff_exists.mp hst.2
      obtain ⟨a, b, hscan⟩ := exists_scanPair 'x' value x y
      rw [scanPair_eq] at hscan
      rw [hx, hy, hscan]
      exact iff_of_true ⟨_, rfl⟩ (Or.inl rfl)
  | false =>
      obtain ⟨hx, hy⟩ := hst
      rw [hx, hy, Option.or_none, Option.or_none]
      unfold GivesBoth
      generalize convertPair 'x' value = p
      obtain ⟨_ | a, _ | b⟩ := p <;> simp

theorem addOption_defined_iff {sized : Bool} {st : AddState} (hst : VariablesSet sized st)
    (opt : AddOpt) (value : CString) :
    (∃ st', addOption opt value st = .ok st') ↔ opt.Converts sized value := by
  cases opt with
  | previewSize | snapshotSize | videoSize | rawSize | tofDepthSize | tofIrSize =>
      simp only [addOption]
      rw [sizeOption_defined_iff hst]
      simp [AddOpt.Converts, AddOpt.isSize]
  | fpsRange =>
      have hpair : scanPair '-' value (none, none) = convertPair '-' value := rfl
      simp only [addOption, fpsRangeOption, AddOpt.Converts, AddOpt.isSize, hpair, GivesBoth]
      generalize convertPair '-' value = p
      obtain ⟨_ | a, _ | b⟩ := p <;> simp
  | isBitrateConst | enableRawStream | tofRangeMode | tofImageType =>
      refine iff_of_true ?_ ⟨fun h => (by cases h), fun h => (by cases h)⟩
      simp only [addOption]
      split_ifs <;> exact ⟨_, rfl⟩
  | _ => exact iff_of_true ⟨_, rfl⟩ ⟨fun h => (by cases h), fun h => (by cases h)⟩

theorem addOption_variablesSet {sized : Bool} {st st' : AddState} (hst : VariablesSet sized st)
    {opt : AddOpt} {value : CString} (h : addOption opt value st = .ok st') :
    VariablesSet (sized || opt.isSize) st' := by
  cases opt with
  | previewSize | snapshotSize | videoSize | rawSize | tofDepthSize | tofIrSize =>
      simp only [addOption] at h
      obtain ⟨width, height, -, rfl⟩ := sizeOption_ok h
      rw [AddOpt.isSize, Bool.or_true]
      exact ⟨rfl, rfl⟩
  | fpsRange =>
      simp only [addOption, fpsRangeOption] at h
      split at h
      case h_1 =>
        obtain rfl := Except.ok.inj h
        change VariablesSet (sized || false) _
        rwa [Bool.or_false]
      case h_2 => cases h
  | isBitrateConst | enableRawStream | tofRangeMode | tofImageType =>
      change VariablesSet (sized || false) _
      rw [Bool.or_false]
      simp only [addOption] at h
      split_ifs at h <;> obtain rfl := Except.ok.inj h <;> exact hst
  | _ =>
      change VariablesSet (sized || false) _
      rw [Bool.or_false]
      simp only [addOption] at h
      obtain rfl := Except.ok.inj h
      exact hst

theorem addStep_defined_iff {sized : Bool} {st : AddState} (hst : VariablesSet sized st)
    (s : CString) : (∃ st', addStep s st = .ok st') ↔ AddRoundReads sized s := by
  unfold addStep AddRoundReads CarriesValue optionOf
  generalize getsubopt addTokens s = p
  obtain ⟨_ | opt, _ | value⟩ := p
  · exact iff_of_true ⟨st, rfl⟩ ⟨fun h => absurd rfl h, fun o ho => (by cases ho)⟩
  · exact iff_of_true ⟨st, rfl⟩ ⟨fun h => absurd rfl h, fun o ho => (by cases ho)⟩
  · exact iff_of_false (not_exists_error_eq_ok _) fun h => h.1 (by simp) rfl
  · refine (addOption_defined_iff hst opt value).trans ⟨fun h => ⟨by simp, ?_⟩, fun h => ?_⟩
    · rintro _ ⟨⟩
      exact h
    · exact h.2 (opt, value) rfl

theorem addStep_ok {sized : Bool} {st st' : AddState} (hst : VariablesSet sized st)
    (herr : st.errFound = false) {s : CString} (h : addStep s st = .ok st') :
    VariablesSet (sized || (optionOf s).any fun o => o.1.isSize) st' ∧
      (st'.errFound = true ↔ IsRejected s) := by
  unfold addStep at h
  unfold IsRejected optionOf
  generalize getsubopt addTokens s = p at h
  obtain ⟨_ | opt, _ | value⟩ := p
  · obtain rfl := Except.ok.inj h
    exact ⟨by simpa using hst, by simp [herr]⟩
  · obtain rfl := Except.ok.inj h
    exact ⟨by simpa using hst, by simp [herr]⟩
  · cases h
  · have hfound := (addOption_ok h).2
    rw [herr, Bool.false_or] at hfound
    exact ⟨by simpa using addOption_variablesSet hst h, by simp [hfound]⟩

theorem addLoop_of_errFound (ss : List CString) {st : AddState} (h : st.errFound = true) :
    addLoop ss st = .ok st := by
  cases ss with
  | nil => rfl
  | cons s ss => rw [addLoop, if_pos h]

theorem addLoop_defined_iff {sized : Bool} {ss : List CString} {st : AddState}
    (hst : VariablesSet sized st) (herr : st.errFound = false) :
    (∃ st', addLoop ss st = .ok st') ↔ AddReads sized ss := by
  induction ss generalizing sized st with
  | nil => exact iff_of_true ⟨st, rfl⟩ trivial
  | cons s ss ih =>
      rw [AddReads, ← addStep_defined_iff hst s, addLoop, herr]
      cases hs : addStep s st with
      | error f =>
          exact iff_of_false (not_exists_error_eq_ok f) fun h => not_exists_error_eq_ok f h.1
      | ok st₁ =>
          obtain ⟨hst₁, herr₁⟩ := addStep_ok hst herr hs
          by_cases hrejected : IsRejected s
          · exact iff_of_true ⟨st₁, addLoop_of_errFound ss (herr₁.mpr hrejected)⟩
              ⟨⟨st₁, rfl⟩, fun h => absurd hrejected h⟩
          · have hfound : st₁.errFound = false := Bool.eq_false_iff.mpr fun h =>
              hrejected (herr₁.mp h)
            rw [← ih hst₁ hfound]
            exact ⟨fun h => ⟨⟨st₁, rfl⟩, fun _ => h⟩, fun h => h.2 hrejected⟩

/-! ## The three parsers -/

/-- **The strings on which the three parsers are defined**, apart from the computation of a crop
region. -/
theorem parsers_defined_iff {F : Type} (m : MetaSetup F) (c : Config) (st : DumpState)
    (order : CString) :
    ((∃ r, parseCommandlineAdd order c = .ok r) ↔ AddReads false (suboptions order)) ∧
      ((∀ f ∈ (parseCommandlineMetaUpdate m order).2, f.OfRegion) ↔
        EachReached (RoundComputes m) (RoundReads m) (suboptions order)) ∧
      ((∃ st', parseCommandlineMetaDump order st = .ok st') ↔
        ∀ s ∈ suboptions order, DumpReads s) := by
  refine ⟨?_, metaLoop_reads_iff m _, dumpLoop_defined_iff _ st⟩
  have hstart : VariablesSet false { config := c } := ⟨rfl, rfl⟩
  rw [← addLoop_defined_iff hstart rfl]
  exact exists_map_eq_ok_iff

/-- An option without its value, a number that is not converted, and a path that is too long. -/
theorem parsers_undefined :
    parseCommandlineAdd "psize".toList {} = .error .nullValue ∧
      parseCommandlineAdd "fpsrange=30".toList {} = .error .uninitialized ∧
      parseCommandlineMetaUpdate wholeSetup "manual_iso=auto".toList =
        ([], some .uninitialized) ∧
      parseCommandlineMetaDump ("filepath=/".toList ++ List.replicate 199 'a') {} =
        .error .bufferOverflow := by
  decide +kernel

end QCamx

import QCamx.Config.Options
import QCamx.Lib.Outcome

/-!
# The mode that a string of options names

`parse_commandline_add` returns `0` where no option has a value it rejects and the sizes that occur
are those of a test mode. A size or a frame rate that `sscanf` does not convert is taken from a
variable that nothing has set, or from an earlier size; this does not concern the mode, so the parse
is also defined here for variables with any content.

* `parseCommandlineAddFrom`: the parse when the variables hold `Unset` at first;
* `parseFrom_of_parse`: it is `parseCommandlineAdd` wherever that is defined;
* `testModeOf_modeBits`: the masks of `mode_config` and the sizes that occur;
* **`parse_modes`**: when the return value is `0`, and the mode then.
-/

namespace QCamx

open CString

/-! ## Variables that nothing has set -/

/-- What the variables hold at first: those of a size, and the array of an `fpsrange` that the given
number of suboptions follows. -/
structure Unset where
  width : Int32
  height : Int32
  fpsRange : ℕ → Int32 × Int32

/-- `fpsrange`, on an array that holds `v`. -/
def fpsRangeOptionFrom (v : Int32 × Int32) (value : CString) (st : AddState) : AddState :=
  let a := (convertPair '-' value).1.getD v.1
  let b := (convertPair '-' value).2.getD v.2
  { st with config := { st.config with fpsRange := if b < a then (b, a) else (a, b) } }

/-- One round of the loop. -/
def addStepFrom (v : Int32 × Int32) (s : CString) (st : AddState) : Except ParseFault AddState :=
  match getsubopt addTokens s with
  | (some .fpsRange, some value) => .ok (fpsRangeOptionFrom v value st)
  | _ => addStep s st

/-- The loop. -/
def addLoopFrom (u : Unset) : List CString → AddState → Except ParseFault AddState
  | [], st => .ok st
  | s :: ss, st =>
      if st.errFound then .ok st
      else (addStepFrom (u.fpsRange ss.length) s st).bind (addLoopFrom u ss)

/-- The return value and the configuration after the loop. -/
def addResult (st : AddState) : ℤ × Config :=
  match testModeOf st.modeConfig with
  | some mode => (if st.errFound then -1 else 0, { st.config with testMode := some mode })
  | none => (-1, st.config)

theorem exists_loop_of_parse {order : CString} {c : Config} {r : ℤ × Config}
    (h : parseCommandlineAdd order c = .ok r) :
    ∃ st, addLoop (suboptions order) { config := c } = .ok st ∧ addResult st = r :=
  Outcome.map_eq_ok_iff.mp h

theorem addResult_zero {st : AddState} {c : Config} (h : addResult st = (0, c)) :
    st.errFound = false ∧ ∃ mode, c = { st.config with testMode := some mode } := by
  unfold addResult at h
  split at h
  case h_1 mode hmode =>
    obtain ⟨hret, rfl⟩ := Prod.mk.inj h
    refine ⟨?_, mode, rfl⟩
    by_contra hfound
    rw [if_pos (by simpa using hfound)] at hret
    cases hret
  case h_2 => cases h

/-- `parse_commandline_add` with the given contents of its variables. -/
def parseCommandlineAddFrom (u : Unset) (order : CString) (c : Config) :
    Except ParseFault (ℤ × Config) :=
  (addLoopFrom u (suboptions order)
    { config := c, width := some u.width, height := some u.height }).map addResult

/-! ## The two parses agree -/

/-- `t` is `st` with more variables set. -/
def Refines (st t : AddState) : Prop :=
  ∃ width height, t = { st with width := width, height := height } ∧
    (∀ x, st.width = some x → width = some x) ∧ ∀ y, st.height = some y → height = some y

theorem or_eq_some_of_imp {x y y' : Option Int32} {a : Int32}
    (h : ∀ z, y = some z → y' = some z) (hx : x.or y = some a) : x.or y' = some a := by
  cases x with
  | none => exact h a hx
  | some b => exact hx

theorem sizeOption_refines {value : CString} {store : Int32 → Int32 → Config → Config} {mode : ℕ}
    {st st' t : AddState} (href : Refines st t) (h : sizeOption value store mode st = .ok st') :
    ∃ t', sizeOption value store mode t = .ok t' ∧ Refines st' t' := by
  obtain ⟨width, height, rfl, hwidth, hheight⟩ := href
  obtain ⟨a, b, hscan, rfl⟩ := sizeOption_ok h
  rw [scanPair_eq, Prod.mk.injEq] at hscan
  have hscan' : scanPair 'x' value (width, height) = (some a, some b) := by
    rw [scanPair_eq, or_eq_some_of_imp hwidth hscan.1, or_eq_some_of_imp hheight hscan.2]
  simp only [sizeOption, hscan']
  exact ⟨_, rfl, _, _, rfl, fun _ hx => hx, fun _ hy => hy⟩

theorem addOption_refines {opt : AddOpt} {value : CString} {st st' t : AddState}
    (href : Refines st t) (h : addOption opt value st = .ok st') :
    ∃ t', addOption opt value t = .ok t' ∧ Refines st' t' := by
  cases opt with
  | previewSize | snapshotSize | videoSize | rawSize | tofDepthSize | tofIrSize =>
      simp only [addOption] at h ⊢
      exact sizeOption_refines href h
  | fpsRange =>
      obtain ⟨width, height, rfl, hwidth, hheight⟩ := href
      simp only [addOption, fpsRangeOption] at h ⊢
      split at h
      case h_1 =>
        obtain rfl := Except.ok.inj h
        exact ⟨_, rfl, _, _, rfl, hwidth, hheight⟩
      case h_2 => cases h
  | isBitrateConst | enableRawStream | tofRangeMode | tofImageType =>
      obtain ⟨width, height, rfl, hwidth, hheight⟩ := href
      simp only [addOption] at h ⊢
      split_ifs at h ⊢ <;> obtain rfl := Except.ok.inj h <;>
        exact ⟨_, rfl, _, _, rfl, hwidth, hheight⟩
  | _ =>
      obtain ⟨width, height, rfl, hwidth, hheight⟩ := href
      obtain rfl := Except.ok.inj h
      exact ⟨_, rfl, _, _, rfl, hwidth, hheight⟩

theorem addStepFrom_refines (v : Int32 × Int32) {s : CString} {st st' t : AddState}
    (href : Refines st t) (h : addStep s st = .ok st') :
    ∃ t', addStepFrom v s t = .ok t' ∧ Refines st' t' := by
  unfold addStepFrom
  split
  case h_1 value hget =>
    obtain ⟨width, height, rfl, hwidth, hheight⟩ := href
    rw [addStep, hget] at h
    simp only [addOption, fpsRangeOption] at h
    split at h
    case h_1 a b hscan =>
      have hconvert : convertPair '-' value = (some a, some b) := hscan
      obtain rfl := Except.ok.inj h
      refine ⟨_, rfl, width, height, ?_, hwidth, hheight⟩
      simp only [fpsRangeOptionFrom, hconvert, Option.getD_some]
    case h_2 => cases h
  case h_2 =>
    unfold addStep at h ⊢
    split at h
    case h_1 =>
      obtain rfl := Except.ok.inj h
      exact ⟨t, rfl, href⟩
    case h_2 => cases h
    case h_3 => exact addOption_refines href h

theorem addLoopFrom_refines (u : Unset) {ss : List CString} {st st' t : AddState}
    (href : Refines st t) (h : addLoop ss st = .ok st') :
    ∃ t', addLoopFrom u ss t = .ok t' ∧ Refines st' t' := by
  induction ss generalizing st t with
  | nil =>
      obtain rfl := Except.ok.inj h
      exact ⟨t, rfl, href⟩
  | cons s ss ih =>
      have herr : t.errFound = st.errFound := by
        obtain ⟨width, height, rfl, -, -⟩ := href
        rfl
      rw [addLoop] at h
      rw [addLoopFrom, herr]
      split_ifs at h ⊢ with hfound
      · obtain rfl := Except.ok.inj h
        exact ⟨t, rfl, href⟩
      · cases hs : addStep s st with
        | error f =>
            rw [hs] at h
            cases h
        | ok st₁ =>
            obtain ⟨t₁, ht₁, href₁⟩ := addStepFrom_refines (u.fpsRange ss.length) href hs
            rw [hs] at h
            rw [ht₁]
            exact ih href₁ h

/-- **A parse that needs no unset variable** is the same for all contents. -/
theorem parseFrom_of_parse (u : Unset) {order : CString} {c : Config} {r : ℤ × Config}
    (h : parseCommandlineAdd order c = .ok r) : parseCommandlineAddFrom u order c = .ok r := by
  obtain ⟨st, hloop, rfl⟩ := exists_loop_of_parse h
  have href : Refines { config := c }
      { config := c, width := some u.width, height := some u.height } :=
    ⟨some u.width, some u.height, rfl, fun x hx => (by cases hx), fun y hy => (by cases hy)⟩
  obtain ⟨t, ht, width, height, rfl, -, -⟩ := addLoopFrom_refines u href hloop
  rw [parseCommandlineAddFrom, ht]
  rfl

/-! ## The mode -/

/-- The option and the value of a suboption. -/
def optionOf (s : CString) : Option (AddOpt × CString) :=
  match getsubopt addTokens s with
  | (some opt, some value) => some (opt, value)
  | _ => none

/-- The options of a string, with their values. -/
def optionsOf (order : CString) : List (AddOpt × CString) := (suboptions order).filterMap optionOf

/-- Every option of a string carries a value. -/
def CarriesValues (order : CString) : Prop :=
  ∀ s ∈ suboptions order, (getsubopt addTokens s).1 ≠ none → (getsubopt addTokens s).2 ≠ none

instance (order : CString) : Decidable (CarriesValues order) :=
  inferInstanceAs (Decidable (∀ s ∈ suboptions order, _))

/-- No option has a value that it rejects. -/
def NoneRejected (os : List (AddOpt × CString)) : Prop := ∀ o ∈ os, rejects o.1 o.2 = false

instance (os : List (AddOpt × CString)) : Decidable (NoneRejected os) :=
  inferInstanceAs (Decidable (∀ o ∈ os, _))

/-- The sizes that occur among the options, of those that concern the mode. -/
def sizesOf (os : List (AddOpt × CString)) : List AddOpt :=
  [.previewSize, .snapshotSize, .videoSize, .tofDepthSize, .tofIrSize].filter fun opt =>
    os.any fun o => o.1 = opt

/-- The mode that a set of sizes names. -/
def modeOfSizes : List AddOpt → Option TestMode
  | [.previewSize] => some .preview
  | [.previewSize, .snapshotSize] => some .snapshot
  | [.previewSize, .videoSize] => some .previewVideoOnly
  | [.previewSize, .snapshotSize, .videoSize] => some .video
  | [.videoSize] => some .videoOnly
  | [.tofDepthSize] | [.tofIrSize] | [.tofDepthSize, .tofIrSize] => some .depth
  | _ => none

/-- The mask of the sizes that occur. -/
def sizesMask (preview snapshot video depth : Bool) : ℕ :=
  (if preview then 1 <<< TestMode.preview.bit else 0) |||
    (if snapshot then 1 <<< TestMode.snapshot.bit else 0) |||
    (if video then 1 <<< TestMode.video.bit else 0) |||
    if depth then 1 <<< TestMode.depth.bit else 0

theorem modeBits_eq (os : List (AddOpt × CString)) (m : ℕ) :
    modeBits os m = m ||| sizesMask (os.any fun o => o.1 = .previewSize)
      (os.any fun o => o.1 = .snapshotSize) (os.any fun o => o.1 = .videoSize)
      ((os.any fun o => o.1 = .tofDepthSize) || os.any fun o => o.1 = .tofIrSize) := by
  induction os generalizing m with
  | nil => exact (Nat.or_zero m).symm
  | cons o os ih =>
      have hcons : modeBits (o :: os) m = modeBits os (m ||| o.1.modeBit) := rfl
      rw [hcons, ih, Nat.or_assoc]
      congr 1
      simp only [List.any_cons]
      generalize (os.any fun o => decide (o.1 = AddOpt.previewSize)) = p
      generalize (os.any fun o => decide (o.1 = AddOpt.snapshotSize)) = s
      generalize (os.any fun o => decide (o.1 = AddOpt.videoSize)) = v
      generalize (os.any fun o => decide (o.1 = AddOpt.tofDepthSize)) = d
      generalize (os.any fun o => decide (o.1 = AddOpt.tofIrSize)) = i
      cases o.1 <;> revert p s v d i <;> decide

/-- **The masks of `mode_config` are the sets of sizes.** -/
theorem testModeOf_modeBits (os : List (AddOpt × CString)) :
    testModeOf (modeBits os 0) = modeOfSizes (sizesOf os) := by
  rw [modeBits_eq, Nat.zero_or, sizesOf]
  simp only [List.filter_cons, List.filter_nil]
  generalize (os.any fun o => decide (o.1 = AddOpt.previewSize)) = p
  generalize (os.any fun o => decide (o.1 = AddOpt.snapshotSize)) = s
  generalize (os.any fun o => decide (o.1 = AddOpt.videoSize)) = v
  generalize (os.any fun o => decide (o.1 = AddOpt.tofDepthSize)) = d
  generalize (os.any fun o => decide (o.1 = AddOpt.tofIrSize)) = i
  revert p s v d i
  decide

/-! ## The return value -/

/-- The variables of a size are set. -/
def SizeSet (st : AddState) : Prop := st.width.isSome = true ∧ st.height.isSome = true

theorem addOption_sizeSet {opt : AddOpt} {value : CString} {st : AddState} (hset : SizeSet st)
    (hopt : opt ≠ .fpsRange) : ∃ st', addOption opt value st = .ok st' ∧ SizeSet st' := by
  cases opt with
  | previewSize | snapshotSize | videoSize | rawSize | tofDepthSize | tofIrSize =>
      obtain ⟨x, hx⟩ := Option.isSome_iff_exists.mp hset.1
      obtain ⟨y, hy⟩ := Option.isSome_iff_exists.mp hset.2
      obtain ⟨a, b, hscan⟩ := exists_scanPair 'x' value x y
      simp only [addOption, sizeOption, hx, hy, hscan]
      exact ⟨_, rfl, rfl, rfl⟩
  | fpsRange => exact absurd rfl hopt
  | isBitrateConst | enableRawStream | tofRangeMode | tofImageType =>
      simp only [addOption]
      split_ifs <;> exact ⟨_, rfl, hset⟩
  | _ => exact ⟨_, rfl, hset⟩

theorem addStepFrom_spec (v : Int32 × Int32) {s : CString} {st : AddState} (hset : SizeSet st)
    (hvalue : (getsubopt addTokens s).1 ≠ none → (getsubopt addTokens s).2 ≠ none) :
    ∃ st', addStepFrom v s st = .ok st' ∧ SizeSet st' ∧
      st'.modeConfig = modeBits (optionOf s).toList st.modeConfig ∧
      st'.errFound = (st.errFound || (optionOf s).toList.any fun o => rejects o.1 o.2) := by
  unfold addStepFrom optionOf
  split
  case h_1 value hget =>
    rw [hget]
    exact ⟨_, rfl, hset, (Nat.or_zero _).symm, by simp [rejects, fpsRangeOptionFrom]⟩
  case h_2 hfps =>
    unfold addStep
    split
    case h_1 x hget =>
      rw [hget]
      exact ⟨st, rfl, hset, rfl, (Bool.or_false _).symm⟩
    case h_2 opt hget =>
      rw [hget] at hvalue
      exact absurd rfl (hvalue (by simp))
    case h_3 opt value hget =>
      have hopt : opt ≠ .fpsRange := by
        rintro rfl
        exact hfps value hget
      obtain ⟨st', hst', hset'⟩ : ∃ st', addOption opt value st = .ok st' ∧ SizeSet st' :=
        addOption_sizeSet hset hopt
      obtain ⟨hmode, herr⟩ := addOption_ok hst'
      rw [hget]
      exact ⟨st', hst', hset', hmode, by simp [herr]⟩

theorem addLoopFrom_spec (u : Unset) {ss : List CString} {st : AddState} (hset : SizeSet st)
    (hvalues : ∀ s ∈ ss, (getsubopt addTokens s).1 ≠ none → (getsubopt addTokens s).2 ≠ none)
    (herr : st.errFound = false) :
    ∃ st', addLoopFrom u ss st = .ok st' ∧
      (st'.errFound = false ↔ NoneRejected (ss.filterMap optionOf)) ∧
      (st'.errFound = false → st'.modeConfig = modeBits (ss.filterMap optionOf) st.modeConfig) := by
  induction ss generalizing st with
  | nil =>
      refine ⟨st, rfl, ⟨fun _ o ho => ?_, fun _ => herr⟩, fun _ => rfl⟩
      cases ho
  | cons s ss ih =>
      obtain ⟨st₁, hst₁, hset₁, hmode₁, herr₁⟩ :=
        addStepFrom_spec (u.fpsRange ss.length) hset (hvalues s List.mem_cons_self)
      have hsplit :
          (s :: ss).filterMap optionOf = (optionOf s).toList ++ ss.filterMap optionOf := by
        rw [List.filterMap_cons]
        cases optionOf s <;> rfl
      rw [herr, Bool.false_or] at herr₁
      rw [addLoopFrom, herr, hst₁, hsplit]
      by_cases hfound : st₁.errFound = true
      · -- the loop ends with the error
        have hend : addLoopFrom u ss st₁ = .ok st₁ := by
          cases ss with
          | nil => rfl
          | cons s ss => rw [addLoopFrom, if_pos hfound]
        refine ⟨st₁, hend, ?_, fun hnot => ?_⟩
        · rw [hfound] at herr₁ ⊢
          obtain ⟨o, ho, hreject⟩ := List.any_eq_true.mp herr₁.symm
          refine ⟨fun h => (by cases h), fun h => ?_⟩
          have := h o (List.mem_append_left _ ho)
          rw [hreject] at this
          cases this
        · rw [hfound] at hnot
          cases hnot
      · rw [Bool.not_eq_true] at hfound
        rw [hfound] at herr₁
        obtain ⟨st', hst', hiff, hmode⟩ :=
          ih hset₁ (fun t ht => hvalues t (List.mem_cons_of_mem _ ht)) hfound
        have hfirst : NoneRejected (optionOf s).toList := by
          intro o ho
          by_contra hreject
          rw [Bool.not_eq_false] at hreject
          have hany : ((optionOf s).toList.any fun o => rejects o.1 o.2) = true :=
            List.any_eq_true.mpr ⟨o, ho, hreject⟩
          rw [← herr₁] at hany
          cases hany
        refine ⟨st', hst', ?_, fun h => ?_⟩
        · rw [hiff, NoneRejected, NoneRejected, List.forall_mem_append]
          exact (and_iff_right hfirst).symm
        · rw [hmode h, hmode₁, modeBits, modeBits, modeBits, List.foldl_append]

theorem addResult_modes {st : AddState} {os : List (AddOpt × CString)}
    (hiff : st.errFound = false ↔ NoneRejected os)
    (hmode : st.errFound = false → st.modeConfig = modeBits os 0) :
    ((addResult st).1 = 0 ∨ (addResult st).1 = -1) ∧
      ((addResult st).1 = 0 ↔ NoneRejected os ∧ modeOfSizes (sizesOf os) ≠ none) ∧
      ((addResult st).1 = 0 → (addResult st).2.testMode = modeOfSizes (sizesOf os)) := by
  rw [← hiff]
  by_cases herr : st.errFound = true
  · have hne : ¬ st.errFound = false := by rw [herr]; decide
    have hreturn : (addResult st).1 = -1 := by
      unfold addResult
      split
      · exact if_pos herr
      · rfl
    rw [hreturn]
    refine ⟨Or.inr rfl, ⟨fun h => absurd h (by decide), fun h => absurd h.1 hne⟩, fun h => ?_⟩
    exact absurd h (by decide)
  · rw [Bool.not_eq_true] at herr
    have hbits : testModeOf st.modeConfig = modeOfSizes (sizesOf os) := by
      rw [hmode herr]
      exact testModeOf_modeBits _
    rw [← hbits]
    unfold addResult
    split
    case h_1 mode hm =>
      rw [hm, herr]
      refine ⟨Or.inl rfl, ⟨fun _ => ⟨rfl, Option.some_ne_none mode⟩, fun _ => rfl⟩, fun _ => rfl⟩
    case h_2 hm =>
      rw [hm]
      have hne : ¬ (-1 : ℤ) = 0 := by decide
      exact ⟨Or.inr rfl, ⟨fun h => absurd h hne, fun h => absurd rfl h.2⟩, fun h => absurd h hne⟩

theorem exists_parseFrom (u : Unset) (order : CString) (c : Config) (h : CarriesValues order) :
    ∃ r, parseCommandlineAddFrom u order c = .ok r ∧ (r.1 = 0 ∨ r.1 = -1) ∧
      (r.1 = 0 ↔ NoneRejected (optionsOf order) ∧
        modeOfSizes (sizesOf (optionsOf order)) ≠ none) ∧
      (r.1 = 0 → r.2.testMode = modeOfSizes (sizesOf (optionsOf order))) := by
  have hset : SizeSet { config := c, width := some u.width, height := some u.height } := ⟨rfl, rfl⟩
  obtain ⟨st, hst, hiff, hmode⟩ := addLoopFrom_spec u hset h rfl
  refine ⟨addResult st, ?_, addResult_modes hiff hmode⟩
  rw [parseCommandlineAddFrom, hst]
  rfl

/-- **When a parse succeeds, and the mode then.** -/
theorem parse_modes (u : Unset) (order : CString) (c : Config) (h : CarriesValues order) :
    ∃ r, parseCommandlineAddFrom u order c = .ok r ∧
      (∀ r', parseCommandlineAdd order c = .ok r' → r' = r) ∧ (r.1 = 0 ∨ r.1 = -1) ∧
      (r.1 = 0 ↔ NoneRejected (optionsOf order) ∧
        modeOfSizes (sizesOf (optionsOf order)) ≠ none) ∧
      (r.1 = 0 → r.2.testMode = modeOfSizes (sizesOf (optionsOf order))) := by
  obtain ⟨r, hr, hmodes⟩ := exists_parseFrom u order c h
  refine ⟨r, hr, fun r' hr' => ?_, hmodes⟩
  have hparse := parseFrom_of_parse u hr'
  rw [hr] at hparse
  exact (Except.ok.inj hparse).symm

/-- A video size that is no size, an unknown and an empty suboption, and sizes repeated. -/
theorem parse_modes_garbage : ∃ r,
    parseCommandlineAddFrom ⟨7, 8, fun _ => (0, 0)⟩
      "vsize=abc,,colour,psize=640x480,tofmode=1,psize=320x240".toList {} = .ok r ∧
      r.1 = 0 ∧ r.2.testMode = some .previewVideoOnly := by
  obtain ⟨r, hr, -, -, hiff, hmode⟩ := parse_modes ⟨7, 8, fun _ => (0, 0)⟩
    "vsize=abc,,colour,psize=640x480,tofmode=1,psize=320x240".toList {} (by decide +kernel)
  have hzero : r.1 = 0 := hiff.mpr (by decide +kernel)
  refine ⟨r, hr, hzero, ?_⟩
  rw [hmode hzero]
  decide +kernel

end QCamx

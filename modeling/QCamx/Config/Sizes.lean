import QCamx.Config.Modes

/-!
# Sizes that are no sizes

The six options of a size share two variables and do not look at what `sscanf` returns. A number
that the value does not give is the one that an earlier size left in the variable, or whatever the
variable held at first.

* `HasRejected`, `Refused`: the strings for which the return value is `-1`;
* `returns_iff`: this is so for every string and every content of the variables;
* `Reached`: the suboptions that the loop comes to, with the state it finds there;
* **`sizesKept_iff`**: when the values that are no sizes change nothing.
-/

namespace QCamx

open CString

/-! ## The strings that are refused -/

/-- A suboption carries a value, if it is an option at all. -/
def CarriesValue (s : CString) : Prop :=
  (getsubopt addTokens s).1 ≠ none → (getsubopt addTokens s).2 ≠ none

/-- A suboption whose value is rejected. -/
def IsRejected (s : CString) : Prop := ∃ o ∈ optionOf s, rejects o.1 o.2 = true

/-- Some suboption is rejected, and all in front of it carry values. -/
def HasRejected : List CString → Prop
  | [] => False
  | s :: ss => IsRejected s ∨ CarriesValue s ∧ HasRejected ss

/-- A string for which the return value is `-1`: an option is rejected, or the sizes name no
mode. -/
def Refused (order : CString) : Prop :=
  HasRejected (suboptions order) ∨
    CarriesValues order ∧ modeOfSizes (sizesOf (optionsOf order)) = none

/-- The state in which the loop begins. -/
def Unset.start (u : Unset) (c : Config) : AddState :=
  { config := c, width := some u.width, height := some u.height }

theorem carriesValue_of_isRejected {s : CString} (h : IsRejected s) : CarriesValue s := by
  obtain ⟨o, ho, -⟩ := h
  intro _ hnone
  unfold optionOf at ho
  split at ho
  case h_1 opt value hget =>
    rw [hget] at hnone
    cases hnone
  case h_2 => cases ho

theorem carriesValue_of_ok {v : Int32 × Int32} {s : CString} {st st' : AddState}
    (h : addStepFrom v s st = .ok st') : CarriesValue s := by
  intro hopt hnone
  unfold addStepFrom at h
  split at h
  case h_1 value hget =>
    rw [hget] at hnone
    cases hnone
  case h_2 =>
    unfold addStep at h
    split at h
    case h_1 x hget =>
      rw [hget] at hopt
      exact hopt rfl
    case h_2 => cases h
    case h_3 opt value hget =>
      rw [hget] at hnone
      cases hnone

theorem errFound_iff {v : Int32 × Int32} {s : CString} {st st' : AddState} (hset : SizeSet st)
    (herr : st.errFound = false) (h : addStepFrom v s st = .ok st') :
    SizeSet st' ∧ (st'.errFound = true ↔ IsRejected s) := by
  obtain ⟨st₁, hst₁, hset₁, -, herr₁⟩ := addStepFrom_spec v hset (carriesValue_of_ok h)
  obtain rfl : st₁ = st' := Except.ok.inj (hst₁.symm.trans h)
  refine ⟨hset₁, ?_⟩
  rw [herr₁, herr, Bool.false_or, List.any_eq_true, IsRejected]
  simp only [Option.mem_toList, Option.mem_def]

theorem addLoopFrom_rejected (u : Unset) {ss : List CString} {st : AddState} (hset : SizeSet st)
    (herr : st.errFound = false) (h : HasRejected ss) :
    ∃ st', addLoopFrom u ss st = .ok st' ∧ st'.errFound = true := by
  induction ss generalizing st with
  | nil => exact h.elim
  | cons s ss ih =>
      have hvalue : CarriesValue s := h.elim carriesValue_of_isRejected And.left
      obtain ⟨st₁, hst₁, hset₁, -, -⟩ := addStepFrom_spec (u.fpsRange ss.length) hset hvalue
      obtain ⟨-, hiff⟩ := errFound_iff hset herr hst₁
      rw [addLoopFrom, herr, hst₁]
      by_cases hfound : st₁.errFound = true
      · refine ⟨st₁, ?_, hfound⟩
        cases ss with
        | nil => rfl
        | cons t ss => exact if_pos hfound
      · have hrest : HasRejected ss := (h.resolve_left fun hr => hfound (hiff.mpr hr)).2
        exact ih hset₁ (Bool.not_eq_true _ ▸ hfound) hrest

theorem carries_or_rejected (u : Unset) {ss : List CString} {st st' : AddState} (hset : SizeSet st)
    (herr : st.errFound = false) (h : addLoopFrom u ss st = .ok st') :
    (∀ s ∈ ss, CarriesValue s) ∨ HasRejected ss := by
  induction ss generalizing st with
  | nil => exact Or.inl fun s hs => by cases hs
  | cons s ss ih =>
      rw [addLoopFrom, herr] at h
      cases hst₁ : addStepFrom (u.fpsRange ss.length) s st with
      | error f =>
          rw [hst₁] at h
          cases h
      | ok st₁ =>
          rw [hst₁] at h
          obtain ⟨hset₁, hiff⟩ := errFound_iff hset herr hst₁
          have hvalue := carriesValue_of_ok hst₁
          by_cases hfound : st₁.errFound = true
          · exact Or.inr (Or.inl (hiff.mp hfound))
          · rcases ih hset₁ (Bool.not_eq_true _ ▸ hfound) h with hall | hrejected
            · exact Or.inl (List.forall_mem_cons.mpr ⟨hvalue, hall⟩)
            · exact Or.inr (Or.inr ⟨hvalue, hrejected⟩)

theorem hasRejected_of_not_noneRejected {ss : List CString} (hvalues : ∀ s ∈ ss, CarriesValue s)
    (h : ¬ NoneRejected (ss.filterMap optionOf)) : HasRejected ss := by
  induction ss with
  | nil => exact absurd (fun o ho => by cases ho) h
  | cons s ss ih =>
      by_cases hs : IsRejected s
      · exact Or.inl hs
      · refine Or.inr ⟨hvalues s List.mem_cons_self,
          ih (fun t ht => hvalues t (List.mem_cons_of_mem _ ht)) fun hnone => h ?_⟩
        intro o ho
        obtain ⟨t, ht, hto⟩ := List.mem_filterMap.mp ho
        rcases List.mem_cons.mp ht with rfl | ht
        · by_contra hreject
          exact hs ⟨o, hto, Bool.not_eq_false _ ▸ hreject⟩
        · exact hnone o (List.mem_filterMap.mpr ⟨t, ht, hto⟩)

/-- **For which strings the return value is `-1`**, whatever the variables hold. -/
theorem returns_iff (u : Unset) (order : CString) (c : Config) :
    (∃ c', parseCommandlineAddFrom u order c = .ok (-1, c')) ↔ Refused order := by
  have hset : SizeSet (u.start c) := ⟨rfl, rfl⟩
  constructor
  · rintro ⟨c', hc'⟩
    cases hloop : addLoopFrom u (suboptions order) (u.start c) with
    | error f =>
        rw [parseCommandlineAddFrom, ← Unset.start, hloop] at hc'
        cases hc'
    | ok st =>
        rcases carries_or_rejected u hset rfl hloop with hvalues | hrejected
        · obtain ⟨r, hr, -, hiff, -⟩ := exists_parseFrom u order c hvalues
          obtain rfl : r = (-1, c') := Except.ok.inj (hr.symm.trans hc')
          by_cases hmode : modeOfSizes (sizesOf (optionsOf order)) = none
          · exact Or.inr ⟨hvalues, hmode⟩
          · refine Or.inl (hasRejected_of_not_noneRejected hvalues fun hnone => ?_)
            have hzero : (-1 : ℤ) = 0 := hiff.mpr ⟨hnone, hmode⟩
            exact absurd hzero (by decide)
        · exact Or.inl hrejected
  · rintro (hrejected | ⟨hvalues, hmode⟩)
    · obtain ⟨st, hst, herr⟩ := addLoopFrom_rejected u hset rfl hrejected
      rw [parseCommandlineAddFrom, ← Unset.start, hst]
      simp only [Except.map, addResult, herr, if_true]
      cases testModeOf st.modeConfig <;> exact ⟨_, rfl⟩
    · obtain ⟨r, hr, hvalue, hiff, -⟩ := exists_parseFrom u order c hvalues
      rcases hvalue with hzero | hminus
      · exact absurd hmode (hiff.mp hzero).2
      · refine ⟨r.2, ?_⟩
        rw [hr, ← hminus]

/-! ## The suboptions that the loop comes to -/

/-- The loop on `ss` from `st` comes to a suboption in a state. -/
inductive Reached (u : Unset) : List CString → AddState → CString → AddState → Prop
  | here {s : CString} {ss : List CString} {st : AddState} (herr : st.errFound = false) :
      Reached u (s :: ss) st s st
  | later {s t : CString} {ss : List CString} {st st₁ st₂ : AddState}
      (herr : st.errFound = false) (hs : addStepFrom (u.fpsRange ss.length) s st = .ok st₁)
      (h : Reached u ss st₁ t st₂) : Reached u (s :: ss) st t st₂

theorem Reached.sizeSet {u : Unset} {ss : List CString} {st st' : AddState} {s : CString}
    (h : Reached u ss st s st') (hset : SizeSet st) : SizeSet st' := by
  induction h with
  | here => exact hset
  | later herr hs h ih => exact ih (errFound_iff hset herr hs).1

/-! ## Sizes -/

/-- The form `<int>x<int>`. -/
def IsSizeText (value : CString) : Prop :=
  ∃ a rest b, scanInt value = some (a, 'x' :: rest) ∧ scanInt rest = some (b, [])

/-- Width and height of the stream that an option of a size sets. -/
def dimensions (opt : AddOpt) (c : Config) : Int32 × Int32 :=
  match opt with
  | .previewSize => (c.previewStream.width, c.previewStream.height)
  | .snapshotSize => (c.snapshotStream.width, c.snapshotStream.height)
  | .videoSize => (c.videoStream.width, c.videoStream.height)
  | .rawSize => (c.rawStream.width, c.rawStream.height)
  | .tofDepthSize => (c.depthStream.width, c.depthStream.height)
  | .tofIrSize => (c.depthIRBGStream.width, c.depthIRBGStream.height)
  | _ => (0, 0)

/-- The two variables after `sscanf`: a number that the value does not give is the one of an earlier
size, or what the variable held at first. -/
def sizeRead (value : CString) (st : AddState) : Option Int32 × Option Int32 :=
  scanPair 'x' value (st.width, st.height)

theorem addOption_size {opt : AddOpt} (hsize : opt.isSize = true) (value : CString)
    {st : AddState} (hset : SizeSet st) : ∃ st', addOption opt value st = .ok st' ∧
      sizeRead value st =
        (some (dimensions opt st'.config).1, some (dimensions opt st'.config).2) := by
  obtain ⟨x, hx⟩ := Option.isSome_iff_exists.mp hset.1
  obtain ⟨y, hy⟩ := Option.isSome_iff_exists.mp hset.2
  obtain ⟨a, b, hscan⟩ := exists_scanPair 'x' value x y
  rw [sizeRead, hx, hy, hscan]
  cases opt with
  | previewSize | snapshotSize | videoSize | rawSize | tofDepthSize | tofIrSize =>
      simp only [addOption, sizeOption, hx, hy, hscan]
      exact ⟨_, rfl, rfl⟩
  | _ => cases hsize

/-- The values that are no sizes, where the loop comes to them. -/
def AtNoSize (u : Unset) (order : CString) (c : Config)
    (P : AddOpt → CString → AddState → Prop) : Prop :=
  ∀ s st, Reached u (suboptions order) (u.start c) s st → ∀ opt value,
    optionOf s = some (opt, value) → opt.isSize = true → ¬ IsSizeText value → P opt value st

/-- A value that is no size makes the parse return `-1`, or leaves width and height of its stream
as they were. -/
def SizesKept (u : Unset) (order : CString) (c : Config) : Prop :=
  AtNoSize u order c fun opt value st =>
    (∃ c', parseCommandlineAddFrom u order c = .ok (-1, c')) ∨
      ∃ st', addOption opt value st = .ok st' ∧
        dimensions opt st'.config = dimensions opt st.config

/-- **When the values that are no sizes change nothing**: the string is refused, or the variables
happen to hold what the stream has. -/
theorem sizesKept_iff (u : Unset) (order : CString) (c : Config) :
    SizesKept u order c ↔ Refused order ∨ AtNoSize u order c fun opt value st =>
      sizeRead value st =
        (some (dimensions opt st.config).1, some (dimensions opt st.config).2) := by
  constructor
  · intro h
    by_cases hrefused : Refused order
    · exact Or.inl hrefused
    · refine Or.inr fun s st hreached opt value hopt hsize htext => ?_
      obtain ⟨st', hst', hread⟩ := addOption_size hsize value (hreached.sizeSet ⟨rfl, rfl⟩)
      rcases h s st hreached opt value hopt hsize htext with hminus | ⟨st₁, hst₁, hkept⟩
      · exact absurd ((returns_iff u order c).mp hminus) hrefused
      · obtain rfl : st' = st₁ := Except.ok.inj (hst'.symm.trans hst₁)
        rw [hread, hkept]
  · rintro (hrefused | hread) s st hreached opt value hopt hsize htext
    · exact Or.inl ((returns_iff u order c).mpr hrefused)
    · obtain ⟨st', hst', hread'⟩ := addOption_size hsize value (hreached.sizeSet ⟨rfl, rfl⟩)
      have hsame : sizeRead value st =
          (some (dimensions opt st.config).1, some (dimensions opt st.config).2) :=
        hread s st hreached opt value hopt hsize htext
      rw [hread', Prod.mk.injEq, Option.some.injEq, Option.some.injEq] at hsame
      exact Or.inr ⟨st', hst', Prod.ext hsame.1 hsame.2⟩

/-- `ssize=abc` takes the size of the preview, and the parse succeeds; with no size before it,
`psize=abc` takes what the variables hold. -/
theorem size_from_preview :
    (parseCommandlineAdd "psize=640x480,ssize=abc".toList {}).map
      (fun r => (r.1, dimensions .snapshotSize r.2)) = .ok (0, (640, 480)) ∧
    (parseCommandlineAddFrom ⟨7, 8, fun _ => (0, 0)⟩ "psize=abc".toList {}).map
      (fun r => (r.1, dimensions .previewSize r.2)) = .ok (0, (7, 8)) ∧
    ¬ SizesKept ⟨7, 8, fun _ => (0, 0)⟩ "psize=640x480,ssize=abc".toList {} := by
  refine ⟨by decide +kernel, by decide +kernel, fun h => ?_⟩
  -- the loop comes to `ssize=abc` with the numbers of `psize` in the variables
  let st : AddState :=
    { config := { previewStream := { width := 640, height := 480 } }
      width := some 640
      height := some 480
      modeConfig := 1 }
  have hsub : suboptions "psize=640x480,ssize=abc".toList =
      ["psize=640x480".toList, "ssize=abc".toList] := by decide
  have hreached : Reached ⟨7, 8, fun _ => (0, 0)⟩ (suboptions "psize=640x480,ssize=abc".toList)
      (Unset.start ⟨7, 8, fun _ => (0, 0)⟩ {}) "ssize=abc".toList st := by
    rw [hsub]
    exact .later rfl (by decide +kernel) (.here rfl)
  have htext : ¬ IsSizeText "abc".toList := by
    rintro ⟨a, rest, b, hscan, -⟩
    have hnone : scanInt "abc".toList = none := by decide +kernel
    rw [hnone] at hscan
    cases hscan
  rcases h _ st hreached .snapshotSize "abc".toList (by decide +kernel) rfl htext with
    ⟨c', hminus⟩ | ⟨st', hst', hkept⟩
  · have hzero : (parseCommandlineAddFrom ⟨7, 8, fun _ => (0, 0)⟩
        "psize=640x480,ssize=abc".toList {}).map Prod.fst = .ok 0 := by decide +kernel
    rw [hminus] at hzero
    cases hzero
  · have hsize : (addOption .snapshotSize "abc".toList st).map
        (fun st' => dimensions .snapshotSize st'.config) = .ok (640, 480) := by decide +kernel
    rw [hst', Except.map, hkept] at hsize
    exact absurd hsize (by decide +kernel)

end QCamx

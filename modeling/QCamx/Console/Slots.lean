import QCamx.Console.Cases

/-!
# Slots hold live cases

Invariants of every run of the program, whatever the commands and the HAL do.

* `SlotsLive`: a slot that is not empty holds a live case, no two slots hold the same one, and only
  the case that `main` waits for does not run;
* **`slotsLive`**: so it is in every run; a slot is never dangling;
* **`deviceRuns_of`**: the device of every case is in a run of the device's own model, under the
  assumptions that its steps satisfy.
-/

namespace QCamx

open Guarded

namespace Console

/-- `w` is reached from the start of the program by steps the guard `ok` allows. -/
abbrev Run (enc : Bool) (ok : Act → Console → Prop) (w : Console) : Prop :=
  Reachable (step enc) ok {} w

variable {enc : Bool} {ok : Act → Console → Prop} {w w' : Console}

/-- **The invariant rule for runs of the program.** -/
theorem Run.invariant {P : Console → Prop} (h : Run enc ok w) (h₀ : P {})
    (hstep : ∀ w a w', Run enc ok w → P w → Defined w → ok a w → Step enc w a w' → P w') : P w :=
  Reachable.invariant h h₀ fun w a w' hr hP hok hs =>
    hstep w a w' hr hP (Step.of_eq hs).1 hok (Step.of_eq hs).2

/-! ## Devices -/

namespace Case.Edited

variable {c c' : Case}

theorem calls_stopPc {cfg : Setup} {d d' : Device} (h : Device.Calls cfg d d') :
    d'.stopPc = d.stopPc := by
  induction h with
  | refl => rfl
  | tail _ hd ih =>
      have ⟨a, ha⟩ := hd
      rw [(Device.UserStep.of_eq ha).frame.stopPc, ih]

theorem stopPc (h : c.Edited c') : c'.device.stopPc = c.device.stopPc := by
  obtain ⟨d, _, rfl, hd⟩ := h
  exact calls_stopPc hd

theorem deleted (h : c.Edited c') : c'.deleted = c.deleted := by
  obtain ⟨d, _, rfl, hd⟩ := h
  rfl

end Case.Edited

theorem stopPc_of_thread {cfg : Setup} {a : QCamx.Act} {d d' : Device} (ha : OfMain a = false)
    (h : d.step cfg a = some d') : d'.stopPc = d.stopPc := by
  cases (Device.Step.of_eq h).2 with
  | request hs => exact hs.frame.stopPc
  | hal hs => exact hs.frame.stopPc
  | result hs => exact hs.frame.stopPc
  | encoderReturn ht => rfl
  | stop hs => cases ha
  | user hs => cases ha

/-- Every step of a device is one that `okd` allows. -/
def Devices (okd : Setup → QCamx.Act → Device → Prop) (a : Act) (w : Console) : Prop :=
  match a, w.pc with
  | .thread k a, _ => ∀ c ∈ w.cases[k]?, okd c.setup a c.device
  | .stop a, .stopping k _ => ∀ c ∈ w.cases[k]?, okd c.setup (.stop a) c.device
  | _, _ => True

instance (okd : Setup → QCamx.Act → Device → Prop) [∀ cfg a d, Decidable (okd cfg a d)] (a : Act)
    (w : Console) : Decidable (Devices okd a w) := by
  unfold Devices
  split <;> infer_instance

section

variable {okd : QCamx.Act → Device → Prop} {cfg : Setup} {d d' : Device}

theorem run_of_calls (h : Device.Calls cfg d d') (huser : ∀ a d, okd (.user a) d)
    (hfault : d.fault = none) (hr : Device.Run cfg okd d) : Device.Run cfg okd d' := by
  have hboth : d'.fault = none ∧ Device.Run cfg okd d' := by
    induction h with
    | refl => exact ⟨hfault, hr⟩
    | @tail d₁ d₂ _ hd ih =>
        have ⟨a, ha⟩ := hd
        have hstep : Device.step cfg (.user a) d₁ = some d₂ := by
          rw [Device.step, ih.1]
          exact ha
        exact ⟨by rw [(Device.UserStep.of_eq ha).frame.fault, ih.1], ih.2.tail (huser _ _) hstep⟩
  exact hboth.2

theorem run_of_begin (h : d.stop cfg .begin = some d') (hbegin : ∀ d, okd (.stop .begin) d)
    (hfault : d.fault = none) (hr : Device.Run cfg okd d) : Device.Run cfg okd d' := by
  refine hr.tail (a := .stop .begin) (hbegin _) ?_
  rw [Device.step, hfault]
  exact h

end

theorem forall_mem_setCase {P : Case → Prop} {k : ℕ} {c : Case} (h : ∀ c ∈ w.cases, P c)
    (hc : P c) : ∀ c' ∈ (w.setCase k c).cases, P c' := by
  intro c' hc'
  rcases List.mem_or_eq_of_mem_set hc' with hmem | rfl
  · exact h c' hmem
  · exact hc

theorem forall_mem_registered {P : Case → Prop} {c : Case} (h : ∀ c ∈ w.cases, P c) (hc : P c) :
    ∀ c' ∈ (w.registered c).cases, P c' := by
  intro c' hc'
  rcases List.mem_append.mp hc' with hmem | hnew
  · exact h c' hmem
  · rw [List.mem_singleton.mp hnew]
    exact hc

theorem startCase_eq_ok {tc : TestCase} {c : Config} {start : Start} {new : Case}
    (h : startCase enc tc c start = .ok new) :
    ∃ configured, new = newCase enc tc c start configured ∧
      (configured = none ∧ start.camera3Streams tc c = [] ∨
        start.getsOn tc c = true ∧ configured = some start.configures) := by
  rw [startCase] at h
  cases hinit : Streams.initStreamsOf start.characteristics c tc with
  | error e =>
      cases e with
      | unsupported s =>
          rw [hinit] at h
          refine ⟨none, (Except.ok.inj h).symm, .inl ⟨rfl, ?_⟩⟩
          rw [Start.camera3Streams, hinit]
      | sensorModeTable => simp [hinit] at h
  | ok call =>
      simp only [hinit] at h
      split_ifs at h with hcalls
      refine ⟨some start.configures, (Except.ok.inj h).symm, .inr ⟨?_, rfl⟩⟩
      rw [Start.getsOn, hinit]
      rfl

/-- **The device of every case is in a run of its own**, by the steps that `okd` allows. -/
theorem deviceRuns_of (okd : Setup → QCamx.Act → Device → Prop) (h : Run enc ok w)
    (hok : ∀ a w, ok a w → Devices okd a w) (huser : ∀ cfg a d, okd cfg (.user a) d)
    (hbegin : ∀ cfg d, okd cfg (.stop .begin) d) :
    ∀ c ∈ w.cases, Device.Run c.setup (okd c.setup) c.device := by
  refine h.invariant (P := fun w => ∀ c ∈ w.cases, Device.Run c.setup (okd c.setup) c.device)
    (by simp) fun w a w' _ hi hdef ha hs => ?_
  have hdevices := hok a w ha
  have hnew : ∀ {tc c start new}, startCase enc tc c start = .ok new →
      Device.Run new.setup (okd new.setup) new.device := by
    intro tc c start new hstart
    obtain ⟨configured, rfl, _⟩ := startCase_eq_ok hstart
    exact Reachable.refl
  have hcase : ∀ {k : ℕ} {c : Case}, w.cases[k]? = some c →
      c.device.fault = none ∧ Device.Run c.setup (okd c.setup) c.device := by
    intro k c hk
    have hmem := List.mem_of_getElem? hk
    exact ⟨hdef.2 c hmem, hi c hmem⟩
  cases hs with
  | fault hfault | endOfInput hpc | emptySlot hpc hrange hslot | returned hpc hi' => exact hi
  | command hpc hs =>
      cases hs with
      | stay | quit => exact hi
      | add hskip hcmd hparse hmode hstart hrange => exact forall_mem_registered hi (hnew hstart)
      | edit hslot hedit =>
          obtain ⟨d, _, rfl, hd⟩ := hedit
          have ⟨hfault, hr⟩ := hcase hslot.case
          exact forall_mem_setCase hi (run_of_calls hd (huser _) hfault hr)
      | delete hcmd hslot hd | switch hskip hcmd hslot hmode hparse hd =>
          have ⟨hfault, hr⟩ := hcase hslot.case
          exact forall_mem_setCase hi (run_of_begin hd (hbegin _) hfault hr)
  | stop hpc hk hd =>
      simp only [Devices, hpc] at hdevices
      exact forall_mem_setCase hi ((hcase hk).2.tail (hdevices _ hk) hd)
  | thread hthread hk hd => exact forall_mem_setCase hi ((hcase hk).2.tail (hdevices _ hk) hd)
  | deleted hpc hk hstop hopened hrange | shutDown hpc hk hstop hopened hrange =>
      exact forall_mem_setCase hi (hcase hk).2
  | switched hpc hk hstop hstart hrange hnew' =>
      exact forall_mem_registered (forall_mem_setCase hi (hcase hk).2) (hnew hstart)
  | shutdownStop hpc hslot hd =>
      have ⟨hfault, hr⟩ := hcase hslot.case
      exact forall_mem_setCase hi (run_of_begin hd (hbegin _) hfault hr)

theorem deviceRuns (h : Run enc ok w) :
    ∀ c ∈ w.cases, Device.Run c.setup (fun _ _ => True) c.device :=
  deviceRuns_of (fun _ _ _ => True) h (fun a w _ => by unfold Devices; split <;> simp)
    (fun _ _ _ => trivial) fun _ _ => trivial

/-! ## Slots -/

theorem cleared_eq_some_iff {f : ℤ → Option ℕ} {l : ℕ} {i j : ℤ} :
    Function.update f i none j = some l ↔ j ≠ i ∧ f j = some l := by
  by_cases hji : j = i
  · rw [hji, Function.update_self]
    simp
  · rw [Function.update_of_ne hji]
    exact (and_iff_right hji).symm

theorem stored_eq_some_iff {f : ℤ → Option ℕ} {l n : ℕ} {i j : ℤ} :
    Function.update f i (some n) j = some l ↔ j = i ∧ l = n ∨ j ≠ i ∧ f j = some l := by
  by_cases hji : j = i
  · rw [hji, Function.update_self, Option.some.injEq]
    simp [eq_comm]
  · rw [Function.update_of_ne hji]
    simp [hji]

/-- What the slots hold. -/
structure SlotsLive (w : Console) : Prop where
  range : ∀ {i k}, w.sHAL3Test i = some k → InRange i
  injective : ∀ {i j k}, w.sHAL3Test i = some k → w.sHAL3Test j = some k → i = j
  live : ∀ {i k}, w.sHAL3Test i = some k → ∃ c, w.cases[k]? = some c ∧ c.deleted = false ∧
    (c.device.stopPc ≠ .running → ∃ next, w.pc = .stopping k next)
  stopping : ∀ {k next}, w.pc = .stopping k next → w.sHAL3Test next.slot = some k

namespace SlotsLive

variable {k : ℕ} {i : ℤ} {c c' : Case}

theorem init : SlotsLive {} := by
  constructor <;> simp

theorem running (hi : SlotsLive w) (hpc : ∀ k next, w.pc ≠ .stopping k next)
    (hslot : w.sHAL3Test i = some k) :
    ∃ c, Holds w i k c ∧ c.device.stopPc = .running := by
  have ⟨c, hcase, hlive, hrun⟩ := hi.live hslot
  refine ⟨c, ⟨hi.range hslot, hslot, hcase, hlive⟩, ?_⟩
  by_contra hne
  have ⟨next, hnext⟩ := hrun hne
  exact hpc k next hnext

theorem setPc (hi : SlotsLive w) (hpc : ∀ k next, w.pc ≠ .stopping k next)
    (hslot : w'.sHAL3Test = w.sHAL3Test) (hcases : w'.cases = w.cases)
    (hpc' : ∀ k next, w'.pc ≠ .stopping k next) : SlotsLive w' where
  range h := hi.range (hslot ▸ h)
  injective h h' := hi.injective (hslot ▸ h) (hslot ▸ h')
  live h := by
    have ⟨c, hc, hrun⟩ := hi.running hpc (hslot ▸ h)
    exact ⟨c, by rw [hcases]; exact hc.case, hc.live, fun hne => absurd hrun hne⟩
  stopping h := absurd h (hpc' _ _)

theorem setCase (hi : SlotsLive w) (hcase : w.cases[k]? = some c) (hdel : c'.deleted = c.deleted)
    (hstop : c'.device.stopPc = c.device.stopPc ∨ ∃ next, w.pc = .stopping k next) :
    SlotsLive (w.setCase k c') where
  range := hi.range
  injective := hi.injective
  live {i j} h := by
    have ⟨c₀, hc₀, hlive, hrun⟩ := hi.live h
    by_cases hkj : k = j
    · subst hkj
      obtain rfl := Option.some.inj (hcase.symm.trans hc₀)
      refine ⟨c', (setCase_eq_some_iff hcase).mpr (.inl ⟨rfl, rfl⟩), hdel.trans hlive,
        fun hne => ?_⟩
      rcases hstop with hsame | hnext
      · exact hrun (hsame ▸ hne)
      · exact hnext
    · exact ⟨c₀, (setCase_eq_some_iff hcase).mpr (.inr ⟨hkj, hc₀⟩), hlive, hrun⟩
  stopping := hi.stopping

theorem stopBegins {d : Device} {next : Next} (hi : SlotsLive w)
    (hpc : ∀ k next, w.pc ≠ .stopping k next) (hslot : w.sHAL3Test next.slot = some k)
    (hcase : w.cases[k]? = some c) (hdel : c'.deleted = c.deleted) :
    SlotsLive (w.stopping k c' d next) where
  range := hi.range
  injective := hi.injective
  live {i j} h := by
    have ⟨c₀, hc₀, hrun⟩ := hi.running hpc h
    by_cases hkj : k = j
    · subst hkj
      obtain rfl := Option.some.inj (hcase.symm.trans hc₀.case)
      exact ⟨_, (setCase_eq_some_iff hcase).mpr (.inl ⟨rfl, rfl⟩), hdel.trans hc₀.live,
        fun _ => ⟨next, rfl⟩⟩
    · exact ⟨c₀, (setCase_eq_some_iff hcase).mpr (.inr ⟨hkj, hc₀.case⟩), hc₀.live,
        fun hne => absurd hrun hne⟩
  stopping {j next'} h := by
    obtain ⟨rfl, rfl⟩ := Pc.stopping.inj h
    exact hslot

theorem remove {next : Next} {pc : Pc} (hi : SlotsLive w) (hpc : w.pc = .stopping k next)
    (hpc' : ∀ k next, pc ≠ .stopping k next) :
    SlotsLive { w.removed k next.slot c with pc := pc } where
  range h := hi.range (cleared_eq_some_iff.mp h).2
  injective h h' := hi.injective (cleared_eq_some_iff.mp h).2 (cleared_eq_some_iff.mp h').2
  live {i j} h := by
    have ⟨hne, hslot⟩ := cleared_eq_some_iff.mp h
    have ⟨c₀, hc₀, hlive, hrun⟩ := hi.live hslot
    -- another slot holds another case, which runs
    have hkj : k ≠ j := by
      rintro rfl
      exact hne (hi.injective hslot (hi.stopping hpc))
    refine ⟨c₀, ?_, hlive, fun hstop => ?_⟩
    · show (w.cases.set k c)[j]? = some c₀
      rw [List.getElem?_set_ne hkj]
      exact hc₀
    · have ⟨next', hnext⟩ := hrun hstop
      rw [hpc] at hnext
      exact absurd (Pc.stopping.inj hnext).1 hkj
  stopping h := absurd h (hpc' _ _)

theorem register (hi : SlotsLive w) (hpc : ∀ k next, w.pc ≠ .stopping k next)
    (hrange : InRange c.config.cameraId.toInt) (hdel : c.deleted = false)
    (hrun : c.device.stopPc = .running) : SlotsLive (w.registered c) where
  range {i j} h := by
    rcases stored_eq_some_iff.mp h with ⟨rfl, _⟩ | ⟨_, hslot⟩
    · exact hrange
    · exact hi.range hslot
  injective {i j l} h h' := by
    have hnew : ∀ {i}, w.sHAL3Test i ≠ some w.cases.length := by
      intro i hslot
      have ⟨c₀, hc₀, _⟩ := hi.live hslot
      have hlt := (List.getElem?_eq_some_iff.mp hc₀).1
      omega
    rcases stored_eq_some_iff.mp h with ⟨rfl, rfl⟩ | ⟨hne, hslot⟩ <;>
      rcases stored_eq_some_iff.mp h' with ⟨rfl, hl⟩ | ⟨hne', hslot'⟩
    · rfl
    · exact absurd hslot' hnew
    · rw [hl] at hslot
      exact absurd hslot hnew
    · exact hi.injective hslot hslot'
  live {i j} h := by
    rcases stored_eq_some_iff.mp h with ⟨_, rfl⟩ | ⟨_, hslot⟩
    · exact ⟨c, registered_eq_some_iff.mpr (.inr ⟨rfl, rfl⟩), hdel, fun hne => absurd hrun hne⟩
    · have ⟨c₀, hc₀, hrun₀⟩ := hi.running hpc hslot
      exact ⟨c₀, registered_eq_some_iff.mpr (.inl hc₀.case), hc₀.live, fun hne => absurd hrun₀ hne⟩
  stopping h := absurd h (hpc _ _)

theorem command {order : CString} {env : Env} (hi : SlotsLive w) (hpc : w.pc = .prompt)
    (hs : CommandStep enc order env w w') : SlotsLive w' := by
  have hne : ∀ k next, w.pc ≠ .stopping k next := by simp [hpc]
  cases hs with
  | stay => exact hi
  | quit => exact hi.setPc hne rfl rfl (by simp)
  | @add config mode new hskip hcmd hparse hmode hstart hrange =>
      obtain ⟨configured, rfl, _⟩ := startCase_eq_ok hstart
      have hselect : SlotsLive { w with currentCameraId := config.cameraId } :=
        hi.setPc hne rfl rfl hne
      exact hselect.register hne hrange rfl rfl
  | edit hslot hedit => exact hi.setCase hslot.case hedit.deleted (.inl hedit.stopPc)
  | delete hcmd hslot hd => exact hi.stopBegins hne hslot.slot hslot.case rfl
  | switch hskip hcmd hslot hmode hparse hd => exact hi.stopBegins hne hslot.slot hslot.case rfl

theorem step {a : Act} (hi : SlotsLive w) (hs : Step enc w a w') : SlotsLive w' := by
  cases hs with
  | fault hfault => exact ⟨hi.range, hi.injective, hi.live, hi.stopping⟩
  | command hpc hs => exact hi.command hpc hs
  | endOfInput hpc => exact hi.setPc (by simp [hpc]) rfl rfl (by simp)
  | @stop k next a c d hpc hcase hd => exact hi.setCase hcase rfl (.inr ⟨next, hpc⟩)
  | thread hthread hcase hd =>
      exact hi.setCase hcase rfl (.inl (stopPc_of_thread hthread hd))
  | deleted hpc hcase hstop hopened hrange => exact hi.remove hpc (by simp)
  | @switched env k i c new hpc hcase hstop hstart hrange hnew =>
      obtain ⟨configured, rfl, _⟩ := startCase_eq_ok hstart
      have hremoved : SlotsLive { w.removed k i (c.gone false) with pc := .prompt } :=
        hi.remove hpc (by simp)
      exact hremoved.register (by simp) hnew rfl rfl
  | shutDown hpc hcase hstop hopened hrange => exact hi.remove hpc (by simp)
  | emptySlot hpc hrange hslot => exact hi.setPc (by simp [hpc]) rfl rfl (by simp)
  | shutdownStop hpc hslot hd => exact hi.stopBegins (by simp [hpc]) hslot.slot hslot.case rfl
  | returned hpc hge => exact hi.setPc (by simp [hpc]) rfl rfl (by simp)

end SlotsLive

/-- **A slot is empty or holds a live case, in every run.** -/
theorem slotsLive (h : Run enc ok w) : SlotsLive w :=
  h.invariant .init fun _ _ _ _ hi _ _ hs => hi.step hs

end Console

end QCamx

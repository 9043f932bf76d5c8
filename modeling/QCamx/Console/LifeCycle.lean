import QCamx.Console.Starts

/-!
# The life cycle of a camera

A case that `A` or `v` has started is in the slot of its camera until it has been stopped, closed
and deleted, unless a command takes the slot away from it.

* `LifeCycle`: the property;
* `Orderly`: `A` names an empty slot, and `v` switches no case whose camera is open, since `v` never
  closes it;
* **`lifeCycle`**: the property holds in every run whose commands are orderly;
* `two_cases_of_one_camera`: and is lost where `A` names a slot that is taken.
-/

namespace QCamx

open Guarded

namespace Console

variable {enc : Bool} {ok : Act → Console → Prop} {w w' : Console}

/-! ## The property -/

/-- Its `stop` has not returned yet. Every case in the list has been started. -/
def Case.Running (c : Case) : Prop := c.device.stopPc ≠ .stopped

/-- Stopped exactly once, and closed exactly once if it was opened. -/
structure Case.Finished (c : Case) : Prop where
  stopped : ¬ c.Running
  stops : c.stops = 1
  closes : c.opened = true → c.closes = 1

/-- At most one case of each camera runs, it is in the camera's slot, and when `main` has returned
all cases are finished. -/
structure LifeCycle (w : Console) : Prop where
  unique : ∀ {k k' : ℕ} {c c' : Case}, w.cases[k]? = some c →
    w.cases[k']? = some c' → c.Running → c'.Running → c.cameraId = c'.cameraId → k = k'
  registered : ∀ {k : ℕ} {c : Case}, w.cases[k]? = some c → c.Running →
    w.slot c.cameraId.toInt = .ok (some k)
  ended : w.pc = .returned → ∀ c ∈ w.cases, c.Finished

/-! ## The condition -/

/-- The case that a line `v` stops, and the configuration it leaves there. -/
def switchConfig (order : CString) (w : Console) : Option (Case × Config) :=
  if Skipped order ∨ command order ≠ .video then none
  else match w.caseAt w.currentCameraId.toInt with
    | .ok (_, c) =>
        if c.config.testMode = some .preview then
          match parseCommandlineAdd (param order) c.config with
          | .ok (_, config) => some (c, config)
          | .error _ => none
        else none
    | .error _ => none

/-- Slot `i` exists and is empty. -/
def Vacant (w : Console) (i : ℤ) : Prop := InRange i ∧ w.sHAL3Test i = none

instance (w : Console) (i : ℤ) : Decidable (Vacant w i) :=
  inferInstanceAs (Decidable (InRange i ∧ w.sHAL3Test i = none))

/-- A case that is started gets a slot of its own: `A` names a vacant one; `v` stops a case whose
camera could not be opened, and names its slot or a vacant one. -/
def Orderly (a : Act) (w : Console) : Prop :=
  match a with
  | .command order _ =>
      (∀ c ∈ addConfig order, Vacant w c.cameraId.toInt) ∧
        ∀ p ∈ switchConfig order w, p.1.opened = false ∧
          (Vacant w p.2.cameraId.toInt ∨ p.2.cameraId = w.currentCameraId)
  | _ => True

instance : ∀ (a : Act) (w : Console), Decidable (Orderly a w)
  | .command order _, w =>
      inferInstanceAs (Decidable ((∀ c ∈ addConfig order, Vacant w c.cameraId.toInt) ∧
        ∀ p ∈ switchConfig order w, p.1.opened = false ∧
          (Vacant w p.2.cameraId.toInt ∨ p.2.cameraId = w.currentCameraId)))
  | .endOfInput, _ | .stop _, _ | .resume _, _ | .shutdown, _ | .thread _ _, _ => isTrue trivial

theorem switchConfig_eq_some {order : CString} {k : ℕ} {c : Case} {result : ℤ} {config : Config}
    (hskip : ¬ Skipped order) (hcmd : command order = .video)
    (hslot : Holds w w.currentCameraId.toInt k c) (hmode : c.config.testMode = some .preview)
    (hparse : parseCommandlineAdd (param order) c.config = .ok (result, config)) :
    switchConfig order w = some (c, config) := by
  rw [switchConfig, if_neg (by simp [hskip, hcmd]), caseAt_eq_ok_iff.mpr hslot]
  simp only [if_pos hmode, hparse]

/-! ## The invariant -/

/-- The slots that the loop at the end has passed. -/
def Pc.passed : Pc → Option ℤ
  | .shutdown i | .stopping _ (.shutdown i) => some i
  | .returned => some maxCamera
  | .prompt | .stopping _ (.delete _) | .stopping _ (.switch _) => none

/-- A case in slot `i`; `stopping` if `main` has called its `stop`. -/
structure Case.Slotted (c : Case) (i : ℤ) (stopping : Prop) : Prop where
  cameraId : c.cameraId.toInt = i
  closes : c.closes = 0
  called : stopping → c.stops = 1
  uncalled : ¬ stopping → c.stops = 0

/-- What holds of the cases and the slots. -/
structure LifeInv (w : Console) : Prop where
  slotted : ∀ {i k c}, w.sHAL3Test i = some k → w.cases[k]? = some c →
    c.Slotted i (∃ next, w.pc = .stopping k next)
  owned : ∀ {k c}, w.cases[k]? = some c → w.sHAL3Test c.cameraId.toInt = some k ∨ c.Finished
  passed : ∀ {i j}, w.pc.passed = some i → j < i → w.sHAL3Test j = none
  switching : ∀ {k i c}, w.pc = .stopping k (.switch i) → w.cases[k]? = some c →
    c.opened = false ∧ (w.sHAL3Test c.config.cameraId.toInt = none ∨ c.config.cameraId.toInt = i)

/-- What `main` does not change in a case while the case is in its slot. -/
structure Case.Same (c c' : Case) : Prop where
  cameraId : c'.cameraId = c.cameraId
  opened : c'.opened = c.opened
  stops : c'.stops = c.stops
  closes : c'.closes = c.closes
  config : c'.config = c.config

namespace LifeInv

variable {k : ℕ} {i : ℤ} {c c' : Case}

theorem init : LifeInv {} := by
  constructor <;> simp [Pc.passed]

theorem setPc (hi : LifeInv w) (hpc : ∀ k next, w.pc ≠ .stopping k next)
    (hslot : w'.sHAL3Test = w.sHAL3Test) (hcases : w'.cases = w.cases)
    (hpc' : ∀ k next, w'.pc ≠ .stopping k next)
    (hpassed : ∀ {i j}, w'.pc.passed = some i → j < i → w.sHAL3Test j = none) : LifeInv w' where
  slotted {i k c} h hc := by
    have hs := hi.slotted (hslot ▸ h) (hcases ▸ hc)
    refine ⟨hs.cameraId, hs.closes, fun hnext => ?_, fun _ => hs.uncalled ?_⟩
    · have ⟨next, hnext⟩ := hnext
      exact absurd hnext (hpc' k next)
    · rintro ⟨next, hnext⟩
      exact hpc k next hnext
  owned hc := by
    rw [hslot]
    exact hi.owned (hcases ▸ hc)
  passed hp hlt := by
    rw [hslot]
    exact hpassed hp hlt
  switching h := absurd h (hpc' _ _)

theorem setCase (hi : LifeInv w) (hcase : w.cases[k]? = some c) (hsame : c.Same c')
    (hstop : c'.device.stopPc = c.device.stopPc ∨ w.sHAL3Test c.cameraId.toInt = some k) :
    LifeInv (w.setCase k c') := by
  refine ⟨fun {i j c₀} h hc => ?_, fun {j c₀} hc => ?_, hi.passed, fun {j i c₀} hpc hc => ?_⟩
  · rcases (setCase_eq_some_iff hcase).mp hc with ⟨rfl, rfl⟩ | ⟨_, hc⟩
    · have hs := hi.slotted h hcase
      exact ⟨by rw [hsame.cameraId, hs.cameraId], by rw [hsame.closes, hs.closes],
        fun hnext => by rw [hsame.stops, hs.called hnext],
        fun hnext => by rw [hsame.stops, hs.uncalled hnext]⟩
    · exact hi.slotted h hc
  · rcases (setCase_eq_some_iff hcase).mp hc with ⟨rfl, rfl⟩ | ⟨_, hc⟩
    · rw [hsame.cameraId]
      rcases hstop with hstop | hslot
      · rcases hi.owned hcase with hslot | hf
        · exact .inl hslot
        · refine .inr ⟨?_, by rw [hsame.stops, hf.stops], ?_⟩
          · rw [Case.Running, hstop]
            exact hf.stopped
          · rw [hsame.opened, hsame.closes]
            exact hf.closes
      · exact .inl hslot
    · exact hi.owned hc
  · rcases (setCase_eq_some_iff hcase).mp hc with ⟨rfl, rfl⟩ | ⟨_, hc⟩
    · rw [hsame.opened, hsame.config]
      exact hi.switching hpc hcase
    · exact hi.switching hpc hc

theorem stopBegins {d : Device} {next : Next} (hi : LifeInv w)
    (hpc : ∀ k next, w.pc ≠ .stopping k next) (hslot : w.sHAL3Test next.slot = some k)
    (hcase : w.cases[k]? = some c) (hcamera : c'.cameraId = c.cameraId)
    (hcloses : c'.closes = c.closes) (hstops : c'.stops = c.stops)
    (hpassed : ∀ {i j}, (Pc.stopping k next).passed = some i → j < i → w.sHAL3Test j = none)
    (hswitch : ∀ i, next = .switch i → c'.opened = false ∧
      (w.sHAL3Test c'.config.cameraId.toInt = none ∨ c'.config.cameraId.toInt = i)) :
    LifeInv (w.stopping k c' d next) := by
  refine ⟨fun {i j c₀} h hc => ?_, fun {j c₀} hc => ?_, hpassed, fun {j i c₀} hpc' hc => ?_⟩
  · rcases (setCase_eq_some_iff hcase).mp hc with ⟨rfl, rfl⟩ | ⟨hkj, hc⟩
    · have hs := hi.slotted h hcase
      have hzero : c.stops = 0 := hs.uncalled fun ⟨next', hnext⟩ => hpc k next' hnext
      refine ⟨by rw [← hs.cameraId, ← hcamera], hcloses.trans hs.closes, fun _ => ?_, fun hne => ?_⟩
      · show c'.stops + 1 = 1
        omega
      · exact absurd ⟨next, rfl⟩ hne
    · have hs := hi.slotted h hc
      refine ⟨hs.cameraId, hs.closes, fun ⟨next', hnext⟩ => ?_, fun _ => hs.uncalled ?_⟩
      · exact absurd (Pc.stopping.inj hnext).1 hkj
      · exact fun ⟨next', hnext⟩ => hpc j next' hnext
  · rcases (setCase_eq_some_iff hcase).mp hc with ⟨rfl, rfl⟩ | ⟨_, hc⟩
    · refine .inl ?_
      show w.sHAL3Test c'.cameraId.toInt = some k
      rw [hcamera, (hi.slotted hslot hcase).cameraId]
      exact hslot
    · exact hi.owned hc
  · obtain ⟨rfl, rfl⟩ := Pc.stopping.inj hpc'
    rcases (setCase_eq_some_iff hcase).mp hc with ⟨_, rfl⟩ | ⟨hkk, _⟩
    · exact hswitch i rfl
    · exact absurd rfl hkk

theorem remove {next : Next} {pc : Pc} {close : Bool} (hi : LifeInv w) (hl : SlotsLive w)
    (hpc : w.pc = .stopping k next) (hpc' : ∀ k next, pc ≠ .stopping k next)
    (hcase : w.cases[k]? = some c) (hstop : c.device.stopPc = .stopped)
    (hclose : c.opened = true → close = true)
    (hpassed : ∀ {i j}, pc.passed = some i → j < i → j = next.slot ∨ w.sHAL3Test j = none) :
    LifeInv { w.removed k next.slot (c.gone close) with pc := pc } := by
  have hslot := hl.stopping hpc
  have hs := hi.slotted hslot hcase
  refine ⟨fun {i j c₀} h hc => ?_, fun {j c₀} hc => ?_, fun {i j} hp hj => ?_,
    fun h => absurd h (hpc' _ _)⟩
  · have ⟨hne, h⟩ := cleared_eq_some_iff.mp h
    rcases (setCase_eq_some_iff hcase).mp hc with ⟨rfl, _⟩ | ⟨hkj, hc⟩
    · exact absurd (hl.injective h hslot) hne
    · have hs := hi.slotted h hc
      refine ⟨hs.cameraId, hs.closes, fun ⟨next', hnext⟩ => ?_, fun _ => hs.uncalled ?_⟩
      · exact absurd hnext (hpc' j next')
      · rintro ⟨next', hnext⟩
        rw [hpc] at hnext
        exact hkj (Pc.stopping.inj hnext).1
  · rcases (setCase_eq_some_iff hcase).mp hc with ⟨_, rfl⟩ | ⟨hkj, hc⟩
    · refine .inr ⟨fun hrun => hrun hstop, hs.called ⟨next, hpc⟩, fun hopened => ?_⟩
      simp only [Case.gone, hclose hopened, if_true, hs.closes]
    · rcases hi.owned hc with hown | hf
      · refine .inl (cleared_eq_some_iff.mpr ⟨fun heq => ?_, hown⟩)
        rw [heq, hslot] at hown
        exact hkj (Option.some.inj hown)
      · exact .inr hf
  · show Function.update w.sHAL3Test next.slot none j = none
    by_cases hjn : j = next.slot
    · rw [hjn, Function.update_self]
    · rw [Function.update_of_ne hjn]
      exact (hpassed hp hj).resolve_left hjn

theorem register (hi : LifeInv w) (hl : SlotsLive w) (hpc : w.pc = .prompt)
    (hempty : w.sHAL3Test c.config.cameraId.toInt = none) (hcamera : c.cameraId = c.config.cameraId)
    (hstops : c.stops = 0) (hcloses : c.closes = 0) : LifeInv (w.registered c) := by
  have hne : ∀ k next, w.pc ≠ .stopping k next := by simp [hpc]
  refine ⟨fun {i j c₀} h hc => ?_, fun {j c₀} hc => ?_, fun {i j} hp => ?_,
    fun h => absurd h (hne _ _)⟩
  · rcases stored_eq_some_iff.mp h with ⟨rfl, rfl⟩ | ⟨_, h⟩
    · rcases registered_eq_some_iff.mp hc with hc | ⟨_, rfl⟩
      · have hlt := (List.getElem?_eq_some_iff.mp hc).1
        omega
      · exact ⟨by rw [hcamera], hcloses, fun ⟨next, hnext⟩ => absurd hnext (hne _ next),
          fun _ => hstops⟩
    · have ⟨c₁, hc₁, _⟩ := hl.live h
      have hlt := (List.getElem?_eq_some_iff.mp hc₁).1
      rcases registered_eq_some_iff.mp hc with hc | ⟨rfl, _⟩
      · exact hi.slotted h hc
      · omega
  · rcases registered_eq_some_iff.mp hc with hc | ⟨rfl, rfl⟩
    · rcases hi.owned hc with hown | hf
      · refine .inl (stored_eq_some_iff.mpr (.inr ⟨fun heq => ?_, hown⟩))
        rw [heq, hempty] at hown
        cases hown
      · exact .inr hf
    · exact .inl (stored_eq_some_iff.mpr (.inl ⟨by rw [hcamera], rfl⟩))
  · have hp : w.pc.passed = some i := hp
    rw [hpc] at hp
    cases hp

theorem passed_zero (hl : SlotsLive w) {j : ℤ} (hj : j < 0) : w.sHAL3Test j = none := by
  cases hslot : w.sHAL3Test j with
  | none => rfl
  | some k =>
      have hrange := (hl.range hslot).1
      omega

theorem stopHeld {d : Device} {next : Next} (hi : LifeInv w)
    (hpc : ∀ k next, w.pc ≠ .stopping k next) (hslot : Holds w next.slot k c)
    (hpassed : ∀ {i j}, (Pc.stopping k next).passed = some i → j < i → w.sHAL3Test j = none)
    (hswitch : ∀ i, next ≠ .switch i) : LifeInv (w.stopping k c d next) :=
  hi.stopBegins hpc hslot.slot hslot.case rfl rfl rfl hpassed fun i hnext =>
    absurd hnext (hswitch i)

theorem command {order : CString} {env : Env} (hi : LifeInv w) (hl : SlotsLive w)
    (hpc : w.pc = .prompt) (hok : Orderly (.command order env) w)
    (hs : CommandStep enc order env w w') : LifeInv w' := by
  have hne : ∀ k next, w.pc ≠ .stopping k next := by simp [hpc]
  cases hs with
  | stay => exact hi
  | quit =>
      refine hi.setPc hne rfl rfl (by simp) fun {i j} hp hj => ?_
      obtain rfl := Option.some.inj hp
      exact passed_zero hl hj
  | @add config mode new hskip hcmd hparse hmode hstart hrange =>
      have hvacant := hok.1 config (addConfig_eq_some hskip hcmd hparse)
      have hselect : LifeInv { w with currentCameraId := config.cameraId } :=
        hi.setPc hne rfl rfl hne (fun hp hj => hi.passed hp hj)
      have hlselect : SlotsLive { w with currentCameraId := config.cameraId } :=
        hl.setPc hne rfl rfl hne
      obtain ⟨configured, rfl, _⟩ := startCase_eq_ok hstart
      exact hselect.register hlselect hpc hvacant.2 rfl rfl rfl
  | edit hslot hedit =>
      obtain ⟨d, _, rfl, hd⟩ := hedit
      exact hi.setCase hslot.case ⟨rfl, rfl, rfl, rfl, rfl⟩ (.inl (Case.Edited.calls_stopPc hd))
  | delete hcmd hslot hd =>
      exact hi.stopHeld hne hslot (fun hp => by simp [Pc.passed] at hp) (by simp)
  | @switch k c result config d hskip hcmd hslot hmode hparse hd =>
      have ⟨hopened, hvacant⟩ :=
        hok.2 (c, config) (switchConfig_eq_some hskip hcmd hslot hmode hparse)
      refine hi.stopBegins hne hslot.slot hslot.case rfl rfl rfl
        (fun hp => by simp [Pc.passed] at hp) fun i hnext => ⟨hopened, ?_⟩
      rcases hvacant with hvacant | hsame
      · exact .inl hvacant.2
      · refine .inr ?_
        rw [← Next.switch.inj hnext]
        exact congrArg Int32.toInt hsame

theorem switched {start : Start} {new : Case} (hi : LifeInv w) (hl : SlotsLive w)
    (hpc : w.pc = .stopping k (.switch i)) (hcase : w.cases[k]? = some c)
    (hstop : c.device.stopPc = .stopped)
    (hstart : startCase enc .hal3TestVideo c.config start = .ok new) :
    LifeInv { (w.removed k i (c.gone false)).registered new with pc := .prompt } := by
  have ⟨hclosed, hempty⟩ := hi.switching hpc hcase
  have hremoved : LifeInv { w.removed k i (c.gone false) with pc := .prompt } :=
    hi.remove hl hpc (by simp) hcase hstop (by simp [hclosed]) (fun hp => by cases hp)
  have hlremoved : SlotsLive { w.removed k i (c.gone false) with pc := .prompt } :=
    hl.remove hpc (by simp)
  obtain ⟨configured, rfl, _⟩ := startCase_eq_ok hstart
  refine hremoved.register hlremoved rfl ?_ rfl rfl rfl
  -- the slot that the options name was empty, or is the one just cleared
  show Function.update w.sHAL3Test i none c.config.cameraId.toInt = none
  by_cases hid : c.config.cameraId.toInt = i
  · rw [hid, Function.update_self]
  · rw [Function.update_of_ne hid]
    exact hempty.resolve_right hid

theorem step {a : Act} (hi : LifeInv w) (hl : SlotsLive w) (hok : Orderly a w)
    (hs : Step enc w a w') : LifeInv w' := by
  cases hs with
  | fault hfault => exact ⟨hi.slotted, hi.owned, hi.passed, hi.switching⟩
  | command hpc hs => exact hi.command hl hpc hok hs
  | endOfInput hpc =>
      refine hi.setPc (by simp [hpc]) rfl rfl (by simp) fun {i j} hp hj => ?_
      obtain rfl := Option.some.inj hp
      exact passed_zero hl hj
  | @stop k next a c d hpc hcase hd =>
      have hslot := hl.stopping hpc
      have hid := (hi.slotted hslot hcase).cameraId
      exact hi.setCase hcase ⟨rfl, rfl, rfl, rfl, rfl⟩ (.inr (hid ▸ hslot))
  | thread hthread hcase hd =>
      exact hi.setCase hcase ⟨rfl, rfl, rfl, rfl, rfl⟩ (.inl (stopPc_of_thread hthread hd))
  | deleted hpc hcase hstop hopened hrange =>
      exact hi.remove hl hpc (by simp) hcase hstop (fun _ => rfl) (fun hp => by cases hp)
  | switched hpc hcase hstop hstart hrange hnew => exact hi.switched hl hpc hcase hstop hstart
  | @shutDown env k i c hpc hcase hstop hopened hrange =>
      refine hi.remove hl hpc (by simp) hcase hstop (fun _ => rfl) fun {i' j} hp hj => ?_
      obtain rfl := Option.some.inj hp
      by_cases hji : j = i
      · exact .inl hji
      · exact .inr (hi.passed (by rw [hpc]; rfl) (by omega : j < i))
  | @emptySlot i hpc hrange hslot =>
      refine hi.setPc (by simp [hpc]) rfl rfl (by simp) fun {i' j} hp hj => ?_
      obtain rfl := Option.some.inj hp
      by_cases hji : j = i
      · rw [hji]
        exact hslot
      · exact hi.passed (by rw [hpc]; rfl) (by omega : j < i)
  | @shutdownStop k i c d hpc hslot hd =>
      refine hi.stopHeld (by simp [hpc]) hslot (fun {i' j} hp hj => ?_) (by simp)
      obtain rfl := Option.some.inj hp
      exact hi.passed (by rw [hpc]; rfl) hj
  | @returned i hpc hge =>
      refine hi.setPc (by simp [hpc]) rfl rfl (by simp) fun {i' j} hp hj => ?_
      obtain rfl := Option.some.inj hp
      exact hi.passed (by rw [hpc]; rfl) (by omega : j < i)

end LifeInv

theorem lifeInv (h : Run enc Orderly w) : LifeInv w :=
  h.invariant .init fun _ _ _ hr hi _ hok hs => hi.step (slotsLive hr) hok hs

/-- **The life cycle of every camera is kept**, in every run whose commands are orderly. -/
theorem lifeCycle (h : Run enc Orderly w) : LifeCycle w := by
  have hi := lifeInv h
  have hl := slotsLive h
  have hslot : ∀ {k c}, w.cases[k]? = some c → c.Running → w.sHAL3Test c.cameraId.toInt = some k :=
    fun hc hrun => (hi.owned hc).resolve_right fun hf => hf.stopped hrun
  refine ⟨fun {k k' c c'} hc hc' hrun hrun' hid => ?_, fun {k c} hc hrun => ?_, fun hpc c hc => ?_⟩
  · have hk := hslot hc hrun
    have hk' := hslot hc' hrun'
    rw [hid, hk'] at hk
    exact (Option.some.inj hk).symm
  · have hk := hslot hc hrun
    exact slot_eq_ok_iff.mpr ⟨hl.range hk, hk⟩
  · have ⟨k, hk⟩ := List.mem_iff_getElem?.mp hc
    refine (hi.owned hk).resolve_left fun hown => ?_
    have hlt := (hl.range hown).2
    rw [hi.passed (by rw [hpc]; rfl) hlt] at hown
    cases hown

/-! ## Two cases of one camera -/

/-- Two lines `previewLine`. -/
def addTwice : List Act :=
  [.command previewLine vgaEnv, .command previewLine vgaEnv]

/-- The second case takes the slot of the first, which goes on running. -/
theorem two_cases_of_one_camera : ∃ w, Run true (fun _ _ => True) w ∧ ¬ LifeCycle w := by
  have ⟨w, hr, hcases⟩ : ∃ w, Run true (fun _ _ => True) w ∧
      w.cases.map (fun c => (c.cameraId, c.device.stopPc)) = [(0, .running), (0, .running)] :=
    Reachable.exists_of_exec addTwice (by decide +kernel)
  refine ⟨w, hr, fun h => ?_⟩
  obtain ⟨c₀, l, hw, hc₀, hl⟩ := List.map_eq_cons_iff.mp hcases
  obtain ⟨c₁, l', rfl, hc₁, _⟩ := List.map_eq_cons_iff.mp hl
  have hrun₀ : c₀.Running := by simp [Case.Running, (Prod.mk.inj hc₀).2]
  have hrun₁ : c₁.Running := by simp [Case.Running, (Prod.mk.inj hc₁).2]
  have hid : c₀.cameraId = c₁.cameraId := by rw [(Prod.mk.inj hc₀).1, (Prod.mk.inj hc₁).1]
  have hfirst : w.cases[0]? = some c₀ := by rw [hw]; rfl
  have hsecond : w.cases[1]? = some c₁ := by rw [hw]; rfl
  exact absurd (h.unique hfirst hsecond hrun₀ hrun₁ hid) (by decide)

/-- The steps by which preview case `k`, which has captured nothing, is stopped. -/
def stopIdleCase (k : ℕ) : List Act :=
  [.stop .postRequest, .thread k (.request .iterate), .thread k (.request .iterate),
    .stop .joinRequest, .stop .postResult, .thread k (.result .take), .stop .joinResult,
    .stop .drain, .stop .delete]

def stopIdle : List Act := stopIdleCase 0

/-- A camera is added, the input ends, and `main` returns. -/
def addAndQuit : List Act :=
  [.command previewLine vgaEnv, .endOfInput, .shutdown] ++ stopIdle ++
    .resume vgaEnv :: List.replicate 8 .shutdown

/-- A camera is added, deleted and added again before the input ends. -/
def addDeleteAdd : List Act :=
  [.command previewLine vgaEnv, .command ['D', ':', '0'] vgaEnv] ++ stopIdle ++
    [.resume vgaEnv, .command previewLine vgaEnv, .endOfInput, .shutdown] ++ stopIdleCase 1 ++
    .resume vgaEnv :: List.replicate 8 .shutdown

theorem one_camera_returns :
    ∃ w, Run true Orderly w ∧ w.pc = .returned ∧
      w.cases.map (fun c => (c.cameraId, c.stops, c.closes, c.deleted)) =
        [(0, 1, 1, true), (0, 1, 1, true)] ∧ LifeCycle w := by
  have ⟨w, hr, hpc, hcases⟩ : ∃ w, Run true Orderly w ∧ w.pc = .returned ∧
      w.cases.map (fun c => (c.cameraId, c.stops, c.closes, c.deleted)) =
        [(0, 1, 1, true), (0, 1, 1, true)] :=
    Reachable.exists_of_exec addDeleteAdd (by decide +kernel)
  exact ⟨w, hr, hpc, hcases, lifeCycle hr⟩

end Console

end QCamx

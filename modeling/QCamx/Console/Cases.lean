import QCamx.Console.Step

/-!
# What a step of the console can do

* `CommandStep`: a command leaves everything as it is, edits one case, starts one, or calls the
  `stop` of one;
* `Step`: these, the rest of a command after a `stop`, the loop at the end, and the devices;
* `CommandStep.of_eq`, `Step.of_eq`: the step functions do nothing else.
-/

namespace QCamx

open Outcome

/-- Calls of `main` into a device. -/
def Device.Calls (cfg : Setup) : Device → Device → Prop :=
  Relation.ReflTransGen fun d d' => ∃ a, d.user cfg a = some d'

namespace Console

variable {w w' : Console} {k : ℕ} {c : Case} {i : ℤ}

/-! ## Access -/

theorem slot_eq_ok_iff {p : Option ℕ} : w.slot i = .ok p ↔ InRange i ∧ w.sHAL3Test i = p := by
  rw [slot]
  split_ifs with h <;> simp [h]

theorem setSlot_eq_ok_iff {p : Option ℕ} :
    w.setSlot i p = .ok w' ↔
      InRange i ∧ { w with sHAL3Test := Function.update w.sHAL3Test i p } = w' := by
  rw [setSlot]
  split_ifs with h <;> simp [h]

theorem deref_eq_ok_iff : w.deref k = .ok c ↔ w.cases[k]? = some c ∧ c.deleted = false := by
  rw [deref]
  cases hk : w.cases[k]? with
  | none => simp
  | some c' =>
      cases hdel : c'.deleted with
      | true =>
          refine iff_of_false (by simp [hdel]) ?_
          rintro ⟨heq, hc⟩
          rw [Option.some.inj heq, hc] at hdel
          cases hdel
      | false =>
          simp only [hdel, Bool.false_eq_true, if_false, Except.ok.injEq, Option.some.injEq]
          exact ⟨fun heq => ⟨heq, heq ▸ hdel⟩, And.left⟩

/-- Slot `i` holds the live case `c`, number `k`. -/
structure Holds (w : Console) (i : ℤ) (k : ℕ) (c : Case) : Prop where
  range : InRange i
  slot : w.sHAL3Test i = some k
  case : w.cases[k]? = some c
  live : c.deleted = false

theorem caseAt_eq_ok_iff : w.caseAt i = .ok (k, c) ↔ Holds w i k c := by
  rw [caseAt, bind_eq_ok_iff]
  constructor
  · rintro ⟨p, hp, h⟩
    have ⟨hrange, hslot⟩ := slot_eq_ok_iff.mp hp
    cases p with
    | none => cases h
    | some k' =>
        have ⟨c', hc', h⟩ := bind_eq_ok_iff.mp h
        have ⟨hcase, hlive⟩ := deref_eq_ok_iff.mp hc'
        obtain ⟨rfl, rfl⟩ := Prod.mk.inj (Except.ok.inj h)
        exact ⟨hrange, hslot, hcase, hlive⟩
  · rintro ⟨hrange, hslot, hcase, hlive⟩
    exact ⟨some k, slot_eq_ok_iff.mpr ⟨hrange, hslot⟩,
      bind_eq_ok_iff.mpr ⟨c, deref_eq_ok_iff.mpr ⟨hcase, hlive⟩, rfl⟩⟩

/-- The state in which a new case is in the slot of its camera. -/
def registered (w : Console) (c : Case) : Console :=
  { w with
    cases := w.cases ++ [c]
    sHAL3Test := Function.update w.sHAL3Test c.config.cameraId.toInt (some w.cases.length) }

theorem register_eq_ok_iff :
    w.register c = .ok w' ↔ InRange c.config.cameraId.toInt ∧ w.registered c = w' :=
  setSlot_eq_ok_iff

theorem setCase_eq_some_iff {j : ℕ} {c' c₀ : Case} (hcase : w.cases[k]? = some c) :
    (w.setCase k c').cases[j]? = some c₀ ↔
      k = j ∧ c' = c₀ ∨ k ≠ j ∧ w.cases[j]? = some c₀ := by
  have hlt : k < w.cases.length := (List.getElem?_eq_some_iff.mp hcase).1
  rw [setCase, List.getElem?_set]
  by_cases hkj : k = j
  · simp [hkj ▸ hlt, hkj]
  · simp [hkj]

theorem registered_eq_some_iff {j : ℕ} {c₀ : Case} :
    (w.registered c).cases[j]? = some c₀ ↔
      w.cases[j]? = some c₀ ∨ j = w.cases.length ∧ c = c₀ := by
  show (w.cases ++ [c])[j]? = some c₀ ↔ _
  by_cases hj : j < w.cases.length
  · rw [List.getElem?_append_left hj]
    simp [hj.ne]
  · have hnone : w.cases[j]? = none := List.getElem?_eq_none (not_lt.mp hj)
    rw [List.getElem?_append_right (not_lt.mp hj), hnone, List.getElem?_singleton]
    split_ifs with hz
    · simp [show j = w.cases.length by omega]
    · simp [show j ≠ w.cases.length by omega]

/-! ## Calls into a case -/

/-- `c'` is `c` after some calls of `main`, or after a change of what is logged. -/
def Case.Edited (c c' : Case) : Prop :=
  ∃ d metaDump, c' = { c with device := d, metaDump := metaDump } ∧ Device.Calls c.setup c.device d

namespace Case.Edited

theorem trans {c₁ c₂ c₃ : Case} (h : c₁.Edited c₂) (h' : c₂.Edited c₃) : c₁.Edited c₃ := by
  obtain ⟨d, _, rfl, hd⟩ := h
  obtain ⟨d', metaDump, rfl, hd'⟩ := h'
  exact ⟨d', metaDump, rfl, Relation.ReflTransGen.trans hd hd'⟩

theorem of_user {a : UserAct} {c' : Case} (h : c.user a = .ok c') : c.Edited c' := by
  rw [Case.user] at h
  cases hd : c.device.user c.setup a with
  | none => simp [hd] at h
  | some d =>
      simp only [hd, Except.ok.injEq] at h
      exact ⟨d, _, h.symm, Relation.ReflTransGen.single ⟨a, hd⟩⟩

theorem of_updateMeta {edits : List (ℕ × List ℤ)} {c' : Case} (h : c.updateMeta edits = .ok c') :
    c.Edited c' := by
  rw [Case.updateMeta, bind_eq_ok_iff] at h
  have ⟨c₁, hedits, huser⟩ := h
  refine trans ?_ (of_user huser)
  clear h huser
  induction edits generalizing c with
  | nil =>
      rw [List.foldlM_nil] at hedits
      rw [← Except.ok.inj hedits]
      exact ⟨c.device, _, rfl, Relation.ReflTransGen.refl⟩
  | cons e edits ih =>
      rw [List.foldlM_cons, bind_eq_ok_iff] at hedits
      have ⟨c₂, hc₂, hrest⟩ := hedits
      exact (of_user hc₂).trans (ih hrest)

theorem of_snapshot {num : ℤ} {dump : Bool} {c' : Case} (h : c.snapshot num dump = .ok c') :
    c.Edited c' := by
  rw [Case.snapshot, bind_eq_ok_iff] at h
  have ⟨c₁, hrequest, hdump⟩ := h
  cases dump with
  | true => exact (of_user hrequest).trans (of_user hdump)
  | false =>
      rw [← Except.ok.inj hdump]
      exact of_user hrequest

end Case.Edited

/-- The device has accepted the call of `stop`. -/
def stopping (w : Console) (k : ℕ) (c : Case) (d : Device) (next : Next) : Console :=
  { w.setCase k { c with device := d, stops := c.stops + 1 } with pc := .stopping k next }

theorem beginStop_eq_ok_iff {next : Next} :
    w.beginStop k c next = .ok w' ↔
      ∃ d, c.device.stop c.setup .begin = some d ∧ w.stopping k c d next = w' := by
  rw [beginStop]
  cases c.device.stop c.setup .begin with
  | none => simp
  | some d => simp [stopping]

/-! ## Commands -/

/-- The index of the slot whose case a command edits or deletes. -/
def target (order : CString) (w : Console) : ℤ :=
  match command order with
  | .update | .updateSnapshot | .metaDump => w.currentCameraId.toInt
  | _ => requestCameraId order w

/-- What a command that is defined does. -/
inductive CommandStep (enc : Bool) (order : CString) (env : Env) (w : Console) : Console → Prop
  | stay : CommandStep enc order env w w
  | add {c : Config} {mode : TestMode} {new : Case} (hskip : ¬ Skipped order)
      (hcmd : command order = .add)
      (hparse : parseCommandlineAdd (param order) {} = .ok (0, c))
      (hmode : c.testMode = some mode)
      (hstart : startCase enc mode.testCase c env.start = .ok new)
      (hrange : InRange new.config.cameraId.toInt) :
      CommandStep enc order env w (registered { w with currentCameraId := c.cameraId } new)
  | edit {k : ℕ} {c c' : Case} (hslot : Holds w (target order w) k c) (hedit : c.Edited c') :
      CommandStep enc order env w (w.setCase k c')
  | delete {k : ℕ} {c : Case} {d : Device} (hcmd : command order = .delete)
      (hslot : Holds w (target order w) k c) (hd : c.device.stop c.setup .begin = some d) :
      CommandStep enc order env w (w.stopping k c d (.delete (target order w)))
  | switch {k : ℕ} {c : Case} {result : ℤ} {config : Config} {d : Device} (hskip : ¬ Skipped order)
      (hcmd : command order = .video)
      (hslot : Holds w w.currentCameraId.toInt k c)
      (hmode : c.config.testMode = some .preview)
      (hparse : parseCommandlineAdd (param order) c.config = .ok (result, config))
      (hd : c.device.stop c.setup .begin = some d) :
      CommandStep enc order env w
        (w.stopping k { c with config := config } d (.switch w.currentCameraId.toInt))
  | quit : CommandStep enc order env w { w with pc := .shutdown 0 }

section Commands

variable {enc : Bool} {order : CString} {env : Env}

theorem exists_testMode_of_parse {s : CString} {c c' : Config}
    (h : parseCommandlineAdd s c = .ok (0, c')) : ∃ mode, c'.testMode = some mode := by
  rw [parseCommandlineAdd] at h
  cases hloop : addLoop (CString.suboptions s) { config := c } with
  | error e => simp [hloop, Except.map] at h
  | ok st =>
      simp only [hloop, Except.map, Except.ok.injEq] at h
      cases hmode : testModeOf st.modeConfig with
      | none => simp [hmode] at h
      | some mode =>
          simp only [hmode, Prod.mk.injEq] at h
          exact ⟨mode, by rw [← h.2]⟩

theorem CommandStep.of_add (hskip : ¬ Skipped order) (hcmd : command order = .add)
    (hs : Console.add enc order env w = .ok w') : CommandStep enc order env w w' := by
  rw [Console.add, bind_eq_ok_iff] at hs
  have ⟨⟨result, c⟩, hparse, hs⟩ := hs
  rw [parseAdd, mapError_eq_ok_iff] at hparse
  dsimp only at hs
  split_ifs at hs with hresult
  · obtain rfl := Except.ok.inj hs
    exact .stay
  · rw [not_not] at hresult
    subst hresult
    have ⟨mode, hmode⟩ := exists_testMode_of_parse hparse
    simp only [hmode] at hs
    have ⟨new, hstart, hs⟩ := bind_eq_ok_iff.mp hs
    have ⟨hrange, hs⟩ := register_eq_ok_iff.mp hs
    rw [← hs]
    exact .add hskip hcmd hparse hmode hstart hrange

theorem CommandStep.of_snapshot {dump : Bool} (htarget : target order w = requestCameraId order w)
    (hs : snapshot order w dump = .ok w') : CommandStep enc order env w w' := by
  rw [Console.snapshot, bind_eq_ok_iff] at hs
  have ⟨⟨k, c⟩, hslot, hs⟩ := hs
  have ⟨c', hedit, hs⟩ := bind_eq_ok_iff.mp hs
  rw [← Except.ok.inj hs]
  exact .edit (htarget ▸ caseAt_eq_ok_iff.mp hslot) (.of_snapshot hedit)

theorem CommandStep.of_video (hskip : ¬ Skipped order) (hcmd : command order = .video)
    (hs : video order w = .ok w') : CommandStep enc order env w w' := by
  rw [Console.video, bind_eq_ok_iff] at hs
  have ⟨⟨k, c⟩, hslot, hs⟩ := hs
  dsimp only at hs
  split_ifs at hs with hmode
  · have ⟨⟨result, config⟩, hparse, hs⟩ := bind_eq_ok_iff.mp hs
    rw [parseAdd, mapError_eq_ok_iff] at hparse
    have ⟨d, hd, hs⟩ := beginStop_eq_ok_iff.mp hs
    rw [← hs]
    exact .switch hskip hcmd (caseAt_eq_ok_iff.mp hslot) hmode hparse hd
  · exact .of_snapshot (by rw [target, hcmd]) hs

theorem CommandStep.of_delete (hcmd : command order = .delete)
    (hs : Console.delete order w = .ok w') : CommandStep enc order env w w' := by
  rw [Console.delete, bind_eq_ok_iff] at hs
  have ⟨p, hp, hs⟩ := hs
  have ⟨hrange, hslot⟩ := slot_eq_ok_iff.mp hp
  have htarget : target order w = requestCameraId order w := by rw [target, hcmd]
  cases p with
  | none =>
      rw [← Except.ok.inj hs]
      exact .stay
  | some k =>
      have ⟨c, hc, hs⟩ := bind_eq_ok_iff.mp hs
      have ⟨hcase, hlive⟩ := deref_eq_ok_iff.mp hc
      have ⟨d, hd, hs⟩ := beginStop_eq_ok_iff.mp hs
      rw [← hs, ← htarget]
      exact .delete hcmd (htarget ▸ ⟨hrange, hslot, hcase, hlive⟩) hd

theorem CommandStep.of_update (hcmd : command order = .update)
    (hs : update order env w = .ok w') : CommandStep enc order env w w' := by
  rw [Console.update, bind_eq_ok_iff] at hs
  have ⟨⟨k, c⟩, hslot, hs⟩ := hs
  have ⟨edits, _, hs⟩ := bind_eq_ok_iff.mp hs
  have ⟨c', hedit, hs⟩ := bind_eq_ok_iff.mp hs
  rw [← Except.ok.inj hs]
  refine .edit ?_ (.of_updateMeta hedit)
  rw [target, hcmd]
  exact caseAt_eq_ok_iff.mp hslot

theorem CommandStep.of_updateSnapshot (hcmd : command order = .updateSnapshot)
    (hs : updateSnapshot order env w = .ok w') : CommandStep enc order env w w' := by
  rw [Console.updateSnapshot, bind_eq_ok_iff] at hs
  have ⟨⟨k, c⟩, hslot, hs⟩ := hs
  have ⟨edits, _, hs⟩ := bind_eq_ok_iff.mp hs
  have ⟨c₁, hedit, hs⟩ := bind_eq_ok_iff.mp hs
  have ⟨c₂, hsnapshot, hs⟩ := bind_eq_ok_iff.mp hs
  rw [← Except.ok.inj hs]
  refine .edit ?_ ((Case.Edited.of_updateMeta hedit).trans (.of_snapshot hsnapshot))
  rw [target, hcmd]
  exact caseAt_eq_ok_iff.mp hslot

theorem CommandStep.of_previewDump (hcmd : command order = .previewDump)
    (hs : previewDump order w = .ok w') : CommandStep enc order env w w' := by
  rw [Console.previewDump, bind_eq_ok_iff] at hs
  have ⟨⟨k, c⟩, hslot, hs⟩ := hs
  have ⟨c', hedit, hs⟩ := bind_eq_ok_iff.mp hs
  rw [← Except.ok.inj hs]
  refine .edit ?_ (.of_user hedit)
  rw [target, hcmd]
  exact caseAt_eq_ok_iff.mp hslot

theorem CommandStep.of_metaDump (hcmd : command order = .metaDump)
    (hs : Console.metaDump order w = .ok w') : CommandStep enc order env w w' := by
  rw [Console.metaDump, bind_eq_ok_iff] at hs
  have ⟨⟨k, c⟩, hslot, hs⟩ := hs
  have ⟨metaDump, _, hs⟩ := bind_eq_ok_iff.mp hs
  rw [← Except.ok.inj hs]
  refine .edit ?_ ⟨c.device, metaDump, rfl, Relation.ReflTransGen.refl⟩
  rw [target, hcmd]
  exact caseAt_eq_ok_iff.mp hslot

/-- **A command that is defined does nothing else.** -/
theorem CommandStep.of_eq (hs : runCommand enc order env w = .ok w') :
    CommandStep enc order env w w' := by
  rw [runCommand] at hs
  split_ifs at hs with hskip
  · rw [← Except.ok.inj hs]
    exact .stay
  cases hcmd : command order with
  | add => rw [hcmd] at hs; exact .of_add hskip hcmd hs
  | video => rw [hcmd] at hs; exact .of_video hskip hcmd hs
  | snapshot dump => rw [hcmd] at hs; exact .of_snapshot (by rw [target, hcmd]) hs
  | previewDump => rw [hcmd] at hs; exact .of_previewDump hcmd hs
  | delete => rw [hcmd] at hs; exact .of_delete hcmd hs
  | update => rw [hcmd] at hs; exact .of_update hcmd hs
  | updateSnapshot => rw [hcmd] at hs; exact .of_updateSnapshot hcmd hs
  | metaDump => rw [hcmd] at hs; exact .of_metaDump hcmd hs
  | quit => rw [hcmd] at hs; rw [← Except.ok.inj hs]; exact .quit
  | wait | wrong => rw [hcmd] at hs; rw [← Except.ok.inj hs]; exact .stay

end Commands

/-! ## All threads -/

/-- What is left of a case that `main` has deleted, after `close_camera` if `close`. -/
def Case.gone (c : Case) (close : Bool) : Case :=
  { c with closes := if close then c.closes + 1 else c.closes, deleted := true }

/-- The state in which case `k` is deleted and slot `i` empty. -/
def removed (w : Console) (k : ℕ) (i : ℤ) (c : Case) : Console :=
  { w.setCase k c with sHAL3Test := Function.update w.sHAL3Test i none }

variable {enc : Bool}

/-- `main` runs into undefined behaviour. -/
inductive Faults (enc : Bool) (w : Console) : Act → Fault → Prop
  | command {order : CString} {env : Env} {f : Fault} (hpc : w.pc = .prompt)
      (h : runCommand enc order env w = .error f) : Faults enc w (.command order env) f
  | resume {env : Env} {k : ℕ} {next : Next} {f : Fault} (hpc : w.pc = .stopping k next)
      (h : resume enc env w k next = .error f) : Faults enc w (.resume env) f
  | shutdown {i : ℤ} {f : Fault} (hpc : w.pc = .shutdown i) (h : w.shutdownStep i = .error f) :
      Faults enc w .shutdown f

/-- A step of `main` or of a thread. -/
inductive Step (enc : Bool) (w : Console) : Act → Console → Prop
  | fault {a : Act} {f : Fault} (h : Faults enc w a f) : Step enc w a { w with fault := some f }
  | command {order : CString} {env : Env} {w' : Console} (hpc : w.pc = .prompt)
      (h : CommandStep enc order env w w') : Step enc w (.command order env) w'
  | endOfInput (hpc : w.pc = .prompt) : Step enc w .endOfInput { w with pc := .shutdown 0 }
  | stop {k : ℕ} {next : Next} {a : StopAct} {c : Case} {d : Device}
      (hpc : w.pc = .stopping k next) (hcase : w.cases[k]? = some c)
      (hd : c.device.step c.setup (.stop a) = some d) :
      Step enc w (.stop a) (w.setCase k { c with device := d })
  | thread {k : ℕ} {a : QCamx.Act} {c : Case} {d : Device} (hthread : OfMain a = false)
      (hcase : w.cases[k]? = some c) (hd : c.device.step c.setup a = some d) :
      Step enc w (.thread k a) (w.setCase k { c with device := d })
  | deleted {env : Env} {k : ℕ} {i : ℤ} {c : Case} (hpc : w.pc = .stopping k (.delete i))
      (hcase : w.cases[k]? = some c) (hstop : c.device.stopPc = .stopped)
      (hcalls : c.CallsReturn) (hrange : InRange i) :
      Step enc w (.resume env) { w.removed k i (c.gone true) with pc := .prompt }
  | switched {env : Env} {k : ℕ} {i : ℤ} {c new : Case} (hpc : w.pc = .stopping k (.switch i))
      (hcase : w.cases[k]? = some c) (hstop : c.device.stopPc = .stopped)
      (hstart : startCase enc .hal3TestVideo c.config env.start = .ok new) (hrange : InRange i)
      (hnew : InRange new.config.cameraId.toInt) :
      Step enc w (.resume env) { (w.removed k i (c.gone false)).registered new with pc := .prompt }
  | shutDown {env : Env} {k : ℕ} {i : ℤ} {c : Case} (hpc : w.pc = .stopping k (.shutdown i))
      (hcase : w.cases[k]? = some c) (hstop : c.device.stopPc = .stopped)
      (hcalls : c.CallsReturn) (hrange : InRange i) :
      Step enc w (.resume env) { w.removed k i (c.gone true) with pc := .shutdown (i + 1) }
  | emptySlot {i : ℤ} (hpc : w.pc = .shutdown i) (hrange : InRange i)
      (hslot : w.sHAL3Test i = none) : Step enc w .shutdown { w with pc := .shutdown (i + 1) }
  | shutdownStop {k : ℕ} {i : ℤ} {c : Case} {d : Device} (hpc : w.pc = .shutdown i)
      (hslot : Holds w i k c) (hd : c.device.stop c.setup .begin = some d) :
      Step enc w .shutdown (w.stopping k c d (.shutdown i))
  | returned {i : ℤ} (hpc : w.pc = .shutdown i) (hi : maxCamera ≤ i) :
      Step enc w .shutdown { w with pc := .returned }

theorem closeCamera_eq_ok_iff {c' : Case} :
    c.closeCamera = .ok c' ↔ c.CallsReturn ∧ { c with closes := c.closes + 1 } = c' := by
  rw [Case.closeCamera]
  by_cases hcalls : c.CallsReturn
  · rw [if_pos hcalls, Except.ok.injEq]
    exact (and_iff_right hcalls).symm
  · rw [if_neg hcalls]
    exact iff_of_false (by simp) fun h => hcalls h.1

theorem closeAndDelete_eq_ok_iff :
    w.closeAndDelete k i = .ok w' ↔
      ∃ c, w.cases[k]? = some c ∧ c.deleted = false ∧ c.CallsReturn ∧ InRange i ∧
        w.removed k i (c.gone true) = w' := by
  rw [closeAndDelete, bind_eq_ok_iff]
  refine exists_congr fun c => ?_
  rw [deref_eq_ok_iff, bind_eq_ok_iff]
  simp only [closeCamera_eq_ok_iff, setSlot_eq_ok_iff]
  constructor
  · rintro ⟨⟨hcase, hlive⟩, _, ⟨hcalls, rfl⟩, hrange, h⟩
    exact ⟨hcase, hlive, hcalls, hrange, h⟩
  · rintro ⟨hcase, hlive, hcalls, hrange, h⟩
    exact ⟨⟨hcase, hlive⟩, _, ⟨hcalls, rfl⟩, hrange, h⟩

theorem switchToVideo_eq_ok_iff {env : Env} :
    switchToVideo enc env w k i = .ok w' ↔
      ∃ c new, w.cases[k]? = some c ∧ c.deleted = false ∧ InRange i ∧
        startCase enc .hal3TestVideo c.config env.start = .ok new ∧
        InRange new.config.cameraId.toInt ∧
        (w.removed k i (c.gone false)).registered new = w' := by
  rw [switchToVideo, bind_eq_ok_iff]
  refine exists_congr fun c => ?_
  rw [deref_eq_ok_iff, bind_eq_ok_iff]
  simp only [setSlot_eq_ok_iff, bind_eq_ok_iff, register_eq_ok_iff]
  constructor
  · rintro ⟨⟨hcase, hlive⟩, _, ⟨hrange, rfl⟩, new, hstart, hnew, h⟩
    exact ⟨new, hcase, hlive, hrange, hstart, hnew, h⟩
  · rintro ⟨new, hcase, hlive, hrange, hstart, hnew, h⟩
    exact ⟨⟨hcase, hlive⟩, _, ⟨hrange, rfl⟩, new, hstart, hnew, h⟩

theorem Step.of_command {order : CString} {env : Env} (hpc : w.pc = .prompt) :
    Step enc w (.command order env) (w.settle (runCommand enc order env w)) := by
  cases hs : runCommand enc order env w with
  | error f => exact .fault (.command hpc hs)
  | ok w' => exact .command hpc (.of_eq hs)

theorem Step.of_resume {env : Env} {next : Next} (hpc : w.pc = .stopping k next)
    (hcase : w.cases[k]? = some c) (hstop : c.device.stopPc = .stopped) :
    Step enc w (.resume env) (w.settle (resume enc env w k next)) := by
  cases hs : resume enc env w k next with
  | error f => exact .fault (.resume hpc hs)
  | ok w' =>
      cases next with
      | delete i =>
          have ⟨w₁, hclose, hw'⟩ := map_eq_ok_iff.mp hs
          have ⟨c', hcase', _, hcalls, hrange, hw₁⟩ := closeAndDelete_eq_ok_iff.mp hclose
          obtain rfl := Option.some.inj (hcase.symm.trans hcase')
          rw [settle, ← hw', ← hw₁]
          exact .deleted hpc hcase hstop hcalls hrange
      | switch i =>
          have ⟨w₁, hswitch, hw'⟩ := map_eq_ok_iff.mp hs
          have ⟨c', new, hcase', _, hrange, hstart, hnew, hw₁⟩ :=
            switchToVideo_eq_ok_iff.mp hswitch
          obtain rfl := Option.some.inj (hcase.symm.trans hcase')
          rw [settle, ← hw', ← hw₁]
          exact .switched hpc hcase hstop hstart hrange hnew
      | shutdown i =>
          have ⟨w₁, hclose, hw'⟩ := map_eq_ok_iff.mp hs
          have ⟨c', hcase', _, hcalls, hrange, hw₁⟩ := closeAndDelete_eq_ok_iff.mp hclose
          obtain rfl := Option.some.inj (hcase.symm.trans hcase')
          rw [settle, ← hw', ← hw₁]
          exact .shutDown hpc hcase hstop hcalls hrange

theorem Step.of_shutdown (hpc : w.pc = .shutdown i) :
    Step enc w .shutdown (w.settle (w.shutdownStep i)) := by
  cases hs : w.shutdownStep i with
  | error f => exact .fault (.shutdown hpc hs)
  | ok w' =>
      rw [settle]
      rw [shutdownStep] at hs
      split_ifs at hs with hi
      · have ⟨p, hp, hs⟩ := bind_eq_ok_iff.mp hs
        have ⟨hrange, hslot⟩ := slot_eq_ok_iff.mp hp
        cases p with
        | none =>
            rw [← Except.ok.inj hs]
            exact .emptySlot hpc hrange hslot
        | some k =>
            have ⟨c, hc, hs⟩ := bind_eq_ok_iff.mp hs
            have ⟨hcase, hlive⟩ := deref_eq_ok_iff.mp hc
            have ⟨d, hd, hs⟩ := beginStop_eq_ok_iff.mp hs
            rw [← hs]
            exact .shutdownStop hpc ⟨hrange, hslot, hcase, hlive⟩ hd
      · rw [← Except.ok.inj hs]
        exact .returned hpc (not_lt.mp hi)

theorem stepDevice_eq_some_iff {a : QCamx.Act} :
    w.stepDevice k a = some w' ↔
      ∃ c d, w.cases[k]? = some c ∧ c.device.step c.setup a = some d ∧
        w.setCase k { c with device := d } = w' := by
  rw [stepDevice, Option.bind_eq_some_iff]
  refine exists_congr fun c => ?_
  rw [Option.map_eq_some_iff]
  simp

/-- **The program does nothing else.** -/
theorem Step.of_eq {a : Act} (hs : step enc a w = some w') : Defined w ∧ Step enc w a w' := by
  unfold step at hs
  by_cases hdef : Defined w
  swap
  · rw [if_neg hdef] at hs
    cases hs
  rw [if_pos hdef] at hs
  refine ⟨hdef, ?_⟩
  cases a with
  | command order env =>
      dsimp only at hs
      split_ifs at hs with hpc
      rw [← Option.some.inj hs]
      exact .of_command hpc
  | endOfInput =>
      dsimp only at hs
      split_ifs at hs with hpc
      rw [← Option.some.inj hs]
      exact .endOfInput hpc
  | stop a =>
      cases hpc : w.pc with
      | stopping k next =>
          simp only [hpc] at hs
          have ⟨c, d, hcase, hd, hw⟩ := stepDevice_eq_some_iff.mp hs
          rw [← hw]
          exact .stop hpc hcase hd
      | _ => simp [hpc] at hs
  | resume env =>
      cases hpc : w.pc with
      | stopping k next =>
          simp only [hpc] at hs
          split_ifs at hs with hstop
          have ⟨c, hcase, hstop⟩ := Option.map_eq_some_iff.mp hstop
          rw [← Option.some.inj hs]
          exact .of_resume hpc hcase hstop
      | _ => simp [hpc] at hs
  | shutdown =>
      cases hpc : w.pc with
      | shutdown i =>
          simp only [hpc] at hs
          rw [← Option.some.inj hs]
          exact .of_shutdown hpc
      | _ => simp [hpc] at hs
  | thread k a =>
      dsimp only at hs
      split_ifs at hs with hthread
      have ⟨c, d, hcase, hd, hw⟩ := stepDevice_eq_some_iff.mp hs
      rw [← hw]
      exact .thread (by simpa using hthread) hcase hd

end Console

end QCamx

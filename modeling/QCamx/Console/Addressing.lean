import QCamx.Console.Switch

/-!
# Which slots a command touches

A command takes the index of a slot from its options, from the digits after its letter or from
`current_camera_id`. Only `D` looks at the slot before it uses the case in it, and `E` prints the
camera of its digits but works on the current one.

* `Addressing`: what a step may do to the slots;
* `Addressed`: the camera that a command names exists and has a case, and `E` names the current one;
* **`addressing`**: every step of a run whose commands are addressed is as it should be;
* `update_of_other_camera`: without that, `E` with digits changes another camera than it names.
-/

namespace QCamx

open Guarded Outcome CString

namespace Console

variable {enc : Bool} {ok : Act → Console → Prop} {order : CString} {env : Env} {w w' : Console}
  {k : ℕ} {c c' : Case} {i : ℤ} {f : Fault}

/-! ## The property -/

/-- A fault of an access to a slot or to the case in it. -/
def Fault.OfAccess : Fault → Prop
  | .outOfBounds | .nullCase | .deletedCase | .stoppedCase => True
  | .unopenedDevice | .sensorModeTable | .parse _ | .metaParse _ => False

/-- The slots whose case a line reads. -/
def accessed (order : CString) (w : Console) : List ℤ :=
  if Skipped order then []
  else match command order with
    | .snapshot _ | .previewDump | .delete => [requestCameraId order w]
    | .update | .updateSnapshot | .metaDump => [w.currentCameraId.toInt]
    | .video =>
        -- in preview mode the command does not go on as `s`
        if (w.caseAt w.currentCameraId.toInt).toOption.any
            (fun p => p.2.config.testMode = some .preview) then [w.currentCameraId.toInt]
        else [w.currentCameraId.toInt, requestCameraId order w]
    | .add | .quit | .wait | .wrong => []

/-- The digits after the letter of a command. -/
def digits (order : CString) : Option ℤ :=
  if (ops order).tail ≠ [] ∧ (ops order).tail.all Char.isDigit then
    some (atoi (ops order).tail).toInt
  else none

/-- The camera id that `s`, `S`, `P`, `D` and `E` carry. -/
def explicitId (order : CString) : Option ℤ :=
  match command order with
  | .snapshot _ | .previewDump | .delete | .updateSnapshot => digits order
  | .add | .video | .update | .metaDump | .quit | .wait | .wrong => none

/-- The camera that command `D` waits for. -/
def deleting (w : Console) : Option ℤ :=
  match w.pc with
  | .stopping _ (.delete i) => some i
  | _ => none

/-- The camera that a step works for: the digits of a command, and those of `D` until it is done. -/
def addressee (a : Act) (w : Console) : Option ℤ :=
  match a with
  | .command order _ => explicitId order
  | .stop _ | .resume _ => w.deleting
  | .endOfInput | .shutdown | .thread _ _ => none

/-- Slot `i` exists and holds a case. -/
def Held (w : Console) (i : ℤ) : Prop := InRange i ∧ (w.sHAL3Test i).isSome

instance (w : Console) (i : ℤ) : Decidable (Held w i) :=
  inferInstanceAs (Decidable (InRange i ∧ (w.sHAL3Test i).isSome))

/-- Nothing is changed but slot `i` and the case in it. -/
structure ChangesOnly (i : ℤ) (w w' : Console) : Prop where
  slots : ∀ j, j ≠ i → w'.sHAL3Test j = w.sHAL3Test j
  cases : ∀ k, w.sHAL3Test i ≠ some k → w'.cases[k]? = w.cases[k]?
  current : w'.currentCameraId = w.currentCameraId

/-- Every access is to a slot that exists and to a live case in it, or the line is rejected; and a
command with a camera id changes the case of that camera only. -/
structure Addressing (a : Act) (w w' : Console) : Prop where
  safe : ∀ f, w'.fault = some f → ¬ f.OfAccess
  rejected : ∀ order env i, a = .command order env → i ∈ accessed order w → ¬ Held w i → w' = w
  isLocal : ∀ i, addressee a w = some i → ChangesOnly i w w'

/-! ## The condition -/

/-- `A` and `v` store a case in a slot that exists, every slot that is read holds a case, except for
`D`, and `E` names the current camera. -/
def Addressed (a : Act) (w : Console) : Prop :=
  match a with
  | .command order _ =>
      (∀ c ∈ addConfig order, InRange c.cameraId.toInt) ∧
        (∀ p ∈ switchConfig order w, InRange p.2.cameraId.toInt) ∧
        (∀ i ∈ accessed order w, Held w i ∨ command order = .delete ∧ InRange i) ∧
        (command order = .updateSnapshot → ∀ i ∈ explicitId order, i = w.currentCameraId.toInt)
  | _ => True

instance : ∀ (a : Act) (w : Console), Decidable (Addressed a w)
  | .command order _, w =>
      inferInstanceAs (Decidable ((∀ c ∈ addConfig order, InRange c.cameraId.toInt) ∧
        (∀ p ∈ switchConfig order w, InRange p.2.cameraId.toInt) ∧
        (∀ i ∈ accessed order w, Held w i ∨ command order = .delete ∧ InRange i) ∧
        (command order = .updateSnapshot → ∀ i ∈ explicitId order, i = w.currentCameraId.toInt)))
  | .endOfInput, _ | .stop _, _ | .resume _, _ | .shutdown, _ | .thread _ _, _ => isTrue trivial

/-! ## Calls into a case -/

theorem Case.exists_user (a : UserAct) (hrun : c.device.stopPc = .running) :
    ∃ c', c.user a = .ok c' := by
  have ⟨d, hd⟩ : ∃ d, c.device.user c.setup a = some d := by
    unfold Device.user
    rw [if_neg (not_not.mpr hrun)]
    cases a with
    | requestCapture count =>
        dsimp only
        cases requestCapture c.setup.testCase c.setup.config count <;> exact ⟨_, rfl⟩
    | triggerDump | setCurrentMeta | editCurrentMeta | updateMetadata => exact ⟨_, rfl⟩
  exact ⟨_, by rw [Case.user, hd]⟩

theorem Case.exists_updateMeta (edits : List (ℕ × List ℤ))
    (hrun : c.device.stopPc = .running) : ∃ c', c.updateMeta edits = .ok c' := by
  have ⟨c₁, hedits, hrun₁⟩ : ∃ c₁, edits.foldlM
      (fun c e => Case.user (.editCurrentMeta e.1 e.2) c) c = .ok c₁ ∧
      c₁.device.stopPc = .running := by
    induction edits generalizing c with
    | nil => exact ⟨c, rfl, hrun⟩
    | cons e edits ih =>
        have ⟨c₂, hc₂⟩ := Case.exists_user (.editCurrentMeta e.1 e.2) hrun
        have ⟨c₃, hc₃, hrun₃⟩ := ih ((Case.Edited.of_user hc₂).stopPc.trans hrun)
        exact ⟨c₃, bind_eq_ok_iff.mpr ⟨c₂, hc₂, hc₃⟩, hrun₃⟩
  have ⟨c₂, hc₂⟩ := Case.exists_user (.updateMetadata c₁.device.currentMetadata) hrun₁
  exact ⟨c₂, bind_eq_ok_iff.mpr ⟨c₁, hedits, hc₂⟩⟩

theorem Case.exists_snapshot (num : ℤ) (dump : Bool) (hrun : c.device.stopPc = .running) :
    ∃ c', c.snapshot num dump = .ok c' := by
  have ⟨c₁, hc₁⟩ := Case.exists_user (.requestCapture num) hrun
  cases dump with
  | false => exact ⟨c₁, bind_eq_ok_iff.mpr ⟨c₁, hc₁, rfl⟩⟩
  | true =>
      have hrun₁ := (Case.Edited.of_user hc₁).stopPc.trans hrun
      have ⟨c₂, hc₂⟩ := Case.exists_user (.triggerDump num 0) hrun₁
      exact ⟨c₂, bind_eq_ok_iff.mpr ⟨c₁, hc₁, hc₂⟩⟩

/-! ## Commands -/

theorem startCase_avoids {tc : TestCase} {config : Config} {start : Start} :
    Avoids Fault.OfAccess (startCase enc tc config start) := by
  rw [startCase]
  split
  · exact .ok _
  · exact .error id
  · split_ifs
    · exact .ok _
    · exact .error id

theorem register_avoids (h : InRange c.config.cameraId.toInt) :
    Avoids Fault.OfAccess (w.register c) := by
  rw [register_eq_ok_iff.mpr ⟨h, rfl⟩]
  exact .ok _

theorem beginStop_avoids {next : Next} (hrun : c.device.stopPc = .running) :
    Avoids Fault.OfAccess (w.beginStop k c next) := by
  have ⟨d, hd⟩ := exists_begin c.setup hrun
  rw [beginStop_eq_ok_iff.mpr ⟨d, hd, rfl⟩]
  exact .ok _

theorem parseMetaUpdate_avoids : Avoids Fault.OfAccess (parseMetaUpdate order env) := by
  rw [parseMetaUpdate]
  split
  · exact .ok _
  · exact .error id

theorem SlotsLive.exists_holds (hl : SlotsLive w) (hpc : ∀ k next, w.pc ≠ .stopping k next)
    (h : Held w i) : ∃ k c, Holds w i k c ∧ c.device.stopPc = .running := by
  have ⟨k, hk⟩ := Option.isSome_iff_exists.mp h.2
  have ⟨c, hslot, hrun⟩ := hl.running hpc hk
  exact ⟨k, c, hslot, hrun⟩

theorem held_of_accessed (hok : Addressed (.command order env) w) (hi : i ∈ accessed order w)
    (hcmd : command order ≠ .delete) : Held w i := by
  rcases hok.2.2.1 i hi with hheld | ⟨hdelete, _⟩
  · exact hheld
  · exact absurd hdelete hcmd

section Commands

variable (hl : SlotsLive w) (hpc : ∀ k next, w.pc ≠ .stopping k next)

include hl hpc

theorem snapshot_avoids {dump : Bool} (h : Held w (requestCameraId order w)) :
    Avoids Fault.OfAccess (snapshot order w dump) := by
  have ⟨k, c, hslot, hrun⟩ := hl.exists_holds hpc h
  have ⟨c', hc'⟩ := Case.exists_snapshot (scanNum (param order)) dump hrun
  exact .bind_of_eq_ok (caseAt_eq_ok_iff.mpr hslot) (.bind_of_eq_ok hc' (.ok _))

theorem video_avoids (hskip : ¬ Skipped order) (hcmd : command order = .video)
    (hok : Addressed (.command order env) w) : Avoids Fault.OfAccess (video order w) := by
  have hne : command order ≠ .delete := by simp [hcmd]
  have hcurrent : w.currentCameraId.toInt ∈ accessed order w := by
    rw [accessed, if_neg hskip, hcmd]
    dsimp only
    split_ifs <;> simp
  have ⟨k, c, hslot, hrun⟩ := hl.exists_holds hpc (held_of_accessed hok hcurrent hne)
  by_cases hmode : c.config.testMode = some .preview
  · rw [video, caseAt_eq_ok_iff.mpr hslot]
    show Avoids _ (if c.config.testMode = some .preview then _ else _)
    rw [if_pos hmode]
    exact .bind (.mapError _ fun _ => id) fun p _ => beginStop_avoids hrun
  · have hother : requestCameraId order w ∈ accessed order w := by
      rw [accessed, if_neg hskip, hcmd]
      dsimp only
      rw [caseAt_eq_ok_iff.mpr hslot]
      simp [Except.toOption, hmode]
    rw [video_of_not_preview hslot hmode]
    exact snapshot_avoids hl hpc (held_of_accessed hok hother hne)

theorem previewDump_avoids (h : Held w (requestCameraId order w)) :
    Avoids Fault.OfAccess (previewDump order w) := by
  have ⟨k, c, hslot, hrun⟩ := hl.exists_holds hpc h
  have ⟨c', hc'⟩ := Case.exists_user
    (.triggerDump (scanDump (param order)).1 (scanDump (param order)).2) hrun
  exact .bind_of_eq_ok (caseAt_eq_ok_iff.mpr hslot) (.bind_of_eq_ok hc' (.ok _))

theorem delete_avoids (h : InRange (requestCameraId order w)) :
    Avoids Fault.OfAccess (Console.delete order w) := by
  cases hslot : w.sHAL3Test (requestCameraId order w) with
  | none => exact .bind_of_eq_ok (slot_eq_ok_iff.mpr ⟨h, hslot⟩) (.ok _)
  | some k =>
      have ⟨c, hc, hrun⟩ := hl.running hpc hslot
      exact .bind_of_eq_ok (slot_eq_ok_iff.mpr ⟨h, hslot⟩)
        (.bind_of_eq_ok (deref_eq_ok_iff.mpr ⟨hc.case, hc.live⟩) (beginStop_avoids hrun))

theorem update_avoids (h : Held w w.currentCameraId.toInt) :
    Avoids Fault.OfAccess (update order env w) := by
  have ⟨k, c, hslot, hrun⟩ := hl.exists_holds hpc h
  refine .bind_of_eq_ok (caseAt_eq_ok_iff.mpr hslot) ?_
  refine .bind parseMetaUpdate_avoids fun edits _ => ?_
  have ⟨c', hc'⟩ := Case.exists_updateMeta edits hrun
  exact .bind_of_eq_ok hc' (.ok _)

theorem updateSnapshot_avoids (h : Held w w.currentCameraId.toInt) :
    Avoids Fault.OfAccess (updateSnapshot order env w) := by
  have ⟨k, c, hslot, hrun⟩ := hl.exists_holds hpc h
  refine .bind_of_eq_ok (caseAt_eq_ok_iff.mpr hslot) ?_
  refine .bind parseMetaUpdate_avoids fun edits _ => ?_
  have ⟨c₁, hc₁⟩ := Case.exists_updateMeta edits hrun
  have hrun₁ := (Case.Edited.of_updateMeta hc₁).stopPc.trans hrun
  have ⟨c₂, hc₂⟩ := Case.exists_snapshot 1 true hrun₁
  exact .bind_of_eq_ok hc₁ (.bind_of_eq_ok hc₂ (.ok _))

theorem metaDump_avoids (h : Held w w.currentCameraId.toInt) :
    Avoids Fault.OfAccess (metaDump order w) := by
  have ⟨k, c, hslot, _⟩ := hl.exists_holds hpc h
  refine .bind_of_eq_ok (caseAt_eq_ok_iff.mpr hslot) ?_
  exact .bind (.mapError _ fun _ => id) fun _ _ => .ok _

end Commands

theorem add_avoids (hskip : ¬ Skipped order) (hcmd : command order = .add)
    (hok : Addressed (.command order env) w) :
    Avoids Fault.OfAccess (Console.add enc order env w) := by
  refine .bind (.mapError _ fun _ => id) fun p hparse => ?_
  have hparse := mapError_eq_ok_iff.mp hparse
  dsimp only
  split_ifs with hresult
  · exact .ok _
  · have hzero : parseCommandlineAdd (param order) {} = .ok (0, p.2) := by
      rw [hparse, ← not_not.mp hresult]
    have hrange := hok.1 p.2 (addConfig_eq_some hskip hcmd hzero)
    cases p.2.testMode with
    | none => exact .ok _
    | some mode =>
        refine .bind startCase_avoids fun new hstart => register_avoids ?_
        obtain ⟨configured, rfl, _⟩ := startCase_eq_ok hstart
        exact hrange

/-- **A command that is addressed accesses live cases only.** -/
theorem runCommand_avoids (hl : SlotsLive w) (hpc : w.pc = .prompt)
    (hok : Addressed (.command order env) w) :
    Avoids Fault.OfAccess (runCommand enc order env w) := by
  have hne : ∀ k next, w.pc ≠ .stopping k next := by simp [hpc]
  rw [runCommand]
  split_ifs with hskip
  · exact .ok _
  have hheld : ∀ {i}, accessed order w = [i] → command order ≠ .delete → Held w i :=
    fun h => held_of_accessed hok (by rw [h]; exact List.mem_singleton_self _)
  have haccessed := accessed.eq_def order w
  rw [if_neg hskip] at haccessed
  cases hcmd : command order with
  | add => exact add_avoids hskip hcmd hok
  | video => exact video_avoids hl hne hskip hcmd hok
  | delete =>
      rw [hcmd] at haccessed
      have hmem : requestCameraId order w ∈ accessed order w := by simp [haccessed]
      rcases hok.2.2.1 _ hmem with hslot | ⟨_, hrange⟩
      · exact delete_avoids hl hne hslot.1
      · exact delete_avoids hl hne hrange
  | snapshot dump =>
      rw [hcmd] at haccessed
      exact snapshot_avoids hl hne (hheld haccessed (by simp [hcmd]))
  | previewDump =>
      rw [hcmd] at haccessed
      exact previewDump_avoids hl hne (hheld haccessed (by simp [hcmd]))
  | update =>
      rw [hcmd] at haccessed
      exact update_avoids hl hne (hheld haccessed (by simp [hcmd]))
  | updateSnapshot =>
      rw [hcmd] at haccessed
      exact updateSnapshot_avoids hl hne (hheld haccessed (by simp [hcmd]))
  | metaDump =>
      rw [hcmd] at haccessed
      exact metaDump_avoids hl hne (hheld haccessed (by simp [hcmd]))
  | quit | wait | wrong => exact .ok _

/-! ## After a stop, and the loop at the end -/

/-- What the rest of `v` and the loop at the end rely on. -/
structure AddressInv (w : Console) : Prop where
  switching : ∀ {k i c}, w.pc = .stopping k (.switch i) → w.cases[k]? = some c →
    InRange c.config.cameraId.toInt
  shutdown : ∀ {i}, w.pc = .shutdown i → 0 ≤ i

theorem closeAndDelete_avoids (hcase : w.cases[k]? = some c) (hlive : c.deleted = false)
    (hrange : InRange i) : Avoids Fault.OfAccess (w.closeAndDelete k i) := by
  refine .bind_of_eq_ok (deref_eq_ok_iff.mpr ⟨hcase, hlive⟩) (.bind ?_ fun c' _ => ?_)
  · rw [Case.closeCamera]
    split_ifs
    · exact .ok _
    · exact .error id
  · rw [setSlot_eq_ok_iff.mpr ⟨hrange, rfl⟩]
    exact .ok _

theorem switchToVideo_avoids (hcase : w.cases[k]? = some c) (hlive : c.deleted = false)
    (hrange : InRange i) (hid : InRange c.config.cameraId.toInt) :
    Avoids Fault.OfAccess (switchToVideo enc env w k i) := by
  refine .bind_of_eq_ok (deref_eq_ok_iff.mpr ⟨hcase, hlive⟩)
    (.bind_of_eq_ok (setSlot_eq_ok_iff.mpr ⟨hrange, rfl⟩)
      (.bind startCase_avoids fun new hstart => register_avoids ?_))
  obtain ⟨configured, rfl, _⟩ := startCase_eq_ok hstart
  exact hid

theorem resume_avoids {next : Next} (hl : SlotsLive w) (hi : AddressInv w)
    (hpc : w.pc = .stopping k next) : Avoids Fault.OfAccess (resume enc env w k next) := by
  have hslot := hl.stopping hpc
  have hrange := hl.range hslot
  have ⟨c, hcase, hlive, _⟩ := hl.live hslot
  cases next with
  | delete i | shutdown i => exact .map (closeAndDelete_avoids hcase hlive hrange)
  | switch i => exact .map (switchToVideo_avoids hcase hlive hrange (hi.switching hpc hcase))

theorem shutdownStep_avoids (hl : SlotsLive w) (hi : AddressInv w) (hpc : w.pc = .shutdown i) :
    Avoids Fault.OfAccess (w.shutdownStep i) := by
  rw [shutdownStep]
  split_ifs with hlt
  · have hrange : InRange i := ⟨hi.shutdown hpc, hlt⟩
    cases hslot : w.sHAL3Test i with
    | none => exact .bind_of_eq_ok (slot_eq_ok_iff.mpr ⟨hrange, hslot⟩) (.ok _)
    | some k =>
        obtain ⟨c, hc, hrun⟩ := hl.running (by simp [hpc]) hslot
        exact .bind_of_eq_ok (slot_eq_ok_iff.mpr ⟨hrange, hslot⟩)
          (.bind_of_eq_ok (deref_eq_ok_iff.mpr ⟨hc.case, hc.live⟩) (beginStop_avoids hrun))
  · exact .ok _

namespace AddressInv

theorem init : AddressInv {} := by
  constructor <;> simp

theorem of_pc (hswitch : ∀ k i, w.pc ≠ .stopping k (.switch i))
    (hshutdown : ∀ i, w.pc ≠ .shutdown i) : AddressInv w where
  switching h := absurd h (hswitch _ _)
  shutdown h := absurd h (hshutdown _)

theorem of_shutdown (hpc : w.pc = .shutdown i) (hi : 0 ≤ i) : AddressInv w where
  switching h := by
    rw [hpc] at h
    cases h
  shutdown h := by
    rw [hpc] at h
    obtain rfl := Pc.shutdown.inj h
    exact hi

theorem setCase (hi : AddressInv w) (hcase : w.cases[k]? = some c)
    (hconfig : c'.config = c.config) : AddressInv (w.setCase k c') where
  switching hpc hc := by
    rcases (setCase_eq_some_iff hcase).mp hc with ⟨rfl, rfl⟩ | ⟨_, hc⟩
    · rw [hconfig]
      exact hi.switching hpc hcase
    · exact hi.switching hpc hc
  shutdown := hi.shutdown

theorem command (hpc : w.pc = .prompt) (hok : Addressed (.command order env) w)
    (hs : CommandStep enc order env w w') : AddressInv w' := by
  cases hs with
  | stay | add hskip hcmd hparse hmode hstart hrange | edit hslot hedit =>
      exact of_pc (by simp [Console.setCase, registered, hpc])
        (by simp [Console.setCase, registered, hpc])
  | delete hcmd hslot hd => exact of_pc (by simp [stopping]) (by simp [stopping])
  | quit => exact of_shutdown rfl le_rfl
  | @switch k c result config d hskip hcmd hslot hmode hparse hd =>
      refine ⟨fun {k' i c'} hpc' hc => ?_, fun h => by cases h⟩
      obtain ⟨rfl, _⟩ := Pc.stopping.inj hpc'
      rcases (setCase_eq_some_iff hslot.case).mp hc with ⟨_, rfl⟩ | ⟨hne, _⟩
      · exact hok.2.1 (c, config) (switchConfig_eq_some hskip hcmd hslot hmode hparse)
      · exact absurd rfl hne

theorem step {a : Act} (hi : AddressInv w) (hok : Addressed a w) (hs : Step enc w a w') :
    AddressInv w' := by
  cases hs with
  | fault hfault => exact ⟨hi.switching, hi.shutdown⟩
  | command hpc hs => exact command hpc hok hs
  | endOfInput hpc => exact of_shutdown rfl le_rfl
  | stop hpc hcase hd | thread hthread hcase hd => exact hi.setCase hcase rfl
  | deleted hpc hcase hstop hopened hrange => exact of_pc (by simp) (by simp)
  | switched hpc hcase hstop hstart hrange hnew => exact of_pc (by simp) (by simp)
  | shutDown hpc hcase hstop hopened hrange | emptySlot hpc hrange hslot =>
      exact of_shutdown rfl (by have := hrange.1; omega)
  | shutdownStop hpc hslot hd => exact of_pc (by simp [stopping]) (by simp [stopping])
  | returned hpc hge => exact of_pc (by simp) (by simp)

end AddressInv

theorem addressInv (h : Run enc Addressed w) : AddressInv w :=
  h.invariant .init fun _ _ _ _ hi _ hok hs => hi.step hok hs

/-! ## Every step -/

namespace ChangesOnly

theorem refl : ChangesOnly i w w := ⟨fun _ _ => rfl, fun _ _ => rfl, rfl⟩

theorem of_set (hslot : w.sHAL3Test i = some k)
    (hslots : ∀ j, j ≠ i → w'.sHAL3Test j = w.sHAL3Test j)
    (hcases : w'.cases = w.cases.set k c) (hcurrent : w'.currentCameraId = w.currentCameraId) :
    ChangesOnly i w w' where
  slots := hslots
  cases j hj := by
    have hkj : k ≠ j := by
      rintro rfl
      exact hj hslot
    rw [hcases, List.getElem?_set_ne hkj]
  current := hcurrent

end ChangesOnly

theorem requestCameraId_of_digits (h : digits order = some i) : requestCameraId order w = i := by
  rw [digits] at h
  split_ifs at h with hcond
  have hpos := List.length_pos_iff.mpr hcond.1
  rw [List.length_tail] at hpos
  have hlength : 1 < (ops order).length := by omega
  rw [requestCameraId, if_pos hlength]
  exact Option.some.inj h

theorem requestCameraId_of_explicitId (h : explicitId order = some i) :
    requestCameraId order w = i := by
  rw [explicitId] at h
  cases hcmd : command order with
  | snapshot dump | previewDump | delete | updateSnapshot =>
      rw [hcmd] at h
      exact requestCameraId_of_digits h
  | add | video | update | metaDump | quit | wait | wrong =>
      rw [hcmd] at h
      cases h

theorem target_of_explicitId (h : explicitId order = some i)
    (hok : Addressed (.command order env) w) : target order w = i := by
  cases hcmd : command order with
  | updateSnapshot =>
      rw [target, hcmd]
      exact (hok.2.2.2 hcmd i h).symm
  | update | metaDump => simp [explicitId, hcmd] at h
  | snapshot dump | previewDump | delete | add | video | quit | wait | wrong =>
      rw [target, hcmd]
      exact requestCameraId_of_explicitId h

theorem changesOnly_of_command (h : explicitId order = some i)
    (hok : Addressed (.command order env) w) (hs : CommandStep enc order env w w') :
    ChangesOnly i w w' := by
  have htarget := target_of_explicitId h hok
  cases hs with
  | stay => exact .refl
  | quit => exact ⟨fun _ _ => rfl, fun _ _ => rfl, rfl⟩
  | edit hslot hedit => exact .of_set (htarget ▸ hslot.slot) (fun _ _ => rfl) rfl rfl
  | delete hcmd hslot hd => exact .of_set (htarget ▸ hslot.slot) (fun _ _ => rfl) rfl rfl
  | add hskip hcmd hparse hmode hstart hrange => simp [explicitId, hcmd] at h
  | switch hskip hcmd hslot hmode hparse hd => simp [explicitId, hcmd] at h

theorem next_of_deleting {next : Next} (hpc : w.pc = .stopping k next) (h : w.deleting = some i) :
    next = .delete i := by
  rw [deleting, hpc] at h
  cases next with
  | delete j => rw [Option.some.inj h]
  | switch j | shutdown j => cases h

theorem changesOnly_of_step {a : Act} (hl : SlotsLive w) (hok : Addressed a w)
    (ha : addressee a w = some i) (hs : Step enc w a w') : ChangesOnly i w w' := by
  cases hs with
  | fault hfault => exact ⟨fun _ _ => rfl, fun _ _ => rfl, rfl⟩
  | command hpc hs => exact changesOnly_of_command ha hok hs
  | stop hpc hcase hd =>
      obtain rfl := next_of_deleting hpc ha
      exact .of_set (hl.stopping hpc) (fun _ _ => rfl) rfl rfl
  | @deleted env k j c hpc hcase hstop hopened hrange =>
      obtain rfl := Next.delete.inj (next_of_deleting hpc ha)
      exact .of_set (hl.stopping hpc) (fun _ hj => Function.update_of_ne hj _ _) rfl rfl
  | switched hpc hcase hstop hstart hrange hnew => cases next_of_deleting hpc ha
  | shutDown hpc hcase hstop hopened hrange => cases next_of_deleting hpc ha
  | endOfInput hpc | thread hthread hcase hd | emptySlot hpc hrange hslot
  | shutdownStop hpc hslot hd | returned hpc hge => cases ha

/-- Only `D` names a slot without a case, and does nothing then. -/
theorem runCommand_of_not_held (hok : Addressed (.command order env) w)
    (hi : i ∈ accessed order w) (hheld : ¬ Held w i) : runCommand enc order env w = .ok w := by
  rcases hok.2.2.1 i hi with h | ⟨hcmd, hrange⟩
  · exact absurd h hheld
  have hskip : ¬ Skipped order := by
    intro hskip
    rw [accessed, if_pos hskip] at hi
    cases hi
  rw [accessed, if_neg hskip, hcmd] at hi
  obtain rfl := List.mem_singleton.mp hi
  have hslot : w.sHAL3Test (requestCameraId order w) = none := by
    by_contra hne
    exact hheld ⟨hrange, Option.isSome_iff_ne_none.mpr hne⟩
  rw [runCommand, if_neg hskip, hcmd]
  exact bind_eq_ok_iff.mpr ⟨none, slot_eq_ok_iff.mpr ⟨hrange, hslot⟩, rfl⟩

theorem fault_of_step {a : Act} (hdef : w.fault = none) (hs : Step enc w a w')
    (hf : w'.fault = some f) : Faults enc w a f := by
  have hsame : w'.fault = w.fault → Faults enc w a f := by
    intro h
    rw [h, hdef] at hf
    cases hf
  cases hs with
  | fault hfault =>
      rw [← Option.some.inj hf]
      exact hfault
  | command hpc hs => exact hsame (by cases hs <;> rfl)
  | endOfInput hpc | stop hpc hcase hd | thread hthread hcase hd
  | deleted hpc hcase hstop hopened hrange | switched hpc hcase hstop hstart hrange hnew
  | shutDown hpc hcase hstop hopened hrange | emptySlot hpc hrange hslot
  | shutdownStop hpc hslot hd | returned hpc hge => exact hsame rfl

/-- **Every step accesses live cases only, and a command only the case that it names**, in every run
whose commands are addressed. -/
theorem addressing {a : Act} (h : Run enc Addressed w) (hok : Addressed a w)
    (hs : step enc a w = some w') : Addressing a w w' := by
  have hl := slotsLive h
  have hi := addressInv h
  have ⟨hdef, hstep⟩ := Step.of_eq hs
  refine ⟨fun f hf => ?_, ?_, fun i ha => changesOnly_of_step hl hok ha hstep⟩
  · cases fault_of_step hdef.1 hstep hf with
    | command hpc hrun => exact runCommand_avoids hl hpc hok f hrun
    | resume hpc hrun => exact resume_avoids hl hi hpc f hrun
    | shutdown hpc hrun => exact shutdownStep_avoids hl hi hpc f hrun
  · rintro order env i rfl hmem hheld
    have hrun : runCommand enc order env w = .ok w := runCommand_of_not_held hok hmem hheld
    rw [step, if_pos hdef] at hs
    split_ifs at hs
    rw [hrun] at hs
    exact (Option.some.inj hs).symm

/-! ## The camera that is named -/

/-- A camera is added and deleted. -/
theorem deleted_camera_addressing :
    ∃ w w', Run true Addressed w ∧ w'.pc = .stopping 0 (.delete 0) ∧
      Addressing (.command "D0".toList vgaEnv) w w' := by
  have ⟨w, hr, hok, hstep⟩ : ∃ w, Run true Addressed w ∧
      Addressed (.command "D0".toList vgaEnv) w ∧
      (step true (.command "D0".toList vgaEnv) w).map Console.pc = some (.stopping 0 (.delete 0)) :=
    Reachable.exists_of_exec [.command previewLine vgaEnv] (by decide +kernel)
  have ⟨w', hw', hpc⟩ := Option.map_eq_some_iff.mp hstep
  exact ⟨w, w', hr, hpc, addressing hr hok hw'⟩

/-- `E1` takes a picture with camera `0`. -/
theorem update_of_other_camera :
    ∃ w w', Run true (fun _ _ => True) w ∧ step true (.command "E1".toList vgaEnv) w = some w' ∧
      ¬ Addressing (.command "E1".toList vgaEnv) w w' := by
  have ⟨w, hr, hslot, hnum, hstep⟩ : ∃ w, Run true (fun _ _ => True) w ∧ w.sHAL3Test 1 = none ∧
      w.cases[0]?.map (fun c => c.device.caseState.dumpPreviewNum) = some 0 ∧
      ((step true (.command "E1".toList vgaEnv) w).bind fun w' =>
        w'.cases[0]?.map fun c => c.device.caseState.dumpPreviewNum) = some 1 :=
    Reachable.exists_of_exec [.command previewLine vgaEnv] (by decide +kernel)
  have ⟨w', hw', hnum'⟩ := Option.bind_eq_some_iff.mp hstep
  refine ⟨w, w', hr, hw', fun h => ?_⟩
  have hlocal := h.isLocal 1 rfl
  rw [hlocal.cases 0 (by simp [hslot]), hnum] at hnum'
  cases hnum'

end Console

end QCamx

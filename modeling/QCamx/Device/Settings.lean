import QCamx.Device.Numbering
import QCamx.Device.Stages
import QCamx.Lib.History

/-!
# The settings of the requests

Settings objects are pushed onto `_setting_metadata_list` from the console thread, and the request
thread takes them off one by one; the object `setting` keeps the last. It is locked while a request
has its buffer, and `process_one_capture_request` unlocks it only where there is a buffer to unlock.

* `SettingsHistory`: the objects as they were when they were pushed, and the requests that were
  built;
* `Pipelined`: every request carries the oldest object not yet used, or the settings of the request
  before it;
* `sticky`: what requests carry instead, as `setting` stays locked after an object with no buffer;
* **`pipelined_iff`**: the pipeline is kept exactly where no object with a buffer follows one
  without.
-/

namespace QCamx

open Guarded

/-! ## Sticky lists -/

/-- The values of a list up to the first `none`, which all later ones become. -/
def sticky {α : Type} : List (Option α) → List (Option α)
  | [] => []
  | none :: l => none :: l.map fun _ => none
  | some a :: l => some a :: sticky l

section sticky

variable {α : Type} [DecidableEq α]

omit [DecidableEq α] in
@[simp] theorem length_sticky (l : List (Option α)) : (sticky l).length = l.length := by
  induction l with
  | nil => rfl
  | cons a l ih => cases a <;> simp [sticky, ih]

theorem sticky_append_singleton (l : List (Option α)) (a : Option α) :
    sticky (l ++ [a]) = sticky l ++ [if none ∈ l then none else a] := by
  induction l with
  | nil => cases a <;> rfl
  | cons b l ih =>
      cases b with
      | none => simp [sticky]
      | some b => simp [sticky, ih]

theorem sticky_eq_self_iff (l : List (Option α)) :
    sticky l = l ↔ l.Pairwise fun a b => a = none → b = none := by
  induction l using List.reverseRecOn with
  | nil => simp [sticky]
  | append_singleton l a ih =>
      have hinj : sticky l ++ [if none ∈ l then none else a] = l ++ [a] ↔
          sticky l = l ∧ (none ∈ l → a = none) := by
        constructor
        · intro h
          have ⟨hleft, hright⟩ := List.append_inj h (length_sticky l)
          refine ⟨hleft, fun hl => ?_⟩
          rw [if_pos hl] at hright
          exact (List.cons.inj hright).1.symm
        · rintro ⟨hleft, hright⟩
          rw [hleft]
          split_ifs with hl
          · rw [hright hl]
          · rfl
      rw [sticky_append_singleton, hinj, ih, List.pairwise_append]
      refine and_congr_right fun _ => ?_
      simp only [List.pairwise_singleton, List.mem_singleton, forall_eq, true_and]
      exact ⟨fun h b hb hnone => h (hnone ▸ hb), fun h hl => h none hl rfl⟩

theorem getLast?_sticky_of_mem {l : List (Option α)} (h : none ∈ l) :
    (sticky l).getLast? = some none := by
  induction l using List.reverseRecOn with
  | nil => cases h
  | append_singleton l a ih =>
      rw [sticky_append_singleton, List.getLast?_append, List.getLast?_singleton]
      by_cases hl : none ∈ l
      · simp [hl]
      · have ha : a = none := by simpa [hl, eq_comm] using h
        simp [ha]

theorem none_mem_of_getLast?_sticky {l : List (Option α)} (h : (sticky l).getLast? = some none) :
    none ∈ l := by
  induction l using List.reverseRecOn with
  | nil => simp [sticky] at h
  | append_singleton l a ih =>
      rw [sticky_append_singleton, List.getLast?_append, List.getLast?_singleton] at h
      by_cases hl : none ∈ l
      · exact List.mem_append_left _ hl
      · have ha : a = none := by simpa [hl] using h
        exact List.mem_append_right _ (by simp [ha])

end sticky

namespace Device

variable {cfg : Setup} {s s' : Device}

/-! ## The history of the settings -/

/-- A request that was built: whether the list had an object, and the settings it carries. -/
structure Built where
  fromList : Bool
  settings : Option Metadata
  deriving DecidableEq

/-- The settings that were pushed and carried; an object stands for its buffer. -/
structure SettingsHistory where
  /-- The pushed objects, as they were copied. -/
  pushed : List (Option Metadata)
  built : List Built := []
  /-- `_current_metadata` when it was last assigned, and its updates since. -/
  base : Option Metadata
  edits : List (ℕ × List ℤ) := []
  /-- The updates that the last pushed object contains, where it is `_current_metadata`. -/
  applied : Option (List (ℕ × List ℤ)) := none
  deriving DecidableEq

/-- The history at the start: the init function of the case has filled the list. -/
def SettingsHistory.init (cfg : Setup) : SettingsHistory where
  pushed := cfg.settingMetadataList.map (·.buffer)
  base := cfg.currentMetadata.buffer

namespace SettingsHistory

variable (h : SettingsHistory)

/-- What the requests that took an object carry, in order. -/
def drawn : List (Option Metadata) := (h.built.filter (·.fromList)).map (·.settings)

/-- The objects that requests have taken. -/
def taken : List (Option Metadata) := h.pushed.take h.drawn.length

/-- One more request. -/
def build (b : Built) : SettingsHistory := { h with built := h.built ++ [b] }

/-- `_current_metadata` with its updates. -/
def applyEdits (edits : List (ℕ × List ℤ)) : CameraMetadata :=
  edits.foldl (fun m e => m.update e.1 e.2) ⟨h.base, false⟩

theorem locked_applyEdits (edits : List (ℕ × List ℤ)) : (h.applyEdits edits).locked = false := by
  induction edits using List.reverseRecOn with
  | nil => rfl
  | append_singleton edits e ih =>
      rw [applyEdits] at ih
      rw [applyEdits, List.foldl_append, List.foldl_cons, List.foldl_nil, CameraMetadata.update]
      split_ifs
      · exact ih
      · exact ih

end SettingsHistory

/-- The settings a request carries once it is built. -/
def settingsOf : RequestPc → Option Metadata
  | .insert _ _ settings => settings
  | _ => none

/-- The history after a step from `s` to `s'`. -/
def recordSettings (a : Act) (s s' : Device) (h : SettingsHistory) : SettingsHistory :=
  match a with
  | .request .settings =>
      h.build ⟨!s.settingMetadataList.isEmpty, settingsOf s'.requestPc⟩
  | .user (.setCurrentMeta metadata) =>
      { h with
        pushed := h.pushed ++ [(s.currentMetadata.assign metadata).buffer]
        base := (s.currentMetadata.assign metadata).buffer
        edits := []
        applied := some [] }
  | .user (.editCurrentMeta tag data) => { h with edits := h.edits ++ [(tag, data)] }
  | .user (.updateMetadata metadata) =>
      { h with
        pushed := h.pushed ++ [metadata.buffer]
        applied := if metadata = s.currentMetadata then some h.edits else none }
  | _ => h

/-- The HAL accepts every request. -/
def HalAccepts (a : Act) (_ : Device) : Prop := a ≠ .request (.submit false)

instance (a : Act) (s : Device) : Decidable (HalAccepts a s) :=
  inferInstanceAs (Decidable (a ≠ .request (.submit false)))

/-- A run, with the history of its settings, in which the HAL accepts every request. -/
abbrev SettingsRun (cfg : Setup) (s : Device) (h : SettingsHistory) : Prop :=
  Reachable (withHistory (step cfg) recordSettings) (onState HalAccepts)
    (cfg.init, SettingsHistory.init cfg) (s, h)

/-- Every run in which the HAL accepts all requests has such a history. -/
theorem Run.exists_settingsRun {cfg : Setup} {s : Device} (h : Run cfg HalAccepts s) :
    ∃ hist, SettingsRun cfg s hist :=
  Reachable.exists_history h _

/-- A request built while the list is empty carries the settings of the request before it. -/
def Repeats (built : List Built) : Prop :=
  ∀ before b after, built = before ++ b :: after → b.fromList = false →
    (before.getLast?.map (·.settings)) = some b.settings

theorem Repeats.append {built : List Built} (h : Repeats built) {b : Built}
    (hb : b.fromList = false → (built.getLast?.map (·.settings)) = some b.settings) :
    Repeats (built ++ [b]) := by
  intro before b' after heq hb'
  induction after using List.reverseRecOn with
  | nil =>
      have ⟨hbefore, hlast⟩ := List.append_inj' heq rfl
      obtain rfl := (List.cons.inj hlast).1
      rw [← hbefore]
      exact hb hb'
  | append_singleton after c _ =>
      rw [← List.cons_append, ← List.append_assoc] at heq
      exact h before b' after (List.append_inj' heq rfl).1 hb'

/-- **The settings pipeline.** -/
structure Pipelined (s : Device) (h : SettingsHistory) : Prop where
  /-- A request built while the list has an object carries the oldest that is not yet used. -/
  inOrder : h.drawn = h.taken
  /-- What no request has taken is in the list. -/
  queued : s.settingMetadataList.map (·.buffer) = h.pushed.drop h.drawn.length
  repeated : Repeats h.built
  /-- The HAL gets the settings the request was built with. -/
  passed : ∀ n, s.heldRecord = some n → n ∉ s.freed → ∃ pend, s.pendingVector.find? n = some pend ∧
    (h.built.getLast?.map (·.settings)) = some pend.request.settings
  /-- Once the list is drained, the settings in effect have all updates made so far. -/
  effect : s.settingMetadataList = [] → ∀ edits, h.applied = some edits →
    (h.built.getLast?.map (·.settings)) = some (h.applyEdits edits).buffer

/-! ## Who touches the settings -/

/-- What the threads that do not deal with settings leave alone. -/
structure SettingsFrame (s s' : Device) : Prop where
  setting : s'.setting = s.setting
  settingMetadataList : s'.settingMetadataList = s.settingMetadataList
  currentMetadata : s'.currentMetadata = s.currentMetadata

theorem HalStep.settingsFrame {a : HalAct} (hs : HalStep s a s') : SettingsFrame s s' := by
  cases hs <;> constructor <;> rfl

theorem ResultStep.settingsFrame {a : ResultAct} (hs : ResultStep cfg s a s') :
    SettingsFrame s s' := by
  cases hs with
  | @callback msg b rest effects caseState hpc heff =>
      have ⟨managers, encoder, he⟩ := foldl_applyEffect effects s
      rw [he]
      constructor <;> rfl
  | _ => constructor <;> rfl

theorem StopStep.settingMetadataList {a : StopAct} (hs : StopStep cfg s a s') :
    s'.setting = s.setting ∧ s'.settingMetadataList = s.settingMetadataList := by
  cases hs <;> exact ⟨rfl, rfl⟩

theorem UserStep.setting {a : UserAct} (hs : UserStep cfg s a s') : s'.setting = s.setting := by
  cases hs <;> rfl

/-! ## The record of the request in hand -/

@[simp] theorem buffer_unlock (m : CameraMetadata) (b : Metadata) :
    (m.unlock b).buffer = m.buffer := by
  unfold CameraMetadata.unlock
  split_ifs <;> rfl

/-- What the request thread holds between the building of a request and the unlocking of its
settings, if the HAL accepts every request. -/
structure HeldInv (s : Device) : Prop where
  insert : ∀ selected buffers settings, s.requestPc = .insert selected buffers settings →
    settings = s.setting.buffer
  accepted : ∀ selected buffers accepted, s.requestPc = .inCall selected buffers accepted →
    accepted = true
  rejected : ∀ rest, s.requestPc ≠ .reject rest
  record : ∀ n, s.heldRecord = some n → n ∉ s.freed → ∃ pend,
    s.pendingVector.find? n = some pend ∧ pend.request.settings = s.setting.buffer

namespace HeldInv

theorem of_pc (h : HeldInv s) (hpc : s'.requestPc = s.requestPc)
    (hframe : s'.requestThread.frameNumber = s.requestThread.frameNumber)
    (hsetting : s'.setting = s.setting)
    (hrecord : ∀ n pend, s.heldRecord = some n → n ∉ s'.freed →
      s.pendingVector.find? n = some pend →
      ∃ pend', s'.pendingVector.find? n = some pend' ∧ pend'.request = pend.request)
    (hfreed : s.freed ⊆ s'.freed) : HeldInv s' where
  insert := by
    rw [hpc, hsetting]
    exact h.insert
  accepted := by
    rw [hpc]
    exact h.accepted
  rejected := by
    rw [hpc]
    exact h.rejected
  record := by
    intro n hn hfree
    rw [heldRecord_congr hpc hframe] at hn
    have ⟨pend, hpend, hset⟩ := h.record n hn fun hmem => hfree (hfreed hmem)
    have ⟨pend', hpend', hreq⟩ := hrecord n pend hn hfree hpend
    exact ⟨pend', hpend', by rw [hreq, hset, hsetting]⟩

theorem of_idle (hinsert : ∀ selected buffers settings,
      s'.requestPc ≠ .insert selected buffers settings)
    (hcall : ∀ selected buffers accepted, s'.requestPc ≠ .inCall selected buffers accepted)
    (hreject : ∀ rest, s'.requestPc ≠ .reject rest) (hheld : s'.heldRecord = none) :
    HeldInv s' where
  insert := fun _ _ _ hpc => absurd hpc (hinsert _ _ _)
  accepted := fun _ _ _ hpc => absurd hpc (hcall _ _ _)
  rejected := hreject
  record := by
    rw [hheld]
    intro n hn
    cases hn

theorem request {a : RequestAct} (h : HeldInv s) (hok : HalAccepts (.request a) s)
    (hs : RequestStep cfg s a s') : HeldInv s' := by
  have hrecord := h.record
  cases hs with
  | settings hpc =>
      constructor <;> simp [takeSettings, CameraMetadata.getAndLock, heldRecord]
  | insert hpc =>
      have hset := h.insert _ _ _ hpc
      constructor <;> simp [heldRecord, hset]
  | @submit selected buffers accepted hpc hfreed =>
      have hacc : accepted = true := by
        cases accepted with
        | true => rfl
        | false => exact absurd rfl hok
      simp only [heldRecord, hpc, Option.some.injEq, forall_eq'] at hrecord
      constructor <;> simp [heldRecord, hacc]
      exact hrecord
  | returnAccepted hpc hfits =>
      simp only [heldRecord, hpc, Option.some.injEq, forall_eq'] at hrecord
      constructor <;> simp [heldRecord]
      exact hrecord
  | returnRejected hpc => exact absurd (h.accepted _ _ _ hpc) (by decide)
  | rejectFreed hpc | rejectUnknown hpc | rejectReturn hpc | rejectRemove hpc | rejectAbsent hpc =>
      exact absurd hpc (h.rejected _)
  | changeOverflow | bufferWait | bufferWakeEmpty | submitFreed | returnOverflow | unlockFreed =>
      exact h.of_pc rfl rfl rfl (fun n pend _ _ hpend => ⟨pend, hpend, rfl⟩) (List.Subset.refl _)
  | exit hpc | stopMessage hpc | otherMessage hpc | change hpc | start hpc | idle hpc
  | wakeMessage hpc | limitWait hpc | limitPass hpc | limitTimeout hpc | limitWake hpc
  | assembled hpc | skip hpc | decrement hpc =>
      exact .of_idle (by simp [hpc]) (by simp [hpc]) (by simp [hpc]) (by simp [heldRecord, hpc])
  | getBuffer ha hpc => exact .of_idle (by simp) (by simp) (by simp) (by simp [heldRecord])
  | unlock setting hpc hfreed hset =>
      exact .of_idle (by simp) (by simp) (by simp) (by simp [heldRecord])

theorem hal {a : HalAct} (h : HeldInv s) (hs : HalStep s a s') : HeldInv s' := by
  refine h.of_pc hs.frame.requestPc (by rw [hs.frame.requestThread]) ?_ ?_ ?_
  · cases hs <;> rfl
  · intro n pend hn hfree hpend
    cases hs with
    | @countComplete r i hr hi hc =>
        have hne : n ≠ r.frameNumber := fun e => hfree (by simp [e])
        exact ⟨pend, by simp [KeyedVector.find?_removeItemsAt hi, hne, hpend], rfl⟩
    | @count r i hr hi hc =>
        simp only [KeyedVector.find?_editValueAt hi]
        by_cases hkey : n = r.frameNumber
        · have hval := KeyedVector.find?_of_indexOfKey hi
          rw [← hkey, hpend] at hval
          obtain rfl := Option.some.inj hval
          exact ⟨_, if_pos hkey, rfl⟩
        · exact ⟨pend, by rw [if_neg hkey, hpend], rfl⟩
    | _ => exact ⟨pend, hpend, rfl⟩
  · cases hs with
    | countComplete => exact List.subset_append_left _ _
    | _ => exact List.Subset.refl _

theorem step {a : Act} (h : HeldInv s) (hstages : Stages cfg s) (hok : HalAccepts a s)
    (hs : Step cfg s a s') : HeldInv s' := by
  cases hs with
  | request hs => exact h.request hok hs
  | hal hs => exact h.hal hs
  | result hs =>
      exact h.of_pc hs.frame.requestPc (by rw [hs.frame.requestThread]) hs.settingsFrame.setting
        (fun n pend _ _ hpend => ⟨pend, by rw [hs.frame.pendingVector, hpend], rfl⟩)
        (by rw [hs.frame.freed]; exact List.Subset.refl _)
  | encoderReturn ht =>
      exact h.of_pc rfl rfl rfl (fun n pend _ _ hpend => ⟨pend, hpend, rfl⟩)
        (List.Subset.refl _)
  | stop hs =>
      refine h.of_pc hs.frame.requestPc hs.frame.frameNumber hs.settingMetadataList.1 ?_
        (by rw [hs.frame.freed]; exact List.Subset.refl _)
      intro n pend hn _ hpend
      cases hs with
      | forcedClear hpc =>
          -- the request thread was joined before the records are cleared
          have hexit := hstages.request (by simp [hpc])
          simp [heldRecord, hexit] at hn
      | _ => exact ⟨pend, hpend, rfl⟩
  | user hs =>
      exact h.of_pc hs.frame.requestPc hs.frame.frameNumber hs.setting
        (fun n pend _ _ hpend => ⟨pend, by rw [hs.frame.pendingVector, hpend], rfl⟩)
        (by rw [hs.frame.freed]; exact List.Subset.refl _)

end HeldInv

/-! ## The list and the object `setting` -/

/-- A request has the buffer of `setting`. -/
def SettingOut (s : Device) : Prop :=
  match s.requestPc with
  | .insert .. | .submit .. | .inCall .. | .unlock .. => True
  | _ => False

/-- The invariant of the settings: what requests draw is the sticky form of what was pushed. -/
structure SettingsInv (s : Device) (h : SettingsHistory) : Prop where
  held : HeldInv s
  drawn : h.drawn = sticky h.taken
  queued : s.settingMetadataList.map (·.buffer) = h.pushed.drop h.drawn.length
  length_le : h.drawn.length ≤ h.pushed.length
  repeated : Repeats h.built
  first : h.built = [] → s.settingMetadataList ≠ []
  last : (h.built.getLast?.map (·.settings)) = h.drawn.getLast?
  buffer : s.setting.buffer = h.drawn.getLast?.join
  locked : s.setting.locked = true ↔ SettingOut s ∨ none ∈ h.taken
  out : SettingOut s → h.built ≠ []
  current : s.stopPc = .running → s.currentMetadata = h.applyEdits h.edits
  applied : ∀ edits, h.applied = some edits →
    h.pushed.getLast? = some (h.applyEdits edits).buffer

namespace SettingsInv

variable {h : SettingsHistory}

theorem drawn_build (b : Built) :
    (h.build b).drawn = h.drawn ++ if b.fromList then [b.settings] else [] := by
  cases hb : b.fromList <;> simp [SettingsHistory.drawn, SettingsHistory.build, hb]

theorem init (cfg : Setup) (hlist : cfg.settingMetadataList ≠ [])
    (hcurrent : cfg.currentMetadata.locked = false) :
    SettingsInv cfg.init (.init cfg) where
  held := .of_idle (by simp [Setup.init]) (by simp [Setup.init]) (by simp [Setup.init]) rfl
  drawn := rfl
  queued := rfl
  length_le := Nat.zero_le _
  repeated := by simp [Repeats, SettingsHistory.init]
  first := fun _ => hlist
  last := rfl
  buffer := rfl
  locked := by
    simp [Setup.init, SettingOut, SettingsHistory.taken, SettingsHistory.drawn,
      SettingsHistory.init]
  out := fun hout => absurd hout (by simp [Setup.init, SettingOut])
  current := by
    intro _
    simp [Setup.init, SettingsHistory.init, SettingsHistory.applyEdits, ← hcurrent]
  applied := by simp [SettingsHistory.init]

theorem of_frame (hi : SettingsInv s h) (hheld : HeldInv s') (hsetting : s'.setting = s.setting)
    (hlist : s'.settingMetadataList = s.settingMetadataList)
    (hout : SettingOut s' ↔ SettingOut s)
    (hcurrent : s'.stopPc = .running →
      s.stopPc = .running ∧ s'.currentMetadata = s.currentMetadata) :
    SettingsInv s' h where
  held := hheld
  drawn := hi.drawn
  queued := by rw [hlist]; exact hi.queued
  length_le := hi.length_le
  repeated := hi.repeated
  first := by rw [hlist]; exact hi.first
  last := hi.last
  buffer := by rw [hsetting]; exact hi.buffer
  locked := by rw [hsetting, hout]; exact hi.locked
  out := by rw [hout]; exact hi.out
  current := by
    intro hrun
    have ⟨hrun, heq⟩ := hcurrent hrun
    rw [heq]
    exact hi.current hrun
  applied := hi.applied

theorem settings_of_last (hi : SettingsInv s h) (hbuilt : h.built ≠ []) :
    (h.built.getLast?.map (·.settings)) = some s.setting.buffer := by
  have ⟨b, hb⟩ := Option.isSome_iff_exists.mp (List.getLast?_isSome.mpr hbuilt)
  rw [hi.buffer, ← hi.last, hb]
  rfl

theorem takeEmpty (hi : SettingsInv s h) {selected : ℕ → ℕ} {buffers : List StreamBuffer}
    (hheld : HeldInv (s.takeSettings selected buffers)) (hnil : s.settingMetadataList = []) :
    SettingsInv (s.takeSettings selected buffers) (h.build ⟨false, s.setting.buffer⟩) := by
  have hdrawn : (h.build ⟨false, s.setting.buffer⟩).drawn = h.drawn := by
    rw [drawn_build]
    exact List.append_nil _
  have htaken : (h.build ⟨false, s.setting.buffer⟩).taken = h.taken := by
    rw [SettingsHistory.taken, hdrawn]
    rfl
  have hlast := hi.settings_of_last fun hb => hi.first hb hnil
  refine
    { held := hheld
      drawn := by rw [hdrawn, htaken, hi.drawn]
      queued := ?_
      length_le := by rw [hdrawn]; exact hi.length_le
      repeated := hi.repeated.append fun _ => hlast
      first := fun hb => absurd hb (by simp [SettingsHistory.build])
      last := ?_
      buffer := ?_
      locked := ?_
      out := fun _ => by simp [SettingsHistory.build]
      current := hi.current
      applied := hi.applied }
  · rw [hdrawn]
    simp [takeSettings, hnil, SettingsHistory.build, ← hi.queued]
  · rw [hdrawn, ← hi.last, hlast]
    simp [SettingsHistory.build]
  · rw [hdrawn, ← hi.buffer]
    simp [takeSettings, hnil, CameraMetadata.getAndLock]
  · rw [htaken]
    simp [takeSettings, hnil, CameraMetadata.getAndLock, SettingOut]

theorem takeFront (hi : SettingsInv s h) {selected : ℕ → ℕ} {buffers : List StreamBuffer}
    (hpc : s.requestPc = .settings selected buffers)
    (hheld : HeldInv (s.takeSettings selected buffers)) {m : CameraMetadata}
    {l : List CameraMetadata} (hcons : s.settingMetadataList = m :: l) :
    SettingsInv (s.takeSettings selected buffers)
      (h.build ⟨true, (s.setting.assign m).buffer⟩) := by
  have hdrop : h.pushed.drop h.drawn.length = m.buffer :: l.map (·.buffer) := by
    rw [← hi.queued, hcons]
    rfl
  have hdrawn : (h.build ⟨true, (s.setting.assign m).buffer⟩).drawn =
      h.drawn ++ [(s.setting.assign m).buffer] := by
    rw [drawn_build]
    rfl
  have hfront : h.pushed[h.drawn.length]? = some m.buffer := by
    rw [← List.head?_drop, hdrop]
    rfl
  have htaken : (h.build ⟨true, (s.setting.assign m).buffer⟩).taken = h.taken ++ [m.buffer] := by
    rw [SettingsHistory.taken, hdrawn, List.length_append, List.length_singleton]
    show h.pushed.take (h.drawn.length + 1) = _
    rw [List.take_add_one, hfront]
    rfl
  have hout : ¬ SettingOut s := by simp [SettingOut, hpc]
  have hlocked : s.setting.locked = true ↔ none ∈ h.taken := by
    rw [hi.locked]
    exact or_iff_right hout
  -- the assignment is ignored from the first object without a buffer on
  have hcarried : (s.setting.assign m).buffer = if none ∈ h.taken then none else m.buffer := by
    unfold CameraMetadata.assign
    by_cases hnone : none ∈ h.taken
    · rw [if_pos (hlocked.mpr hnone), if_pos hnone, hi.buffer, hi.drawn,
        getLast?_sticky_of_mem hnone]
      rfl
    · rw [if_neg (fun hl => hnone (hlocked.mp hl)), if_neg hnone]
  refine
    { held := hheld
      drawn := ?_
      queued := ?_
      length_le := ?_
      repeated := hi.repeated.append (fun hb => by cases hb)
      first := fun hb => absurd hb (by simp [SettingsHistory.build])
      last := ?_
      buffer := ?_
      locked := ?_
      out := fun _ => by simp [SettingsHistory.build]
      current := hi.current
      applied := hi.applied }
  · rw [hdrawn, htaken, sticky_append_singleton, hi.drawn, hcarried]
    split_ifs <;> rfl
  · rw [hdrawn, List.length_append, List.length_singleton, ← List.drop_drop]
    show _ = (h.pushed.drop h.drawn.length).drop 1
    rw [hdrop]
    simp [takeSettings, hcons]
  · rw [hdrawn, List.length_append, List.length_singleton]
    exact (List.getElem?_eq_some_iff.mp hfront).1
  · rw [hdrawn]
    simp [SettingsHistory.build]
  · rw [hdrawn]
    simp [takeSettings, hcons, CameraMetadata.getAndLock]
  · simp [takeSettings, CameraMetadata.getAndLock, SettingOut]

theorem take (hi : SettingsInv s h) {selected : ℕ → ℕ} {buffers : List StreamBuffer}
    (hpc : s.requestPc = .settings selected buffers)
    (hheld : HeldInv (s.takeSettings selected buffers)) :
    SettingsInv (s.takeSettings selected buffers)
      (recordSettings (.request .settings) s (s.takeSettings selected buffers) h) := by
  cases hlist : s.settingMetadataList with
  | nil =>
      have hb := hi.takeEmpty hheld hlist
      simpa [recordSettings, hlist, takeSettings, settingsOf, CameraMetadata.getAndLock] using hb
  | cons m l =>
      have hb := hi.takeFront hpc hheld hlist
      simpa [recordSettings, hlist, takeSettings, settingsOf, CameraMetadata.getAndLock] using hb

theorem buffer_eq_none_iff (hi : SettingsInv s h) (hbuilt : h.built ≠ []) :
    s.setting.buffer = none ↔ none ∈ h.taken := by
  have hlast := hi.settings_of_last hbuilt
  rw [hi.last, hi.drawn] at hlast
  constructor
  · intro hnone
    rw [hnone] at hlast
    exact none_mem_of_getLast?_sticky hlast
  · intro hmem
    rw [getLast?_sticky_of_mem hmem] at hlast
    exact (Option.some.inj hlast).symm

theorem unlock (hi : SettingsInv s h) {selected : ℕ → ℕ} {frame : ℕ} {setting : CameraMetadata}
    (hpc : s.requestPc = .unlock selected frame) (hfreed : frame ∉ s.freed)
    (hset : setting = match (s.pendingVector.find? frame).bind (·.request.settings) with
      | some settings => s.setting.unlock settings
      | none => s.setting)
    (hheld : HeldInv { s with setting := setting, requestPc := .decrement selected }) :
    SettingsInv { s with setting := setting, requestPc := .decrement selected } h := by
  have hout : SettingOut s := by simp [SettingOut, hpc]
  have hlocked : s.setting.locked = true := hi.locked.mpr (.inl hout)
  have ⟨pend, hpend, hreq⟩ := hi.held.record frame (by simp [heldRecord, hpc]) hfreed
  have hbuffer : setting.buffer = s.setting.buffer ∧
      (setting.locked = true ↔ s.setting.buffer = none) := by
    rw [hpend, Option.bind_some, hreq] at hset
    cases hb : s.setting.buffer with
    | none =>
        rw [hb] at hset
        rw [hset]
        exact ⟨hb, by simp [hlocked]⟩
    | some b =>
        rw [hb] at hset
        rw [hset]
        simp [CameraMetadata.unlock, hlocked, hb]
  exact
    { held := hheld
      drawn := hi.drawn
      queued := hi.queued
      length_le := hi.length_le
      repeated := hi.repeated
      first := hi.first
      last := hi.last
      buffer := hbuffer.1.trans hi.buffer
      locked := by
        rw [show SettingOut { s with setting := setting, requestPc := .decrement selected } ↔ False
          from Iff.rfl, false_or]
        exact hbuffer.2.trans (hi.buffer_eq_none_iff (hi.out hout))
      out := fun hout' => absurd hout' id
      current := hi.current
      applied := hi.applied }

theorem request {a : RequestAct} (hi : SettingsInv s h) (hok : HalAccepts (.request a) s)
    (hs : RequestStep cfg s a s') :
    SettingsInv s' (recordSettings (.request a) s s' h) := by
  have hheld := hi.held.request hok hs
  cases hs with
  | settings hpc => exact hi.take hpc hheld
  | unlock setting hpc hfreed hset => exact hi.unlock hpc hfreed hset hheld
  | returnRejected hpc => exact absurd (hi.held.accepted _ _ _ hpc) (by decide)
  | changeOverflow | bufferWait | bufferWakeEmpty | submitFreed | returnOverflow | unlockFreed
  | rejectFreed | rejectUnknown =>
      exact hi.of_frame hheld rfl rfl Iff.rfl fun hrun => ⟨hrun, rfl⟩
  | getBuffer ha hpc =>
      rcases ha with ⟨rfl, _⟩ | ⟨w, rfl, _⟩ <;>
        exact hi.of_frame hheld rfl rfl (by simp [SettingOut, hpc]) fun hrun => ⟨hrun, rfl⟩
  | exit hpc | stopMessage hpc | otherMessage hpc | change hpc | start hpc | idle hpc
  | wakeMessage hpc | limitWait hpc | limitPass hpc | limitTimeout hpc | limitWake hpc
  | assembled hpc | skip hpc | decrement hpc | insert hpc | submit hpc | returnAccepted hpc
  | rejectReturn hpc | rejectRemove hpc | rejectAbsent hpc =>
      exact hi.of_frame hheld rfl rfl (by simp [SettingOut, hpc]) fun hrun => ⟨hrun, rfl⟩

theorem push (hi : SettingsInv s h) (hheld : HeldInv s') {m : Option Metadata}
    {h' : SettingsHistory} (hsetting : s'.setting = s.setting) (hpc : s'.requestPc = s.requestPc)
    (hlist : s'.settingMetadataList.map (·.buffer) = s.settingMetadataList.map (·.buffer) ++ [m])
    (hpushed : h'.pushed = h.pushed ++ [m]) (hbuilt : h'.built = h.built)
    (hcurrent : s'.stopPc = .running → s'.currentMetadata = h'.applyEdits h'.edits)
    (happlied : ∀ edits, h'.applied = some edits → (h'.applyEdits edits).buffer = m) :
    SettingsInv s' h' := by
  have hdrawn : h'.drawn = h.drawn := by
    rw [SettingsHistory.drawn, hbuilt]
    rfl
  have htaken : h'.taken = h.taken := by
    rw [SettingsHistory.taken, hdrawn, hpushed, List.take_append_of_le_length hi.length_le]
    rfl
  have hout : SettingOut s' ↔ SettingOut s := by simp only [SettingOut, hpc]
  exact
    { held := hheld
      drawn := by rw [hdrawn, htaken, hi.drawn]
      queued := by
        rw [hdrawn, hpushed, List.drop_append_of_le_length hi.length_le, hlist, hi.queued]
      length_le := by
        rw [hdrawn, hpushed, List.length_append]
        exact hi.length_le.trans (Nat.le_add_right _ _)
      repeated := by
        rw [hbuilt]
        exact hi.repeated
      first := by
        intro _ hnil
        rw [hnil] at hlist
        simp at hlist
      last := by rw [hbuilt, hdrawn, hi.last]
      buffer := by rw [hsetting, hdrawn, hi.buffer]
      locked := by rw [hsetting, hout, htaken, hi.locked]
      out := by
        rw [hout, hbuilt]
        exact hi.out
      current := hcurrent
      applied := by
        intro edits hedits
        rw [hpushed, List.getLast?_concat, happlied edits hedits] }

theorem user {a : UserAct} (hi : SettingsInv s h) (hheld : HeldInv s')
    (hs : s.user cfg a = some s') : SettingsInv s' (recordSettings (.user a) s s' h) := by
  unfold Device.user at hs
  split at hs
  case isTrue => cases hs
  case isFalse hrun =>
    have hrun := not_not.mp hrun
    have hcurrent := hi.current hrun
    cases a with
    | requestCapture count =>
        simp only at hs
        cases hmsg : QCamx.requestCapture cfg.testCase cfg.config count with
        | none | some msg =>
            rw [hmsg] at hs
            obtain rfl := Option.some.inj hs
            refine hi.of_frame hheld ?_ ?_ ?_ fun _ => ⟨hrun, ?_⟩ <;> split_ifs <;> rfl
    | triggerDump count interval =>
        obtain rfl := Option.some.inj hs
        exact hi.of_frame hheld rfl rfl Iff.rfl fun hrun => ⟨hrun, rfl⟩
    | setCurrentMeta metadata =>
        obtain rfl := Option.some.inj hs
        refine hi.push (m := (s.currentMetadata.assign metadata).buffer) hheld rfl rfl ?_ rfl rfl
          (fun _ => ?_) ?_
        · simp [CameraMetadata.copy]
        · have hlocked : s.currentMetadata.locked = false := by
            rw [hcurrent]
            exact h.locked_applyEdits h.edits
          simp [recordSettings, SettingsHistory.applyEdits, CameraMetadata.assign, hlocked]
        · intro edits hedits
          obtain rfl := Option.some.inj hedits
          rfl
    | editCurrentMeta tag data =>
        obtain rfl := Option.some.inj hs
        exact
          { held := hheld
            drawn := hi.drawn
            queued := hi.queued
            length_le := hi.length_le
            repeated := hi.repeated
            first := hi.first
            last := hi.last
            buffer := hi.buffer
            locked := hi.locked
            out := hi.out
            current := by
              intro _
              show s.currentMetadata.update tag data = _
              rw [hcurrent]
              simp [recordSettings, SettingsHistory.applyEdits]
            applied := hi.applied }
    | updateMetadata metadata =>
        obtain rfl := Option.some.inj hs
        refine hi.push (m := metadata.buffer) hheld rfl rfl ?_ rfl rfl hi.current ?_
        · simp [CameraMetadata.copy]
        · intro edits hedits
          simp only [recordSettings] at hedits
          split_ifs at hedits with hm
          obtain rfl := Option.some.inj hedits
          rw [hm, hcurrent]
          rfl

theorem step {a : Act} (hi : SettingsInv s h) (hstages : Stages cfg s) (hok : HalAccepts a s)
    (hs : step cfg a s = some s') : SettingsInv s' (recordSettings a s s' h) := by
  have ⟨hfault, hstep⟩ := Step.of_eq hs
  have hheld := hi.held.step hstages hok hstep
  cases hstep with
  | request hstep => exact hi.request hok hstep
  | hal hstep =>
      have hframe := hstep.settingsFrame
      exact hi.of_frame hheld hframe.setting hframe.settingMetadataList
        (by simp only [SettingOut, hstep.frame.requestPc])
        fun hrun => ⟨hstep.frame.stopPc ▸ hrun, hframe.currentMetadata⟩
  | result hstep =>
      have hframe := hstep.settingsFrame
      exact hi.of_frame hheld hframe.setting hframe.settingMetadataList
        (by simp only [SettingOut, hstep.frame.requestPc])
        fun hrun => ⟨hstep.frame.stopPc ▸ hrun, hframe.currentMetadata⟩
  | encoderReturn ht => exact hi.of_frame hheld rfl rfl Iff.rfl fun hrun => ⟨hrun, rfl⟩
  | stop hstep =>
      refine hi.of_frame hheld hstep.settingMetadataList.1 hstep.settingMetadataList.2
        (by simp only [SettingOut, hstep.frame.requestPc]) fun hrun => ?_
      cases hstep <;> simp_all
  | @user a _ hstep =>
      have huser : s.user cfg a = some s' := by simpa [Device.step, hfault] using hs
      exact hi.user hheld huser

end SettingsInv

/-! ## The pipeline -/

/-- **The settings invariant holds in every run** in which the HAL accepts every request. -/
theorem settingsInv {h : SettingsHistory} (hlist : cfg.settingMetadataList ≠ [])
    (hcurrent : cfg.currentMetadata.locked = false) (hr : SettingsRun cfg s h) :
    SettingsInv s h :=
  hr.invariant_history (P := SettingsInv) (.init cfg hlist hcurrent)
    fun _ _ _ _ hrun hi hok hs => hi.step (stages hrun) hok hs

/-- **Settings are used in the order of their push, each by one request**, and what `U` commands
change is in effect once the list is drained, if and only if no object with a buffer was taken after
one without. -/
theorem pipelined_iff {h : SettingsHistory} (hlist : cfg.settingMetadataList ≠ [])
    (hcurrent : cfg.currentMetadata.locked = false) (hr : SettingsRun cfg s h) :
    Pipelined s h ↔ h.taken.Pairwise fun a b => a = none → b = none := by
  have hi := settingsInv hlist hcurrent hr
  rw [← sticky_eq_self_iff, ← hi.drawn]
  refine ⟨fun hp => hp.inOrder, fun heq => ?_⟩
  exact
    { inOrder := heq
      queued := hi.queued
      repeated := hi.repeated
      passed := by
        intro n hn hfree
        have ⟨pend, hpend, hreq⟩ := hi.held.record n hn hfree
        have hout : SettingOut s := by
          simp only [heldRecord] at hn
          split at hn
          case h_3 rest hpc => exact absurd hpc (hi.held.rejected rest)
          all_goals simp_all [SettingOut]
        exact ⟨pend, hpend, by rw [hi.settings_of_last (hi.out hout), hreq]⟩
      effect := by
        intro hnil edits hedits
        -- every object was taken, the last one last
        have hall : h.taken = h.pushed := by
          have hdrop := hi.queued
          rw [hnil, List.map_nil, eq_comm, List.drop_eq_nil_iff] at hdrop
          exact List.take_of_length_le hdrop
        rw [hi.last, heq, hall]
        exact hi.applied edits hedits }

/-! ## Runs -/

/-- A preview-only case with three buffers, whose init function pushed one object. -/
def settingsSetup : Setup :=
  { previewSetup 3 with settingMetadataList := [⟨some [(1, [10])], false⟩] }

/-- Two requests, the second with the settings of a `U` command. -/
theorem pipelined_update :
    ∃ s h, SettingsRun settingsSetup s h ∧ h.applied = some [(2, [20])] ∧
      h.drawn = [some [(1, [10])], some [(2, [20])]] ∧ Pipelined s h := by
  have ⟨p, hr, happlied, hdrawn, htaken⟩ : ∃ p, Reachable
      (withHistory (step settingsSetup) recordSettings) (onState HalAccepts)
      (settingsSetup.init, SettingsHistory.init settingsSetup) p ∧
      p.2.applied = some [(2, [20])] ∧ p.2.drawn = [some [(1, [10])], some [(2, [20])]] ∧
      p.2.taken = [some [(1, [10])], some [(2, [20])]] :=
    Reachable.exists_of_exec
      (acceptRequest ++ [.user (.editCurrentMeta 2 [20]),
        .user (.updateMetadata ⟨some [(2, [20])], false⟩)] ++ acceptRequest)
      (by decide +kernel)
  refine ⟨p.1, p.2, hr, happlied, hdrawn, ?_⟩
  exact (pipelined_iff (by decide) rfl hr).mpr (by rw [htaken]; decide)

/-- An object without a buffer is pushed, and after it one with a buffer, which is ignored. -/
theorem settings_ignored_after_empty :
    ¬ ∀ s h, SettingsRun settingsSetup s h → Pipelined s h := by
  intro hall
  have ⟨p, hr, hdrawn, htaken⟩ : ∃ p, Reachable
      (withHistory (step settingsSetup) recordSettings) (onState HalAccepts)
      (settingsSetup.init, SettingsHistory.init settingsSetup) p ∧
      p.2.drawn = [some [(1, [10])], none, none] ∧
      p.2.taken = [some [(1, [10])], none, some [(2, [20])]] :=
    Reachable.exists_of_exec
      ([.user (.updateMetadata {}), .user (.updateMetadata ⟨some [(2, [20])], false⟩)] ++
        acceptRequest ++ acceptRequest ++ acceptRequest)
      (by decide +kernel)
  have horder := (hall p.1 p.2 hr).inOrder
  rw [hdrawn, htaken] at horder
  revert horder
  decide

end Device

end QCamx

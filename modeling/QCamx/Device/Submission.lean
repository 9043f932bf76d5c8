import QCamx.Device.Custody
import QCamx.Device.Settings

/-!
# A submission that fails

`process_one_capture_request` fails where its limit wait times out, or where the HAL rejects the
request; the other threads run on meanwhile. What the device holds after a failure is compared with
what it would hold if the call had not been made.

* `CallHistory`: the state before the call, with what the other threads have done to it since;
* `CallRun`: one call, for whose frame no result is counted;
* `Restored`, `CallInv`: the comparison, after the call and during it;
* **`restored_iff`**: everything is as it would be exactly where the settings were not read, or
  were read from an empty list with `setting` locked already;
* `settings_lost_after_rejection`: the settings object of a rejected request is gone.
-/

namespace QCamx

open Guarded

/-- The request is not accepted, and the thread is in the call or has left it with a failure. -/
def RequestPc.unaccepted : RequestPc → Bool
  | loop | waitMessage | unlock .. | decrement _ => false
  | inCall _ _ accepted => !accepted
  | _ => true

/-- The settings of the request are still to be read. -/
def RequestPc.beforeSettings : RequestPc → Bool
  | limit _ | waitLimit _ | assemble .. | settings .. => true
  | _ => false

/-- The record of the request is in `_pending_vector`. -/
def RequestPc.recorded : RequestPc → Bool
  | submit .. | inCall .. | reject _ => true
  | _ => false

instance (pc : RequestPc) : Decidable (pc = .exited) := by
  cases pc with
  | exited => exact isTrue rfl
  | _ => exact isFalse (by simp)

namespace Device

variable {cfg : Setup} {s s' s₀ : Device}

/-! ## One call -/

/-- What the device would hold without the call. -/
structure CallHistory where
  pending : ℕ → Option RequestPending
  free : ℕ → List Buffer
  settings : List CameraMetadata
  /-- `_setting_metadata_list` when the call read it. -/
  read : Option (List CameraMetadata) := none

/-- The entries of `_pending_vector` after a result was counted. -/
def countEntry (r : CaptureResult) (pending : ℕ → Option RequestPending) (n : ℕ) :
    Option RequestPending :=
  if n = r.frameNumber then
    (pending n).bind fun pend =>
      if Complete (countResult r pend) then none else some (countResult r pend)
  else pending n

/-- The device before the call, which selects the streams of `selected`. -/
def beforeCall (selected : ℕ → ℕ) (s : Device) : Device := { s with requestPc := .limit selected }

def CallHistory.start (s₀ : Device) : CallHistory where
  pending := s₀.pendingVector.find?
  free := s₀.buffersFree
  settings := s₀.settingMetadataList

/-- The history after a step from `s` to `s'`: the other threads count results, and add to the free
lists and to the settings. -/
def recordCall (a : Act) (s s' : Device) (h : CallHistory) : CallHistory :=
  match a with
  | .request .settings => { h with read := some s.settingMetadataList }
  | .request _ => h
  | .hal (.count r) => { h with pending := countEntry r h.pending }
  | _ =>
      { h with
        free := fun i => h.free i ++ (s'.buffersFree i).drop (s.buffersFree i).length
        settings := h.settings ++ s'.settingMetadataList.drop s.settingMetadataList.length }

/-- No result for the frame of the call is counted, and no further call is made. -/
def CallAct (frame : ℕ) : Act → Prop
  | .request .iterate => False
  | .hal (.count r) => r.frameNumber ≠ frame
  | _ => True

/-- A step of the call, or of another thread while the call has not failed. -/
def InCall (frame : ℕ) (a : Act) (s : Device) : Prop := s.requestPc ≠ .exited ∧ CallAct frame a

instance (frame : ℕ) (a : Act) : Decidable (CallAct frame a) := by
  cases a with
  | request a => cases a <;> unfold CallAct <;> infer_instance
  | hal a => cases a <;> unfold CallAct <;> infer_instance
  | _ => unfold CallAct; infer_instance

instance (frame : ℕ) (a : Act) (s : Device) : Decidable (InCall frame a s) := by
  unfold InCall; infer_instance

/-- One call from `s₀`, with the steps of the other threads. -/
abbrev CallRun (cfg : Setup) (s₀ : Device) : Device × CallHistory → Prop :=
  Reachable (withHistory (step cfg) recordCall) (onState (InCall s₀.requestThread.frameNumber))
    (s₀, .start s₀)

/-- The settings that a request is built with. -/
def nextSettings (setting : CameraMetadata) (list : List CameraMetadata) : Option Metadata :=
  match list with
  | m :: _ => (setting.assign m).buffer
  | [] => setting.buffer

/-- The device is as it would be without the call, and the next request carries the settings that
this one would carry now. -/
structure Restored (s₀ s : Device) (h : CallHistory) : Prop where
  frameNumber : s.requestThread.frameNumber = s₀.requestThread.frameNumber
  pending : ∀ n, s.pendingVector.find? n = h.pending n
  free : ∀ i, (s.buffersFree i).Perm (h.free i)
  settings : s.settingMetadataList = h.settings
  locked : s.setting.locked = s₀.setting.locked
  retry : nextSettings s.setting s.settingMetadataList = nextSettings s₀.setting h.settings

/-! ## What the other threads do -/

theorem HalStep.find?_count {r : CaptureResult} (hs : HalStep s (.count r) s') (n : ℕ) :
    s'.pendingVector.find? n = countEntry r s.pendingVector.find? n := by
  unfold countEntry
  cases hs with
  | countAbsent hr hi =>
      have hnone := KeyedVector.indexOfKey_eq_none_iff.mp hi
      split_ifs with hn
      · rw [hn, hnone]
        rfl
      · rfl
  | countComplete hr hi hc =>
      have hval := KeyedVector.find?_of_indexOfKey hi
      rw [KeyedVector.find?_removeItemsAt hi]
      split_ifs with hn
      · rw [hn, hval, Option.bind_some, if_pos hc]
      · rfl
  | count hr hi hc =>
      have hval := KeyedVector.find?_of_indexOfKey hi
      rw [KeyedVector.find?_editValueAt hi]
      split_ifs with hn
      · rw [hn, hval, Option.bind_some, if_neg hc]
      · rfl

theorem HalStep.pendingVector_eq {a : HalAct} (hs : HalStep s a s') (ha : ∀ r, a ≠ .count r) :
    s'.pendingVector = s.pendingVector := by
  cases hs with
  | countAbsent | countComplete | count => exact absurd rfl (ha _)
  | _ => rfl

theorem prefix_returnBuffer (s : Device) (j : ℕ) (c : Buffer) (i : ℕ) :
    s.buffersFree i <+: (s.returnBuffer j c).buffersFree i := by
  rcases eq_or_ne i j with rfl | hne
  · refine ⟨[c], ?_⟩
    simp [buffersFree, returnBuffer, BufferManager.returnBuffer, BlockingQueue.push]
  · refine ⟨[], ?_⟩
    simp [buffersFree, returnBuffer, Function.update_of_ne hne]

theorem prefix_foldl_applyEffect (effects : List Effect) (s : Device) (i : ℕ) :
    s.buffersFree i <+: (effects.foldl applyEffect s).buffersFree i := by
  induction effects generalizing s with
  | nil => exact List.prefix_refl _
  | cons e effects ih =>
      rw [List.foldl_cons]
      refine List.IsPrefix.trans ?_ (ih (s.applyEffect e))
      cases e with
      | returnBuffer j c => exact prefix_returnBuffer s j c i
      | enqueueFrameBuffer | previewCb | snapshotCb | videoCb | dumpFrame | showFps =>
          exact List.prefix_refl _

theorem ResultStep.prefix_buffersFree {a : ResultAct} (hs : ResultStep cfg s a s') (i : ℕ) :
    s.buffersFree i <+: s'.buffersFree i := by
  cases hs with
  | callback hpc heff => exact prefix_foldl_applyEffect _ s i
  | giveBack hpc hi => exact prefix_returnBuffer s _ _ i
  | _ => exact List.prefix_refl _

theorem prefix_settingMetadataList {a : UserAct} (hs : s.user cfg a = some s') :
    s.settingMetadataList <+: s'.settingMetadataList := by
  unfold user at hs
  split at hs
  case isTrue => cases hs
  case isFalse hrun =>
    cases a with
    | setCurrentMeta metadata | updateMetadata metadata =>
        obtain rfl := Option.some.inj hs
        exact List.prefix_append _ _
    | triggerDump count interval | editCurrentMeta tag data =>
        obtain rfl := Option.some.inj hs
        exact List.prefix_refl _
    | requestCapture count =>
        simp only at hs
        cases hmsg : QCamx.requestCapture cfg.testCase cfg.config count with
        | none | some =>
            rw [hmsg] at hs
            obtain rfl := Option.some.inj hs
            split_ifs <;> exact List.prefix_refl _

/-! ## The invariant of a call -/

/-- What the call has taken, while its request is not accepted. -/
structure CallInv (cfg : Setup) (s₀ s : Device) (h : CallHistory) : Prop where
  frameNumber : s.requestThread.frameNumber = s₀.requestThread.frameNumber
  absent : h.pending s₀.requestThread.frameNumber = none
  pending : ∀ n, (s.requestPc.recorded = true → n ≠ s₀.requestThread.frameNumber) →
    s.pendingVector.find? n = h.pending n
  free : ∀ i b, (s.buffersFree i).count b +
      (s.requestPc.buffers.map (atManager cfg.camera3Streams)).count (i, b) = (h.free i).count b
  known : ∀ b ∈ s.requestPc.buffers, b.stream ∈ cfg.camera3Streams
  settings : h.settings = (h.read.getD []).head?.toList ++ s.settingMetadataList
  before : s.requestPc.beforeSettings = true → h.read = none
  unread : h.read = none → s.setting = s₀.setting
  locked : h.read ≠ none → s.setting.locked = true
  empty : h.read = some [] → s.setting.buffer = s₀.setting.buffer

namespace CallInv

variable {h : CallHistory}

theorem start {selected : ℕ → ℕ} (hpc : s₀.requestPc = .limit selected)
    (habsent : s₀.pendingVector.find? s₀.requestThread.frameNumber = none) :
    CallInv cfg s₀ s₀ (.start s₀) where
  frameNumber := rfl
  absent := habsent
  pending _ _ := rfl
  free i b := by simp [hpc, RequestPc.buffers, CallHistory.start]
  known b hb := by simp [hpc, RequestPc.buffers] at hb
  settings := rfl
  before _ := rfl
  unread _ := rfl
  locked hread := absurd rfl hread
  empty hread := by cases hread

/-! ### The request thread -/

theorem of_move (hi : CallInv cfg s₀ s h)
    (hframe : s'.requestThread.frameNumber = s.requestThread.frameNumber)
    (hpending : s'.pendingVector = s.pendingVector)
    (hlist : s'.settingMetadataList = s.settingMetadataList) (hsetting : s'.setting = s.setting)
    (hrecorded : s.requestPc.recorded = true → s'.requestPc.recorded = true)
    (hbefore : s'.requestPc.beforeSettings = true → s.requestPc.beforeSettings = true)
    (hmove : ∀ i b, (s'.buffersFree i).count b +
        (s'.requestPc.buffers.map (atManager cfg.camera3Streams)).count (i, b) =
      (s.buffersFree i).count b +
        (s.requestPc.buffers.map (atManager cfg.camera3Streams)).count (i, b))
    (hknown : ∀ b ∈ s'.requestPc.buffers, b.stream ∈ cfg.camera3Streams) :
    CallInv cfg s₀ s' h where
  frameNumber := hframe.trans hi.frameNumber
  absent := hi.absent
  pending n hn := by
    rw [hpending]
    exact hi.pending n fun hrec => hn (hrecorded hrec)
  free i b := (hmove i b).trans (hi.free i b)
  known := hknown
  settings := by rw [hlist]; exact hi.settings
  before hb := hi.before (hbefore hb)
  unread := by rw [hsetting]; exact hi.unread
  locked := by rw [hsetting]; exact hi.locked
  empty := by rw [hsetting]; exact hi.empty

theorem of_idle (hi : CallInv cfg s₀ s h)
    (hframe : s'.requestThread.frameNumber = s.requestThread.frameNumber)
    (hpending : s'.pendingVector = s.pendingVector)
    (hlist : s'.settingMetadataList = s.settingMetadataList) (hsetting : s'.setting = s.setting)
    (hrecorded : s.requestPc.recorded = true → s'.requestPc.recorded = true)
    (hbefore : s'.requestPc.beforeSettings = true → s.requestPc.beforeSettings = true)
    (hfree : ∀ i, s'.buffersFree i = s.buffersFree i)
    (hbuffers : s'.requestPc.buffers = s.requestPc.buffers) : CallInv cfg s₀ s' h :=
  hi.of_move hframe hpending hlist hsetting hrecorded hbefore
    (fun i b => by rw [hfree, hbuffers]) (by rw [hbuffers]; exact hi.known)

theorem take (hi : CallInv cfg s₀ s h) {selected : ℕ → ℕ} {i : ℕ} {buffers : List StreamBuffer}
    {stream : StreamPtr} {m : BufferManager} {b : Buffer} {l : List Buffer}
    (hpc : s.requestPc = .assemble selected i buffers)
    (hstream : cfg.camera3Streams[i]? = some stream)
    (hm : m.buffersFree.items = (s.buffersFree i).tail) (hfree : s.buffersFree i = b :: l) :
    CallInv cfg s₀
      { s with
        managers := Function.update s.managers i m
        requestPc := .assemble selected (i + 1) (buffers ++ [⟨stream, b⟩]) } h := by
  obtain ⟨hlt, rfl⟩ := List.getElem?_eq_some_iff.mp hstream
  have hat : atManager cfg.camera3Streams ⟨cfg.camera3Streams[i], b⟩ = (i, b) := by
    rw [atManager, cfg.nodup_streams.idxOf_getElem]
  refine hi.of_move rfl rfl rfl rfl (by simp [hpc, RequestPc.recorded])
    (by simp [hpc, RequestPc.beforeSettings]) (fun j c => ?_) fun c hc => ?_
  · have hcount := count_getBuffer s hm hfree j c
    rw [hpc, RequestPc.buffers, RequestPc.buffers, List.map_append, List.map_singleton, hat,
      List.count_append]
    show (Function.update s.managers i m j).buffersFree.items.count c + _ = _
    omega
  · simp only [RequestPc.buffers, List.mem_append, List.mem_singleton] at hc
    rcases hc with hc | rfl
    · exact hi.known c (by simpa [hpc, RequestPc.buffers] using hc)
    · exact List.getElem_mem hlt

theorem giveBack (hi : CallInv cfg s₀ s h) {b : StreamBuffer} {rest : List StreamBuffer}
    (hpc : s.requestPc = .reject (b :: rest)) :
    CallInv cfg s₀
      { s.returnBuffer (cfg.camera3Streams.idxOf b.stream) b.buffer with
        requestPc := .reject rest } h := by
  refine hi.of_move rfl rfl rfl rfl (by simp [RequestPc.recorded])
    (by simp [RequestPc.beforeSettings]) (fun i c => ?_) fun c hc => hi.known c ?_
  · have hreturn := count_returnBuffer s (cfg.camera3Streams.idxOf b.stream) b.buffer i c
    rw [List.count_singleton] at hreturn
    simp only [hpc, RequestPc.buffers, List.map_cons, List.count_cons, atManager]
    simp only [buffersFree] at hreturn ⊢
    omega
  · rw [hpc]
    exact List.mem_cons_of_mem _ hc

theorem readSettings (hi : CallInv cfg s₀ s h) {selected : ℕ → ℕ} {buffers : List StreamBuffer}
    (hpc : s.requestPc = .settings selected buffers) :
    CallInv cfg s₀ (s.takeSettings selected buffers)
      { h with read := some s.settingMetadataList } := by
  have hread : h.read = none := hi.before (by rw [hpc]; rfl)
  have hsettings := hi.settings
  rw [hread] at hsettings
  exact
    { frameNumber := hi.frameNumber
      absent := hi.absent
      pending := fun n hn => hi.pending n (by simp [hpc, RequestPc.recorded])
      free := by simpa [hpc, RequestPc.buffers, takeSettings, buffersFree] using hi.free
      known := by simpa [hpc, RequestPc.buffers, takeSettings] using hi.known
      settings := by
        cases hlist : s.settingMetadataList with
        | nil => simp [hsettings, hlist, takeSettings]
        | cons m l => simp [hsettings, hlist, takeSettings]
      before := by simp [takeSettings, RequestPc.beforeSettings]
      unread := by simp
      locked := fun _ => rfl
      empty := by
        intro hnil
        have hlist : s.settingMetadataList = [] := Option.some.inj hnil
        rw [← hi.unread hread]
        simp [takeSettings, hlist, CameraMetadata.getAndLock] }

theorem addRecord (hi : CallInv cfg s₀ s h) {selected : ℕ → ℕ} {buffers : List StreamBuffer}
    {settings : Option Metadata} (hpc : s.requestPc = .insert selected buffers settings)
    (pend : RequestPending) :
    CallInv cfg s₀
      { s with
        pendingVector := s.pendingVector.add s.requestThread.frameNumber pend
        requestPc := .submit selected buffers } h where
  frameNumber := hi.frameNumber
  absent := hi.absent
  pending n hn := by
    have hne : n ≠ s.requestThread.frameNumber := hi.frameNumber ▸ hn rfl
    rw [KeyedVector.find?_add, if_neg hne]
    exact hi.pending n (by simp [hpc, RequestPc.recorded])
  free := by simpa [hpc, RequestPc.buffers, buffersFree] using hi.free
  known := by simpa [hpc, RequestPc.buffers] using hi.known
  settings := hi.settings
  before := by simp [RequestPc.beforeSettings]
  unread := hi.unread
  locked := hi.locked
  empty := hi.empty

theorem removeRecord (hi : CallInv cfg s₀ s h) {pending : KeyedVector ℕ RequestPending}
    (hpc : s.requestPc = .reject [])
    (hpending : ∀ n, pending.find? n =
      if n = s.requestThread.frameNumber then none else s.pendingVector.find? n) :
    CallInv cfg s₀ { s with pendingVector := pending, requestPc := .exited } h where
  frameNumber := hi.frameNumber
  absent := hi.absent
  pending n _ := by
    rw [hpending, hi.frameNumber]
    split_ifs with hn
    · rw [hn, hi.absent]
    · exact hi.pending n fun _ => hn
  free := by simpa [hpc, RequestPc.buffers, buffersFree] using hi.free
  known := by simp [RequestPc.buffers]
  settings := hi.settings
  before := by simp [RequestPc.beforeSettings]
  unread := hi.unread
  locked := hi.locked
  empty := hi.empty

theorem request {a : RequestAct} (hi : CallInv cfg s₀ s h)
    (hstreams : s.camera3Streams = cfg.camera3Streams) (ha : a ≠ .iterate)
    (hs : RequestStep cfg s a s') (hpc' : s'.requestPc.unaccepted = true) :
    CallInv cfg s₀ s' (recordCall (.request a) s s' h) := by
  cases hs with
  | exit | stopMessage | otherMessage | change | changeOverflow | start | idle =>
      exact absurd rfl ha
  | wakeMessage | returnAccepted | unlock | decrement => simp [RequestPc.unaccepted] at hpc'
  | returnOverflow hpc | unlockFreed hpc => simp [fail, hpc, RequestPc.unaccepted] at hpc'
  | limitWait hpc | limitPass hpc | limitTimeout hpc | limitWake hpc | assembled hpc | skip hpc
  | returnRejected hpc =>
      exact hi.of_idle rfl rfl rfl rfl (by simp [hpc, RequestPc.recorded])
        (by simp [hpc, RequestPc.beforeSettings]) (fun _ => rfl)
        (by simp [hpc, RequestPc.buffers])
  | submitFreed | rejectFreed | rejectUnknown =>
      exact hi.of_idle rfl rfl rfl rfl id id (fun _ => rfl) rfl
  | @submit selected buffers accepted hpc hfreed =>
      have haccepted : accepted = false := by simpa [RequestPc.unaccepted] using hpc'
      exact hi.of_idle rfl rfl rfl rfl (by simp [RequestPc.recorded])
        (by simp [RequestPc.beforeSettings]) (fun _ => rfl)
        (by simp [hpc, haccepted, RequestPc.buffers])
  | bufferWait hpc hstream hsel hm hfree =>
      have hitems := BufferManager.items_getBuffer (w := .signal) (.inl rfl) hm
      exact hi.of_idle rfl rfl rfl rfl id id (buffersFree_wait s hitems hfree) rfl
  | bufferWakeEmpty hpc hstream hm hfree =>
      have hitems := BufferManager.items_getBuffer (.inr rfl) hm
      exact hi.of_idle rfl rfl rfl rfl id id (buffersFree_wait s hitems hfree) rfl
  | getBuffer hact hpc hstream hsel hfree =>
      rw [hstreams] at hstream
      rcases hact with ⟨rfl, hm⟩ | ⟨w, rfl, hm⟩
      · exact hi.take hpc hstream (BufferManager.items_getBuffer (w := .signal) (.inl rfl) hm) hfree
      · exact hi.take hpc hstream (BufferManager.items_getBuffer (.inr rfl) hm) hfree
  | settings hpc => exact hi.readSettings hpc
  | insert hpc => exact hi.addRecord hpc _
  | @rejectReturn b rest i hpc hfreed hindex =>
      have hmem : b.stream ∈ cfg.camera3Streams := hi.known b (by simp [hpc, RequestPc.buffers])
      rw [hstreams, findStreamIndex_of_mem hmem] at hindex
      obtain rfl := Option.some.inj hindex
      exact hi.giveBack hpc
  | rejectRemove hpc hfreed hindex =>
      exact hi.removeRecord hpc (KeyedVector.find?_removeItemsAt hindex)
  | rejectAbsent hpc hfreed hindex =>
      have hnone := KeyedVector.indexOfKey_eq_none_iff.mp hindex
      refine hi.removeRecord hpc fun n => ?_
      split_ifs with hn
      · rw [hn, hnone]
      · rfl

/-! ### The other threads -/

theorem of_append (hi : CallInv cfg s₀ s h) (hpc : s'.requestPc = s.requestPc)
    (hframe : s'.requestThread.frameNumber = s.requestThread.frameNumber)
    (hpending : s'.pendingVector = s.pendingVector) (hsetting : s'.setting = s.setting)
    (hfree : ∀ i, s.buffersFree i <+: s'.buffersFree i)
    (hlist : s.settingMetadataList <+: s'.settingMetadataList) :
    CallInv cfg s₀ s'
      { h with
        free := fun i => h.free i ++ (s'.buffersFree i).drop (s.buffersFree i).length
        settings :=
          h.settings ++ s'.settingMetadataList.drop s.settingMetadataList.length } where
  frameNumber := hframe.trans hi.frameNumber
  absent := hi.absent
  pending := by rw [hpc, hpending]; exact hi.pending
  free i b := by
    have hcount := hi.free i b
    have happend := congrArg (List.count b) (List.prefix_iff_eq_append.mp (hfree i))
    rw [List.count_append] at happend
    rw [hpc, List.count_append]
    omega
  known := by rw [hpc]; exact hi.known
  settings := by
    have happend := List.prefix_iff_eq_append.mp hlist
    show h.settings ++ _ = _
    rw [hi.settings, List.append_assoc, happend]
  before := by rw [hpc]; exact hi.before
  unread := by rw [hsetting]; exact hi.unread
  locked := by rw [hsetting]; exact hi.locked
  empty := by rw [hsetting]; exact hi.empty

theorem countResult (hi : CallInv cfg s₀ s h) {r : CaptureResult}
    (hr : r.frameNumber ≠ s₀.requestThread.frameNumber) (hs : HalStep s (.count r) s') :
    CallInv cfg s₀ s' { h with pending := countEntry r h.pending } := by
  have hf := hs.frame
  have hsf := hs.settingsFrame
  have hfree : s'.buffersFree = s.buffersFree := by
    funext i
    rw [buffersFree, hf.managers, buffersFree]
  exact
    { frameNumber := by rw [hf.requestThread]; exact hi.frameNumber
      absent := by
        show countEntry r h.pending _ = none
        rw [countEntry, if_neg hr.symm, hi.absent]
      pending := by
        intro n hn
        rw [hf.requestPc] at hn
        show _ = countEntry r h.pending n
        rw [hs.find?_count, countEntry, countEntry, hi.pending n hn]
      free := by rw [hfree, hf.requestPc]; exact hi.free
      known := by rw [hf.requestPc]; exact hi.known
      settings := by rw [hsf.settingMetadataList]; exact hi.settings
      before := by rw [hf.requestPc]; exact hi.before
      unread := by rw [hsf.setting]; exact hi.unread
      locked := by rw [hsf.setting]; exact hi.locked
      empty := by rw [hsf.setting]; exact hi.empty }

theorem hal {a : HalAct} (hi : CallInv cfg s₀ s h)
    (ha : CallAct s₀.requestThread.frameNumber (.hal a)) (hs : HalStep s a s') :
    CallInv cfg s₀ s' (recordCall (.hal a) s s' h) := by
  have hf := hs.frame
  have hfree : ∀ i, s.buffersFree i <+: s'.buffersFree i := fun i => by
    rw [buffersFree, buffersFree, hf.managers]
  have hlist : s.settingMetadataList <+: s'.settingMetadataList := by
    rw [hs.settingsFrame.settingMetadataList]
  cases a with
  | count r => exact hi.countResult ha hs
  | call | lock | push | unlock =>
      exact hi.of_append hf.requestPc (by rw [hf.requestThread])
        (hs.pendingVector_eq (by simp)) hs.settingsFrame.setting hfree hlist

theorem result {a : ResultAct} (hi : CallInv cfg s₀ s h) (hs : ResultStep cfg s a s') :
    CallInv cfg s₀ s' (recordCall (.result a) s s' h) := by
  have hf := hs.frame
  have hsf := hs.settingsFrame
  exact hi.of_append hf.requestPc (by rw [hf.requestThread]) hf.pendingVector hsf.setting
    hs.prefix_buffersFree (by rw [hsf.settingMetadataList])

theorem stop {a : StopAct} (hi : CallInv cfg s₀ s h) (hstages : Stages cfg s)
    (hexit : s.requestPc ≠ .exited) (hs : StopStep cfg s a s') :
    CallInv cfg s₀ s' (recordCall (.stop a) s s' h) := by
  have hf := hs.frame
  have hpending : s'.pendingVector = s.pendingVector := by
    cases hs with
    | forcedClear hpc => exact absurd (hstages.request (by simp [hpc])) hexit
    | _ => rfl
  refine hi.of_append hf.requestPc hf.frameNumber hpending hs.settingMetadataList.1 (fun i => ?_) ?_
  · rw [buffersFree, buffersFree, hf.managers]
  · rw [hs.settingMetadataList.2]

theorem user {a : UserAct} (hi : CallInv cfg s₀ s h) (hs : s.user cfg a = some s') :
    CallInv cfg s₀ s' (recordCall (.user a) s s' h) := by
  have hstep := UserStep.of_eq hs
  have hf := hstep.frame
  refine hi.of_append hf.requestPc hf.frameNumber hf.pendingVector hstep.setting (fun i => ?_)
    (prefix_settingMetadataList hs)
  rw [buffersFree, buffersFree, hf.managers]

/-- **Every step keeps the invariant**, as long as the request is not accepted. -/
theorem step {a : Act} (hi : CallInv cfg s₀ s h) (hstages : Stages cfg s)
    (ha : InCall s₀.requestThread.frameNumber a s) (hs : step cfg a s = some s')
    (hpc' : s'.requestPc.unaccepted = true) : CallInv cfg s₀ s' (recordCall a s s' h) := by
  have hstep := (Step.of_eq hs).2
  cases hstep with
  | request hs =>
      have hstage : s.stopPc.stage < 7 := by
        by_contra hlt
        exact ha.1 (hstages.request (by omega))
      exact hi.request (hstages.streams hstage) (fun he => by subst he; exact ha.2) hs hpc'
  | hal hs => exact hi.hal ha.2 hs
  | result hs => exact hi.result hs
  | @encoderReturn t ht =>
      exact hi.of_append rfl rfl rfl rfl (prefix_returnBuffer s t.1 t.2) (List.prefix_refl _)
  | stop hs => exact hi.stop hstages ha.1 hs
  | @user a s' _ =>
      unfold Device.step at hs
      split at hs
      case isTrue => cases hs
      case isFalse => exact hi.user hs

end CallInv

theorem RequestStep.unaccepted {a : RequestAct} (ha : a ≠ .iterate) (hs : RequestStep cfg s a s')
    (hpc' : s'.requestPc.unaccepted = true) : s.requestPc.unaccepted = true := by
  cases hs with
  | exit | stopMessage | otherMessage | change | changeOverflow | start | idle =>
      exact absurd rfl ha
  | wakeMessage | returnAccepted | unlock | decrement => simp [RequestPc.unaccepted] at hpc'
  | bufferWait | bufferWakeEmpty | submitFreed | returnOverflow | unlockFreed | rejectFreed
  | rejectUnknown => exact hpc'
  | limitWait hpc | limitPass hpc | limitTimeout hpc | limitWake hpc | assembled hpc | skip hpc
  | getBuffer ha hpc | settings hpc | insert hpc | submit hpc | returnRejected hpc
  | rejectReturn hpc | rejectRemove hpc | rejectAbsent hpc => simp [hpc, RequestPc.unaccepted]

theorem Step.unaccepted {a : Act} (ha : a ≠ .request .iterate) (hs : Step cfg s a s')
    (hpc' : s'.requestPc.unaccepted = true) : s.requestPc.unaccepted = true := by
  cases hs with
  | request hs => exact hs.unaccepted (fun he => ha (by rw [he])) hpc'
  | hal hs => rwa [hs.frame.requestPc] at hpc'
  | result hs => rwa [hs.frame.requestPc] at hpc'
  | encoderReturn ht => exact hpc'
  | stop hs => rwa [hs.frame.requestPc] at hpc'
  | user hs => rwa [hs.frame.requestPc] at hpc'

/-- **The invariant holds in every call**, until its request is accepted. -/
theorem callInv {h : CallHistory} {selected : ℕ → ℕ} (hpc : s₀.requestPc = .limit selected)
    (habsent : s₀.pendingVector.find? s₀.requestThread.frameNumber = none)
    (hstages : Stages cfg s₀) (hrun : CallRun cfg s₀ (s, h)) :
    s.requestPc.unaccepted = true → CallInv cfg s₀ s h := by
  have hinv := Reachable.invariant_history
    (P := fun s h => Stages cfg s ∧ (s.requestPc.unaccepted = true → CallInv cfg s₀ s h)) hrun
    ⟨hstages, fun _ => .start hpc habsent⟩ fun s hist a s' _ hi ha hs => ?_
  · exact hinv.2
  · have hstep := (Step.of_eq hs).2
    refine ⟨hi.1.step hstep, fun hpc' => ?_⟩
    have hiter : a ≠ .request .iterate := by
      rintro rfl
      exact ha.2
    exact (hi.2 (hstep.unaccepted hiter hpc')).step hi.1 ha hs hpc'

/-! ## After a failure -/

namespace CallInv

variable {h : CallHistory}

theorem setting_eq (hi : CallInv cfg s₀ s h)
    (hread : h.read = none ∨ (h.read = some [] ∧ s₀.setting.locked = true)) :
    s.setting = s₀.setting := by
  rcases hread with hnone | ⟨hnil, hlocked⟩
  · exact hi.unread hnone
  · have hbuffer := hi.empty hnil
    have hlocked' := hi.locked (by simp [hnil])
    cases hs : s.setting with
    | mk buffer locked =>
        cases hs₀ : s₀.setting with
        | mk buffer₀ locked₀ => simp_all

/-- The frame number, the records and the buffers are as they would be after every failure; what is
left are the settings. -/
theorem restored_of_exited (hi : CallInv cfg s₀ s h) (hexit : s.requestPc = .exited) :
    Restored s₀ s h ↔ s.settingMetadataList = h.settings ∧
      s.setting.locked = s₀.setting.locked ∧
      nextSettings s.setting s.settingMetadataList = nextSettings s₀.setting h.settings := by
  constructor
  · intro hr
    exact ⟨hr.settings, hr.locked, hr.retry⟩
  · rintro ⟨hsettings, hlocked, hretry⟩
    have hrecorded : s.requestPc.recorded ≠ true := by simp [hexit, RequestPc.recorded]
    refine ⟨hi.frameNumber, fun n => hi.pending n fun hrec => absurd hrec hrecorded, fun i => ?_,
      hsettings, hlocked, hretry⟩
    refine List.perm_iff_count.mpr fun b => ?_
    simpa [hexit, RequestPc.buffers] using hi.free i b

end CallInv

/-- **A call that has failed leaves the device as it would be without the call exactly where it has
not read the settings, or has read them from an empty list with `setting` locked before.** -/
theorem restored_iff {ok : Act → Device → Prop} (hs : Run cfg ok s) {current : ℕ → ℕ}
    (hpc : s.requestPc = .limit current) (selected : ℕ → ℕ) {h : CallHistory}
    (hrun : CallRun cfg (s.beforeCall selected) (s', h)) (hexit : s'.requestPc = .exited) :
    Restored (s.beforeCall selected) s' h ↔
      h.read = none ∨ (h.read = some [] ∧ s.setting.locked = true) := by
  have habsent : (s.beforeCall selected).pendingVector.find?
      (s.beforeCall selected).requestThread.frameNumber = none := by
    by_contra hne
    have hlt := (numbering hs).pending_lt _ hne
    simp [nextRecord, hpc, beforeCall] at hlt
  have hstages : Stages cfg (s.beforeCall selected) := by
    refine (stages hs).congr rfl (fun hle => ?_) (stages hs).result rfl rfl rfl
    have hexited := (stages hs).request hle
    rw [hpc] at hexited
    cases hexited
  have hi := callInv rfl habsent hstages hrun (by rw [hexit]; rfl)
  rw [hi.restored_of_exited hexit]
  constructor
  · rintro ⟨hlist, hlocked, -⟩
    cases hread : h.read with
    | none => exact .inl rfl
    | some l =>
        have hsettings := hi.settings
        rw [hread, hlist] at hsettings
        -- an object that was taken is missing from the list
        have hnil : l = [] := by
          cases l with
          | nil => rfl
          | cons m l => simp at hsettings
        refine .inr ⟨by rw [hnil], ?_⟩
        have hafter := hi.locked (by simp [hread])
        rwa [hlocked] at hafter
  · intro hread
    have hsetting := hi.setting_eq hread
    have hlist : s'.settingMetadataList = h.settings := by
      rw [hi.settings]
      rcases hread with hnone | ⟨hnil, -⟩
      · simp [hnone]
      · simp [hnil]
    exact ⟨hlist, by rw [hsetting], by rw [hsetting, hlist]⟩

/-! ## Runs -/

instance (pc : RequestPc) : Decidable (∃ selected, pc = .limit selected) := by
  cases pc with
  | limit selected => exact isTrue ⟨selected, rfl⟩
  | _ => exact isFalse (by simp)

/-- A list of actions of a call. -/
def callExec (cfg : Setup) (as : List Act) (s₀ : Device) : Option (Device × CallHistory) :=
  exec (withHistory (step cfg) recordCall) (onState (InCall s₀.requestThread.frameNumber)) as
    (s₀, .start s₀)

theorem CallRun.exists_of_exec {p : Device × CallHistory → Prop} [DecidablePred p] {as : List Act}
    (h : (callExec cfg as s₀).any (fun q => decide (p q)) = true) :
    ∃ s h, CallRun cfg s₀ (s, h) ∧ p (s, h) := by
  obtain ⟨q, hq, hp⟩ := Reachable.exists_of_exec as h
  exact ⟨q.1, q.2, hq, hp⟩

/-- A call with one stream whose request the HAL rejects. -/
def rejectRequest : List Act :=
  [.limit, .assemble, .assemble, .settings, .insert, .submit false, .return, .reject,
    .reject].map .request

/-- The list is empty at the first request, which leaves `setting` locked, and at the second. -/
theorem restored_second_request :
    ∃ s current s' h, Run (previewSetup 2) (fun _ _ => True) s ∧ s.requestPc = .limit current ∧
      CallRun (previewSetup 2) (s.beforeCall fun _ => 1) (s', h) ∧ s'.requestPc = .exited ∧
      Restored (s.beforeCall fun _ => 1) s' h := by
  obtain ⟨s, hs, ⟨current, hpc⟩, hlocked, hexec⟩ :
      ∃ s, Run (previewSetup 2) (fun _ _ => True) s ∧ (∃ current, s.requestPc = .limit current) ∧
        s.setting.locked = true ∧
        (callExec (previewSetup 2) rejectRequest (s.beforeCall fun _ => 1)).any
          (fun q => decide (q.1.requestPc = .exited ∧ q.2.read = some [])) = true :=
    Run.exists_of_exec (acceptRequest ++ [.request .iterate]) (by decide +kernel)
  obtain ⟨s', h, hrun, hexit, hread⟩ := CallRun.exists_of_exec hexec
  exact ⟨s, current, s', h, hs, hpc, hrun, hexit,
    (restored_iff hs hpc _ hrun hexit).mpr (.inr ⟨hread, hlocked⟩)⟩

/-- The first request of `settingsSetup` takes the only settings object, and is rejected. -/
theorem settings_lost_after_rejection :
    ¬ ∀ s current selected s' h, Run settingsSetup (fun _ _ => True) s →
      s.requestPc = .limit current → CallRun settingsSetup (s.beforeCall selected) (s', h) →
      s'.requestPc = .exited → Restored (s.beforeCall selected) s' h := by
  intro hall
  obtain ⟨s, hs, ⟨current, hpc⟩, hexec⟩ :
      ∃ s, Run settingsSetup (fun _ _ => True) s ∧ (∃ current, s.requestPc = .limit current) ∧
        (callExec settingsSetup rejectRequest (s.beforeCall fun _ => 1)).any
          (fun q => decide (q.1.requestPc = .exited ∧ q.1.settingMetadataList = [] ∧
            q.2.settings = [⟨some [(1, [10])], false⟩])) = true :=
    Run.exists_of_exec [.request .iterate] (by decide +kernel)
  obtain ⟨s', h, hrun, hexit, hlist, hsettings⟩ := CallRun.exists_of_exec hexec
  have hrestored := (hall s current _ s' h hs hpc hrun hexit).settings
  rw [hlist, hsettings] at hrestored
  cases hrestored

end Device

end QCamx

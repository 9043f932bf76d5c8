import QCamx.Device.Custody
import QCamx.Device.Schedule
import QCamx.Lib.History

/-!
# The dumps of ordered pictures

A command orders pictures twice: it sets `_snapshot_num`, which `capture_post_process` counts down
with each picture it writes, and it posts a message that adds to the request thread's number for the
snapshot stream. The first is overwritten, the second summed up.

* `SnapshotHistory`: the commands, with the `_snapshot_num` that each of them found;
* `FlowInv`: no more pictures are processed than requests for one were accepted;
* `OrderInv`: no more requests for a picture are accepted than the commands ordered;
* `CountInv`: the pictures written, those still counted, and those that a command overwrote are all
  that were ordered;
* **`allDumped_iff`**: every picture is written exactly where no command overwrote a number.
-/

namespace QCamx

open Guarded

namespace Device

variable {cfg : Setup} {s s' : Device}

/-! ## The history of the commands -/

/-- A `request_capture` command: its count, and the `_snapshot_num` it overwrote. -/
structure PictureCommand where
  count : ℤ
  overwritten : ℤ
  deriving DecidableEq

/-- The commands, and how many snapshot buffers `capture_post_process` has been through. -/
structure SnapshotHistory where
  commands : List PictureCommand := []
  processed : ℕ := 0
  deriving DecidableEq

namespace SnapshotHistory

variable (h : SnapshotHistory)

/-- All pictures that the commands ordered. -/
def total : ℤ := (h.commands.map (·.count)).sum

/-- All pictures that were still to be written when a command came. -/
def lost : ℤ := (h.commands.map (·.overwritten)).sum

end SnapshotHistory

/-- A buffer of the snapshot stream. -/
def isSnapshot (cfg : Setup) (b : StreamBuffer) : Bool :=
  decide (cfg.camera3Streams[1]? = some b.stream)

/-- A picture is written to a file. -/
def isSnapshotDump : Effect → Bool
  | .dumpFrame _ _ type _ => type == .snapshot
  | _ => false

/-- The history after a step from `s` to `s'`. -/
def recordSnapshots (cfg : Setup) (a : Act) (s s' : Device) (h : SnapshotHistory) :
    SnapshotHistory :=
  match a with
  | .user (.requestCapture count) =>
      { h with commands := h.commands ++ [⟨count, s.caseState.snapshotNum⟩] }
  | .result .callback =>
      match s.resultPc with
      | .callback _ (b :: _) =>
          if isSnapshot cfg b ∧ s'.fault = none then { h with processed := h.processed + 1 } else h
      | _ => h
  | _ => h

/-- A command orders no negative number of pictures. -/
def CountsNonneg : Act → Prop
  | .user (.requestCapture count) => 0 ≤ count
  | _ => True

instance : ∀ a : Act, Decidable (CountsNonneg a)
  | .user (.requestCapture count) => inferInstanceAs (Decidable (0 ≤ count))
  | .user (.triggerDump ..) | .user (.setCurrentMeta _) | .user (.editCurrentMeta ..)
  | .user (.updateMetadata _) | .request _ | .hal _ | .result _ | .encoderReturn _ | .stop _ =>
      isTrue trivial

/-- The HAL returns only what it holds, and no count is negative. -/
def OrdersPictures (a : Act) (s : Device) : Prop := HalContract a s ∧ CountsNonneg a

instance (a : Act) (s : Device) : Decidable (OrdersPictures a s) := instDecidableAnd

/-- A run of a case, with the history of its commands. -/
abbrev SnapshotRun (cfg : Setup) (s : Device) (h : SnapshotHistory) : Prop :=
  Reachable (withHistory (step cfg) (recordSnapshots cfg)) (onState OrdersPictures)
    (cfg.init, {}) (s, h)

/-- Every run of a case has such a history. -/
theorem Run.exists_snapshotRun {cfg : Setup} {s : Device} (h : Run cfg OrdersPictures s) :
    ∃ hist, SnapshotRun cfg s hist :=
  Reachable.exists_history h _

/-- The pictures written so far. -/
def dumped (s : Device) : ℕ := s.log.effects.countP isSnapshotDump

/-- **Every ordered picture is dumped**, once all of them have been through
`capture_post_process`. -/
def AllDumped (s : Device) (h : SnapshotHistory) : Prop :=
  (h.processed : ℤ) = h.total → (s.dumped : ℤ) = h.total

/-! ## Pictures on their way -/

/-- The snapshot buffers of accepted requests. -/
def acceptedSnapshots (cfg : Setup) (s : Device) : ℕ :=
  ((s.log.submitted.filter (·.accepted)).flatMap (·.buffers)).countP (isSnapshot cfg)

/-- Buffers between the HAL and the end of their round in `capture_post_process`. -/
def inbound (s : Device) : List StreamBuffer :=
  s.inFlight.map Prod.snd ++ s.calling ++
    s.resultThread.messageQueue.items.flatMap (·.streamBuffers) ++
    match s.resultPc with
    | .callback _ rest => rest
    | _ => []

/-- Every snapshot buffer that is on its way, or was processed, belongs to an accepted request. -/
def FlowInv (cfg : Setup) (s : Device) (h : SnapshotHistory) : Prop :=
  h.processed + s.inbound.countP (isSnapshot cfg) ≤ acceptedSnapshots cfg s

namespace FlowInv

variable {h : SnapshotHistory}

theorem of_le (hi : FlowInv cfg s h) {h' : SnapshotHistory}
    (hprocessed : h'.processed = h.processed)
    (hin : s'.inbound.countP (isSnapshot cfg) ≤ s.inbound.countP (isSnapshot cfg))
    (hsub : s'.log.submitted = s.log.submitted) : FlowInv cfg s' h' := by
  unfold FlowInv acceptedSnapshots at hi ⊢
  rw [hprocessed, hsub]
  omega

theorem request {a : RequestAct} (hi : FlowInv cfg s h) (hs : RequestStep cfg s a s') :
    FlowInv cfg s' h := by
  cases hs with
  | @submit selected buffers accepted hpc hfreed =>
      unfold FlowInv acceptedSnapshots inbound at hi ⊢
      cases accepted with
      | false =>
          simp only [List.filter_append, List.flatMap_append, List.countP_append] at hi ⊢
          simpa [calling] using hi
      | true =>
          simp only [List.filter_append, List.flatMap_append, List.countP_append] at hi ⊢
          simp [calling, Function.comp_def] at hi ⊢
          omega
  | _ => exact hi

theorem hal {a : HalAct} (hi : FlowInv cfg s h) (hok : HalContract (.hal a) s)
    (hs : HalStep s a s') : FlowInv cfg s' h := by
  refine hi.of_le rfl ?_ hs.frame.submitted
  cases hs with
  | @call r hr =>
      have hsub := hok.2
      have hperm := ((List.subperm_append_diff_self_of_count_le
        (List.subperm_ext_iff.mp hsub)).map Prod.snd).countP_eq (isSnapshot cfg)
      simp only [inbound, calling, List.map_append, List.map_map, List.countP_append,
        List.flatMap_cons, Function.comp_def, List.map_id'] at hperm ⊢
      omega
  | @lock r hr hheld hnull =>
      have hperm := ((List.perm_cons_erase hr).flatMap_right (·.outputBuffers)).countP_eq
        (isSnapshot cfg)
      simp only [inbound, calling, hheld, List.countP_append, List.flatMap_cons,
        List.countP_nil] at hperm ⊢
      omega
  | @push r view hheld hview hnull hstop =>
      simp [inbound, calling, pushResult, BlockingQueue.push, hheld]
      omega
  | pushStopped hheld | unlock hheld => simp [inbound, calling, hheld]
  | _ => exact le_rfl

theorem callback (hi : FlowInv cfg s h) {msg : CameraPostProcessMsg} {b : StreamBuffer}
    {rest : List StreamBuffer} {effects : List Effect} {caseState : CaseState}
    (hpc : s.resultPc = .callback msg (b :: rest)) {h' : SnapshotHistory}
    (hprocessed : h'.processed = h.processed + if isSnapshot cfg b then 1 else 0) :
    FlowInv cfg
      { effects.foldl applyEffect s with
        caseState := caseState
        resultPc := .callback msg rest
        log := { s.log with effects := s.log.effects ++ effects } } h' := by
  have ⟨managers, encoder, he⟩ := foldl_applyEffect effects s
  rw [he]
  unfold FlowInv acceptedSnapshots inbound at hi ⊢
  rw [hprocessed]
  simp only [hpc, calling, List.countP_append, List.countP_cons] at hi ⊢
  omega

theorem result {a : ResultAct} (hi : FlowInv cfg s h) (hfault : s.fault = none)
    (hs : ResultStep cfg s a s') : FlowInv cfg s' (recordSnapshots cfg (.result a) s s' h) := by
  have hwait : ∀ {act : BlockingQueue.Act CameraPostProcessMsg}, takeAct a = some act →
      recordSnapshots cfg (.result a) s s' h = h := by
    intro act hact
    cases a with
    | callback | giveBack => cases hact
    | take | wake => rfl
  cases hs with
  | @callback msg b rest effects caseState hpc heff =>
      refine hi.callback hpc ?_
      have ⟨managers, encoder, he⟩ := foldl_applyEffect effects s
      simp only [recordSnapshots, hpc, he, hfault, and_true]
      split_ifs <;> rfl
  | @pop a act q msg l hpc hheld ha hact hq hitems hmsg =>
      have hq := items_takeAct hact hq
      rw [if_neg ha, hitems] at hq
      rw [hwait hact]
      refine hi.of_le rfl (le_of_eq ?_) rfl
      simp [inbound, calling, hpc, hitems, hq, Nat.add_comm]
  | @popStop a act q msg l hpc hheld ha hact hq hitems hmsg =>
      have hq := items_takeAct hact hq
      rw [if_neg ha, hitems] at hq
      rw [hwait hact]
      refine hi.of_le rfl ?_ rfl
      simp [inbound, calling, hpc, hitems, hq]
  | @wait a act q hpc hheld hact hq hitems =>
      have hq := items_takeAct hact hq
      rw [hwait hact]
      refine hi.of_le rfl (le_of_eq ?_) rfl
      have hsame : q.items = s.resultThread.messageQueue.items := by
        rcases hitems with rfl | ⟨rfl, hitems⟩
        · exact hq
        · simpa [hitems] using hq
      simp [inbound, calling, hpc, hsame]
  | wakeEmpty hpc hheld hw hq hitems =>
      have hq := items_takeAct (a := .wake _) rfl hq
      refine hi.of_le rfl (le_of_eq ?_) rfl
      simp [inbound, calling, fail, hpc, hq, hitems]
  | callbackUnknown hpc =>
      have hsame : recordSnapshots cfg (.result .callback) s (s.fail .unknownStream) h = h := by
        simp [recordSnapshots, hpc, fail]
      rw [hsame]
      exact hi.of_le rfl le_rfl rfl
  | callbackInternal hpc | callbackExternal hpc =>
      refine hi.of_le ?_ (le_of_eq ?_) rfl
      · simp [recordSnapshots, hpc]
      · simp [inbound, calling, hpc]
  | giveBack hpc | giveBackUnknown hpc | giveBackDone hpc =>
      refine hi.of_le rfl (le_of_eq ?_) rfl
      simp [inbound, calling, returnBuffer, fail, hpc]

theorem stop {a : StopAct} (hi : FlowInv cfg s h) (hs : StopStep cfg s a s') :
    FlowInv cfg s' h := by
  cases hs with
  | postResult hpc hheld =>
      refine hi.of_le rfl (le_of_eq ?_) rfl
      simp [inbound, calling, hheld, BlockingQueue.push]
  | _ => exact hi.of_le rfl le_rfl rfl

theorem step {a : Act} (hi : FlowInv cfg s h) (hfault : s.fault = none)
    (hok : OrdersPictures a s) (hs : Step cfg s a s') :
    FlowInv cfg s' (recordSnapshots cfg a s s' h) := by
  cases hs with
  | request hs => exact hi.request hs
  | hal hs => exact hi.hal hok.1 hs
  | result hs => exact hi.result hfault hs
  | encoderReturn ht => exact hi
  | stop hs => exact hi.stop hs
  | @user a _ hs =>
      have hf := hs.frame
      refine hi.of_le ?_ (le_of_eq ?_) (by rw [hf.log])
      · cases a <;> rfl
      · simp only [inbound, calling, hf.inFlight, hf.entering, hf.holder, hf.resultThread,
          hf.resultPc]

end FlowInv

/-! ## Pictures that are ordered -/

/-- What a message orders of the snapshot stream. -/
def orderOf (msg : CameraRequestMsg) : ℤ :=
  if msg.messageType = .requestChange ∧ msg.mask.testBit 1 then msg.requestNumber 1 else 0

/-- The orders that the request thread has not handled. -/
def queuedOrders (s : Device) : ℤ := (s.requestThread.messageQueue.map orderOf).sum

/-- The snapshot stream is selected only where its number, `n`, is not used up. -/
def Picked (n : ℤ) (selected : ℕ → ℕ) : Prop := selected 1 ≤ 1 ∧ (selected 1 ≠ 0 → 0 < n)

/-- What an iteration knows of its selection and of the snapshot buffers it has collected. -/
def Picks (cfg : Setup) (n : ℤ) : RequestPc → Prop
  | .limit selected | .waitLimit selected => Picked n selected
  | .assemble selected i buffers =>
      Picked n selected ∧
        buffers.countP (isSnapshot cfg) ≤ if 1 < i then selected 1 else 0
  | .settings selected buffers | .insert selected buffers _ | .submit selected buffers =>
      Picked n selected ∧ buffers.countP (isSnapshot cfg) ≤ selected 1
  | .inCall selected _ true | .unlock selected _ | .decrement selected => Picked n selected
  | _ => True

/-- What a command does to the numbers of pictures. -/
inductive SnapshotUserStep (a : UserAct) (s s' : Device) : Prop
  | order {count : ℤ} {msg : CameraRequestMsg} (ha : a = .requestCapture count)
      (hmsg : orderOf msg = count)
      (hqueue : s'.requestThread.messageQueue = s.requestThread.messageQueue ++ [msg])
      (hnum : s'.caseState.snapshotNum = count)
  | other (ha : ∀ count, a ≠ .requestCapture count)
      (hqueue : s'.requestThread.messageQueue = s.requestThread.messageQueue)
      (hnum : s'.caseState.snapshotNum = s.caseState.snapshotNum)

theorem SnapshotUserStep.of_eq {a : UserAct} (hcase : cfg.testCase = .previewSnapshot)
    (hblob : cfg.config.snapshotFormat = halPixelFormatBlob) (hfault : s.fault = none)
    (hs : Device.step cfg (.user a) s = some s') : SnapshotUserStep a s s' := by
  simp only [Device.step, hfault, Option.isSome_none, Bool.false_eq_true, if_false,
    Device.user] at hs
  split_ifs at hs with hrun
  cases a with
  | requestCapture count =>
      simp only [hcase, if_true, QCamx.requestCapture, hblob, Option.some.injEq] at hs
      subst hs
      have hbit : (1 <<< 1 : ℕ).testBit 1 = true := by decide
      have horder : orderOf ⟨.requestChange, 1 <<< 1, Function.update 0 1 count, 0⟩ = count := by
        rw [orderOf, if_pos ⟨rfl, hbit⟩]
        exact Function.update_self 1 count (0 : ℕ → ℤ)
      exact .order rfl horder rfl rfl
  | triggerDump count interval =>
      obtain rfl := Option.some.inj hs
      exact .other (by simp) rfl rfl
  | setCurrentMeta metadata | updateMetadata metadata =>
      obtain rfl := Option.some.inj hs
      exact .other (by simp) rfl rfl
  | editCurrentMeta tag data =>
      obtain rfl := Option.some.inj hs
      exact .other (by simp) rfl rfl

theorem commands_result {a : ResultAct} {h : SnapshotHistory} :
    (recordSnapshots cfg (.result a) s s' h).commands = h.commands := by
  cases a with
  | callback =>
      simp only [recordSnapshots]
      split
      · split_ifs <;> rfl
      · rfl
  | _ => rfl

/-- The accepted requests for a picture, and what is left of the orders. -/
structure OrderInv (cfg : Setup) (s : Device) (h : SnapshotHistory) : Prop where
  queued : ∀ msg ∈ s.requestThread.messageQueue, 0 ≤ orderOf msg
  number : 0 ≤ s.requestThread.requestNumber 1
  absent : cfg.camera3Streams.length ≤ 1 → s.requestThread.requestNumber 1 = 0
  picks : Picks cfg (s.requestThread.requestNumber 1) s.requestPc
  ordered : acceptedSnapshots cfg s + s.requestThread.requestNumber 1 + queuedOrders s ≤
    h.total + s.uncounted 1

namespace OrderInv

variable {h : SnapshotHistory}

theorem init (hcase : cfg.testCase = .previewSnapshot)
    (hblob : cfg.config.snapshotFormat = halPixelFormatBlob) : OrderInv cfg cfg.init {} := by
  have hnumber : cfg.init.requestThread.requestNumber 1 = 0 := by
    simp [Setup.init, runRequestThread, runRequestNumber, hcase, hblob]
  exact
    { queued := fun msg hmsg => by cases hmsg
      number := hnumber.ge
      absent := fun _ => hnumber
      picks := trivial
      ordered := by
        rw [hnumber]
        rfl }

theorem of_move (hi : OrderInv cfg s h) {h' : SnapshotHistory}
    (hnumber : s'.requestThread.requestNumber = s.requestThread.requestNumber)
    (hqueue : s'.requestThread.messageQueue = s.requestThread.messageQueue)
    (hsub : s'.log.submitted = s.log.submitted) (huncounted : s'.uncounted 1 = s.uncounted 1)
    (hpicks : Picks cfg (s.requestThread.requestNumber 1) s'.requestPc)
    (hcommands : h'.commands = h.commands) : OrderInv cfg s' h' where
  queued := by rw [hqueue]; exact hi.queued
  number := by rw [hnumber]; exact hi.number
  absent := by rw [hnumber]; exact hi.absent
  picks := by rw [hnumber]; exact hpicks
  ordered := by
    have hordered := hi.ordered
    rw [acceptedSnapshots, queuedOrders, SnapshotHistory.total] at hordered ⊢
    rw [hnumber, hqueue, hsub, huncounted, hcommands]
    exact hordered

theorem message (hi : OrderInv cfg s h) {msg : CameraRequestMsg} {queue : List CameraRequestMsg}
    (hq : s.requestThread.messageQueue = msg :: queue)
    (hqueue : s'.requestThread.messageQueue = queue)
    (hnumber : s'.requestThread.requestNumber 1 = s.requestThread.requestNumber 1 ∨
      1 < cfg.camera3Streams.length ∧
        s'.requestThread.requestNumber 1 = s.requestThread.requestNumber 1 + orderOf msg)
    (hsub : s'.log.submitted = s.log.submitted) (huncounted : s'.uncounted 1 = s.uncounted 1)
    (hpicks : Picks cfg (s'.requestThread.requestNumber 1) s'.requestPc) :
    OrderInv cfg s' h := by
  have hmsg : 0 ≤ orderOf msg := hi.queued msg (by rw [hq]; exact List.mem_cons_self)
  have hnonneg := hi.number
  have habsent := hi.absent
  have hordered := hi.ordered
  simp only [acceptedSnapshots, queuedOrders, hq, List.map_cons, List.sum_cons] at hordered
  exact
    { queued := by
        rw [hqueue]
        exact fun m hm => hi.queued m (by rw [hq]; exact List.mem_cons_of_mem _ hm)
      number := by omega
      absent := by
        intro hlength
        have := habsent hlength
        omega
      picks := hpicks
      ordered := by
        rw [acceptedSnapshots, queuedOrders, hqueue, hsub, huncounted]
        omega }

theorem decrement (hi : OrderInv cfg s h) {selected : ℕ → ℕ}
    (hpc : s.requestPc = .decrement selected) (hstreams : s.camera3Streams = cfg.camera3Streams) :
    OrderInv cfg
      { s with
        requestThread :=
          { s.requestThread with
            requestNumber :=
              reduceRequest s.camera3Streams.length selected s.requestThread.requestNumber }
        requestPc := .loop } h := by
  have hnonneg := hi.number
  have habsent := hi.absent
  have hordered := hi.ordered
  have hpicks := hi.picks
  simp only [hpc, Picks, Picked] at hpicks
  have ⟨hone, hleft⟩ := hpicks
  have hreduce : reduceRequest s.camera3Streams.length selected s.requestThread.requestNumber 1 =
      s.requestThread.requestNumber 1 - selected 1 := by
    rw [reduceRequest, hstreams]
    by_cases hpos : 0 < s.requestThread.requestNumber 1
    · have hlength : 1 < cfg.camera3Streams.length := by
        by_contra hle
        have := habsent (by omega)
        omega
      rw [if_pos ⟨hlength, hpos⟩]
    · have hsel : selected 1 = 0 := by
        by_contra hne
        exact hpos (hleft hne)
      rw [if_neg (fun hc => hpos hc.2), hsel]
      omega
  have huncounted : s.uncounted 1 = selected 1 := by simp only [uncounted, hpc]
  rw [huncounted] at hordered
  have hbound : (selected 1 : ℤ) ≤ s.requestThread.requestNumber 1 := by
    by_cases hsel : selected 1 = 0
    · omega
    · have := hleft hsel
      omega
  exact
    { queued := hi.queued
      number := by
        show 0 ≤ reduceRequest s.camera3Streams.length selected s.requestThread.requestNumber 1
        omega
      absent := by
        intro hlength
        show reduceRequest s.camera3Streams.length selected s.requestThread.requestNumber 1 = 0
        have := habsent hlength
        omega
      picks := trivial
      ordered := by
        show (acceptedSnapshots cfg s : ℤ) +
          reduceRequest s.camera3Streams.length selected s.requestThread.requestNumber 1 +
            queuedOrders s ≤ h.total + (0 : ℕ)
        omega }

theorem submit (hi : OrderInv cfg s h) {selected : ℕ → ℕ} {buffers : List StreamBuffer}
    {accepted : Bool} {inFlight : List (ℕ × StreamBuffer)}
    (hpc : s.requestPc = .submit selected buffers) :
    OrderInv cfg
      { s with
        inFlight := inFlight
        requestPc := .inCall selected buffers accepted
        log := { s.log with
          submitted := s.log.submitted ++ [⟨s.requestThread.frameNumber, buffers, accepted,
            s.requestThread.requestNumber⟩] } } h := by
  have hordered := hi.ordered
  have hpicks := hi.picks
  simp only [hpc, Picks] at hpicks
  have huncounted : s.uncounted 1 = 0 := by simp only [uncounted, hpc]
  rw [huncounted] at hordered
  refine
    { queued := hi.queued
      number := hi.number
      absent := hi.absent
      picks := ?_
      ordered := ?_ }
  · cases accepted with
    | true => exact hpicks.1
    | false => trivial
  · show ((((s.log.submitted ++ _).filter _).flatMap _).countP _ : ℕ) +
      s.requestThread.requestNumber 1 + queuedOrders s ≤ h.total + _
    rw [acceptedSnapshots] at hordered
    cases accepted with
    | true =>
        simp [uncounted]
        omega
    | false =>
        simp [uncounted]
        omega

theorem picks_getBuffer {n : ℤ} {selected : ℕ → ℕ} {i : ℕ} {buffers : List StreamBuffer}
    {stream : StreamPtr} {b : Buffer} (h : Picks cfg n (.assemble selected i buffers))
    (hi : cfg.camera3Streams[i]? = some stream) (hsel : selected i ≠ 0) :
    Picks cfg n (.assemble selected (i + 1) (buffers ++ [⟨stream, b⟩])) := by
  refine ⟨h.1, ?_⟩
  have hcount := h.2
  rw [List.countP_append]
  by_cases hone : i = 1
  · subst hone
    have hnone : buffers.countP (isSnapshot cfg) = 0 := by simpa using hcount
    have hle : [(⟨stream, b⟩ : StreamBuffer)].countP (isSnapshot cfg) ≤ 1 := List.countP_le_length
    rw [if_pos (by omega)]
    omega
  · have hsnap : [(⟨stream, b⟩ : StreamBuffer)].countP (isSnapshot cfg) = 0 := by
      refine List.countP_eq_zero.mpr fun c hc heq => hone ?_
      obtain rfl := List.mem_singleton.mp hc
      have hlt := (List.getElem?_eq_some_iff.mp hi).1
      exact (List.getElem?_inj hlt cfg.nodup_streams).mp (hi.trans (of_decide_eq_true heq).symm)
    rw [hsnap]
    by_cases hlt : 1 < i
    · rw [if_pos hlt] at hcount
      rw [if_pos (by omega)]
      omega
    · rw [if_neg hlt] at hcount
      omega

theorem request {a : RequestAct} (hi : OrderInv cfg s h) (hstages : Stages cfg s)
    (hs : RequestStep cfg s a s') : OrderInv cfg s' h := by
  have hstreams : s.camera3Streams = cfg.camera3Streams := by
    apply hstages.streams
    by_contra hlt
    exact hs.ne_exited (hstages.request (by omega))
  have hpicks := hi.picks
  have hselect : Picked (s.requestThread.requestNumber 1) (selectStreams s.requestThread) := by
    refine ⟨selectStreams_le_one _ _, fun hne => ?_⟩
    have hnumber := (selectStreams_ne_zero.mp hne).2.1
    have := hi.number
    omega
  cases hs with
  | decrement hpc => exact hi.decrement hpc hstreams
  | submit hpc hfreed => exact hi.submit hpc
  | @change msg queue hpc hstop hq htype hfits =>
      refine hi.message hq rfl ?_ rfl (by simp [uncounted, hpc]) (by simp [hpc, Picks])
      show requestChange s.camera3Streams.length msg s.requestThread.requestNumber 1 = _ ∨
        _ ∧ requestChange s.camera3Streams.length msg s.requestThread.requestNumber 1 = _
      have hne : s.requestThread.requestNumber 1 ≠ requestNumberUmlimit := by
        have := hi.number
        rw [requestNumberUmlimit]
        omega
      rw [requestChange, hstreams, orderOf]
      by_cases hbit : 1 < cfg.camera3Streams.length ∧ msg.mask.testBit 1
      · right
        rw [if_pos hbit, if_neg hne, if_pos ⟨htype, hbit.2⟩]
        exact ⟨hbit.1, rfl⟩
      · left
        rw [if_neg hbit]
  | stopMessage hpc hstop hq htype hmsg =>
      exact hi.message hq rfl (.inl rfl) rfl rfl (by simp [hpc, Picks])
  | otherMessage hpc hstop hq htype hmsg =>
      exact hi.message hq rfl (.inl rfl) rfl (by simp [uncounted, hpc]) hselect
  | start hpc =>
      exact hi.of_move rfl rfl rfl (by simp [uncounted, hpc]) hselect rfl
  | assembled hpc hnone =>
      simp only [hpc, Picks] at hpicks
      refine hi.of_move rfl rfl rfl (by simp [uncounted, hpc]) ⟨hpicks.1, hpicks.2.trans ?_⟩ rfl
      split_ifs <;> omega
  | skip hpc hget hsel =>
      simp only [hpc, Picks] at hpicks
      refine hi.of_move rfl rfl rfl (by simp [uncounted, hpc]) ⟨hpicks.1, hpicks.2.trans ?_⟩ rfl
      split_ifs <;> omega
  | getBuffer ha hpc hget hsel hfree =>
      rw [hpc] at hpicks
      rw [hstreams] at hget
      exact hi.of_move rfl rfl rfl (by simp [uncounted, hpc]) (picks_getBuffer hpicks hget hsel) rfl
  | limitWait hpc | settings hpc | insert hpc | returnAccepted hpc | unlock _ hpc =>
      simp only [hpc, Picks] at hpicks
      exact hi.of_move rfl rfl rfl (by simp [uncounted, hpc, takeSettings]) hpicks rfl
  | limitPass hpc | limitWake hpc =>
      simp only [hpc, Picks] at hpicks
      exact hi.of_move rfl rfl rfl (by simp [uncounted, hpc]) ⟨hpicks, by simp⟩ rfl
  | exit hpc | idle hpc | wakeMessage hpc | limitTimeout hpc | returnRejected hpc | rejectReturn hpc
  | rejectRemove hpc | rejectAbsent hpc =>
      exact hi.of_move rfl rfl rfl (by simp [uncounted, hpc]) trivial rfl
  | _ => exact hi.of_move rfl rfl rfl rfl hpicks rfl

theorem post (hi : OrderInv cfg s h) {msg : CameraRequestMsg} {h' : SnapshotHistory}
    (hqueue : s'.requestThread.messageQueue = s.requestThread.messageQueue ++ [msg])
    (hnumber : s'.requestThread.requestNumber = s.requestThread.requestNumber)
    (hpc : s'.requestPc = s.requestPc) (hsub : s'.log.submitted = s.log.submitted)
    (hmsg : 0 ≤ orderOf msg) (htotal : h'.total = h.total + orderOf msg) : OrderInv cfg s' h' where
  queued := by
    rw [hqueue]
    intro m hm
    rcases List.mem_append.mp hm with hm | hm
    · exact hi.queued m hm
    · obtain rfl := List.mem_singleton.mp hm
      exact hmsg
  number := by rw [hnumber]; exact hi.number
  absent := by rw [hnumber]; exact hi.absent
  picks := by rw [hnumber, hpc]; exact hi.picks
  ordered := by
    have hordered := hi.ordered
    have huncounted : s'.uncounted 1 = s.uncounted 1 := by simp only [uncounted, hpc]
    simp only [acceptedSnapshots, queuedOrders, hqueue, hsub, hnumber, List.map_append,
      List.map_singleton, List.sum_append, List.sum_singleton] at hordered ⊢
    omega

theorem user {a : UserAct} (hi : OrderInv cfg s h) (hok : CountsNonneg (.user a))
    (hf : UserFrame s s') (hs : SnapshotUserStep a s s') :
    OrderInv cfg s' (recordSnapshots cfg (.user a) s s' h) := by
  cases hs with
  | @order count msg ha horder hqueue hnum =>
      subst ha
      refine hi.post hqueue hf.requestNumber hf.requestPc (by rw [hf.log]) (horder.symm ▸ hok) ?_
      simp [recordSnapshots, SnapshotHistory.total, horder]
  | other hcount hqueue hnum =>
      refine hi.of_move hf.requestNumber hqueue (by rw [hf.log])
        (by simp only [uncounted, hf.requestPc]) (by rw [hf.requestPc]; exact hi.picks) ?_
      cases a with
      | requestCapture count => exact absurd rfl (hcount count)
      | _ => rfl

theorem step {a : Act} (hi : OrderInv cfg s h) (hcase : cfg.testCase = .previewSnapshot)
    (hblob : cfg.config.snapshotFormat = halPixelFormatBlob) (hstages : Stages cfg s)
    (hok : OrdersPictures a s) (hs : Device.step cfg a s = some s') :
    OrderInv cfg s' (recordSnapshots cfg a s s' h) := by
  have ⟨hfault, hstep⟩ := Step.of_eq hs
  cases hstep with
  | request hstep => exact hi.request hstages hstep
  | hal hstep =>
      have hf := hstep.frame
      exact hi.of_move (by rw [hf.requestThread]) (by rw [hf.requestThread]) hf.submitted
        (by simp only [uncounted, hf.requestPc]) (by rw [hf.requestPc]; exact hi.picks) rfl
  | @result a _ hstep =>
      have hf := hstep.frame
      exact hi.of_move (by rw [hf.requestThread]) (by rw [hf.requestThread]) hf.submitted
        (by simp only [uncounted, hf.requestPc]) (by rw [hf.requestPc]; exact hi.picks)
        commands_result
  | encoderReturn ht => exact hi.of_move rfl rfl rfl rfl hi.picks rfl
  | stop hstep =>
      cases hstep with
      | postRequest hpc =>
          exact hi.post rfl rfl rfl rfl (le_refl 0) (by simp [recordSnapshots, orderOf])
      | _ => exact hi.of_move rfl rfl rfl rfl hi.picks rfl
  | user hstep => exact hi.user hok.2 hstep.frame (.of_eq hcase hblob hfault hs)

end OrderInv

/-! ## Pictures that are written -/

/-- The pictures written, those still counted, and those a command overwrote. -/
structure CountInv (s : Device) (h : SnapshotHistory) : Prop where
  number : 0 ≤ s.caseState.snapshotNum
  overwritten : ∀ c ∈ h.commands, 0 ≤ c.overwritten
  written : s.dumped + s.caseState.snapshotNum + h.lost = h.total
  bound : s.caseState.snapshotNum + h.processed ≤ h.total

theorem getElem?_of_findStreamIndex {streams : List StreamPtr} {p : StreamPtr} {i : ℕ}
    (h : findStreamIndex streams p = some i) : streams[i]? = some p := by
  have ⟨hlt, heq, _⟩ := List.idxOf?_eq_some_iff.mp h
  exact List.getElem?_eq_some_iff.mpr ⟨hlt, heq⟩

theorem postProcessStep_snapshot (hcase : cfg.testCase = .previewSnapshot) {frame : ℕ}
    {b : StreamBuffer} {cs caseState : CaseState} {effects : List Effect}
    (heff : postProcessStep cfg.testCase cfg.config cfg.camera3Streams cfg.cameraStreams frame b
      cs = some (effects, caseState)) :
    if isSnapshot cfg b ∧ 0 < cs.snapshotNum then
      effects.countP isSnapshotDump = 1 ∧ caseState.snapshotNum = cs.snapshotNum - 1
    else effects.countP isSnapshotDump = 0 ∧ caseState.snapshotNum = cs.snapshotNum := by
  rw [postProcessStep, hcase] at heff
  obtain ⟨index, hindex, heff⟩ := Option.bind_eq_some_iff.mp heff
  obtain ⟨stream, hstream, heff⟩ := Option.map_eq_some_iff.mp heff
  have hget : cfg.camera3Streams[index]? = some b.stream := getElem?_of_findStreamIndex hindex
  have hstreams : cfg.cameraStreams = [⟨0, some .preview⟩, ⟨1, some .stillCapture⟩] := by
    rw [Setup.cameraStreams, hcase]
    rfl
  rw [hstreams] at hstream
  have hlt : index < 2 := (List.getElem?_eq_some_iff.mp hstream).1
  obtain rfl | rfl : index = 0 ∨ index = 1 := by omega
  · -- the preview stream is not the snapshot stream
    have hsnap : isSnapshot cfg b = false := by
      refine decide_eq_false fun heq => ?_
      have hlt := (List.getElem?_eq_some_iff.mp hget).1
      have := (List.getElem?_inj hlt cfg.nodup_streams).mp (hget.trans heq.symm)
      omega
    obtain rfl := Option.some.inj hstream
    rw [if_neg (by simp [hsnap])]
    simp only [postProcessBuffer, previewSnapshotBuffer, Option.some.injEq, reduceCtorEq,
      if_false, if_true, Prod.mk.injEq] at heff
    obtain ⟨heffects, hcs⟩ := heff
    rw [← heffects, ← hcs]
    simp only [previewCallback, dumpPreview, QCamx.showFps]
    split_ifs <;> simp [isSnapshotDump]
  · have hsnap : isSnapshot cfg b = true := decide_eq_true hget
    obtain rfl := Option.some.inj hstream
    simp only [postProcessBuffer, previewSnapshotBuffer, if_true] at heff
    by_cases hnum : 0 < cs.snapshotNum
    · rw [if_pos hnum] at heff
      rw [if_pos ⟨hsnap, hnum⟩]
      obtain ⟨heffects, hcs⟩ := Prod.mk.inj heff
      rw [← heffects, ← hcs]
      simp only [snapshotCallback]
      split_ifs <;> simp [isSnapshotDump]
    · rw [if_neg hnum] at heff
      rw [if_neg (fun hc => hnum hc.2)]
      obtain ⟨heffects, hcs⟩ := Prod.mk.inj heff
      rw [← heffects, ← hcs]
      simp only [snapshotCallback]
      split_ifs <;> simp [isSnapshotDump]

namespace CountInv

variable {h : SnapshotHistory}

theorem init (cfg : Setup) : CountInv cfg.init {} where
  number := le_rfl
  overwritten := by simp
  written := rfl
  bound := le_rfl

theorem of_move (hi : CountInv s h) {h' : SnapshotHistory}
    (hnumber : s'.caseState.snapshotNum = s.caseState.snapshotNum)
    (heffects : s'.log.effects = s.log.effects) (hh : h' = h) : CountInv s' h' where
  number := by rw [hnumber]; exact hi.number
  overwritten := by rw [hh]; exact hi.overwritten
  written := by rw [dumped, heffects, hnumber, hh]; exact hi.written
  bound := by rw [hnumber, hh]; exact hi.bound

theorem callback (hi : CountInv s h) (hcase : cfg.testCase = .previewSnapshot)
    (hstreams : s.camera3Streams = cfg.camera3Streams)
    (hle : (recordSnapshots cfg (.result .callback) s s' h).processed ≤ h.total)
    {msg : CameraPostProcessMsg} {b : StreamBuffer} {rest : List StreamBuffer}
    {effects : List Effect} {caseState : CaseState} (hpc : s.resultPc = .callback msg (b :: rest))
    (heff : postProcessStep cfg.testCase cfg.config s.camera3Streams cfg.cameraStreams
      msg.result.frameNumber b s.caseState = some (effects, caseState))
    (hcs : s'.caseState = caseState) (hfault' : s'.fault = none)
    (heffects : s'.log.effects = s.log.effects ++ effects) :
    CountInv s' (recordSnapshots cfg (.result .callback) s s' h) := by
  have hnumber := hi.number
  have hwritten := hi.written
  have hbound := hi.bound
  rw [hstreams] at heff
  have hpost := postProcessStep_snapshot hcase heff
  have hdumped : s'.dumped = s.dumped + effects.countP isSnapshotDump := by
    rw [dumped, heffects, List.countP_append]
    rfl
  have hprocessed : (recordSnapshots cfg (.result .callback) s s' h) =
      { h with processed := h.processed + if isSnapshot cfg b then 1 else 0 } := by
    simp only [recordSnapshots, hpc, hfault', and_true]
    split_ifs <;> rfl
  rw [hprocessed] at hle ⊢
  by_cases hdue : isSnapshot cfg b ∧ 0 < s.caseState.snapshotNum
  · rw [if_pos hdue] at hpost
    have ⟨hone, hnum⟩ := hpost
    exact
      { number := by
          rw [hcs]
          omega
        overwritten := hi.overwritten
        written := by
          show (s'.dumped : ℤ) + s'.caseState.snapshotNum + h.lost = h.total
          rw [hcs, hdumped]
          omega
        bound := by
          show s'.caseState.snapshotNum +
            ((h.processed + if isSnapshot cfg b then 1 else 0 : ℕ) : ℤ) ≤ h.total
          rw [hcs, if_pos hdue.1]
          omega }
  · rw [if_neg hdue] at hpost
    have ⟨hzero, hnum⟩ := hpost
    exact
      { number := by
          rw [hcs, hnum]
          exact hnumber
        overwritten := hi.overwritten
        written := by
          show (s'.dumped : ℤ) + s'.caseState.snapshotNum + h.lost = h.total
          rw [hcs, hdumped]
          omega
        bound := by
          show s'.caseState.snapshotNum +
            ((h.processed + if isSnapshot cfg b then 1 else 0 : ℕ) : ℤ) ≤ h.total
          rw [hcs, hnum]
          by_cases hsnap : isSnapshot cfg b
          · -- the number is used up, but not the orders
            have hpos : ¬ 0 < s.caseState.snapshotNum := fun hpos => hdue ⟨hsnap, hpos⟩
            simp only [hsnap, if_true] at hle ⊢
            omega
          · simp only [hsnap] at hle ⊢
            exact hbound }

theorem result {a : ResultAct} (hi : CountInv s h) (hcase : cfg.testCase = .previewSnapshot)
    (hstages : Stages cfg s) (hfault : s.fault = none)
    (hle : (recordSnapshots cfg (.result a) s s' h).processed ≤ h.total)
    (hs : ResultStep cfg s a s') : CountInv s' (recordSnapshots cfg (.result a) s s' h) := by
  cases hs with
  | @callback msg b rest effects caseState hpc heff =>
      have hstreams : s.camera3Streams = cfg.camera3Streams := by
        apply hstages.streams
        by_contra hlt
        have hexit := hstages.result (by omega)
        rw [hpc] at hexit
        cases hexit
      have ⟨managers, encoder, he⟩ := foldl_applyEffect effects s
      exact hi.callback hcase hstreams hle hpc heff rfl (by rw [he]; exact hfault) rfl
  | callbackUnknown hpc => exact hi.of_move rfl rfl (by simp [recordSnapshots, hpc, fail])
  | callbackInternal hpc | callbackExternal hpc =>
      exact hi.of_move rfl rfl (by simp [recordSnapshots, hpc])
  | @wait a act q hpc hheld hact | @popStop a act q msg l hpc hheld ha hact
  | @pop a act q msg l hpc hheld ha hact =>
      refine hi.of_move rfl rfl ?_
      cases a with
      | callback | giveBack => cases hact
      | take | wake => rfl
  | wakeEmpty | giveBack | giveBackUnknown | giveBackDone => exact hi.of_move rfl rfl rfl

theorem user {a : UserAct} (hi : CountInv s h) (hok : CountsNonneg (.user a))
    (hle : h.processed ≤ h.total) (hf : UserFrame s s') (hs : SnapshotUserStep a s s') :
    CountInv s' (recordSnapshots cfg (.user a) s s' h) := by
  have hnumber := hi.number
  have hwritten := hi.written
  cases hs with
  | @order count msg ha horder hqueue hnum =>
      subst ha
      have hcount : 0 ≤ count := hok
      have htotal : (recordSnapshots cfg (.user (.requestCapture count)) s s' h).total =
          h.total + count := by
        simp [recordSnapshots, SnapshotHistory.total]
      have hlost : (recordSnapshots cfg (.user (.requestCapture count)) s s' h).lost =
          h.lost + s.caseState.snapshotNum := by
        simp [recordSnapshots, SnapshotHistory.lost]
      refine ⟨hnum ▸ hcount, ?_, ?_, ?_⟩
      · intro c hc
        rcases List.mem_append.mp hc with hc | hc
        · exact hi.overwritten c hc
        · obtain rfl := List.mem_singleton.mp hc
          exact hnumber
      · rw [htotal, hlost, hnum, dumped, hf.log]
        rw [dumped] at hwritten
        omega
      · rw [htotal, hnum]
        show count + h.processed ≤ h.total + count
        omega
  | other hcount hqueue hnum =>
      refine hi.of_move hnum (by rw [hf.log]) ?_
      cases a with
      | requestCapture count => exact absurd rfl (hcount count)
      | _ => rfl

end CountInv

/-! ## Every picture is written -/

/-- The three invariants of the pictures. -/
structure SnapshotInv (cfg : Setup) (s : Device) (h : SnapshotHistory) : Prop where
  flow : FlowInv cfg s h
  order : OrderInv cfg s h
  count : CountInv s h

namespace SnapshotInv

variable {h : SnapshotHistory}

theorem processed_le (hflow : FlowInv cfg s h) (horder : OrderInv cfg s h) :
    (h.processed : ℤ) ≤ h.total := by
  have hordered := horder.ordered
  have hqueued : 0 ≤ queuedOrders s := by
    refine List.sum_nonneg fun n hn => ?_
    have ⟨msg, hmsg, heq⟩ := List.mem_map.mp hn
    rw [← heq]
    exact horder.queued msg hmsg
  have huncounted : (s.uncounted 1 : ℤ) ≤ s.requestThread.requestNumber 1 := by
    have hnumber := horder.number
    have hpicks := horder.picks
    unfold uncounted
    split <;> simp_all [Picks, Picked] <;> omega
  unfold FlowInv at hflow
  omega

theorem step {a : Act} (hi : SnapshotInv cfg s h) (hcase : cfg.testCase = .previewSnapshot)
    (hblob : cfg.config.snapshotFormat = halPixelFormatBlob) (hstages : Stages cfg s)
    (hok : OrdersPictures a s) (hs : Device.step cfg a s = some s') :
    SnapshotInv cfg s' (recordSnapshots cfg a s s' h) := by
  have ⟨hfault, hstep⟩ := Step.of_eq hs
  have hflow := hi.flow.step hfault hok hstep
  have horder := hi.order.step hcase hblob hstages hok hs
  refine ⟨hflow, horder, ?_⟩
  have hle := processed_le hflow horder
  cases hstep with
  | request hstep =>
      exact hi.count.of_move (by rw [hstep.frame.caseState]) (by cases hstep <;> rfl) rfl
  | hal hstep =>
      exact hi.count.of_move (by rw [hstep.frame.caseState]) (by cases hstep <;> rfl) rfl
  | @result a _ hstep =>
      refine hi.count.result hcase hstages hfault ?_ hstep
      rw [SnapshotHistory.total, commands_result] at hle
      exact hle
  | encoderReturn ht => exact hi.count.of_move rfl rfl rfl
  | stop hstep =>
      refine hi.count.of_move ?_ (by rw [hstep.frame.log]) rfl
      cases hstep with
      | begin => rw [hcase]; rfl
      | _ => rfl
  | user hstep =>
      exact hi.count.user hok.2 (processed_le hi.flow hi.order) hstep.frame
        (.of_eq hcase hblob hfault hs)

end SnapshotInv

theorem snapshotInv (hcase : cfg.testCase = .previewSnapshot)
    (hblob : cfg.config.snapshotFormat = halPixelFormatBlob) {h : SnapshotHistory}
    (hr : SnapshotRun cfg s h) : SnapshotInv cfg s h :=
  hr.invariant_history (P := SnapshotInv cfg)
    ⟨Nat.zero_le _, .init hcase hblob, .init cfg⟩
    fun _ _ _ _ hrun hi hok hs => hi.step hcase hblob (stages hrun) hok hs

/-- **Every ordered picture is dumped**, once all have been processed, if and only if each command
found that no picture was left to be written. -/
theorem allDumped_iff (hcase : cfg.testCase = .previewSnapshot)
    (hblob : cfg.config.snapshotFormat = halPixelFormatBlob) {h : SnapshotHistory}
    (hr : SnapshotRun cfg s h) :
    AllDumped s h ↔ ((h.processed : ℤ) = h.total → ∀ c ∈ h.commands, c.overwritten = 0) := by
  have hi := (snapshotInv hcase hblob hr).count
  refine forall_congr' fun hall => ?_
  have hnumber := hi.number
  have hbound := hi.bound
  have hwritten := hi.written
  have hlost : h.lost = 0 ↔ ∀ c ∈ h.commands, c.overwritten = 0 := by
    constructor
    · intro hzero c hc
      exact List.all_zero_of_le_zero_le_of_sum_eq_zero
        (fun n hn => by
          have ⟨c, hc, heq⟩ := List.mem_map.mp hn
          rw [← heq]
          exact hi.overwritten c hc) hzero (List.mem_map_of_mem hc)
    · intro hzero
      refine List.sum_eq_zero fun n hn => ?_
      have ⟨c, hc, heq⟩ := List.mem_map.mp hn
      rw [← heq]
      exact hzero c hc
  rw [← hlost]
  omega

/-! ## Runs -/

/-- The HAL returns the buffers of a frame, and the result thread processes them. -/
def processSnapshot (r : CaptureResult) : List Act :=
  deliverResult r ++ [.result .take] ++ r.outputBuffers.map (fun _ => .result .callback) ++
    [.result .callback] ++ r.outputBuffers.map (fun _ => .result .giveBack) ++ [.result .giveBack]

/-- An accepted request of `snapshotSetup` for the frame of a result, and the result. -/
def takePicture (r : CaptureResult) : List Act := acceptSnapshot ++ processSnapshot r

/-- A picture, and then another. -/
theorem allDumped_twice :
    ∃ s h, SnapshotRun snapshotSetup s h ∧ h.commands = [⟨1, 0⟩, ⟨1, 0⟩] ∧ h.processed = 2 ∧
      AllDumped s h := by
  have ⟨p, hr, hcommands, hprocessed⟩ : ∃ p, Reachable
      (withHistory (step snapshotSetup) (recordSnapshots snapshotSetup)) (onState OrdersPictures)
      (snapshotSetup.init, {}) p ∧ p.2.commands = [⟨1, 0⟩, ⟨1, 0⟩] ∧ p.2.processed = 2 :=
    Reachable.exists_of_exec
      ([.user (.requestCapture 1), .request .iterate] ++ takePicture ⟨0, [⟨1, 0⟩, ⟨2, 0⟩], 1⟩ ++
        [.user (.requestCapture 1), .request .iterate] ++ takePicture ⟨1, [⟨1, 1⟩, ⟨2, 0⟩], 1⟩)
      (by decide +kernel)
  refine ⟨p.1, p.2, hr, hcommands, hprocessed, ?_⟩
  refine (allDumped_iff rfl rfl hr).mpr fun _ c hc => ?_
  rw [hcommands] at hc
  revert c
  decide

/-- The second command comes before the picture of the first is written. -/
theorem picture_lost_by_second_command :
    ¬ ∀ s h, SnapshotRun snapshotSetup s h → AllDumped s h := by
  intro hall
  have ⟨p, hr, htotal, hprocessed, hdumped⟩ : ∃ p, Reachable
      (withHistory (step snapshotSetup) (recordSnapshots snapshotSetup)) (onState OrdersPictures)
      (snapshotSetup.init, {}) p ∧ p.2.total = 2 ∧ p.2.processed = 2 ∧ p.1.dumped = 1 :=
    Reachable.exists_of_exec
      ([.user (.requestCapture 1), .user (.requestCapture 1), .request .iterate,
        .request .iterate] ++ takePicture ⟨0, [⟨1, 0⟩, ⟨2, 0⟩], 1⟩ ++
        takePicture ⟨1, [⟨1, 1⟩, ⟨2, 0⟩], 1⟩)
      (by decide +kernel)
  have hwritten := hall p.1 p.2 hr (by rw [htotal, hprocessed]; rfl)
  rw [htotal, hdumped] at hwritten
  exact absurd hwritten (by decide)

end Device

end QCamx

import QCamx.Device.Delivery
import QCamx.Device.Selection
import QCamx.Lib.Service

/-!
# The device as a capture service

What a device is for: the buffers of the accepted requests are ordered, each with the frame number
of its request, and are handed to the callback with that number. All the rest, the HAL's calls, the
lock and the queue of the result thread and the messages between the threads, is how this is done.

* `service`: the service that a state of the device stands for;
* **`refines`**: every step of the device is a step of the service or leaves it alone;
* `nodup_ordered`: a frame orders a stream at most once;
* **`frames_served_once`**: no frame of a stream is handed over twice, each was ordered with its
  buffer, and all are handed over when none is on its way and none came after the stop.
-/

namespace QCamx

open Guarded

namespace Device

variable {cfg : Setup} {s s' : Device}

/-! ## The service -/

/-- The buffers of a result, with its frame number. -/
def tagged (r : CaptureResult) : List (ℕ × StreamBuffer) :=
  r.outputBuffers.map fun b => (r.frameNumber, b)

/-- The buffers that a submission orders, if it is accepted. -/
def ordersOf (x : Submission) : List (ℕ × StreamBuffer) :=
  if x.accepted then x.buffers.map fun b => (x.frameNumber, b) else []

/-- The results of the calls that have not come to the result queue. -/
def arriving (s : Device) : List CaptureResult :=
  s.entering ++
    match s.holder with
    | some (r, false) => [r]
    | _ => []

/-- The results that came after the stop. -/
def refused (s : Device) : List CaptureResult := (s.log.arrivals.filter (·.2)).map Prod.fst

/-- The buffers of some results, in any order. -/
def tags (rs : List CaptureResult) : Multiset (ℕ × StreamBuffer) :=
  (rs.flatMap tagged : List (ℕ × StreamBuffer))

@[simp] theorem tags_nil : tags [] = 0 := rfl

@[simp] theorem tags_cons (r : CaptureResult) (rs : List CaptureResult) :
    tags (r :: rs) = tagged r + tags rs := by
  simp [tags]

@[simp] theorem tags_append (rs rs' : List CaptureResult) :
    tags (rs ++ rs') = tags rs + tags rs' := by
  simp [tags]

theorem tags_perm {rs rs' : List CaptureResult} (h : rs.Perm rs') : tags rs = tags rs' :=
  Multiset.coe_eq_coe.mpr (h.flatMap_right tagged)

/-- The service that a state of the device stands for. -/
def service (s : Device) : Service (ℕ × StreamBuffer) where
  ordered := s.log.submitted.flatMap ordersOf
  outstanding := s.inFlight + tags s.arriving +
    tags (s.resultThread.messageQueue.items.map asResult)
  served := s.log.delivered.flatMap tagged
  lost := tags s.refused

theorem service_congr (hsub : s'.log.submitted = s.log.submitted) (hin : s'.inFlight = s.inFlight)
    (hentering : s'.entering = s.entering) (hholder : s'.holder = s.holder)
    (hqueue : s'.resultThread.messageQueue.items = s.resultThread.messageQueue.items)
    (hdelivered : s'.log.delivered = s.log.delivered)
    (harrivals : s'.log.arrivals = s.log.arrivals) : s'.service = s.service := by
  simp only [service, arriving, refused, hsub, hin, hentering, hholder, hqueue, hdelivered,
    harrivals]

/-- The service takes a step, or none. -/
def Advances (s s' : Device) : Prop :=
  s'.service = s.service ∨ ∃ a, Service.step a s.service = some s'.service

theorem advances_request {a : RequestAct} (hs : RequestStep cfg s a s') : Advances s s' := by
  have hf := hs.frame
  cases hs with
  | @submit selected buffers accepted hpc hfreed =>
      cases accepted with
      | false =>
          left
          simp [service, arriving, refused, ordersOf]
      | true =>
          right
          refine ⟨.order (buffers.map fun b => (s.requestThread.frameNumber, b)), ?_⟩
          simp only [Service.step, service, arriving, refused, ordersOf, if_true,
            List.flatMap_append, List.flatMap_singleton, Option.some.injEq, Service.mk.injEq,
            true_and, and_true, ← Multiset.coe_add]
          abel
  | _ => exact Or.inl rfl

theorem advances_hal {a : HalAct} (hok : HalContract (.hal a) s) (hs : HalStep s a s') :
    Advances s s' := by
  cases hs with
  | @call r hr =>
      left
      -- the buffers go over from the HAL to the call
      have hdiff : (s.inFlight : Multiset (ℕ × StreamBuffer)) =
          tagged r + (s.inFlight.diff (tagged r) : List (ℕ × StreamBuffer)) := by
        rw [Multiset.coe_add, Multiset.coe_eq_coe]
        exact (List.subperm_append_diff_self_of_count_le
          (List.subperm_ext_iff.mp hok.2)).symm
      refine Service.ext rfl ?_ rfl rfl
      show ((s.inFlight.diff (tagged r) : List (ℕ × StreamBuffer)) : Multiset (ℕ × StreamBuffer)) +
        tags (r :: s.arriving) + _ = s.inFlight + tags s.arriving + _
      rw [hdiff, tags_cons]
      abel
  | @lock r hr hheld hnull =>
      left
      have hperm : (s.entering.erase r ++ [r]).Perm s.arriving := by
        rw [arriving, hheld, List.append_nil]
        exact (List.perm_append_singleton _ _).trans (List.perm_cons_erase hr).symm
      refine Service.ext rfl ?_ rfl rfl
      show (s.inFlight : Multiset (ℕ × StreamBuffer)) + tags (s.entering.erase r ++ [r]) + _ =
        s.inFlight + tags s.arriving + _
      rw [tags_perm hperm]
  | @pushStopped r view hheld hnull hstop =>
      right
      refine ⟨.lose (tagged r), ?_⟩
      rw [Service.step_lose ((s.inFlight : Multiset _) + tags s.entering +
        tags (s.resultThread.messageQueue.items.map asResult))]
      · simp [service, arriving, refused]
      · simp only [service, arriving, hheld, tags_append, tags_cons, tags_nil]
        abel
  | @push r view hheld hview hnull hstop =>
      left
      refine Service.ext rfl ?_ rfl ?_
      · simp only [service, arriving, hheld, pushResult, BlockingQueue.push, List.map_append,
          List.map_cons, List.map_nil, List.append_nil, tags_append, tags_cons, tags_nil]
        rw [show tagged (asResult ⟨{ r with outputBuffers := view }, r.outputBuffers, false⟩) =
          tagged r from rfl]
        abel
      · simp [service, refused, pushResult]
  | unlock hheld hnull =>
      left
      exact Service.ext rfl (by simp [service, arriving, hheld]) rfl rfl
  | callMetadata | lockNull | pushNull | unlockNull | countAbsent | countComplete | count =>
      exact Or.inl rfl

theorem advances_result {a : ResultAct} (hstop : ∀ msg ∈ s.resultThread.messageQueue.items,
    msg.stop = true → msg = stopMsg) (hs : ResultStep cfg s a s') : Advances s s' := by
  cases hs with
  | @wait a act q hpc hheld hact hq hwait =>
      left
      refine service_congr rfl rfl rfl rfl ?_ rfl rfl
      have hitems := items_takeAct hact hq
      rcases hwait with rfl | ⟨rfl, hempty⟩
      · rwa [if_pos rfl] at hitems
      · show q.items = _
        rw [hitems, hempty, List.tail_nil, ite_self]
  | @wakeEmpty w q hpc hheld hw hq hempty =>
      left
      refine service_congr rfl rfl rfl rfl ?_ rfl rfl
      show q.items = _
      rw [items_takeAct (a := .wake w) rfl hq, hempty, List.tail_nil, ite_self]
  | @popStop a act q msg l hpc hheld ha hact hq hcons hmsg =>
      left
      have hitems := items_takeAct hact hq
      rw [if_neg ha, hcons, List.tail_cons] at hitems
      have hstopMsg := hstop msg (by rw [hcons]; exact List.mem_cons_self) hmsg
      refine Service.ext rfl ?_ rfl rfl
      simp only [service, arriving, hitems, hcons, List.map_cons, tags_cons, hstopMsg]
      simp [tagged, asResult, stopMsg]
  | @pop a act q msg l hpc hheld ha hact hq hcons hmsg =>
      right
      have hitems := items_takeAct hact hq
      rw [if_neg ha, hcons, List.tail_cons] at hitems
      refine ⟨.serve (tagged (asResult msg)), ?_⟩
      rw [Service.step_serve ((s.inFlight : Multiset _) + tags s.arriving +
        tags (l.map asResult))]
      · simp [service, arriving, refused, hitems, asResult]
      · simp only [service, hcons, List.map_cons, tags_cons]
        abel
  | @callback msg b rest effects caseState hpc heff =>
      obtain ⟨managers, encoder, he⟩ := foldl_applyEffect effects s
      rw [he]
      exact Or.inl rfl
  | _ => exact Or.inl rfl

theorem advances_step {a : Act} (hok : HalContract a s)
    (hstop : ∀ msg ∈ s.resultThread.messageQueue.items, msg.stop = true → msg = stopMsg)
    (hs : Step cfg s a s') : Advances s s' := by
  cases hs with
  | request hs => exact advances_request hs
  | hal hs => exact advances_hal hok hs
  | result hs => exact advances_result hstop hs
  | encoderReturn => exact Or.inl rfl
  | stop hs =>
      cases hs with
      | postResult =>
          left
          refine Service.ext rfl ?_ rfl rfl
          simp [service, arriving, BlockingQueue.push, tagged, asResult]
      | _ => exact Or.inl rfl
  | user hs =>
      have hf := hs.frame
      exact Or.inl (service_congr (by rw [hf.log]) hf.inFlight hf.entering hf.holder
        (by rw [hf.resultThread]) (by rw [hf.log]) (by rw [hf.log]))

/-- **The device refines the service.** -/
theorem refines {ok : Act → Device → Prop} (h : Run cfg ok s)
    (hok : ∀ a s, ok a s → HalContract a s) :
    Reachable Service.step (fun _ _ => True) {} s.service := by
  have hmatch : ∃ t, s.service = t ∧ Reachable Service.step (fun _ _ => True) {} t := by
    refine h.simulate (R := fun s t => s.service = t) rfl fun s a s' t hr _ hR ha hs => ?_
    subst hR
    refine ⟨_, rfl, ?_⟩
    rcases advances_step (hok a s ha) (fun msg => eq_stopMsg_of_mem hr) (Step.of_eq hs).2 with
      hsame | ⟨b, hb⟩
    · exact Or.inl hsame
    · exact Or.inr ⟨b, trivial, hb⟩
  obtain ⟨t, rfl, ht⟩ := hmatch
  exact ht

/-! ## A frame orders a stream once -/

theorem nodup_chosen {streams : List StreamPtr} (hnodup : streams.Nodup) (selected : ℕ → ℕ)
    (n : ℕ) : (chosen streams selected n).Nodup := by
  refine List.Nodup.filterMap (fun i j p hi hj => ?_) List.nodup_range
  have hget : ∀ {k}, p ∈ (if selected k = 0 then none else streams[k]?) → streams[k]? = some p := by
    intro k hk
    split_ifs at hk
    · cases hk
    · exact hk
  obtain ⟨hilt, hip⟩ := List.getElem?_eq_some_iff.mp (hget hi)
  obtain ⟨hjlt, hjp⟩ := List.getElem?_eq_some_iff.mp (hget hj)
  exact hnodup.getElem_inj_iff.mp (hip.trans hjp.symm)

theorem nodup_streams_of_submitted {ok : Act → Device → Prop} (h : Run cfg ok s) :
    ∀ x ∈ s.log.submitted, (x.buffers.map (·.stream)).Nodup := by
  refine h.invariant (P := fun s => ∀ x ∈ s.log.submitted, (x.buffers.map (·.stream)).Nodup)
    (by simp [Setup.init]) fun s a s' hr hi _ _ hs => ?_
  rcases hs.submitted with hsame | ⟨selected, buffers, accepted, hpc, hsub⟩
  · rw [hsame]
    exact hi
  · intro x hx
    rw [hsub] at hx
    rcases List.mem_append.mp hx with hx | hx
    · exact hi x hx
    · obtain rfl := List.mem_singleton.mp hx
      have hiteration := (selectionInv hr).iteration
      simp only [hpc, Iteration] at hiteration
      show (buffers.map (·.stream)).Nodup
      rw [hiteration.2]
      exact nodup_chosen cfg.nodup_streams _ _

/-- What frames are told apart by: the frame number and the stream. -/
def frameOf (p : ℕ × StreamBuffer) : ℕ × StreamPtr := (p.1, p.2.stream)

theorem nodup_ordered {ok : Act → Device → Prop} (h : Run cfg ok s) :
    (s.service.ordered.map frameOf).Nodup := by
  show ((s.log.submitted.flatMap ordersOf).map frameOf).Nodup
  rw [List.map_flatMap, List.nodup_flatMap]
  constructor
  · intro x hx
    have hnodup := nodup_streams_of_submitted h x hx
    unfold ordersOf
    split_ifs
    · rw [List.map_map]
      refine List.Nodup.of_map Prod.snd ?_
      rw [List.map_map]
      exact hnodup
    · exact List.nodup_nil
  · -- two requests have different frame numbers
    refine (List.pairwise_map.mp (selectionInv h).sorted).imp fun {x y} hlt p hp hq => ?_
    have hframe : ∀ {z : Submission}, p ∈ (ordersOf z).map frameOf → p.1 = z.frameNumber := by
      intro z hz
      unfold ordersOf at hz
      split_ifs at hz
      · rw [List.map_map] at hz
        obtain ⟨b, -, rfl⟩ := List.mem_map.mp hz
        rfl
      · cases hz
    have := hframe hp
    have := hframe hq
    omega

/-- **The device is a capture service**: what its state stands for is reached by steps of the
service, so every order is outstanding, served or lost; no frame is handed over twice, each was
ordered, and all are handed over when nothing is missing. -/
theorem frames_served_once (h : Run cfg HalContract s) :
    Reachable Service.step (fun _ _ => True) {} s.service ∧ s.service.Balanced ∧
      s.service.served.Subperm s.service.ordered ∧ (s.service.served.map frameOf).Nodup ∧
      (s.service.outstanding = 0 → s.service.lost = 0 →
        s.service.served.Perm s.service.ordered) := by
  have href := refines h fun _ _ hok => hok
  exact ⟨href, Service.balance href, Service.served_subperm href,
    Service.nodup_map_served href (nodup_ordered h), Service.served_perm href⟩

/-- The second of two frames is handed over before the first. -/
def serveTwo : List Act :=
  acceptRequest ++ acceptRequest ++ deliverResult ⟨1, [⟨1, 1⟩], 1⟩ ++ deliverResult resultZero ++
    [.result .take, .result .callback, .result .callback, .result .giveBack, .result .giveBack,
      .result .take]

theorem frames_served_once_zero :
    ∃ s, Run (previewSetup 2) HalContract s ∧ s.service.served = [(1, ⟨1, 1⟩), (0, ⟨1, 0⟩)] ∧
      s.service.Balanced ∧ (s.service.served.map frameOf).Nodup ∧
      s.service.served.Perm s.service.ordered := by
  obtain ⟨s, hr, hserved, hout, hlost⟩ : ∃ s, Run (previewSetup 2) HalContract s ∧
      s.service.served = [(1, ⟨1, 1⟩), (0, ⟨1, 0⟩)] ∧ s.service.outstanding = 0 ∧
      s.service.lost = 0 :=
    Run.exists_of_exec serveTwo (by decide +kernel)
  obtain ⟨-, hbalanced, -, hnodup, hperm⟩ := frames_served_once hr
  exact ⟨s, hr, hserved, hbalanced, hnodup, hperm hout hlost⟩

end Device

end QCamx

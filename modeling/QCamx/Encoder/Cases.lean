import QCamx.Encoder.Step

/-!
# What a step of the encoder can do

* `Encoder.Step`, **`Encoder.Step.of_eq`**: the steps with their guards and results;
* `Encoder.Run`: runs from the creation of the in-flight thread;
* **`Encoder.stages`**: what holds from each stage of `stop` on.
-/

namespace QCamx

namespace Encoder

variable (cfg : EncoderSetup) (s : Encoder)

/-! ## Threads -/

/-- The in-flight thread holds header `h` and looks for a frame. -/
def Seeks (h : Header) (a : InFlightAct) : Prop :=
  a = .read ∧ s.inFlightPc = .read h ∧ cfg.nullBuffer h = false ∨
    ∃ w, a = .wake w ∧ s.inFlightPc = .waitFrame h ∧ w ≠ .timeout ∧
      (w = .signal → s.frameSignalled = true)

/-- The steps of the in-flight thread. -/
inductive InFlightStep : InFlightAct → Encoder → Prop
  | takeRead {h : Header} {q : List OmxMsgQ} (hpc : s.inFlightPc = .top)
      (hq : s.infightQ = .read h :: q) :
      InFlightStep .take { s with infightQ := q, inFlightPc := .read h }
  | takeExit {q : List OmxMsgQ} (hpc : s.inFlightPc = .top) (hq : s.infightQ = .loopExit :: q) :
      InFlightStep .take { s with infightQ := q, inFlightPc := .exited }
  | nullBuffer {h : Header} (hpc : s.inFlightPc = .read h) (hnull : cfg.nullBuffer h = true) :
      InFlightStep .read { s with inFlightPc := .submit h }
  | readExit {h : Header} (hpc : s.inFlightPc = .read h) (hqueue : s.bufferQueue = none) :
      InFlightStep .read { s with inFlightPc := .top }
  | deletedQueue {h : Header} {a : InFlightAct} (hpc : s.inFlightPc = .waitFrame h)
      (hqueue : s.bufferQueue = none) : InFlightStep a (s.fail .deletedQueue)
  | waitFrame {h : Header} {a : InFlightAct} (hseeks : Seeks cfg s h a)
      (hqueue : s.bufferQueue = some []) :
      InFlightStep a { s with inFlightPc := .waitFrame h, frameSignalled := false }
  | popFrame {h : Header} {b : Buffer} {q : List Buffer} {a : InFlightAct}
      (hseeks : Seeks cfg s h a) (hqueue : s.bufferQueue = some (b :: q)) :
      InFlightStep a { s with bufferQueue := some q, inFlightPc := .copy h b }
  | timeout {h : Header} (hpc : s.inFlightPc = .waitFrame h) :
      InFlightStep (.wake .timeout) { s with inFlightPc := .top, timeouts := s.timeouts + 1 }
  | deletedManager {h : Header} {b : Buffer} (hpc : s.inFlightPc = .copy h b)
      (hdeleted : s.managerDeleted = true) : InFlightStep .copy (s.fail .deletedManager)
  | copy {h : Header} {b : Buffer} (hpc : s.inFlightPc = .copy h b)
      (hdeleted : s.managerDeleted = false) :
      InFlightStep .copy { s with inFlightPc := .submit h, returned := s.returned ++ [b] }
  | accept {h : Header} (hpc : s.inFlightPc = .submit h) :
      InFlightStep (.submit true) { s with inFlightPc := .top, component := h :: s.component }
  | reject {h : Header} (hpc : s.inFlightPc = .submit h) :
      InFlightStep (.submit false) { s with inFlightPc := .top, rejected := s.rejected + 1 }

/-- The steps of the result thread. -/
inductive ResultStep : VideoResultAct → Encoder → Prop
  | returnBuffer {b : Buffer} (hpc : s.resultPc = .idle) (hstop : s.stop = true) :
      ResultStep (.deliver b) s
  | deliver {b : Buffer} (hpc : s.resultPc = .idle) (hstop : s.stop = false) :
      ResultStep (.deliver b) { s with resultPc := .enqueue b }
  | deletedQueue {b : Buffer} (hpc : s.resultPc = .enqueue b) (hqueue : s.bufferQueue = none) :
      ResultStep .push (s.fail .deletedQueue)
  | push {b : Buffer} {q : List Buffer} (signalled : Bool) (hpc : s.resultPc = .enqueue b)
      (hqueue : s.bufferQueue = some q) :
      ResultStep .push
        { s with
          bufferQueue := some (q ++ [b])
          frameSignalled := signalled
          resultPc := .idle
          enqueued := s.enqueued ++ [b] }
  | exit (hpc : s.resultPc = .idle) (hstop : s.stopPc = .joinResult) :
      ResultStep .exit { s with resultPc := .exited }

/-- The steps of `stop`. -/
inductive StopStep : VideoStopAct → Encoder → Prop
  | beginVideoOnly (hpc : s.stopPc = .running) (hvideo : cfg.videoOnly = true) :
      StopStep .begin { s with stopPc := .joinResult }
  | begin (hpc : s.stopPc = .running) (hvideo : cfg.videoOnly = false) :
      StopStep .begin { s with stop := true, stopPc := .flush }
  | flush (hpc : s.stopPc = .flush) : StopStep .flush { s with infightQ := [], stopPc := .postExit }
  | postExit (hpc : s.stopPc = .postExit) :
      StopStep .postExit
        { s with infightQ := s.infightQ ++ [.loopExit], stopPc := .joinInFlight }
  | joinInFlight (hpc : s.stopPc = .joinInFlight) (hexit : s.inFlightPc = .exited) :
      StopStep .joinInFlight { s with stopPc := .drain }
  | drain {b : Buffer} {q : List Buffer} (hpc : s.stopPc = .drain)
      (hqueue : s.bufferQueue = some (b :: q)) :
      StopStep .drain { s with bufferQueue := some q, stopPc := .giveBack b }
  | deleteQueue (hpc : s.stopPc = .drain) (hqueue : s.bufferQueue = some []) :
      StopStep .drain { s with bufferQueue := none, stopPc := .joinResult }
  | giveBack {b : Buffer} (hpc : s.stopPc = .giveBack b) :
      StopStep .giveBack { s with returned := s.returned ++ [b], stopPc := .drain }
  | joinResult (hpc : s.stopPc = .joinResult) (hexit : s.resultPc = .exited) :
      StopStep .joinResult { s with stopPc := .delete }
  | delete (hpc : s.stopPc = .delete) :
      StopStep .delete { s with managerDeleted := true, stopPc := .stopped }

/-- The steps of the encoder. -/
inductive Step : EncoderAct → Encoder → Prop
  | start {h : Header} (hh : cfg.inbufs[s.started]? = some h) :
      Step .start { s with started := s.started + 1, infightQ := s.infightQ ++ [.read h] }
  | inFlight {a : InFlightAct} {s' : Encoder} (h : InFlightStep cfg s a s') : Step (.inFlight a) s'
  | emptyDone {h : Header} (hh : h ∈ s.component) :
      Step (.emptyDone h)
        { s with component := s.component.erase h, infightQ := s.infightQ ++ [.read h] }
  | result {a : VideoResultAct} {s' : Encoder} (h : ResultStep s a s') : Step (.result a) s'
  | stop {a : VideoStopAct} {s' : Encoder} (h : StopStep cfg s a s') : Step (.stop a) s'

variable {cfg s} {s' : Encoder}

theorem InFlightStep.of_popFrame {h : Header} {a : InFlightAct} (hseeks : Seeks cfg s h a)
    (hqueue : s.inFlightPc = .read h → s.bufferQueue ≠ none) :
    InFlightStep cfg s a (s.popFrame h) := by
  unfold Encoder.popFrame
  split
  case h_1 hq =>
    obtain ⟨-, hpc, -⟩ | ⟨w, -, hpc, -⟩ := hseeks
    · exact absurd hq (hqueue hpc)
    · exact .deletedQueue hpc hq
  case h_2 hq => exact .waitFrame hseeks hq
  case h_3 b q hq => exact .popFrame hseeks hq

theorem InFlightStep.of_eq {a : InFlightAct} (hs : s.inFlight cfg a = some s') :
    InFlightStep cfg s a s' := by
  cases a with
  | take =>
      simp only [inFlight] at hs
      split at hs
      case h_1 h q hpc hq =>
        obtain rfl := Option.some.inj hs
        exact .takeRead hpc hq
      case h_2 q hpc hq =>
        obtain rfl := Option.some.inj hs
        exact .takeExit hpc hq
      case h_3 => cases hs
  | read =>
      simp only [inFlight] at hs
      split at hs
      case h_1 h hpc =>
        split_ifs at hs with hnull hqueue
        all_goals obtain rfl := Option.some.inj hs
        · exact .nullBuffer hpc hnull
        · exact .readExit hpc hqueue
        · exact .of_popFrame (Or.inl ⟨rfl, hpc, by simpa using hnull⟩) fun _ => hqueue
      case h_2 => cases hs
  | wake w =>
      simp only [inFlight] at hs
      split at hs
      case h_1 h hpc =>
        have hread : s.inFlightPc = .read h → s.bufferQueue ≠ none := by simp [hpc]
        cases w with
        | timeout =>
            obtain rfl := Option.some.inj hs
            exact .timeout hpc
        | signal =>
            simp only at hs
            split_ifs at hs with hsig
            obtain rfl := Option.some.inj hs
            exact .of_popFrame (Or.inr ⟨_, rfl, hpc, by decide, fun _ => hsig⟩) hread
        | spurious =>
            obtain rfl := Option.some.inj hs
            exact .of_popFrame (Or.inr ⟨_, rfl, hpc, by decide, by simp⟩) hread
      case h_2 => cases hs
  | copy =>
      simp only [inFlight] at hs
      split at hs
      case h_1 h b hpc =>
        split_ifs at hs with hdeleted
        all_goals obtain rfl := Option.some.inj hs
        · exact .deletedManager hpc hdeleted
        · exact .copy hpc (by simpa using hdeleted)
      case h_2 => cases hs
  | submit accepted =>
      simp only [inFlight] at hs
      split at hs
      case h_1 h hpc =>
        cases accepted with
        | true =>
            obtain rfl := Option.some.inj hs
            exact .accept hpc
        | false =>
            obtain rfl := Option.some.inj hs
            exact .reject hpc
      case h_2 => cases hs

theorem ResultStep.of_eq {a : VideoResultAct} (hs : s.result cfg a = some s') :
    ResultStep s a s' := by
  cases a with
  | deliver b =>
      simp only [result] at hs
      split_ifs at hs with hpc hstop
      all_goals obtain rfl := Option.some.inj hs
      · exact .returnBuffer hpc.2 hstop
      · exact .deliver hpc.2 (by simpa using hstop)
  | push =>
      simp only [result] at hs
      split at hs
      case h_1 b hpc =>
        cases hq : s.bufferQueue with
        | none =>
            rw [hq] at hs
            obtain rfl := Option.some.inj hs
            exact .deletedQueue hpc hq
        | some q =>
            rw [hq] at hs
            obtain rfl := Option.some.inj hs
            exact .push _ hpc hq
      case h_2 => cases hs
  | exit =>
      simp only [result] at hs
      split_ifs at hs with hpc
      obtain rfl := Option.some.inj hs
      exact .exit hpc.2 hpc.1

theorem StopStep.of_eq {a : VideoStopAct} (hs : s.stopStep cfg a = some s') :
    StopStep cfg s a s' := by
  cases a with
  | begin =>
      simp only [stopStep] at hs
      split_ifs at hs with hpc hvideo
      all_goals obtain rfl := Option.some.inj hs
      · exact .beginVideoOnly hpc.1 hvideo
      · exact .begin hpc.1 (by simpa using hvideo)
  | flush =>
      simp only [stopStep] at hs
      split_ifs at hs with hpc
      obtain rfl := Option.some.inj hs
      exact .flush hpc
  | postExit =>
      simp only [stopStep] at hs
      split_ifs at hs with hpc
      obtain rfl := Option.some.inj hs
      exact .postExit hpc
  | joinInFlight =>
      simp only [stopStep] at hs
      split_ifs at hs with hpc
      obtain rfl := Option.some.inj hs
      exact .joinInFlight hpc.1 hpc.2
  | drain =>
      simp only [stopStep] at hs
      split at hs
      case h_1 b q hpc hq =>
        obtain rfl := Option.some.inj hs
        exact .drain hpc hq
      case h_2 hpc hq =>
        obtain rfl := Option.some.inj hs
        exact .deleteQueue hpc hq
      case h_3 => cases hs
  | giveBack =>
      simp only [stopStep] at hs
      split at hs
      case h_1 b hpc =>
        obtain rfl := Option.some.inj hs
        exact .giveBack hpc
      case h_2 => cases hs
  | joinResult =>
      simp only [stopStep] at hs
      split_ifs at hs with hpc
      obtain rfl := Option.some.inj hs
      exact .joinResult hpc.1 hpc.2
  | delete =>
      simp only [stopStep] at hs
      split_ifs at hs with hpc
      obtain rfl := Option.some.inj hs
      exact .delete hpc

/-- **The encoder does nothing else, and nothing after a fault.** -/
theorem Step.of_eq {a : EncoderAct} (hs : step cfg a s = some s') :
    s.fault = none ∧ Step cfg s a s' := by
  unfold step at hs
  split at hs
  case isTrue => cases hs
  case isFalse hfault =>
    refine ⟨by simpa using hfault, ?_⟩
    cases a with
    | start =>
        obtain ⟨h, hh, rfl⟩ := Option.map_eq_some_iff.mp hs
        exact .start hh
    | inFlight a => exact .inFlight (.of_eq hs)
    | emptyDone h =>
        simp only [Encoder.emptyDone] at hs
        split_ifs at hs with hh
        obtain rfl := Option.some.inj hs
        exact .emptyDone hh.2
    | result a => exact .result (.of_eq hs)
    | stop a => exact .stop (.of_eq hs)

/-! ## Runs -/

/-- `s` is reached from the creation of the in-flight thread by steps the guard `ok` allows. -/
abbrev Run (cfg : EncoderSetup) (ok : EncoderAct → Encoder → Prop) (s : Encoder) : Prop :=
  Guarded.Reachable (step cfg) ok {} s

/-- **The invariant rule for runs of the encoder.** -/
theorem Run.invariant {ok : EncoderAct → Encoder → Prop} {P : Encoder → Prop} (h : Run cfg ok s)
    (h₀ : P {}) (hstep : ∀ s a s', P s → s.fault = none → ok a s → Step cfg s a s' → P s') : P s :=
  Guarded.Reachable.invariant h h₀ fun s a s' _ hP hok hs =>
    hstep s a s' hP (Step.of_eq hs).1 hok (Step.of_eq hs).2

/-! ## The stages of `stop` -/

/-- How far `stop` has come; the video-only case goes from `0` to `5`. -/
@[simp] def stage : VideoStopPc → ℕ
  | .running => 0
  | .flush => 1
  | .postExit => 2
  | .joinInFlight => 3
  | .drain | .giveBack _ => 4
  | .joinResult => 5
  | .delete => 6
  | .stopped => 7

/-- What holds from each stage on. -/
structure Stages (cfg : EncoderSetup) (s : Encoder) : Prop where
  videoOnly : cfg.videoOnly = true → stage s.stopPc = 0 ∨ 5 ≤ stage s.stopPc
  queue : s.bufferQueue = none ↔ cfg.videoOnly = false ∧ 5 ≤ stage s.stopPc
  stop : s.stop = true ↔ cfg.videoOnly = false ∧ 1 ≤ stage s.stopPc
  inFlight : cfg.videoOnly = false → 4 ≤ stage s.stopPc → s.inFlightPc = .exited
  result : 6 ≤ stage s.stopPc → s.resultPc = .exited
  exited : s.resultPc = .exited → 5 ≤ stage s.stopPc
  manager : s.managerDeleted = true ↔ stage s.stopPc = 7

namespace Stages

theorem init (cfg : EncoderSetup) : Stages cfg {} := by
  constructor <;> simp

theorem congr (h : Stages cfg s) (hstop : s'.stopPc = s.stopPc) (hflag : s'.stop = s.stop)
    (hmanager : s'.managerDeleted = s.managerDeleted)
    (hqueue : s'.bufferQueue = none ↔ s.bufferQueue = none)
    (hinFlight : s.inFlightPc = .exited → s'.inFlightPc = .exited)
    (hresult : s.resultPc = .exited → s'.resultPc = .exited)
    (hexited : s'.resultPc = .exited → s.resultPc = .exited ∨ s.stopPc = .joinResult) :
    Stages cfg s' where
  videoOnly := by rw [hstop]; exact h.videoOnly
  queue := by rw [hstop, hqueue]; exact h.queue
  stop := by rw [hstop, hflag]; exact h.stop
  inFlight hv hle := hinFlight (h.inFlight hv (hstop ▸ hle))
  result hle := hresult (h.result (hstop ▸ hle))
  exited he := by
    rw [hstop]
    rcases hexited he with he | hpc
    · exact h.exited he
    · rw [hpc]
      exact le_rfl
  manager := by rw [hstop, hmanager]; exact h.manager

theorem step {a : EncoderAct} (h : Stages cfg s) (hs : Step cfg s a s') : Stages cfg s' := by
  cases hs with
  | start | emptyDone => exact h.congr rfl rfl rfl Iff.rfl id id Or.inl
  | inFlight hs =>
      cases hs with
      | takeRead hpc | takeExit hpc | nullBuffer hpc | readExit hpc | timeout hpc | copy hpc
      | accept hpc | reject hpc =>
          exact h.congr rfl rfl rfl Iff.rfl (by simp [hpc]) id Or.inl
      | deletedQueue | deletedManager => exact h.congr rfl rfl rfl Iff.rfl id id Or.inl
      | waitFrame hseeks hqueue =>
          refine h.congr rfl rfl rfl Iff.rfl (fun he => ?_) id Or.inl
          obtain ⟨-, hpc, -⟩ | ⟨w, -, hpc, -⟩ := hseeks <;> rw [hpc] at he <;> cases he
      | popFrame hseeks hqueue =>
          refine h.congr rfl rfl rfl (by simp [hqueue]) (fun he => ?_) id Or.inl
          obtain ⟨-, hpc, -⟩ | ⟨w, -, hpc, -⟩ := hseeks <;> rw [hpc] at he <;> cases he
  | result hs =>
      cases hs with
      | returnBuffer | deletedQueue => exact h.congr rfl rfl rfl Iff.rfl id id Or.inl
      | deliver hpc => exact h.congr rfl rfl rfl Iff.rfl id (by simp [hpc]) (by simp)
      | push signalled hpc hqueue =>
          exact h.congr rfl rfl rfl (by simp [hqueue]) id (by simp [hpc]) (by simp)
      | exit hpc hstop => exact h.congr rfl rfl rfl Iff.rfl id (fun _ => rfl) fun _ => Or.inr hstop
  | stop hs =>
      obtain ⟨hvideoOnly, hqueue, hstop, hinFlight, hresult, hexited, hmanager⟩ := h
      cases hs with
      | beginVideoOnly hpc | begin hpc | flush hpc | postExit hpc | joinInFlight hpc | drain hpc
      | deleteQueue hpc | giveBack hpc | joinResult hpc | delete hpc =>
          simp only [hpc, stage] at hvideoOnly hqueue hstop hinFlight hresult hexited hmanager
          constructor <;> simp_all

end Stages

/-- **What holds from each stage on, in every run.** -/
theorem stages {ok : EncoderAct → Encoder → Prop} (h : Run cfg ok s) : Stages cfg s :=
  h.invariant (.init cfg) fun _ _ _ hi _ _ hs => hi.step hs

/-! ## A concrete encoder -/

/-- An encoder with one input header. -/
def oneHeader (videoOnly : Bool) : EncoderSetup where
  videoOnly := videoOnly
  inbufs := [1]
  nodup_inbufs := List.nodup_singleton 1

end Encoder

end QCamx

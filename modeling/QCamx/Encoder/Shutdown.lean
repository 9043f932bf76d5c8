import QCamx.Lib.BlockingQueue
import QCamx.Lib.Guarded

/-!
# The shutdown of the OMX encoder

`setConfig`, `start` and `stop` of `QCamxHAL3TestOMXEncoder` send four state commands; the component
reports the completion of each to `onOmxEvent`, in the order sent and at any later time. `m_State`,
which the constructor does not initialise, is all that `stop` knows of the reports: it waits while
that is not `STATE_IDLE`, once, for five seconds.

* `OmxEncoder.step`: the thread that configures, starts and stops, and the component;
* `Expected`: a report of the Idle of `setConfig` does not fall between the `STATE_START` of `start`
  and the end of the wait, and the wait does not return by itself;
* **`idle_reported`**: with that, `stop` leaves its wait without a time-out only after its own Idle
  was reported;
* `late_idle_taken_for_own`: the Idle of `setConfig`, reported after `start`.
-/

namespace QCamx

open Guarded

/-! ## State -/

/-- `OmxRunState`; `other` is a value that the memory held before the first assignment. -/
inductive OmxRunState
  | idle | start | loaded | other
  deriving DecidableEq, Repr

/-- The state commands, by the function that sends them and the state. -/
inductive StateCommand
  | setConfigIdle | startExecuting | stopIdle | stopLoaded
  deriving DecidableEq, Repr

/-- The thread that calls `setConfig`, `start` and `stop`; `waiting` is the wait of `stop`. -/
inductive OmxPc
  | setConfig | start | store | running | check | waiting | sendLoaded | freeBuffers | stopped
  deriving DecidableEq, Repr

structure OmxEncoder where
  /-- `m_State`. -/
  state : OmxRunState
  pc : OmxPc := .setConfig
  /-- The commands that the component has accepted and not reported. -/
  pending : List StateCommand := []
  reported : List StateCommand := []
  /-- A signal has reached the wait. -/
  signalled : Bool := false
  /-- Whether `stop` left its wait by a time-out, once it has left it. -/
  timedOut : Option Bool := none
  deriving DecidableEq, Repr

/-- What can happen; `accepted` is `OMX_ErrorNone` of `OMX_SendCommand`. A `setConfig` that fails
before it sends its command is one whose command is not accepted. -/
inductive OmxAct
  | setConfig (accepted : Bool)
  | start (accepted : Bool)
  | store
  | stop (accepted : Bool)
  | check
  | wake (w : Wake)
  | sendLoaded (accepted : Bool)
  | freeBuffers
  | report
  deriving DecidableEq

namespace OmxEncoder

/-! ## Steps -/

/-- `OMX_SendCommand`. -/
def sendCommand (c : StateCommand) (accepted : Bool) (s : OmxEncoder) : OmxEncoder :=
  if accepted then { s with pending := s.pending ++ [c] } else s

/-- `onOmxEvent`: all that it sees of a command is the state. -/
def onOmxEvent (c : StateCommand) (s : OmxEncoder) : OmxEncoder :=
  match c with
  | .stopLoaded =>
      if s.state = .idle then { s with state := .loaded, signalled := true } else s
  | .setConfigIdle | .stopIdle =>
      if s.state = .start then { s with state := .idle, signalled := true } else s
  | .startExecuting => s

/-- `stop` leaves its wait. -/
def leaveWait (timedOut : Bool) (s : OmxEncoder) : OmxEncoder :=
  { s with pc := .sendLoaded, timedOut := some timedOut }

def step (a : OmxAct) (s : OmxEncoder) : Option OmxEncoder :=
  match a with
  | .setConfig accepted =>
      if s.pc = .setConfig then
        some { s.sendCommand .setConfigIdle accepted with pc := .start }
      else none
  | .start accepted =>
      if s.pc = .start then some { s.sendCommand .startExecuting accepted with pc := .store }
      else none
  | .store => if s.pc = .store then some { s with state := .start, pc := .running } else none
  | .stop accepted =>
      if s.pc = .running then
        -- `stop` returns where its Idle is not accepted
        some { s.sendCommand .stopIdle accepted with pc := if accepted then .check else .stopped }
      else none
  | .check =>
      if s.pc = .check then
        if s.state = .idle then some (s.leaveWait false)
        else some { s with pc := .waiting, signalled := false }
      else none
  | .wake w =>
      if s.pc = .waiting then
        match w with
        | .signal => if s.signalled then some (s.leaveWait false) else none
        | .spurious => if s.signalled then none else some (s.leaveWait false)
        | .timeout => some (s.leaveWait true)
      else none
  | .sendLoaded accepted =>
      if s.pc = .sendLoaded then
        some { s.sendCommand .stopLoaded accepted with
          pc := if accepted then .freeBuffers else .stopped }
      else none
  | .freeBuffers => if s.pc = .freeBuffers then some { s with pc := .stopped } else none
  | .report =>
      match s.pending with
      | [] => none
      | c :: cs => some { s.onOmxEvent c with pending := cs, reported := s.reported ++ [c] }

/-- From the `STATE_START` of `start` to the end of the wait. -/
def Watching (s : OmxEncoder) : Prop := s.pc = .running ∨ s.pc = .check ∨ s.pc = .waiting

instance (s : OmxEncoder) : Decidable s.Watching := by unfold Watching; infer_instance

/-- The Idle of `setConfig` is not reported while `m_State` stands for that of `stop`, and the wait
does not return by itself. -/
def Expected : OmxAct → OmxEncoder → Prop
  | .report, s => s.pending.head? = some .setConfigIdle → ¬ s.Watching
  | .wake .spurious, _ => False
  | _, _ => True

/-- A new encoder. -/
def new (state : OmxRunState) : OmxEncoder where
  state := state

section Send

variable (c : StateCommand) (accepted : Bool) (s : OmxEncoder)

@[simp] theorem state_sendCommand : (s.sendCommand c accepted).state = s.state := by
  unfold sendCommand; split <;> rfl

@[simp] theorem pc_sendCommand : (s.sendCommand c accepted).pc = s.pc := by
  unfold sendCommand; split <;> rfl

@[simp] theorem reported_sendCommand : (s.sendCommand c accepted).reported = s.reported := by
  unfold sendCommand; split <;> rfl

@[simp] theorem timedOut_sendCommand : (s.sendCommand c accepted).timedOut = s.timedOut := by
  unfold sendCommand; split <;> rfl

theorem mem_pending_sendCommand {d : StateCommand}
    (h : d ∈ (s.sendCommand c accepted).pending) : d ∈ s.pending ∨ (d = c ∧ accepted) := by
  cases accepted with
  | true => simpa [sendCommand] using h
  | false => exact .inl h

@[simp] theorem pc_onOmxEvent : (s.onOmxEvent c).pc = s.pc := by
  cases c <;> simp only [onOmxEvent] <;> split <;> rfl

@[simp] theorem timedOut_onOmxEvent : (s.onOmxEvent c).timedOut = s.timedOut := by
  cases c <;> simp only [onOmxEvent] <;> split <;> rfl

end Send

/-! ## What `m_State` stands for -/

/-- While `stop` may look at it, `m_State` tells whether the Idle of `stop` was reported. -/
structure Truthful (s : OmxEncoder) : Prop where
  loaded_sent : .stopLoaded ∈ s.pending → s.pc = .freeBuffers ∨ s.pc = .stopped
  state : s.Watching → s.state = .start ∨ (s.state = .idle ∧ .stopIdle ∈ s.reported)
  signalled : s.pc = .waiting → s.signalled → .stopIdle ∈ s.reported
  timedOut : s.timedOut = some false → .stopIdle ∈ s.reported

namespace Truthful

variable {s s' : OmxEncoder}

theorem new (state : OmxRunState) : Truthful (OmxEncoder.new state) := by
  constructor <;> simp [OmxEncoder.new, Watching]

theorem send (h : Truthful s) {c : StateCommand} {accepted : Bool} {pc : OmxPc}
    (hpc : c = .stopLoaded ∧ accepted → pc = .freeBuffers ∨ pc = .stopped)
    (hleft : s.pc ≠ .freeBuffers ∧ s.pc ≠ .stopped)
    (hwatch : pc = .running ∨ pc = .check ∨ pc = .waiting → s.Watching) (hwait : pc ≠ .waiting) :
    Truthful { s.sendCommand c accepted with pc := pc } := by
  constructor
  · intro hmem
    rcases mem_pending_sendCommand c accepted s hmem with hold | ⟨rfl, hacc⟩
    · rcases h.loaded_sent hold with hp | hp
      · exact absurd hp hleft.1
      · exact absurd hp hleft.2
    · exact hpc ⟨rfl, hacc⟩
  · intro hw
    simpa using h.state (hwatch hw)
  · intro hp
    exact absurd hp hwait
  · intro ht
    simpa using h.timedOut (by simpa using ht)

/-- Leaving the wait, without a time-out only where the Idle was reported. -/
theorem leaveWait (h : Truthful s) (hleft : s.pc ≠ .freeBuffers ∧ s.pc ≠ .stopped) {timedOut : Bool}
    (ht : timedOut = false → .stopIdle ∈ s.reported) : Truthful (s.leaveWait timedOut) := by
  constructor
  · intro hmem
    rcases h.loaded_sent hmem with hp | hp
    · exact absurd hp hleft.1
    · exact absurd hp hleft.2
  · rintro (hp | hp | hp) <;> cases hp
  · intro hp
    cases hp
  · intro hout
    exact ht (Option.some.inj hout)

/-- A report, where it is not one of the Idle of `setConfig` that `stop` could take for its own. -/
theorem report (h : Truthful s) {c : StateCommand} {cs : List StateCommand}
    (hpending : s.pending = c :: cs) (hc : c = .setConfigIdle → ¬ s.Watching) :
    Truthful { s.onOmxEvent c with pending := cs, reported := s.reported ++ [c] } := by
  have hloaded : c = .stopLoaded → ¬ s.Watching := by
    rintro rfl (hp | hp | hp) <;>
      rcases h.loaded_sent (by rw [hpending]; exact List.mem_cons_self) with hp' | hp' <;>
        exact absurd (hp.symm.trans hp') (by decide)
  constructor
  · intro hmem
    simpa using h.loaded_sent (by rw [hpending]; exact List.mem_cons_of_mem _ hmem)
  · intro hwatch
    have hw : s.Watching := by simpa [Watching] using hwatch
    cases c with
    | setConfigIdle => exact absurd hw (hc rfl)
    | stopLoaded => exact absurd hw (hloaded rfl)
    | startExecuting =>
        rcases h.state hw with hstart | ⟨hidle, hrep⟩
        · exact .inl hstart
        · exact .inr ⟨hidle, List.mem_append_left _ hrep⟩
    | stopIdle =>
        refine .inr ⟨?_, List.mem_append_right _ (List.mem_singleton_self _)⟩
        rcases h.state hw with hstart | ⟨hidle, -⟩
        · simp [onOmxEvent, hstart]
        · simp [onOmxEvent, hidle]
  · intro hwaiting hsig
    have hp : s.pc = .waiting := by simpa using hwaiting
    have hw : s.Watching := .inr (.inr hp)
    cases c with
    | setConfigIdle => exact absurd hw (hc rfl)
    | stopLoaded => exact absurd hw (hloaded rfl)
    | startExecuting => exact List.mem_append_left _ (h.signalled hp hsig)
    | stopIdle => exact List.mem_append_right _ (List.mem_singleton_self _)
  · intro ht
    exact List.mem_append_left _ (h.timedOut (by simpa using ht))

/-- **Every step of a run keeps it.** -/
theorem step {a : OmxAct} (h : Truthful s) (ha : Expected a s) (hs : step a s = some s') :
    Truthful s' := by
  cases a with
  | setConfig accepted =>
      simp only [OmxEncoder.step] at hs
      split_ifs at hs with hp
      obtain rfl := Option.some.inj hs
      exact h.send (by simp) (by simp [hp]) (by simp) (by simp)
  | start accepted =>
      simp only [OmxEncoder.step] at hs
      split_ifs at hs with hp
      obtain rfl := Option.some.inj hs
      exact h.send (by simp) (by simp [hp]) (by simp) (by simp)
  | store =>
      simp only [OmxEncoder.step] at hs
      split_ifs at hs with hp
      obtain rfl := Option.some.inj hs
      refine ⟨fun hmem => ?_, fun _ => .inl rfl, by simp, h.timedOut⟩
      simpa [hp] using h.loaded_sent hmem
  | stop accepted =>
      simp only [OmxEncoder.step] at hs
      split_ifs at hs with hp
      · obtain rfl := Option.some.inj hs
        exact h.send (by simp) (by simp [hp]) (fun _ => .inl hp) (by simp)
      · obtain rfl := Option.some.inj hs
        exact h.send (by simp) (by simp [hp]) (by simp) (by simp)
  | check =>
      simp only [OmxEncoder.step] at hs
      split_ifs at hs with hp hidle
      · obtain rfl := Option.some.inj hs
        refine h.leaveWait (by simp [hp]) fun _ => ?_
        simpa [hidle] using h.state (.inr (.inl hp))
      · obtain rfl := Option.some.inj hs
        refine ⟨fun hmem => ?_, fun _ => h.state (.inr (.inl hp)), by simp, h.timedOut⟩
        simpa [hp] using h.loaded_sent hmem
  | wake w =>
      cases w with
      | signal =>
          simp only [OmxEncoder.step] at hs
          split_ifs at hs with hp hsig
          obtain rfl := Option.some.inj hs
          exact h.leaveWait (by simp [hp]) fun _ => h.signalled hp hsig
      | spurious => exact absurd ha id
      | timeout =>
          simp only [OmxEncoder.step] at hs
          split_ifs at hs with hp
          obtain rfl := Option.some.inj hs
          exact h.leaveWait (by simp [hp]) (by simp)
  | sendLoaded accepted =>
      simp only [OmxEncoder.step] at hs
      split_ifs at hs with hp
      · obtain rfl := Option.some.inj hs
        exact h.send (by simp) (by simp [hp]) (by simp) (by simp)
      · obtain rfl := Option.some.inj hs
        exact h.send (by simp) (by simp [hp]) (by simp) (by simp)
  | freeBuffers =>
      simp only [OmxEncoder.step] at hs
      split_ifs at hs with hp
      obtain rfl := Option.some.inj hs
      exact ⟨fun _ => .inr rfl, by simp [Watching], by simp, h.timedOut⟩
  | report =>
      simp only [OmxEncoder.step] at hs
      cases hpending : s.pending with
      | nil => simp [hpending] at hs
      | cons c cs =>
          simp only [hpending] at hs
          obtain rfl := Option.some.inj hs
          refine h.report hpending fun hc => ha ?_
          rw [hpending, hc]
          rfl

end Truthful

/-- **`stop` leaves its wait without a time-out only after its own Idle was reported**, whatever
`m_State` held at first. -/
theorem idle_reported {state : OmxRunState} {s : OmxEncoder}
    (h : Reachable step Expected (new state) s) (hleft : s.timedOut = some false) :
    .stopIdle ∈ s.reported :=
  (h.invariant (Truthful.new state) fun _ _ _ _ hi ha hs => hi.step ha hs).timedOut hleft

instance (a : OmxAct) (s : OmxEncoder) : Decidable (Expected a s) := by
  cases a with
  | report => unfold Expected; infer_instance
  | wake w => cases w <;> unfold Expected <;> infer_instance
  | _ => unfold Expected; infer_instance

/-- Each command is reported before the thread goes on, and that of `stop` while it waits. -/
theorem idle_reported_in_time :
    ∃ s, Reachable step Expected (new .other) s ∧ s.timedOut = some false ∧
      .stopIdle ∈ s.reported := by
  obtain ⟨s, hr, hleft⟩ :
      ∃ s, Reachable step Expected (new .other) s ∧ s.timedOut = some false :=
    Reachable.exists_of_exec
      [.setConfig true, .start true, .report, .store, .report, .stop true, .check, .report,
        .wake .signal]
      (by decide +kernel)
  exact ⟨s, hr, hleft, idle_reported hr hleft⟩

/-- The component reports the Idle of `setConfig` after `start` has stored `STATE_START`: `stop`
does not wait, and frees the buffers with nothing else reported. -/
theorem late_idle_taken_for_own :
    ¬ ∀ s, Reachable step (fun _ _ => True) (new .other) s → s.timedOut = some false →
      .stopIdle ∈ s.reported := by
  intro h
  obtain ⟨s, hr, hleft, hpc, hreported⟩ :
      ∃ s, Reachable step (fun _ _ => True) (new .other) s ∧ s.timedOut = some false ∧
        s.pc = .stopped ∧ s.reported = [.setConfigIdle] :=
    Reachable.exists_of_exec
      [.setConfig true, .start true, .store, .report, .stop true, .check, .sendLoaded true,
        .freeBuffers]
      (by decide +kernel)
  have hmem := h s hr hleft
  rw [hreported] at hmem
  exact absurd hmem (by decide)

end OmxEncoder

end QCamx

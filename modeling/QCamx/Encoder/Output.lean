import QCamx.Encoder.Step
import QCamx.Lib.Tokens
import QCamx.Lib.Trace

/-!
# The output port of the encoder

The way of the encoded stream into the file of `QCamxTestVideoEncoder`: `start` sends the headers of
`m_outbufs` to the OMX component, which fills them and gives them back through `onFillBufDone`; the
out-flight thread (`outFilghtFunc`) writes each to `mOutFd` (`Write`) and sends it to the component
again. `stop` posts `LOOP_EXIT` and flushes nothing here. The holder is set and the file open.

* `OutputPort.step`: a critical section of one of the threads, or of the component;
* `OutputPort.Step`: the steps by what they do;
* **`stream_written`**: the file is the stream up to what waits in the queue;
* **`out_headers_in_one_place`**: every header is in one place exactly when none was refused, and a
  refused one comes to none again;
* **`out_flight_exits`**: the out-flight thread leaves its loop.
-/

namespace QCamx

open Guarded Tokens

/-! ## State -/

/-- `OmxMsgQ` in `m_outfightQ`. -/
inductive OutMsg
  | emptybufToOutputidx (buffer : Header)
  | write (buffer : Header)
  | loopExit
  deriving DecidableEq, Repr

/-- The program counter of the out-flight thread; `write` lies before `m_Holder->Write` and `fill`
before `OMX_FillThisBuffer`. -/
inductive OutFlightPc
  | top
  | write (h : Header)
  | fill (h : Header)
  | exited
  deriving DecidableEq, Repr

structure OutputPort where
  /-- The headers whose message `start` has posted. -/
  started : ℕ := 0
  outfightQ : List OutMsg := []
  pc : OutFlightPc := .top
  /-- The headers the OMX component has accepted and not returned. -/
  component : List Header := []
  /-- The `nFilledLen` bytes at `pBuffer` of each header. -/
  filled : Header → List UInt8
  /-- What `mOutFd` holds. -/
  file : List UInt8 := []
  /-- `stop` has posted `LOOP_EXIT`. -/
  exitPosted : Bool := false
  /-- What the component has returned before that, and after it. -/
  encoded : List (List UInt8) := []
  late : List (List UInt8) := []
  /-- The headers that `OMX_FillThisBuffer` has refused. -/
  rejected : List Header := []

/-- `m_outbufs`, of `m_nOutputBufferCount` elements. -/
structure OutputSetup where
  outbufs : List Header
  nodup_outbufs : outbufs.Nodup

inductive OutputAct
  /-- `start` posts the message of the next header. -/
  | start
  /-- The component writes to a header it holds, or returns one. -/
  | encode (h : Header) (bytes : List UInt8)
  | fillBufDone (h : Header)
  /-- The out-flight thread. -/
  | take | write
  | fill (accepted : Bool)
  /-- `stop` posts `LOOP_EXIT`. -/
  | stop
  deriving DecidableEq

/-- The header of a message. -/
def OutMsg.header : OutMsg → Option Header
  | emptybufToOutputidx h | write h => some h
  | loopExit => none

/-- The header that a message has bytes in. -/
def OutMsg.written : OutMsg → Option Header
  | write h => some h
  | emptybufToOutputidx _ | loopExit => none

/-- The header in the hands of the out-flight thread. -/
def OutFlightPc.header : OutFlightPc → Option Header
  | write h | fill h => some h
  | top | exited => none

/-- The header of which it has yet to write the bytes. -/
def OutFlightPc.written : OutFlightPc → Option Header
  | write h => some h
  | top | fill _ | exited => none

/-- The steps that it makes with that header. -/
def OutFlightPc.rank : OutFlightPc → ℕ
  | top | exited => 0
  | fill _ => 1
  | write _ => 2

namespace OutputPort

variable (cfg : OutputSetup)

/-! ## Steps -/

/-- The port before `start`; nothing has written to the headers. -/
def new (filled : Header → List UInt8) : OutputPort where
  filled := filled

/-- `onFillBufDone`; the bytes count as returned. -/
def onFillBufDone (h : Header) (s : OutputPort) : OutputPort :=
  { s with
    outfightQ := s.outfightQ ++ [.write h]
    encoded := if s.exitPosted then s.encoded else s.encoded ++ [s.filled h]
    late := if s.exitPosted then s.late ++ [s.filled h] else s.late }

/-- A step of the out-flight thread that takes a message. -/
def take (s : OutputPort) : Option OutputPort :=
  match s.pc, s.outfightQ with
  | .top, .emptybufToOutputidx h :: q => some { s with outfightQ := q, pc := .fill h }
  | .top, .write h :: q => some { s with outfightQ := q, pc := .write h }
  | .top, .loopExit :: q => some { s with outfightQ := q, pc := .exited }
  | _, _ => none

def step (a : OutputAct) (s : OutputPort) : Option OutputPort :=
  match a with
  | .start => (cfg.outbufs[s.started]?).map fun h =>
      { s with started := s.started + 1, outfightQ := s.outfightQ ++ [.emptybufToOutputidx h] }
  | .encode h bytes =>
      if h ∈ s.component then some { s with filled := Function.update s.filled h bytes } else none
  | .fillBufDone h =>
      if h ∈ s.component then
        some { s.onFillBufDone h with component := s.component.erase h }
      else none
  | .take => s.take
  | .write => match s.pc with
    | .write h => some { s with file := s.file ++ s.filled h, pc := .fill h }
    | _ => none
  | .fill accepted => match s.pc with
    | .fill h =>
        if accepted then some { s with pc := .top, component := h :: s.component }
        else some { s with pc := .top, rejected := h :: s.rejected }
    | _ => none
  | .stop =>
      if s.started = cfg.outbufs.length ∧ s.exitPosted = false then
        some { s with outfightQ := s.outfightQ ++ [.loopExit], exitPosted := true }
      else none

/-! ## What a step can do -/

/-- The steps of the port. -/
inductive Step (s : OutputPort) : OutputAct → OutputPort → Prop
  | start {h : Header} (hh : cfg.outbufs[s.started]? = some h) :
      Step s .start
        { s with started := s.started + 1, outfightQ := s.outfightQ ++ [.emptybufToOutputidx h] }
  | encode {h : Header} {bytes : List UInt8} (hh : h ∈ s.component) :
      Step s (.encode h bytes) { s with filled := Function.update s.filled h bytes }
  | fillBufDone {h : Header} (hh : h ∈ s.component) :
      Step s (.fillBufDone h) { s.onFillBufDone h with component := s.component.erase h }
  | takeEmpty {h : Header} {q : List OutMsg} (hpc : s.pc = .top)
      (hq : s.outfightQ = .emptybufToOutputidx h :: q) :
      Step s .take { s with outfightQ := q, pc := .fill h }
  | takeWrite {h : Header} {q : List OutMsg} (hpc : s.pc = .top)
      (hq : s.outfightQ = .write h :: q) : Step s .take { s with outfightQ := q, pc := .write h }
  | takeExit {q : List OutMsg} (hpc : s.pc = .top) (hq : s.outfightQ = .loopExit :: q) :
      Step s .take { s with outfightQ := q, pc := .exited }
  | write {h : Header} (hpc : s.pc = .write h) :
      Step s .write { s with file := s.file ++ s.filled h, pc := .fill h }
  | accept {h : Header} (hpc : s.pc = .fill h) :
      Step s (.fill true) { s with pc := .top, component := h :: s.component }
  | reject {h : Header} (hpc : s.pc = .fill h) :
      Step s (.fill false) { s with pc := .top, rejected := h :: s.rejected }
  | stop (hstarted : s.started = cfg.outbufs.length) (hexit : s.exitPosted = false) :
      Step s .stop { s with outfightQ := s.outfightQ ++ [.loopExit], exitPosted := true }

variable {cfg} {s s' : OutputPort}

theorem Step.of_eq {a : OutputAct} (hs : step cfg a s = some s') : Step cfg s a s' := by
  cases a with
  | start =>
      obtain ⟨h, hh, rfl⟩ := Option.map_eq_some_iff.mp hs
      exact .start hh
  | encode h bytes =>
      rw [OutputPort.step] at hs
      split_ifs at hs with hh
      obtain rfl := Option.some.inj hs
      exact .encode hh
  | fillBufDone h =>
      rw [OutputPort.step] at hs
      split_ifs at hs with hh
      obtain rfl := Option.some.inj hs
      exact .fillBufDone hh
  | take =>
      rw [OutputPort.step, OutputPort.take] at hs
      split at hs
      case h_1 h q hpc hq =>
        obtain rfl := Option.some.inj hs
        exact .takeEmpty hpc hq
      case h_2 h q hpc hq =>
        obtain rfl := Option.some.inj hs
        exact .takeWrite hpc hq
      case h_3 q hpc hq =>
        obtain rfl := Option.some.inj hs
        exact .takeExit hpc hq
      case h_4 => cases hs
  | write =>
      simp only [OutputPort.step] at hs
      split at hs
      case h_1 h hpc =>
        obtain rfl := Option.some.inj hs
        exact .write hpc
      case h_2 => cases hs
  | fill accepted =>
      simp only [OutputPort.step] at hs
      split at hs
      case h_1 h hpc =>
        cases accepted with
        | true =>
            obtain rfl := Option.some.inj hs
            exact .accept hpc
        | false =>
            obtain rfl := Option.some.inj hs
            exact .reject hpc
      case h_2 => cases hs
  | stop =>
      rw [OutputPort.step] at hs
      split_ifs at hs with hstop
      obtain rfl := Option.some.inj hs
      exact .stop hstop.1 hstop.2

/-- `s` is reached from the port before `start` by steps the guard `ok` allows. -/
abbrev Run (cfg : OutputSetup) (ok : OutputAct → OutputPort → Prop) (filled : Header → List UInt8)
    (s : OutputPort) : Prop :=
  Reachable (step cfg) ok (new filled) s

/-- **The invariant rule for runs of the port.** -/
theorem Run.invariant {ok : OutputAct → OutputPort → Prop} {filled : Header → List UInt8}
    {P : OutputPort → Prop} (h : Run cfg ok filled s) (h₀ : P (new filled))
    (hstep : ∀ s a s', P s → Step cfg s a s' → P s') : P s :=
  Reachable.invariant h h₀ fun s a s' _ hP _ hs => hstep s a s' hP (.of_eq hs)

/-- An encoder with two output headers. -/
def twoHeaders : OutputSetup where
  outbufs := [1, 2]
  nodup_outbufs := by decide

/-- `start`, up to the component holding both headers. -/
def startOutput : List OutputAct := [.start, .start, .take, .fill true, .take, .fill true]

/-- The first header is returned before `stop`, the second after it. -/
def stopOutput : List OutputAct :=
  [.encode 1 [7, 8], .fillBufDone 1, .stop, .encode 2 [9], .fillBufDone 2]

/-! ## Headers -/

/-- The headers in the messages of `m_outfightQ`. -/
def queueHeaders (s : OutputPort) : List Header := s.outfightQ.filterMap OutMsg.header

/-- The headers that are somewhere; the last ones `start` has yet to post. -/
def headerPlaces (cfg : OutputSetup) (s : OutputPort) : List Header :=
  s.queueHeaders ++ s.pc.header.toList ++ s.component ++ cfg.outbufs.drop s.started

theorem held_step {a : OutputAct} (h : Held cfg.outbufs (headerPlaces cfg s) s.rejected)
    (hs : Step cfg s a s') : Held cfg.outbufs (headerPlaces cfg s') s'.rejected := by
  cases hs with
  | @start h' hh =>
      refine h.moved (List.perm_iff_count.mpr fun x => ?_)
      have hdrop : cfg.outbufs.drop s.started = h' :: cfg.outbufs.drop (s.started + 1) := by
        obtain ⟨hlt, rfl⟩ := List.getElem?_eq_some_iff.mp hh
        exact List.drop_eq_getElem_cons hlt
      simp only [headerPlaces, queueHeaders, hdrop, List.filterMap_append, List.filterMap_cons,
        List.filterMap_nil, OutMsg.header, List.count_append, List.count_cons, List.count_nil]
      omega
  | encode => exact h
  | @fillBufDone h' hh =>
      refine h.moved (List.perm_iff_count.mpr fun x => ?_)
      have herase := (List.perm_cons_erase hh).count_eq x
      simp only [headerPlaces, queueHeaders, onFillBufDone, List.filterMap_append,
        List.filterMap_cons, List.filterMap_nil, OutMsg.header, List.count_append,
        List.count_cons, List.count_nil] at herase ⊢
      omega
  | takeEmpty hpc hq | takeWrite hpc hq =>
      refine h.moved (List.perm_iff_count.mpr fun x => ?_)
      simp only [headerPlaces, queueHeaders, hpc, hq, List.filterMap_cons, OutMsg.header,
        OutFlightPc.header, Option.toList_some, Option.toList_none, List.count_append,
        List.count_cons, List.count_nil]
      omega
  | takeExit hpc hq =>
      refine h.moved (List.Perm.of_eq ?_)
      simp [headerPlaces, queueHeaders, hpc, hq, List.filterMap_cons, OutMsg.header,
        OutFlightPc.header]
  | write hpc =>
      refine h.moved (List.Perm.of_eq ?_)
      simp [headerPlaces, queueHeaders, hpc, OutFlightPc.header]
  | accept hpc =>
      refine h.moved (List.perm_iff_count.mpr fun x => ?_)
      simp only [headerPlaces, queueHeaders, hpc, OutFlightPc.header, Option.toList_some,
        Option.toList_none, List.count_append, List.count_cons, List.count_nil]
      omega
  | @reject h' hpc =>
      refine h.dropped (x := h') (List.perm_iff_count.mpr fun x => ?_)
      simp only [headerPlaces, queueHeaders, hpc, OutFlightPc.header, Option.toList_some,
        Option.toList_none, List.count_append, List.count_cons, List.count_nil]
      omega
  | stop =>
      refine h.moved (List.Perm.of_eq ?_)
      simp [headerPlaces, queueHeaders, OutMsg.header]

/-! ## The stream -/

/-- A message before `LOOP_EXIT`. -/
def notExit (m : OutMsg) : Bool := m ≠ .loopExit

/-- The messages that the out-flight thread will get to, and those it will not. -/
def ahead (s : OutputPort) : List OutMsg :=
  if s.pc = .exited then [] else s.outfightQ.takeWhile notExit

def behind (s : OutputPort) : List OutMsg :=
  if s.pc = .exited then s.outfightQ else (s.outfightQ.dropWhile notExit).tail

/-- The bytes that messages stand for. -/
def bytes (s : OutputPort) (msgs : List OutMsg) : List (List UInt8) :=
  (msgs.filterMap OutMsg.written).map s.filled

/-- The bytes that the out-flight thread has yet to write, in order. -/
def unwritten (s : OutputPort) : List (List UInt8) :=
  s.pc.written.toList.map s.filled ++ s.bytes s.ahead

/-- A message posted after `LOOP_EXIT` comes to stand behind it. -/
theorem span_append_of_mem {q : List OutMsg} (h : .loopExit ∈ q) (m : OutMsg) :
    (q ++ [m]).takeWhile notExit = q.takeWhile notExit ∧
      (q ++ [m]).dropWhile notExit = q.dropWhile notExit ++ [m] := by
  induction q with
  | nil => cases h
  | cons n q ih =>
      by_cases hn : n = .loopExit
      · subst hn
        simp [notExit]
      · obtain ⟨htake, hdrop⟩ := ih (List.mem_of_ne_of_mem (Ne.symm hn) h)
        simp [notExit, hn] at htake hdrop ⊢
        exact ⟨htake, hdrop⟩

theorem forall_notExit {q : List OutMsg} (h : .loopExit ∉ q) : ∀ m ∈ q, notExit m = true := by
  intro m hm
  have hne : m ≠ .loopExit := fun he => h (he ▸ hm)
  simpa [notExit] using hne

/-- The headers that wait for the out-flight thread. -/
def waiting (s : OutputPort) : List Header := s.queueHeaders ++ s.pc.header.toList

theorem mem_waiting_of_written {msgs : List OutMsg} (hsub : msgs ⊆ s.outfightQ) {x : Header}
    (hx : x ∈ msgs.filterMap OutMsg.written) : x ∈ s.waiting := by
  obtain ⟨m, hm, hwritten⟩ := List.mem_filterMap.mp hx
  refine List.mem_append_left _ (List.mem_filterMap.mpr ⟨m, hsub hm, ?_⟩)
  cases m with
  | write => exact hwritten
  | emptybufToOutputidx | loopExit => cases hwritten

theorem ahead_subset (s : OutputPort) : s.ahead ⊆ s.outfightQ := by
  rw [ahead]
  split_ifs
  · exact List.nil_subset _
  · exact (List.takeWhile_sublist _).subset

theorem behind_subset (s : OutputPort) : s.behind ⊆ s.outfightQ := by
  rw [behind]
  split_ifs
  · exact List.Subset.refl _
  · exact ((List.tail_sublist _).trans (List.dropWhile_sublist _)).subset

theorem mem_waiting_of_pc {x : Header} (hx : x ∈ s.pc.written.toList) : x ∈ s.waiting := by
  refine List.mem_append_right _ ?_
  cases hpc : s.pc <;> simp_all [OutFlightPc.written, OutFlightPc.header]

theorem filled_of_waiting (h : Held cfg.outbufs (headerPlaces cfg s) s.rejected) {y : Header}
    (hy : y ∈ s.component) (bytes : List UInt8) :
    ∀ x ∈ s.waiting, Function.update s.filled y bytes x = s.filled x := by
  intro x hx
  have hnodup := h.nodup cfg.nodup_outbufs
  have hdisjoint := List.disjoint_of_nodup_append (List.Nodup.of_append_left hnodup)
  have hne : x ≠ y := by
    intro he
    exact hdisjoint hx (he ▸ hy)
  rw [Function.update_of_ne hne]

/-- What the file and the queue have in common with the stream. -/
structure StreamInv (s : OutputPort) : Prop where
  exitPosted : s.exitPosted = true ↔ s.pc = .exited ∨ .loopExit ∈ s.outfightQ
  file : s.file ++ s.unwritten.flatten = s.encoded.flatten
  late : s.bytes s.behind = s.late

namespace StreamInv

theorem post {t : OutputPort} (h : StreamInv s) {m : OutMsg} (hm : m ≠ .loopExit)
    (hpc : t.pc = s.pc) (hq : t.outfightQ = s.outfightQ ++ [m]) :
    t.ahead = (if s.exitPosted then s.ahead else s.ahead ++ [m]) ∧
      t.behind = if s.exitPosted then s.behind ++ [m] else s.behind := by
  rw [ahead, behind, hpc, hq, ahead, behind]
  cases hexit : s.exitPosted with
  | true =>
      by_cases hexited : s.pc = .exited
      · simp [hexited]
      · have hmem := (h.exitPosted.mp hexit).resolve_left hexited
        obtain ⟨htake, hdrop⟩ := span_append_of_mem hmem m
        have hne : s.outfightQ.dropWhile notExit ≠ [] := by
          rw [ne_eq, List.dropWhile_eq_nil_iff]
          intro hall
          exact absurd (hall _ hmem) (by decide)
        simp [hexited, htake, hdrop, List.tail_append_of_ne_nil hne]
  | false =>
      have hnot := h.exitPosted.not.mp (by simp [hexit])
      rw [not_or] at hnot
      have hall := forall_notExit hnot.2
      have hdrop := List.dropWhile_eq_nil_iff.mpr hall
      have htake := List.takeWhile_eq_self_iff.mpr hall
      have hm' : notExit m = true := by simpa [notExit] using hm
      simp [hnot.1, hdrop, htake, List.takeWhile_append, List.dropWhile_append, hm']

theorem congr (h : StreamInv s) (hexit : s'.exitPosted = s.exitPosted)
    (hmem : s'.pc = .exited ∨ .loopExit ∈ s'.outfightQ ↔ s.pc = .exited ∨ .loopExit ∈ s.outfightQ)
    (hfile : s'.file = s.file) (hunwritten : s'.unwritten = s.unwritten)
    (hencoded : s'.encoded = s.encoded) (hbehind : s'.bytes s'.behind = s.bytes s.behind)
    (hlate : s'.late = s.late) : StreamInv s' where
  exitPosted := by rw [hexit, hmem, h.exitPosted]
  file := by rw [hfile, hunwritten, hencoded, h.file]
  late := by rw [hbehind, hlate, h.late]

theorem init (filled : Header → List UInt8) : StreamInv (new filled) := by
  constructor <;> simp [new, unwritten, bytes, ahead, behind, OutFlightPc.written]

theorem step {a : OutputAct} (h : StreamInv s)
    (hheld : Held cfg.outbufs (headerPlaces cfg s) s.rejected) (hs : Step cfg s a s') :
    StreamInv s' := by
  cases hs with
  | @start h' hh =>
      obtain ⟨hahead, hbehind⟩ := h.post (m := .emptybufToOutputidx h')
        (t := { s with started := s.started + 1, outfightQ := s.outfightQ ++ [_] }) (by simp)
        rfl rfl
      refine h.congr rfl (by simp) rfl ?_ rfl ?_ rfl
      · rw [unwritten, hahead, unwritten]
        split_ifs <;> simp [bytes, OutMsg.written]
      · rw [hbehind]
        split_ifs <;> simp [bytes, OutMsg.written]
  | @encode h' bytes hh =>
      have hother := filled_of_waiting hheld hh bytes
      refine h.congr rfl Iff.rfl rfl ?_ rfl ?_ rfl
      · rw [unwritten, unwritten]
        refine congrArg₂ (· ++ ·) (List.map_congr_left fun x hx => ?_)
          (List.map_congr_left fun x hx => ?_)
        · exact hother x (mem_waiting_of_pc hx)
        · exact hother x (mem_waiting_of_written s.ahead_subset hx)
      · exact List.map_congr_left fun x hx => hother x (mem_waiting_of_written s.behind_subset hx)
  | @fillBufDone h' hh =>
      obtain ⟨hahead, hbehind⟩ := h.post (m := .write h')
        (t := { s.onFillBufDone h' with component := s.component.erase h' }) (by simp) rfl rfl
      constructor
      · change s.exitPosted = true ↔ s.pc = .exited ∨ .loopExit ∈ s.outfightQ ++ [.write h']
        simpa using h.exitPosted
      · change s.file ++ (_ ++ bytes _ (ahead _)).flatten = _
        rw [hahead]
        change s.file ++ (s.pc.written.toList.map s.filled ++ s.bytes _).flatten =
          (if s.exitPosted then s.encoded else s.encoded ++ [s.filled h']).flatten
        have hfile := h.file
        rw [unwritten] at hfile
        split_ifs
        · exact hfile
        · simp only [List.flatten_append, ← hfile, bytes, List.filterMap_append, List.map_append]
          simp [OutMsg.written]
      · rw [hbehind]
        change s.bytes _ = if s.exitPosted then s.late ++ [s.filled h'] else s.late
        have hlate := h.late
        split_ifs
        · rw [← hlate]
          simp [bytes, OutMsg.written]
        · exact hlate
  | @takeEmpty h' q hpc hq =>
      refine h.congr rfl (by simp [hpc, hq]) rfl ?_ rfl ?_ rfl
      · simp [unwritten, ahead, bytes, hpc, hq, notExit, List.filterMap_cons, OutMsg.written,
          OutFlightPc.written]
      · simp [behind, bytes, hpc, hq, notExit]
  | @takeWrite h' q hpc hq =>
      refine h.congr rfl (by simp [hpc, hq]) rfl ?_ rfl ?_ rfl
      · simp [unwritten, ahead, bytes, hpc, hq, notExit, OutMsg.written, OutFlightPc.written]
      · simp [behind, bytes, hpc, hq, notExit]
  | @takeExit q hpc hq =>
      refine h.congr rfl (by simp [hpc, hq]) rfl ?_ rfl ?_ rfl
      · simp [unwritten, ahead, bytes, hpc, hq, notExit, OutFlightPc.written]
      · simp [behind, bytes, hpc, hq, notExit]
  | @write h' hpc =>
      have hfile := h.file
      refine ⟨?_, ?_, ?_⟩
      · simpa [hpc] using h.exitPosted
      · simpa [unwritten, ahead, bytes, hpc, OutFlightPc.written] using hfile
      · simpa [behind, bytes, hpc] using h.late
  | accept hpc | reject hpc =>
      refine h.congr rfl (by simp [hpc]) rfl ?_ rfl ?_ rfl
      · simp [unwritten, ahead, bytes, hpc, OutFlightPc.written]
      · simp [behind, bytes, hpc]
  | stop hstarted hexit =>
      have hnot := h.exitPosted.not.mp (by simp [hexit])
      rw [not_or] at hnot
      have hall := forall_notExit hnot.2
      have hdrop := List.dropWhile_eq_nil_iff.mpr hall
      have htake := List.takeWhile_eq_self_iff.mpr hall
      refine ⟨by simp, ?_, ?_⟩
      · have hfile := h.file
        simpa [unwritten, ahead, bytes, hnot.1, List.takeWhile_append, htake, notExit] using hfile
      · have hlate := h.late
        simpa [behind, bytes, hnot.1, List.dropWhile_append, hdrop, notExit] using hlate

end StreamInv

/-- What holds of the port at any time. -/
structure Inv (cfg : OutputSetup) (s : OutputPort) : Prop where
  held : Held cfg.outbufs (headerPlaces cfg s) s.rejected
  stream : StreamInv s

theorem Inv.step {a : OutputAct} (h : Inv cfg s) (hs : Step cfg s a s') : Inv cfg s' :=
  ⟨held_step h.held hs, h.stream.step h.held hs⟩

theorem inv {ok : OutputAct → OutputPort → Prop} {filled : Header → List UInt8}
    (h : Run cfg ok filled s) : Inv cfg s :=
  h.invariant (P := Inv cfg) ⟨.refl cfg.outbufs, .init filled⟩ fun _ _ _ hi hs => hi.step hs

/-- A header is in exactly one place: not posted yet, in the queue, in the hands of the out-flight
thread, or with the component. -/
def InOnePlace (cfg : OutputSetup) (s : OutputPort) (h : Header) : Prop :=
  (cfg.outbufs.drop s.started).count h + s.queueHeaders.count h + s.pc.header.toList.count h +
    s.component.count h = 1

theorem inOnePlace_iff {h : Header} : InOnePlace cfg s h ↔ (headerPlaces cfg s).count h = 1 := by
  simp only [InOnePlace, headerPlaces, List.count_append]
  exact ⟨fun hone => by omega, fun hone => by omega⟩

theorem Step.rejected_subset {a : OutputAct} (hs : Step cfg s a s') : s.rejected ⊆ s'.rejected := by
  cases hs with
  | reject => exact List.subset_cons_self _ _
  | start | encode | fillBufDone | takeEmpty | takeWrite | takeExit | write | accept | stop =>
      exact List.Subset.refl _

/-- **At any time every header of the output port is in a place or was refused, not both; each is
in exactly one place if and only if the component has refused none; and one that was refused comes
to no place again.** -/
theorem out_headers_in_one_place {ok : OutputAct → OutputPort → Prop}
    {filled : Header → List UInt8} (h : Run cfg ok filled s) :
    (headerPlaces cfg s ++ s.rejected).Perm cfg.outbufs ∧
      ((∀ x ∈ cfg.outbufs, InOnePlace cfg s x) ↔ s.rejected = []) ∧
      ∀ s', Reachable (step cfg) ok s s' → ∀ x ∈ s.rejected, x ∉ headerPlaces cfg s' := by
  refine ⟨(inv h).held, ?_, fun s' hr x hx => ?_⟩
  · simp only [inOnePlace_iff]
    exact (inv h).held.one_place_iff cfg.nodup_outbufs
  · have hlater : Inv cfg s' ∧ s.rejected ⊆ s'.rejected :=
      hr.invariant (P := fun t => Inv cfg t ∧ s.rejected ⊆ t.rejected)
        ⟨inv h, List.Subset.refl _⟩ fun t a t' _ hi _ hs =>
          ⟨hi.1.step (.of_eq hs), List.Subset.trans hi.2 (Step.of_eq hs).rejected_subset⟩
    exact hlater.1.held.notMem_places cfg.nodup_outbufs (hlater.2 hx)

/-- One header is refused while the other is still to be posted. -/
theorem refused_before_second_start :
    ∃ s, Run twoHeaders (fun _ _ => True) (fun _ => []) s ∧ s.started = 1 ∧ s.rejected = [1] ∧
      InOnePlace twoHeaders s 2 ∧ ¬ (∀ x ∈ [1, 2], InOnePlace twoHeaders s x) ∧
      ∀ s', Reachable (step twoHeaders) (fun _ _ => True) s s' →
        1 ∉ headerPlaces twoHeaders s' := by
  obtain ⟨s, hr, hstarted, hrejected, htwo⟩ :
      ∃ s, Run twoHeaders (fun _ _ => True) (fun _ => []) s ∧ s.started = 1 ∧ s.rejected = [1] ∧
        (headerPlaces twoHeaders s).count 2 = 1 :=
    Reachable.exists_of_exec [.start, .take, .fill false] (by decide +kernel)
  obtain ⟨-, hone, hgone⟩ := out_headers_in_one_place hr
  refine ⟨s, hr, hstarted, hrejected, inOnePlace_iff.mpr htwo, fun hall => ?_, fun s' hr' => ?_⟩
  · have hnil := hone.mp hall
    rw [hrejected] at hnil
    cases hnil
  · exact hgone s' hr' 1 (by simp [hrejected])

/-- **The file is the stream**: at any time it holds what the component has returned, in order and
byte for byte, but for what still waits before `LOOP_EXIT`; when the out-flight thread has left its
loop, it holds all that was returned before `LOOP_EXIT` was posted and nothing that came later. -/
theorem stream_written {ok : OutputAct → OutputPort → Prop} {filled : Header → List UInt8}
    (h : Run cfg ok filled s) :
    s.file ++ s.unwritten.flatten = s.encoded.flatten ∧ s.bytes s.behind = s.late ∧
      (s.pc = .exited → s.file = s.encoded.flatten) := by
  have hinv := (inv h).stream
  refine ⟨hinv.file, hinv.late, fun hpc => ?_⟩
  have hfile := hinv.file
  rw [unwritten, ahead, if_pos hpc, hpc] at hfile
  simpa [bytes, OutFlightPc.written] using hfile

theorem stream_written_at_stop :
    ∃ s, Run twoHeaders (fun _ _ => True) (fun _ => []) s ∧ s.pc = .exited ∧ s.late = [[9]] ∧
      s.file = [7, 8] := by
  obtain ⟨s, hr, hpc, hlate, hencoded⟩ :
      ∃ s, Run twoHeaders (fun _ _ => True) (fun _ => []) s ∧ s.pc = .exited ∧ s.late = [[9]] ∧
        s.encoded = [[7, 8]] :=
    Reachable.exists_of_exec (startOutput ++ stopOutput ++ [.take, .write, .fill true, .take])
      (by decide +kernel)
  refine ⟨s, hr, hpc, hlate, ?_⟩
  rw [(stream_written hr).2.2 hpc, hencoded]
  rfl

/-! ## The end of the loop -/

/-- A step of the out-flight thread. -/
def isOutFlight : OutputAct → OutputPort → Bool
  | .take, _ | .write, _ | .fill _, _ => true
  | .start, _ | .encode .., _ | .fillBufDone _, _ | .stop, _ => false

/-- The steps that the out-flight thread has before it, once `LOOP_EXIT` is posted. -/
def stepsLeft (s : OutputPort) : ℕ :=
  if s.pc = .exited then 0 else 3 * (s.ahead.length + 1) + s.pc.rank

theorem Step.exitPosted {a : OutputAct} (hs : Step cfg s a s') (h : s.exitPosted = true) :
    s'.exitPosted = true := by
  cases hs with
  | stop => rfl
  | start | encode | fillBufDone | takeEmpty | takeWrite | takeExit | write | accept | reject =>
      exact h

theorem stepsLeft_step {a : OutputAct} (h : StreamInv s) (hexit : s.exitPosted = true)
    (hs : Step cfg s a s') :
    stepsLeft s' + (if isOutFlight a s then 1 else 0) ≤ stepsLeft s := by
  cases hs with
  | start hh =>
      obtain ⟨hahead, -⟩ := h.post (m := .emptybufToOutputidx _)
        (t := { s with started := s.started + 1, outfightQ := s.outfightQ ++ [_] }) (by simp)
        rfl rfl
      rw [stepsLeft, stepsLeft, hahead, if_pos hexit]
      exact le_rfl
  | encode => exact le_rfl
  | fillBufDone hh =>
      obtain ⟨hahead, -⟩ := h.post (m := .write _)
        (t := { s.onFillBufDone _ with component := s.component.erase _ }) (by simp) rfl rfl
      rw [stepsLeft, stepsLeft, hahead, if_pos hexit]
      exact le_rfl
  | takeEmpty hpc hq | takeWrite hpc hq =>
      simp [stepsLeft, ahead, hpc, hq, notExit, isOutFlight, OutFlightPc.rank]
      omega
  | takeExit hpc hq =>
      simp [stepsLeft, hpc, isOutFlight]
      omega
  | write hpc | accept hpc | reject hpc =>
      simp [stepsLeft, ahead, hpc, isOutFlight, OutFlightPc.rank]
  | stop hstarted hnot =>
      rw [hexit] at hnot
      cases hnot

theorem exists_step (h : StreamInv s) (hexit : s.exitPosted = true) (hpc : s.pc ≠ .exited) :
    ∃ a, isOutFlight a s = true ∧ (step cfg a s).isSome = true := by
  cases hc : s.pc with
  | top =>
      refine ⟨.take, rfl, ?_⟩
      have hmem := (h.exitPosted.mp hexit).resolve_left hpc
      cases hq : s.outfightQ with
      | nil =>
          rw [hq] at hmem
          cases hmem
      | cons m q => cases m <;> simp [step, take, hc, hq]
  | write h' => exact ⟨.write, rfl, by simp [step, hc]⟩
  | fill h' => exact ⟨.fill true, rfl, by simp [step, hc]⟩
  | exited => exact absurd hc hpc

/-- **The out-flight thread leaves its loop**: after `LOOP_EXIT` is posted it makes at most three
steps for each message before it and five more, whatever the component does, and it can make
them. -/
theorem out_flight_exits {ok : OutputAct → OutputPort → Prop} [∀ a s, Decidable (ok a s)]
    {filled : Header → List UInt8} {as : List OutputAct} (h : Run cfg ok filled s)
    (hexit : s.exitPosted = true) (hrun : exec (step cfg) ok as s = some s') :
    countAlong (step cfg) isOutFlight as s ≤ 3 * s.ahead.length + 5 ∧
      (s'.pc = .exited ∨ ∃ a, isOutFlight a s' = true ∧ (step cfg a s').isSome = true) := by
  have hstep : ∀ a t t', Inv cfg t ∧ t.exitPosted = true → ok a t → step cfg a t = some t' →
      Inv cfg t' ∧ t'.exitPosted = true := by
    intro a t t' hi _ hs
    exact ⟨hi.1.step (.of_eq hs), (Step.of_eq hs).exitPosted hi.2⟩
  constructor
  · have hcount := countAlong_add_le (p := isOutFlight) (μ := stepsLeft) hstep
      (fun _ _ _ hi _ hs => stepsLeft_step hi.1.stream hi.2 (.of_eq hs)) hrun ⟨inv h, hexit⟩
    have hrank : s.pc.rank ≤ 2 := by cases s.pc <;> simp [OutFlightPc.rank]
    have hleft : stepsLeft s ≤ 3 * (s.ahead.length + 1) + s.pc.rank := by
      rw [stepsLeft]
      split_ifs
      · exact Nat.zero_le _
      · exact le_rfl
    omega
  · obtain ⟨hi, hexit'⟩ := (Reachable.of_exec hrun).invariant
      (P := fun t => Inv cfg t ∧ t.exitPosted = true) ⟨inv h, hexit⟩
      fun t a t' _ hi hok hs => hstep a t t' hi hok hs
    by_cases hpc : s'.pc = .exited
    · exact Or.inl hpc
    · exact Or.inr (exists_step hi.stream hexit' hpc)

theorem out_flight_exits_behind_one_message :
    ∃ s s', ∃ as : List OutputAct, Run twoHeaders (fun _ _ => True) (fun _ => []) s ∧
      s.ahead.length = 1 ∧ exec (step twoHeaders) (fun _ _ => True) as s = some s' ∧
      s'.pc = .exited ∧ countAlong (step twoHeaders) isOutFlight as s ≤ 8 := by
  obtain ⟨s, hr, hexit, hahead, hexec⟩ :
      ∃ s, Run twoHeaders (fun _ _ => True) (fun _ => []) s ∧ s.exitPosted = true ∧
        s.ahead.length = 1 ∧
        (exec (step twoHeaders) (fun _ _ => True) [.take, .write, .fill true, .take] s).any
          (fun s => decide (s.pc = .exited)) = true :=
    Reachable.exists_of_exec (startOutput ++ stopOutput) (by decide +kernel)
  obtain ⟨s', hs', hpc⟩ := (Option.any_eq_true _ _).mp hexec
  obtain ⟨hcount, -⟩ := out_flight_exits hr hexit hs'
  exact ⟨s, s', _, hr, hahead, hs', of_decide_eq_true hpc, by omega⟩

end OutputPort

end QCamx

import QCamx.Config.MetaDump

/-!
# `QCamxLog`

The log of the metadata. A log with a path starts with `stderr` as its handle, and the first message
for a new path opens it and closes the handle it had.

* `QCamxLog`, `LogState`: the object, and the streams it has opened, closed and written to;
* `LogState.print`, `LogState.destroy`, `afterCalls`: the members and a sequence of calls;
* **`closed_afterCalls`**: every handle but the present one has been closed;
* **`current_of_print`**: a message goes to the stream of the present path;
* **`ownsStreams_iff`**: the streams are owned properly only where none is ever used.
-/

namespace QCamx

/-! ## The object -/

/-- A `FILE *`: `stderr`, or the result of the call of `fopen` with this number. -/
inductive FileStream
  | stderr
  | opened (n : ℕ)
  deriving DecidableEq, Repr

/-- `QCamxLog`. -/
structure QCamxLog extends DumpLog where
  fileHandle : FileStream
  tag : CString
  deriving DecidableEq, Repr

/-- A log and what has happened to files. -/
structure LogState where
  log : QCamxLog
  /-- The paths that `fopen` was called with. -/
  opened : List CString := []
  closed : List FileStream := []
  /-- The texts that `fprintf` has written to a stream. -/
  written : List (FileStream × CString) := []
  deriving DecidableEq, Repr

/-- `LOG_LENGHT`. -/
def logLength : ℕ := 256

/-- `QCamxLog(std::string)`. -/
def QCamxLog.new (logPath : CString) : QCamxLog where
  logType := if logPath = [] then .stdio else .file
  path := logPath
  isNewPath := decide (logPath ≠ [])
  fileHandle := .stderr
  tag := "[META] ".toList

namespace LogState

variable (s : LogState)

/-- `set_path`. -/
def setPath (logPath : CString) : LogState :=
  { s with log := { s.log with toDumpLog := s.log.toDumpLog.setPath logPath } }

/-- What `print` does for a new path: `fopen`, and `fclose` of the handle so far. -/
def openPath : LogState :=
  { s with
    log := { s.log with fileHandle := .opened s.opened.length, isNewPath := false }
    opened := s.opened ++ [s.log.path]
    closed := s.closed ++ [s.log.fileHandle] }

/-- `fprintf` of a message. -/
def write (message : CString) : LogState :=
  { s with written := s.written ++ [(s.log.fileHandle, s.log.tag ++ ' ' :: message)] }

/-- `print` of a text, of which `vsnprintf` keeps what fits into `message`. -/
def print (text : CString) : LogState :=
  let message := text.take (logLength - 1)
  match s.log.logType with
  | .stdio | .aloge => s
  | .file => if s.log.isNewPath then s.openPath.write message else s.write message

/-- `~QCamxLog`. -/
def destroy : LogState :=
  { s with
    log := { s.log with isNewPath := false }
    closed := if s.log.logType = .file then s.closed ++ [s.log.fileHandle] else s.closed }

end LogState

/-- The calls of a log. -/
inductive LogCall
  | setPath (logPath : CString)
  | print (text : CString)
  deriving DecidableEq, Repr

def LogState.call (s : LogState) : LogCall → LogState
  | .setPath logPath => s.setPath logPath
  | .print text => s.print text

/-- A log that was built with a path, after these calls. -/
def afterCalls (logPath : CString) (calls : List LogCall) : LogState :=
  calls.foldl LogState.call { log := .new logPath }

/-! ## The type of the log -/

/-- The type that `set_path` chooses. -/
def typeOfPath (logPath : CString) : LogType :=
  if logPath = "std".toList then .stdio
  else if logPath = "ALOGE".toList then .aloge
  else .file

/-- The type after a call. -/
def LogCall.logType (t : LogType) : LogCall → LogType
  | .setPath logPath => typeOfPath logPath
  | .print _ => t

/-- The type that the paths alone lead to. -/
def typeAfter (logPath : CString) (calls : List LogCall) : LogType :=
  calls.foldl LogCall.logType (if logPath = [] then .stdio else .file)

section Calls

variable {logPath : CString} {calls : List LogCall}

theorem afterCalls_concat (c : LogCall) :
    afterCalls logPath (calls ++ [c]) = (afterCalls logPath calls).call c := by
  rw [afterCalls, List.foldl_append]
  rfl

theorem logType_setPath (d : DumpLog) (p : CString) : (d.setPath p).logType = typeOfPath p := by
  unfold DumpLog.setPath typeOfPath
  split_ifs <;> rfl

theorem logType_print (s : LogState) (text : CString) :
    (s.print text).log.logType = s.log.logType := by
  unfold LogState.print
  split
  · rfl
  · rfl
  · split_ifs <;> rfl

theorem logType_afterCalls : (afterCalls logPath calls).log.logType = typeAfter logPath calls := by
  induction calls using List.reverseRecOn with
  | nil => rfl
  | append_singleton calls c ih =>
      rw [afterCalls_concat, typeAfter, List.foldl_append, ← typeAfter, ← ih]
      cases c with
      | setPath p => exact logType_setPath _ p
      | print text => exact logType_print _ text

end Calls

/-! ## The streams of a run -/

/-- The handle after `n` calls of `fopen`. -/
def handleAfter : ℕ → FileStream
  | 0 => .stderr
  | n + 1 => .opened n

/-- The handle is the last stream opened, and those before it are closed. -/
structure StreamInv (logPath : CString) (s : LogState) : Prop where
  handle : s.log.fileHandle = handleAfter s.opened.length
  closed : s.closed = (List.range s.opened.length).map handleAfter
  /-- Unless the log was built with the empty path, whose `set_path` opens nothing. -/
  current : logPath ≠ [] → s.log.isNewPath = false → s.opened.getLast? = some s.log.path

namespace StreamInv

variable {logPath : CString} {s : LogState}

theorem new (logPath : CString) : StreamInv logPath { log := .new logPath } where
  handle := rfl
  closed := rfl
  current hpath hnew := absurd hpath (by simpa [QCamxLog.new] using hnew)

theorem setPath (h : StreamInv logPath s) (p : CString) : StreamInv logPath (s.setPath p) where
  handle := h.handle
  closed := h.closed
  current hpath := by
    have hcurrent := h.current hpath
    simp only [LogState.setPath, DumpLog.setPath]
    split_ifs
    · exact hcurrent
    · exact hcurrent
    · intro hnew
      cases hnew
    · exact hcurrent

theorem openPath (h : StreamInv logPath s) : StreamInv logPath s.openPath where
  handle := by simp [LogState.openPath, handleAfter]
  closed := by
    simp only [LogState.openPath, h.closed, h.handle, List.length_append, List.length_singleton,
      List.range_succ, List.map_append, List.map_singleton]
  current _ _ := by simp [LogState.openPath]

theorem write (h : StreamInv logPath s) (message : CString) :
    StreamInv logPath (s.write message) :=
  ⟨h.handle, h.closed, h.current⟩

theorem print (h : StreamInv logPath s) (text : CString) : StreamInv logPath (s.print text) := by
  unfold LogState.print
  split
  · exact h
  · exact h
  · split_ifs
    · exact h.openPath.write _
    · exact h.write _

theorem call (h : StreamInv logPath s) (c : LogCall) : StreamInv logPath (s.call c) := by
  cases c with
  | setPath p => exact h.setPath p
  | print text => exact h.print text

end StreamInv

theorem streamInv (logPath : CString) (calls : List LogCall) :
    StreamInv logPath (afterCalls logPath calls) := by
  induction calls using List.reverseRecOn with
  | nil => exact StreamInv.new logPath
  | append_singleton calls c ih =>
      rw [afterCalls_concat]
      exact ih.call c

theorem handleAfter_injective : Function.Injective handleAfter := by
  intro m n h
  cases m <;> cases n <;> simp_all [handleAfter]

/-- **Every handle but the present one has been closed**, once, and at the end also that one if the
log is of type FILE. -/
theorem closed_afterCalls (logPath : CString) (calls : List LogCall) :
    (afterCalls logPath calls).destroy.closed =
      (List.range ((afterCalls logPath calls).opened.length +
        if typeAfter logPath calls = .file then 1 else 0)).map handleAfter := by
  have h := streamInv logPath calls
  rw [LogState.destroy, logType_afterCalls]
  split_ifs with hfile
  · simp only [h.closed, h.handle, List.range_succ, List.map_append, List.map_singleton]
  · exact h.closed

/-! ## Ownership -/

/-- The handle is the last stream opened for the present path, and open. -/
def LogState.Current (s : LogState) : Prop :=
  ∃ n, s.log.fileHandle = .opened n ∧ s.opened[n]? = some s.log.path ∧ .opened n ∉ s.closed

/-- The last text has gone to the handle. -/
def LogState.Wrote (text : CString) (s : LogState) : Prop :=
  s.written.getLast? =
    some (s.log.fileHandle, s.log.tag ++ ' ' :: text.take (logLength - 1))

/-- Every stream opened is closed exactly once and `stderr` never, and what is printed to a file
goes to the stream of the present path. -/
structure OwnsStreams (logPath : CString) (calls : List LogCall) : Prop where
  closedOnce : ∀ n < (afterCalls logPath calls).destroy.opened.length,
    (afterCalls logPath calls).destroy.closed.count (.opened n) = 1
  stderrOpen : .stderr ∉ (afterCalls logPath calls).destroy.closed
  current : ∀ pre text post, calls = pre ++ .print text :: post → typeAfter logPath pre = .file →
    (afterCalls logPath (pre ++ [.print text])).Current ∧
      (afterCalls logPath (pre ++ [.print text])).Wrote text

/-- No message is printed while the type is FILE, and at the end it is another one. -/
def NeverInFile (logPath : CString) (calls : List LogCall) : Prop :=
  (∀ pre text post, calls = pre ++ .print text :: post → typeAfter logPath pre ≠ .file) ∧
    typeAfter logPath calls ≠ .file

section Ownership

variable {logPath : CString} {calls : List LogCall}

theorem StreamInv.current_of_old {s : LogState} (h : StreamInv logPath s) (hpath : logPath ≠ [])
    (hnew : s.log.isNewPath = false) : s.Current := by
  have hlast := h.current hpath hnew
  obtain ⟨n, hn⟩ : ∃ n, s.opened.length = n + 1 := by
    cases hopened : s.opened with
    | nil =>
        rw [hopened] at hlast
        cases hlast
    | cons p ps => exact ⟨ps.length, rfl⟩
  refine ⟨n, by rw [h.handle, hn, handleAfter], ?_, ?_⟩
  · rw [List.getLast?_eq_getElem?, hn] at hlast
    exact hlast
  · rw [h.closed, hn]
    intro hmem
    obtain ⟨m, hm, heq⟩ := List.mem_map.mp hmem
    have hmn : m = n + 1 := handleAfter_injective heq
    have hlt := List.mem_range.mp hm
    omega

/-- **A message goes to the stream of the present path**, if the log was built with one. -/
theorem current_of_print (hpath : logPath ≠ []) {pre : List LogCall} {text : CString}
    (hfile : typeAfter logPath pre = .file) :
    (afterCalls logPath (pre ++ [.print text])).Current ∧
      (afterCalls logPath (pre ++ [.print text])).Wrote text := by
  have hinv := streamInv logPath (pre ++ [.print text])
  have hstate : afterCalls logPath (pre ++ [.print text]) =
      if (afterCalls logPath pre).log.isNewPath then
        (afterCalls logPath pre).openPath.write (text.take (logLength - 1))
      else (afterCalls logPath pre).write (text.take (logLength - 1)) := by
    rw [afterCalls_concat, LogState.call, LogState.print, logType_afterCalls, hfile]
  refine ⟨hinv.current_of_old hpath ?_, ?_⟩
  · rw [hstate]
    split_ifs with hnew
    · rfl
    · exact Bool.eq_false_iff.mpr hnew
  · rw [hstate]
    split_ifs
    · simp [LogState.Wrote, LogState.write]
    · simp [LogState.Wrote, LogState.write]

theorem opened_prefix_call (s : LogState) (c : LogCall) : s.opened <+: (s.call c).opened := by
  cases c with
  | setPath p => exact List.prefix_rfl
  | print text =>
      simp only [LogState.call, LogState.print]
      split
      · exact List.prefix_rfl
      · exact List.prefix_rfl
      · split_ifs
        · exact List.prefix_append _ _
        · exact List.prefix_rfl

theorem opened_prefix (pre post : List LogCall) :
    (afterCalls logPath pre).opened <+: (afterCalls logPath (pre ++ post)).opened := by
  induction post using List.reverseRecOn with
  | nil => rw [List.append_nil]
  | append_singleton post c ih =>
      rw [← List.append_assoc, afterCalls_concat]
      exact ih.trans (opened_prefix_call _ c)

/-- A run that opens a stream, or ends in the type FILE, closes `stderr`. -/
theorem stderr_mem_closed
    (h : 0 < (afterCalls logPath calls).opened.length ∨ typeAfter logPath calls = .file) :
    .stderr ∈ (afterCalls logPath calls).destroy.closed := by
  rw [closed_afterCalls]
  refine List.mem_map.mpr ⟨0, List.mem_range.mpr ?_, rfl⟩
  rcases h with hopened | hfile
  · omega
  · rw [if_pos hfile]
    omega

theorem opened_of_neverInFile
    (h : ∀ pre text post, calls = pre ++ .print text :: post → typeAfter logPath pre ≠ .file) :
    (afterCalls logPath calls).opened = [] := by
  induction calls using List.reverseRecOn with
  | nil => rfl
  | append_singleton calls c ih =>
      have hcalls : (afterCalls logPath calls).opened = [] := by
        apply ih
        intro pre text post hsplit
        exact h pre text (post ++ [c]) (by rw [hsplit, List.append_assoc, List.cons_append])
      rw [afterCalls_concat]
      cases c with
      | setPath p => exact hcalls
      | print text =>
          have hne := h calls text [] rfl
          rw [← logType_afterCalls] at hne
          rw [LogState.call, LogState.print]
          split
          · exact hcalls
          · exact hcalls
          · contradiction

/-- **The streams are owned properly** if and only if nothing is printed to a file and the log is
not of type FILE at the end. -/
theorem ownsStreams_iff : OwnsStreams logPath calls ↔ NeverInFile logPath calls := by
  constructor
  · intro h
    constructor
    · intro pre text post hsplit hfile
      obtain ⟨n, -, hn, -⟩ := (h.current pre text post hsplit hfile).1
      apply h.stderrOpen
      apply stderr_mem_closed
      have hprefix : (afterCalls logPath (pre ++ [.print text])).opened <+:
          (afterCalls logPath calls).opened := by
        have hcalls : calls = (pre ++ [.print text]) ++ post := by
          rw [hsplit, List.append_assoc, List.singleton_append]
        rw [hcalls]
        exact opened_prefix _ post
      have hlt := (List.getElem?_eq_some_iff.mp hn).1
      have hle := hprefix.length_le
      exact .inl (by omega)
    · intro hfile
      exact h.stderrOpen (stderr_mem_closed (.inr hfile))
  · rintro ⟨hprint, hend⟩
    have hopened := opened_of_neverInFile hprint
    have hclosed : (afterCalls logPath calls).destroy.closed = [] := by
      rw [closed_afterCalls, hopened, if_neg hend]
      rfl
    constructor
    · intro n hn
      rw [LogState.destroy, hopened] at hn
      cases hn
    · rw [hclosed]
      exact List.not_mem_nil
    · intro pre text post hsplit hfile
      exact absurd hfile (hprint pre text post hsplit)

/-- A log of the file `l` that prints one message closes `stderr`. -/
theorem stderr_closed_by_print :
    ¬ OwnsStreams "l".toList [.print "frame:1".toList] := by
  intro h
  apply h.stderrOpen
  decide

end Ownership

end QCamx

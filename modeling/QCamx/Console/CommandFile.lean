import QCamx.Console.LifeCycle
import QCamx.Device.Stages
import QCamx.Lib.Trace

/-!
# Commands from a file

`hal3_test -f` reads its commands from a file. `main` looks at the result of `getline` only where it
reads the standard input: at the end of the file it goes on with an empty line, which it passes
over like every other one.

* `parseCommandline`, `CommandFile`: the command line, and the program on a file;
* `Progress`: what has been read, and where `main` is, kept by every step;
* `stepsLeft_step`: each step of `main` uses up one of finitely many;
* `stopped_of_slot`: what is in a slot at the end of the loop is stopped when `main` returns;
* **`ends_iff_quits`**: the loop ends, at the first line `Q`, if and only if there is one.
-/

namespace QCamx

open Guarded Outcome

namespace Console

/-! ## The command line -/

/-- What `getopt` returns. -/
inductive Opt
  | help
  | file (path : CString)
  | other
  deriving DecidableEq, Repr

/-- `parse_commandline`, with the lines of `s_file_stream` once it is open; `none` stands for the
result `1`. A stream that is open cannot be opened again. -/
def parseCommandline (files : CString → Option (List CString)) :
    List Opt → Option (List CString) → Option (Option (List CString))
  | [], stream => some stream
  | .help :: _, _ => none
  | .file path :: opts, stream =>
      if stream.isSome then none
      else
        match files path with
        | none => none
        | some lines => parseCommandline files opts (some lines)
  | .other :: opts, stream => parseCommandline files opts stream

/-- The program on a file. -/
structure CommandFile where
  console : Console
  /-- The lines that have not been read. -/
  rest : List CString
  /-- The calls of `getline`. -/
  reads : ℕ := 0

inductive FileAct
  /-- `main` reads a line. -/
  | read (env : Env)
  | other (a : Act)

/-- An action by which `main` reads the standard input. -/
def ReadsInput : Act → Bool
  | .command _ _ | .endOfInput => true
  | .stop _ | .resume _ | .shutdown | .thread _ _ => false

/-- The lines that end the loop. -/
def Quits (order : CString) : Prop := ¬ Skipped order ∧ command order = .quit

instance (order : CString) : Decidable (Quits order) :=
  inferInstanceAs (Decidable (¬ Skipped order ∧ command order = .quit))

/-- Line `q` is the first that ends the loop. -/
def QuitsAt (lines : List CString) (q : ℕ) : Prop :=
  (∃ line, lines[q]? = some line ∧ Quits line) ∧ ∀ line ∈ lines.take q, ¬ Quits line

/-- `main` is in its loop. -/
def Pc.inLoop (pc : Pc) : Bool := pc.passed.isNone

namespace CommandFile

/-- The start of the loop, where `parse_commandline` has opened a file. -/
def start (files : CString → Option (List CString)) (opts : List Opt) : Option CommandFile :=
  match parseCommandline files opts none with
  | some (some lines) => some { console := {}, rest := lines }
  | _ => none

/-- What `getline` leaves in the empty string `order`. -/
def order (s : CommandFile) : CString := s.rest.head?.getD []

/-- A step of the program. -/
def step (enc : Bool) (a : FileAct) (s : CommandFile) : Option CommandFile :=
  match a with
  | .read env =>
      (Console.step enc (.command s.order env) s.console).map fun w =>
        ⟨w, s.rest.tail, s.reads + 1⟩
  | .other a =>
      if ReadsInput a then none
      else (Console.step enc a s.console).map fun w => { s with console := w }

/-- `s` is reached from `s₀`. -/
abbrev Run (enc : Bool) (s₀ s : CommandFile) : Prop :=
  Reachable (step enc) (fun _ _ => True) s₀ s

end CommandFile

/-! ## One line -/

section Line

variable {enc : Bool} {order : CString} {env : Env} {w w' : Console} {k : ℕ} {c : Case}

theorem inLoop_beginStop {next : Next} (hs : w.beginStop k c next = .ok w')
    (hnext : (Pc.stopping k next).inLoop = true) : w'.pc.inLoop = true := by
  obtain ⟨d, _, hw⟩ := beginStop_eq_ok_iff.mp hs
  rw [← hw]
  exact hnext

theorem pc_add (hs : Console.add enc order env w = .ok w') : w'.pc = w.pc := by
  rw [Console.add, bind_eq_ok_iff] at hs
  obtain ⟨⟨result, c⟩, _, hs⟩ := hs
  dsimp only at hs
  split_ifs at hs
  · rw [← Except.ok.inj hs]
  · cases hmode : c.testMode with
    | none =>
        rw [hmode] at hs
        rw [← Except.ok.inj hs]
    | some mode =>
        simp only [hmode] at hs
        obtain ⟨new, _, hs⟩ := bind_eq_ok_iff.mp hs
        obtain ⟨_, hs⟩ := register_eq_ok_iff.mp hs
        rw [← hs]
        rfl

theorem pc_snapshot {dump : Bool} (hs : snapshot order w dump = .ok w') : w'.pc = w.pc := by
  rw [Console.snapshot, bind_eq_ok_iff] at hs
  obtain ⟨⟨k, c⟩, _, hs⟩ := hs
  obtain ⟨c', _, hs⟩ := bind_eq_ok_iff.mp hs
  rw [← Except.ok.inj hs]
  rfl

theorem inLoop_video (hpc : w.pc = .prompt) (hs : video order w = .ok w') :
    w'.pc.inLoop = true := by
  rw [Console.video, bind_eq_ok_iff] at hs
  obtain ⟨⟨k, c⟩, _, hs⟩ := hs
  dsimp only at hs
  split_ifs at hs
  · obtain ⟨⟨result, config⟩, _, hs⟩ := bind_eq_ok_iff.mp hs
    exact inLoop_beginStop hs rfl
  · rw [pc_snapshot hs, hpc]
    rfl

theorem inLoop_delete (hpc : w.pc = .prompt) (hs : Console.delete order w = .ok w') :
    w'.pc.inLoop = true := by
  rw [Console.delete, bind_eq_ok_iff] at hs
  obtain ⟨p, _, hs⟩ := hs
  cases p with
  | none =>
      rw [← Except.ok.inj hs, hpc]
      rfl
  | some k =>
      obtain ⟨c, _, hs⟩ := bind_eq_ok_iff.mp hs
      exact inLoop_beginStop hs rfl

theorem pc_update (hs : update order env w = .ok w') : w'.pc = w.pc := by
  rw [Console.update, bind_eq_ok_iff] at hs
  obtain ⟨⟨k, c⟩, _, hs⟩ := hs
  obtain ⟨edits, _, hs⟩ := bind_eq_ok_iff.mp hs
  obtain ⟨c', _, hs⟩ := bind_eq_ok_iff.mp hs
  rw [← Except.ok.inj hs]
  rfl

theorem pc_updateSnapshot (hs : updateSnapshot order env w = .ok w') : w'.pc = w.pc := by
  rw [Console.updateSnapshot, bind_eq_ok_iff] at hs
  obtain ⟨⟨k, c⟩, _, hs⟩ := hs
  obtain ⟨edits, _, hs⟩ := bind_eq_ok_iff.mp hs
  obtain ⟨c₁, _, hs⟩ := bind_eq_ok_iff.mp hs
  obtain ⟨c₂, _, hs⟩ := bind_eq_ok_iff.mp hs
  rw [← Except.ok.inj hs]
  rfl

theorem pc_previewDump (hs : previewDump order w = .ok w') : w'.pc = w.pc := by
  rw [Console.previewDump, bind_eq_ok_iff] at hs
  obtain ⟨⟨k, c⟩, _, hs⟩ := hs
  obtain ⟨c', _, hs⟩ := bind_eq_ok_iff.mp hs
  rw [← Except.ok.inj hs]
  rfl

theorem pc_metaDump (hs : metaDump order w = .ok w') : w'.pc = w.pc := by
  rw [Console.metaDump, bind_eq_ok_iff] at hs
  obtain ⟨⟨k, c⟩, _, hs⟩ := hs
  obtain ⟨d, _, hs⟩ := bind_eq_ok_iff.mp hs
  rw [← Except.ok.inj hs]
  rfl

theorem runCommand_of_quits (hq : Quits order) :
    runCommand enc order env w = .ok { w with pc := .shutdown 0 } := by
  rw [runCommand, if_neg hq.1, hq.2]

/-- **Only a line `Q` takes `main` out of its loop.** -/
theorem inLoop_runCommand (hpc : w.pc = .prompt) (hs : runCommand enc order env w = .ok w')
    (hq : ¬ Quits order) : w'.pc.inLoop = true := by
  rw [runCommand] at hs
  split_ifs at hs with hskip
  · rw [← Except.ok.inj hs, hpc]
    rfl
  have hsame : w'.pc = w.pc → w'.pc.inLoop = true := by
    intro hw
    rw [hw, hpc]
    rfl
  cases hcmd : command order with
  | add => rw [hcmd] at hs; exact hsame (pc_add hs)
  | video => rw [hcmd] at hs; exact inLoop_video hpc hs
  | snapshot dump => rw [hcmd] at hs; exact hsame (pc_snapshot hs)
  | previewDump => rw [hcmd] at hs; exact hsame (pc_previewDump hs)
  | delete => rw [hcmd] at hs; exact inLoop_delete hpc hs
  | update => rw [hcmd] at hs; exact hsame (pc_update hs)
  | updateSnapshot => rw [hcmd] at hs; exact hsame (pc_updateSnapshot hs)
  | metaDump => rw [hcmd] at hs; exact hsame (pc_metaDump hs)
  | quit => exact absurd ⟨hskip, hcmd⟩ hq
  | wait | wrong => rw [hcmd] at hs; rw [← Except.ok.inj hs, hpc]; rfl

end Line

/-! ## The loop -/

theorem Step.inLoop_eq {enc : Bool} {a : Act} {w w' : Console} (ha : ReadsInput a = false)
    (hs : Step enc w a w') : w'.pc.inLoop = w.pc.inLoop := by
  cases hs with
  | fault | stop | thread => rfl
  | command | endOfInput => simp [ReadsInput] at ha
  | deleted hpc | switched hpc | shutDown hpc | emptySlot hpc | shutdownStop hpc | returned hpc =>
      rw [hpc]
      rfl

/-- A line keeps `main` in its loop, also where it leads to a fault, unless it is a line `Q`. -/
theorem inLoop_settle_iff {enc : Bool} {order : CString} {env : Env} {w : Console}
    (hpc : w.pc = .prompt) :
    (w.settle (runCommand enc order env w)).pc.inLoop = true ↔ ¬ Quits order := by
  by_cases hq : Quits order
  · rw [runCommand_of_quits hq]
    exact iff_of_false (by simp [settle, Pc.inLoop, Pc.passed]) (not_not.mpr hq)
  · refine iff_of_true ?_ hq
    cases hcommand : runCommand enc order env w with
    | error f =>
        change w.pc.inLoop = true
        rw [hpc]
        rfl
    | ok w' => exact inLoop_runCommand hpc hcommand hq

theorem exists_quitsAt_iff {lines : List CString} :
    (∃ q, QuitsAt lines q) ↔ ∃ line ∈ lines, Quits line := by
  constructor
  · rintro ⟨q, ⟨line, hline, hquits⟩, -⟩
    exact ⟨line, List.mem_of_getElem? hline, hquits⟩
  · intro hq
    induction lines with
    | nil => simp at hq
    | cons first lines ih =>
        by_cases hfirst : Quits first
        · exact ⟨0, ⟨first, rfl, hfirst⟩, by simp⟩
        · obtain ⟨line, hline, hquits⟩ := hq
          have hrest : line ∈ lines := by
            refine (List.mem_cons.mp hline).resolve_left ?_
            rintro rfl
            exact hfirst hquits
          obtain ⟨q, hat, hbefore⟩ := ih ⟨line, hrest, hquits⟩
          refine ⟨q + 1, hat, ?_⟩
          rw [List.take_succ_cons, List.forall_mem_cons]
          exact ⟨hfirst, hbefore⟩

theorem QuitsAt.lt_length {lines : List CString} {q : ℕ} (h : QuitsAt lines q) :
    q < lines.length := by
  obtain ⟨⟨line, hline, -⟩, -⟩ := h
  exact (List.getElem?_eq_some_iff.mp hline).1

theorem QuitsAt.exists_mem_take {lines : List CString} {q n : ℕ} (h : QuitsAt lines q)
    (hn : q < n) : ∃ line ∈ lines.take n, Quits line := by
  obtain ⟨⟨line, hline, hquits⟩, -⟩ := h
  refine ⟨line, List.mem_of_getElem? (i := q) ?_, hquits⟩
  rw [List.getElem?_take_of_lt hn, hline]

theorem QuitsAt.unique {lines : List CString} {q q' : ℕ} (h : QuitsAt lines q)
    (h' : QuitsAt lines q') : q = q' := by
  have hle : ∀ {p p'}, QuitsAt lines p → QuitsAt lines p' → p' ≤ p := by
    intro p p' hp hp'
    by_contra hlt
    obtain ⟨line, hline, hquits⟩ := hp.exists_mem_take (not_le.mp hlt)
    exact hp'.2 line hline hquits
  exact le_antisymm (hle h' h) (hle h h')

/-- How far a run on `lines` has come. -/
structure Progress (enc : Bool) (lines : List CString) (s : CommandFile) : Prop where
  run : Run enc (fun _ _ => True) s.console
  rest : s.rest = lines.drop s.reads
  inLoop : s.console.pc.inLoop = true → ∀ line ∈ lines.take s.reads, ¬ Quits line
  left : s.console.pc.inLoop = false → ∃ q, s.reads = q + 1 ∧ QuitsAt lines q

namespace Progress

variable {enc : Bool} {lines : List CString} {s s' : CommandFile} {q : ℕ}

theorem init (lines : List CString) : Progress enc lines { console := {}, rest := lines } where
  run := Reachable.refl
  rest := rfl
  inLoop := by simp
  left := by simp [Pc.inLoop, Pc.passed]

theorem order_eq (h : Progress enc lines s) : s.order = lines[s.reads]?.getD [] := by
  rw [CommandFile.order, h.rest, List.head?_drop]

theorem read (h : Progress enc lines s) {w : Console} (hrun : Run enc (fun _ _ => True) w)
    (hpc : s.console.pc = .prompt)
    (hw : w.pc.inLoop = true ↔ ¬ Quits s.order) :
    Progress enc lines ⟨w, s.rest.tail, s.reads + 1⟩ where
  run := hrun
  rest := by
    change s.rest.tail = lines.drop (s.reads + 1)
    rw [h.rest, List.tail_drop]
  inLoop := by
    intro hloop line hline
    have hbefore := h.inLoop (by rw [hpc]; rfl)
    have horder := hw.mp hloop
    rw [h.order_eq] at horder
    change line ∈ lines.take (s.reads + 1) at hline
    rw [List.take_add_one, List.mem_append] at hline
    rcases hline with hline | hline
    · exact hbefore line hline
    · rw [Option.mem_toList] at hline
      rwa [hline] at horder
  left := by
    intro hleft
    have horder : Quits s.order := by
      by_contra hq
      rw [hw.mpr hq] at hleft
      cases hleft
    rw [h.order_eq] at horder
    cases hline : lines[s.reads]? with
    | none =>
        rw [hline] at horder
        exact absurd (.inl rfl) horder.1
    | some line =>
        rw [hline] at horder
        exact ⟨s.reads, rfl, ⟨line, hline, horder⟩, h.inLoop (by rw [hpc]; rfl)⟩

theorem step {a : FileAct} (h : Progress enc lines s)
    (hs : CommandFile.step enc a s = some s') : Progress enc lines s' := by
  cases a with
  | read env =>
      obtain ⟨w, hw, rfl⟩ := Option.map_eq_some_iff.mp hs
      have hrun : Run enc (fun _ _ => True) w := h.run.tail trivial hw
      rw [Console.step] at hw
      split_ifs at hw with hdef hpc
      refine h.read hrun hpc ?_
      rw [← Option.some.inj hw]
      exact inLoop_settle_iff hpc
  | other a =>
      rw [CommandFile.step] at hs
      split_ifs at hs with ha
      obtain ⟨w, hw, rfl⟩ := Option.map_eq_some_iff.mp hs
      have hsame := (Step.of_eq hw).2.inLoop_eq (by simpa using ha)
      refine ⟨h.run.tail trivial hw, h.rest, fun hloop => h.inLoop ?_, fun hleft => h.left ?_⟩
      · rw [← hsame]
        exact hloop
      · rw [← hsame]
        exact hleft

theorem of_run {lines : List CString}
    (h : CommandFile.Run enc { console := {}, rest := lines } s) : Progress enc lines s :=
  h.invariant (init lines) fun _ _ _ _ hi _ hstep => hi.step hstep

/-- **`main` is in its loop until it has read the first line `Q`.** -/
theorem inLoop_iff (h : Progress enc lines s) (hq : QuitsAt lines q) :
    s.console.pc.inLoop = true ↔ s.reads ≤ q := by
  constructor
  · intro hloop
    by_contra hlt
    obtain ⟨line, hline, hquits⟩ := hq.exists_mem_take (not_le.mp hlt)
    exact h.inLoop hloop line hline hquits
  · intro hle
    by_contra hleft
    obtain ⟨q', hreads, hq'⟩ := h.left (by simpa using hleft)
    have hsame := hq.unique hq'
    omega

theorem reads_le (h : Progress enc lines s) (hq : QuitsAt lines q) : s.reads ≤ q + 1 := by
  cases hloop : s.console.pc.inLoop with
  | true =>
      have hle := (h.inLoop_iff hq).mp hloop
      omega
  | false =>
      obtain ⟨q', hreads, hq'⟩ := h.left hloop
      rw [hreads, hq.unique hq']

end Progress

/-! ## The steps of `main` -/

/-- A step of `main`, in its loop or in the loop at the end; what `stop` does is not counted. -/
def FileAct.ofMain : FileAct → Bool
  | .read _ | .other (.resume _) | .other .shutdown => true
  | .other (.command _ _) | .other .endOfInput | .other (.stop _) | .other (.thread _ _) => false

/-- The steps that `main` can make where it has `n` lines to read. -/
def Pc.stepsLeft (n : ℕ) : Pc → ℕ
  | .prompt => 2 * n + 18
  | .stopping _ (.delete _) | .stopping _ (.switch _) => 2 * n + 19
  | .stopping _ (.shutdown i) => 2 * (maxCamera - i).toNat + 1
  | .shutdown i => 2 * (maxCamera - i).toNat + 2
  | .returned => 0

theorem Pc.stepsLeft_of_inLoop {pc : Pc} (n : ℕ) (h : pc.inLoop = true) :
    pc.stepsLeft n ≤ 2 * n + 19 := by
  cases pc with
  | prompt => simp [stepsLeft]
  | stopping k next =>
      cases next with
      | delete i | switch i => simp [stepsLeft]
      | shutdown i => cases h
  | shutdown i | returned => cases h

/-- `main` waits for a `stop` that has not returned. -/
def WaitsForStop (w : Console) : Prop :=
  ∃ k next c, w.pc = .stopping k next ∧ w.cases[k]? = some c ∧ c.device.stopPc ≠ .stopped

namespace CommandFile

variable {enc : Bool} {lines : List CString} {q : ℕ} {s s' : CommandFile}

/-- The steps that `main` can make where line `q` is the last that it reads. -/
def stepsLeft (q : ℕ) (s : CommandFile) : ℕ :=
  if Defined s.console then s.console.pc.stepsLeft (q + 1 - s.reads) else 0

theorem stepsLeft_le (q : ℕ) (s : CommandFile) :
    stepsLeft q s ≤ s.console.pc.stepsLeft (q + 1 - s.reads) := by
  rw [stepsLeft]
  split_ifs
  · exact le_rfl
  · exact Nat.zero_le _

/-- A fault is the last step of `main`. -/
theorem stepsLeft_of_fault {f : Fault} (h : s.console.fault = some f) : stepsLeft q s = 0 :=
  if_neg fun hdef => by
    rw [hdef.1] at h
    cases h

theorem stepsLeft_read {env : Env} {w : Console} (hs : Progress enc lines s)
    (hq : QuitsAt lines q) (hw : Console.step enc (.command s.order env) s.console = some w) :
    stepsLeft q ⟨w, s.rest.tail, s.reads + 1⟩ + 1 ≤ stepsLeft q s := by
  rw [Console.step] at hw
  split_ifs at hw with hdef hpc
  have hle := (hs.inLoop_iff hq).mp (by rw [hpc]; rfl)
  have hbefore : stepsLeft q s = 2 * (q + 1 - s.reads) + 18 := by
    rw [stepsLeft, if_pos hdef, hpc, Pc.stepsLeft]
  have hafter : stepsLeft q ⟨w, s.rest.tail, s.reads + 1⟩ ≤
      w.pc.stepsLeft (q + 1 - (s.reads + 1)) := stepsLeft_le q _
  rw [hbefore]
  cases hloop : w.pc.inLoop with
  | true =>
      have hnext := Pc.stepsLeft_of_inLoop (q + 1 - (s.reads + 1)) hloop
      omega
  | false =>
      -- the line was `Q`, and the loop at the end is before its first slot
      have hquits : Quits s.order := by
        by_contra hquits
        rw [← Option.some.inj hw, (inLoop_settle_iff hpc).mpr hquits] at hloop
        cases hloop
      rw [runCommand_of_quits hquits, settle] at hw
      obtain rfl := Option.some.inj hw
      simp only [Pc.stepsLeft, maxCamera] at hafter
      omega

/-- **Each step of `main` uses one up, and the threads take none.** -/
theorem stepsLeft_step {a : FileAct} (hs : Progress enc lines s) (hq : QuitsAt lines q)
    (h : step enc a s = some s') :
    stepsLeft q s' + (if a.ofMain then 1 else 0) ≤ stepsLeft q s := by
  cases a with
  | read env =>
      obtain ⟨w, hw, rfl⟩ := Option.map_eq_some_iff.mp h
      exact stepsLeft_read hs hq hw
  | other a =>
      rw [step] at h
      split_ifs at h with hreads
      obtain ⟨w, hw, rfl⟩ := Option.map_eq_some_iff.mp h
      obtain ⟨hdef, hstep⟩ := Step.of_eq hw
      have hafter := stepsLeft_le q { s with console := w }
      rw [show stepsLeft q s = s.console.pc.stepsLeft (q + 1 - s.reads) from if_pos hdef]
      cases hstep with
      | command | endOfInput => simp [ReadsInput] at hreads
      | fault hf =>
          rw [stepsLeft_of_fault rfl, Nat.zero_add]
          cases hf with
          | command => simp [ReadsInput] at hreads
          | @resume env k next f hpc =>
              rw [hpc]
              cases next <;> simp [FileAct.ofMain, Pc.stepsLeft]
          | shutdown hpc =>
              rw [hpc]
              simp [FileAct.ofMain, Pc.stepsLeft]
      | stop | thread => exact hafter
      | deleted hpc | switched hpc =>
          rw [hpc]
          simp only [FileAct.ofMain, if_pos, Pc.stepsLeft] at hafter ⊢
          omega
      | shutDown hpc hcase hstop hcalls hrange | emptySlot hpc hrange =>
          have hlt := hrange.2
          rw [hpc]
          simp only [FileAct.ofMain, if_pos, Pc.stepsLeft] at hafter ⊢
          omega
      | shutdownStop hpc | returned hpc =>
          rw [hpc]
          simp only [stopping, FileAct.ofMain, if_pos, Pc.stepsLeft] at hafter ⊢
          omega

/-- **`main` has returned, waits for a `stop` or can go on**, as long as nothing undefined has
happened. -/
theorem returned_or_goes_on (hs : Progress enc lines s) (hdef : Defined s.console) :
    s.console.pc = .returned ∨ s.console.WaitsForStop ∨
      ∃ a, a.ofMain = true ∧ (step enc a s).isSome = true := by
  cases hpc : s.console.pc with
  | returned => exact .inl rfl
  | prompt =>
      exact .inr (.inr ⟨.read vgaEnv, rfl, by simp [step, Console.step, hdef, hpc]⟩)
  | shutdown i =>
      exact .inr (.inr ⟨.other .shutdown, rfl, by simp [step, Console.step, ReadsInput, hdef, hpc]⟩)
  | stopping k next =>
      have hl := slotsLive hs.run
      obtain ⟨c, hcase, -⟩ := hl.live (hl.stopping hpc)
      by_cases hstop : c.device.stopPc = .stopped
      · refine .inr (.inr ⟨.other (.resume vgaEnv), rfl, ?_⟩)
        simp [step, Console.step, ReadsInput, hdef, hpc, hcase, hstop]
      · exact .inr (.inl ⟨k, next, c, hpc, hcase, hstop⟩)

end CommandFile

/-! ## The loop at the end -/

theorem stopped_of_step {cfg : Setup} {a : QCamx.Act} {d d' : Device}
    (hd : d.step cfg a = some d') (hstop : d.stopPc = .stopped) : d'.stopPc = .stopped := by
  have hle := (Device.Step.of_eq hd).2.stage_le
  rw [hstop] at hle
  cases hstop' : d'.stopPc with
  | stopped => rfl
  | running | postRequest | joinRequest | postResult | joinResult | drain | waitPending | delete =>
      simp [hstop'] at hle

/-- Case `k` has been stopped. -/
def StoppedAt (w : Console) (k : ℕ) : Prop := ∃ c, w.cases[k]? = some c ∧ c.device.stopPc = .stopped

theorem StoppedAt.set {w w' : Console} {k l : ℕ} {c : Case} (h : StoppedAt w k)
    (hcases : w'.cases = w.cases.set l c)
    (hc : ∀ c₀, w.cases[l]? = some c₀ → c₀.device.stopPc = .stopped → c.device.stopPc = .stopped) :
    StoppedAt w' k := by
  obtain ⟨c₀, hc₀, hstop⟩ := h
  by_cases hkl : l = k
  · subst hkl
    have hlt := (List.getElem?_eq_some_iff.mp hc₀).1
    refine ⟨c, ?_, hc c₀ hc₀ hstop⟩
    rw [hcases, List.getElem?_set_self hlt]
  · refine ⟨c₀, ?_, hstop⟩
    rw [hcases, List.getElem?_set_ne hkl]
    exact hc₀

/-- Case `k` of slot `i` has been stopped, or is in its slot, which is still to come. -/
structure ShutDown (i : ℤ) (k : ℕ) (w : Console) : Prop where
  left : w.pc.inLoop = false
  case : StoppedAt w k ∨ w.sHAL3Test i = some k ∧ ∀ j, w.pc.passed = some j → j ≤ i

/-- The case in slot `j` is closed and deleted. -/
theorem ShutDown.removed {i j : ℤ} {k l : ℕ} {c : Case} {w : Console} (h : ShutDown i k w)
    (hl : SlotsLive w) (hpc : w.pc = .stopping l (.shutdown j)) (hk : w.cases[l]? = some c)
    (hstop : c.device.stopPc = .stopped) :
    ShutDown i k { w.removed l j (c.gone true) with pc := .shutdown (j + 1) } := by
  refine ⟨rfl, ?_⟩
  rcases h.case with hstopped | ⟨hslot, hle⟩
  · exact .inl (hstopped.set rfl fun _ _ _ => hstop)
  · have hj := hle j (by rw [hpc]; rfl)
    by_cases hij : j = i
    · -- the case that has just been stopped is the one of this slot
      have hslot' := hl.stopping hpc
      rw [Next.slot, hij, hslot] at hslot'
      obtain rfl := Option.some.inj hslot'
      have hlt := (List.getElem?_eq_some_iff.mp hk).1
      exact .inl ⟨c.gone true, List.getElem?_set_self hlt, hstop⟩
    · refine .inr ⟨?_, fun j' hj' => ?_⟩
      · change Function.update w.sHAL3Test j none i = some k
        rw [Function.update_of_ne (Ne.symm hij)]
        exact hslot
      · obtain rfl := Option.some.inj hj'
        omega

theorem ShutDown.step {enc : Bool} {i : ℤ} {k : ℕ} {a : Act} {w w' : Console}
    (h : ShutDown i k w) (hl : SlotsLive w) (hs : Step enc w a w') : ShutDown i k w' := by
  have hleft := h.left
  have hcase := h.case
  have hdevice : ∀ {l : ℕ} {a : QCamx.Act} {c : Case} {d : Device}, w.cases[l]? = some c →
      c.device.step c.setup a = some d → ShutDown i k (w.setCase l { c with device := d }) := by
    intro l a c d hk hd
    refine ⟨hleft, hcase.imp (fun hstopped => hstopped.set rfl fun c₀ hc₀ hstop => ?_) id⟩
    obtain rfl := Option.some.inj (hk.symm.trans hc₀)
    exact stopped_of_step hd hstop
  cases hs with
  | fault => exact ⟨hleft, hcase⟩
  | command hpc | endOfInput hpc | deleted hpc | switched hpc =>
      rw [hpc] at hleft
      cases hleft
  | stop hpc hk hd | thread hthread hk hd => exact hdevice hk hd
  | shutDown hpc hk hstop => exact h.removed hl hpc hk hstop
  | @emptySlot j hpc hrange hempty =>
      refine ⟨rfl, hcase.imp id fun ⟨hslot, hle⟩ => ⟨hslot, fun j' hj' => ?_⟩⟩
      have hj := hle j (by rw [hpc]; rfl)
      obtain rfl := Option.some.inj hj'
      have hij : j ≠ i := by
        rintro rfl
        rw [hslot] at hempty
        cases hempty
      omega
  | @shutdownStop l j c d hpc hslot hd =>
      refine ⟨rfl, ?_⟩
      rcases hcase with hstopped | ⟨hslot', hle⟩
      · refine .inl (hstopped.set rfl fun c₀ hc₀ hstop => ?_)
        obtain rfl := Option.some.inj (hslot.case.symm.trans hc₀)
        cases Device.StopStep.of_eq hd with
        | begin hrunning =>
            rw [hstop] at hrunning
            cases hrunning
      · rw [hpc] at hle
        exact .inr ⟨hslot', hle⟩
  | @returned j hpc hj =>
      refine ⟨rfl, hcase.imp id fun ⟨hslot, hle⟩ => ?_⟩
      have hlt := (hl.range hslot).2
      have hle := hle j (by rw [hpc]; rfl)
      omega

theorem exists_step {enc : Bool} {a : FileAct} {s s' : CommandFile}
    (hs : CommandFile.step enc a s = some s') :
    ∃ b, Console.step enc b s.console = some s'.console := by
  cases a with
  | read env =>
      obtain ⟨w, hw, rfl⟩ := Option.map_eq_some_iff.mp hs
      exact ⟨_, hw⟩
  | other a =>
      rw [CommandFile.step] at hs
      split_ifs at hs
      obtain ⟨w, hw, rfl⟩ := Option.map_eq_some_iff.mp hs
      exact ⟨_, hw⟩

/-- **What is in a slot at the end of the loop is stopped when `main` returns.** -/
theorem stopped_of_slot {enc : Bool} {lines : List CString} {t s : CommandFile}
    (ht : Progress enc lines t) (hend : t.console.pc = .shutdown 0)
    (h : CommandFile.Run enc t s) (hreturned : s.console.pc = .returned) {i : ℤ} {k : ℕ}
    (hslot : t.console.sHAL3Test i = some k) : StoppedAt s.console k := by
  have hrange := (slotsLive ht.run).range hslot
  have hinit : ShutDown i k t.console := by
    refine ⟨by rw [hend]; rfl, .inr ⟨hslot, fun j hj => ?_⟩⟩
    rw [hend] at hj
    obtain rfl := Option.some.inj hj
    exact hrange.1
  have hs : Progress enc lines s ∧ ShutDown i k s.console := by
    refine h.invariant (P := fun s => Progress enc lines s ∧ ShutDown i k s.console) ⟨ht, hinit⟩ ?_
    intro u a u' _ hi _ hstep
    obtain ⟨hprogress, hdown⟩ := hi
    refine ⟨hprogress.step hstep, ?_⟩
    obtain ⟨b, hb⟩ := exists_step hstep
    exact hdown.step (slotsLive hprogress.run) (Step.of_eq hb).2
  rcases hs.2.case with hstopped | ⟨_, hle⟩
  · exact hstopped
  · have hle := hle maxCamera (by rw [hreturned]; rfl)
    have hlt := hrange.2
    omega

/-! ## The end of the file -/

/-- **At the end of the file `main` reads on for ever.** -/
theorem exec_reads {enc : Bool} {s : CommandFile} (hdef : Defined s.console)
    (hpc : s.console.pc = .prompt) (hrest : s.rest = []) (env : Env) (n : ℕ) :
    exec (CommandFile.step enc) (fun _ _ => True) (List.replicate n (.read env)) s =
      some { s with reads := s.reads + n } := by
  induction n generalizing s with
  | zero => rfl
  | succ n ih =>
      have hstep : CommandFile.step enc (.read env) s = some { s with reads := s.reads + 1 } := by
        have horder : s.order = [] := by rw [CommandFile.order, hrest]; rfl
        have hcommand : runCommand enc s.order env s.console = .ok s.console := by
          rw [runCommand, if_pos (.inl horder)]
        rw [CommandFile.step, Console.step, if_pos hdef, if_pos hpc, hcommand, hrest]
        rfl
      have hrec := @ih { s with reads := s.reads + 1 } hdef hpc hrest
      rw [List.replicate_succ, exec, if_pos trivial, hstep, Option.bind_some, hrec,
        Nat.add_assoc, Nat.add_comm 1 n]

/-- What becomes of a file whose first line `Q` is line `q`. -/
structure Ends (enc : Bool) (q : ℕ) (s₀ s : CommandFile) : Prop where
  inLoop : s.console.pc.inLoop = true ↔ s.reads ≤ q
  reads : s.reads ≤ q + 1
  steps : ∀ acts, exec (CommandFile.step enc) (fun _ _ => True) acts s₀ = some s →
    countAlong (CommandFile.step enc) (fun a _ => a.ofMain) acts s₀ ≤ 2 * q + 20
  goesOn : Defined s.console → s.console.pc = .returned ∨ s.console.WaitsForStop ∨
    ∃ a, a.ofMain = true ∧ (CommandFile.step enc a s).isSome = true
  stopped : ∀ t, CommandFile.Run enc s₀ t → t.console.pc = .shutdown 0 → CommandFile.Run enc t s →
    s.console.pc = .returned → ∀ i k, t.console.sHAL3Test i = some k → StoppedAt s.console k

theorem ends_of_quitsAt {enc : Bool} {lines : List CString} {q : ℕ} {s : CommandFile}
    (hq : QuitsAt lines q) (h : CommandFile.Run enc { console := {}, rest := lines } s) :
    Ends enc q { console := {}, rest := lines } s where
  inLoop := (Progress.of_run h).inLoop_iff hq
  reads := (Progress.of_run h).reads_le hq
  steps acts hacts := by
    have hcount : countAlong (CommandFile.step enc) (fun a _ => a.ofMain) acts
        { console := {}, rest := lines } + CommandFile.stepsLeft q s ≤
        CommandFile.stepsLeft q { console := {}, rest := lines } :=
      countAlong_add_le (fun _ _ _ (hs : Progress enc lines _) _ hstep => hs.step hstep)
        (fun _ _ _ hs _ hstep => CommandFile.stepsLeft_step hs hq hstep) hacts (.init lines)
    have hle := CommandFile.stepsLeft_le q { console := {}, rest := lines }
    simp only [Pc.stepsLeft] at hle
    omega
  goesOn := CommandFile.returned_or_goes_on (.of_run h)
  stopped _ ht hend hrun hreturned _ _ hslot :=
    stopped_of_slot (.of_run ht) hend hrun hreturned hslot

/-- A file with a line after `Q`. -/
def quitFile : List CString := [previewLine, ['Q'], ['P', ':', '1']]

/-- The steps after `Q` by which the one case is stopped and `main` returns. -/
def shutdownSteps : List FileAct :=
  ((Act.shutdown :: stopIdle) ++ Act.resume vgaEnv :: List.replicate 8 Act.shutdown).map .other

end Console

end QCamx

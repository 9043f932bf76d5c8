import QCamx.Console.State

/-!
# The steps of the console

The loop of `main` on one line at a time, and the loop at its end, from `QCamxHAL3TestMain.cpp`. A
command is one step up to its first call of `stop`, which blocks `main` while the threads of all
cases go on; what follows the call is one more step.

* `runCommand`: the commands;
* `resume`: the rest of `D`, of `v` and of the loop at the end, after a `stop`;
* `shutdownStep`: the loop at the end;
* `Console.step`: these, and the threads of the cases.
-/

namespace QCamx

open CString

namespace Console

/-! ## The line -/

/-- `ops`: what comes before the first colon. -/
def ops (order : CString) : CString := order.takeWhile (· ≠ ':')

/-- `param`: what comes after it, and the whole line if there is none. -/
def param (order : CString) : CString :=
  if ':' ∈ order then (order.dropWhile (· ≠ ':')).tail else order

/-- The cases of the `switch`. -/
inductive Command
  | add | video
  | snapshot (dump : Bool)
  | previewDump | delete | update | updateSnapshot | metaDump | quit | wait | wrong
  deriving DecidableEq, Repr

/-- The command that a letter stands for. -/
def commandOf (c : Char) : Command :=
  if c = 'A' ∨ c = 'a' then .add
  else if c = 'v' then .video
  else if c = 's' then .snapshot false
  else if c = 'S' then .snapshot true
  else if c = 'P' then .previewDump
  else if c = 'D' then .delete
  else if c = 'U' then .update
  else if c = 'E' then .updateSnapshot
  else if c = 'M' then .metaDump
  else if c = 'Q' then .quit
  else if c = 'W' then .wait
  else .wrong

/-- `ops[0]`, which is a NUL character if there is nothing before the colon. -/
def command (order : CString) : Command := ((ops order).head?.map commandOf).getD .wrong

/-- The lines that the loop passes over. -/
def Skipped (order : CString) : Prop :=
  order = [] ∨ order.head? = some '#' ∨ ops order = "sleep".toList

instance (order : CString) : Decidable (Skipped order) :=
  inferInstanceAs (Decidable (order = [] ∨ order.head? = some '#' ∨ ops order = "sleep".toList))

/-- `sscanf(s, "%d", &n)` on a variable that is `0`. -/
def scanNum (s : CString) : ℤ := (((scanInt s).map Prod.fst).getD 0).toInt

/-- The two numbers of command `P`. -/
def scanDump (s : CString) : ℤ × ℤ :=
  if '/' ∈ s then
    (scanNum (s.takeWhile (· ≠ '/')), scanNum (s.dropWhile (· ≠ '/')).tail)
  else (scanNum s, 0)

/-- What the commands get from outside: the answers to a start, and what the parse of `U` and `E`
takes from elsewhere; a `float` is given by its bits. -/
structure Env where
  start : Start
  metaSetup : MetaSetup UInt32
  /-- The numbers of the tags; `getTagFromName` gives those of the vendor tags. -/
  tagOf : MetaTag → ℕ

/-- The elements of an entry. -/
def elements : MetaData UInt32 → List ℤ
  | .byte data => data.map fun n => n.toNat
  | .int32 data => data.map Int32.toInt
  | .int64 data => data
  | .float data => data.map fun bits => bits.toNat

/-! ## Cases -/

/-- A call into the device of a case that runs. -/
def Case.user (a : UserAct) (c : Case) : Except Fault Case :=
  match c.device.user c.setup a with
  | none => .error .stoppedCase
  | some d => .ok { c with device := d }

/-- The edits of the current metadata, and `updata_metadata` on it. -/
def Case.updateMeta (edits : List (ℕ × List ℤ)) (c : Case) : Except Fault Case := do
  let c ← edits.foldlM (fun c e => c.user (.editCurrentMeta e.1 e.2)) c
  c.user (.updateMetadata c.device.currentMetadata)

/-- `request_capture` and, for `dump`, `trigger_dump`. -/
def Case.snapshot (num : ℤ) (dump : Bool) (c : Case) : Except Fault Case := do
  let c ← c.user (.requestCapture num)
  if dump then c.user (.triggerDump num 0) else return c

/-- The calls through `_camera3_device` return. -/
def Case.CallsReturn (c : Case) : Prop := (c.opened || c.wild) = true

instance (c : Case) : Decidable c.CallsReturn := inferInstanceAs (Decidable (_ = true))

/-- `close_camera`. -/
def Case.closeCamera (c : Case) : Except Fault Case :=
  if c.CallsReturn then .ok { c with closes := c.closes + 1 } else .error .unopenedDevice

/-! ## Commands -/

section Commands

variable (enc : Bool) (order : CString) (env : Env) (w : Console)

/-- The call of `stop`. -/
def beginStop (k : ℕ) (c : Case) (next : Next) : Except Fault Console :=
  match c.device.stop c.setup .begin with
  | none => .error .stoppedCase
  | some d =>
      .ok { w.setCase k { c with device := d, stops := c.stops + 1 } with pc := .stopping k next }

def parseAdd (c : Config) : Except Fault (ℤ × Config) :=
  (parseCommandlineAdd (param order) c).mapError .parse

/-- The calls of `update` by `parse_commandline_meta_update`. -/
def parseMetaUpdate : Except Fault (List (ℕ × List ℤ)) :=
  match parseCommandlineMetaUpdate env.metaSetup (param order) with
  | (updates, none) => .ok (updates.map fun u => (env.tagOf u.tag, elements u.data))
  | (_, some f) => .error (.metaParse f)

/-- `RequestCameraId`. -/
def requestCameraId : ℤ :=
  if 1 < (ops order).length then (atoi (ops order).tail).toInt else w.currentCameraId.toInt

/-- Commands `A` and `a`. -/
def add : Except Fault Console := do
  let (result, c) ← parseAdd order {}
  if result ≠ 0 then return w
  let w := { w with currentCameraId := c.cameraId }
  match c.testMode with
  | none => return w
  | some mode => w.register (← startCase enc mode.testCase c env.start)

/-- Commands `s` and `S`. -/
def snapshot (dump : Bool) : Except Fault Console := do
  let (k, c) ← w.caseAt (requestCameraId order w)
  return w.setCase k (← c.snapshot (scanNum (param order)) dump)

/-- Command `v`. The options are parsed into the configuration of the running case. -/
def video : Except Fault Console := do
  let (k, c) ← w.caseAt w.currentCameraId.toInt
  if c.config.testMode = some .preview then
    let (_, config) ← parseAdd order c.config
    w.beginStop k { c with config := config } (.switch w.currentCameraId.toInt)
  else snapshot order w false

/-- Command `P`. -/
def previewDump : Except Fault Console := do
  let (k, c) ← w.caseAt (requestCameraId order w)
  let (num, interval) := scanDump (param order)
  return w.setCase k (← c.user (.triggerDump num interval))

/-- Command `D`. -/
def delete : Except Fault Console := do
  match ← w.slot (requestCameraId order w) with
  | none => return w
  | some k => w.beginStop k (← w.deref k) (.delete (requestCameraId order w))

/-- Command `U`. -/
def update : Except Fault Console := do
  let (k, c) ← w.caseAt w.currentCameraId.toInt
  let edits ← parseMetaUpdate order env
  return w.setCase k (← c.updateMeta edits)

/-- Command `E`. All of it is done to the current camera; `RequestCameraId` is only printed. -/
def updateSnapshot : Except Fault Console := do
  let (k, c) ← w.caseAt w.currentCameraId.toInt
  let edits ← parseMetaUpdate order env
  let c ← c.updateMeta edits
  return w.setCase k (← c.snapshot 1 true)

/-- Command `M`. -/
def metaDump : Except Fault Console := do
  let (k, c) ← w.caseAt w.currentCameraId.toInt
  let metaDump ← (parseCommandlineMetaDump (param order) c.metaDump).mapError .metaParse
  return w.setCase k { c with metaDump := metaDump }

/-- The loop of `main` on one line. -/
def runCommand : Except Fault Console :=
  if Skipped order then .ok w
  else
    match command order with
    | .add => add enc order env w
    | .video => video order w
    | .snapshot dump => snapshot order w dump
    | .previewDump => previewDump order w
    | .delete => delete order w
    | .update => update order env w
    | .updateSnapshot => updateSnapshot order env w
    | .metaDump => metaDump order w
    | .quit => .ok { w with pc := .shutdown 0 }
    | .wait | .wrong => .ok w

/-! ## After a stop -/

/-- `close_camera` and the deletion of the case in slot `i`. -/
def closeAndDelete (k : ℕ) (i : ℤ) : Except Fault Console := do
  let c ← w.deref k
  let c ← c.closeCamera
  (w.setCase k { c with deleted := true }).setSlot i none

/-- The video case that takes over the configuration of a preview case. -/
def switchToVideo (k : ℕ) (i : ℤ) : Except Fault Console := do
  let c ← w.deref k
  let w ← (w.setCase k { c with deleted := true }).setSlot i none
  w.register (← startCase enc .hal3TestVideo c.config env.start)

/-- What follows the `stop` of case `k`. -/
def resume (k : ℕ) : Next → Except Fault Console
  | .delete i => (w.closeAndDelete k i).map fun w => { w with pc := .prompt }
  | .switch i => (switchToVideo enc env w k i).map fun w => { w with pc := .prompt }
  | .shutdown i => (w.closeAndDelete k i).map fun w => { w with pc := .shutdown (i + 1) }

/-- The loop at the end, at slot `i`. -/
def shutdownStep (i : ℤ) : Except Fault Console :=
  if i < maxCamera then do
    match ← w.slot i with
    | none => return { w with pc := .shutdown (i + 1) }
    | some k => w.beginStop k (← w.deref k) (.shutdown i)
  else .ok { w with pc := .returned }

end Commands

/-! ## All threads -/

inductive Act
  /-- `main` reads a line. -/
  | command (order : CString) (env : Env)
  /-- `std::getline` on the standard input fails. -/
  | endOfInput
  /-- A step of the `stop` that `main` has called. -/
  | stop (a : StopAct)
  | resume (env : Env)
  | shutdown
  /-- A step of a thread of case `k`. -/
  | thread (k : ℕ) (a : QCamx.Act)

/-- An action of a device that no thread of the device itself makes. -/
def OfMain : QCamx.Act → Bool
  | .stop _ | .user _ => true
  | .request _ | .hal _ | .result _ | .encoderReturn _ => false

/-- The state after a step of `main`. -/
def settle (w : Console) : Except Fault Console → Console
  | .ok w' => w'
  | .error f => { w with fault := some f }

/-- A step of the device of case `k`. -/
def stepDevice (k : ℕ) (a : QCamx.Act) (w : Console) : Option Console :=
  w.cases[k]?.bind fun c =>
    (c.device.step c.setup a).map fun d => w.setCase k { c with device := d }

/-- Nothing undefined has happened, in `main` or in a device. -/
def Defined (w : Console) : Prop := w.fault = none ∧ ∀ c ∈ w.cases, c.device.fault = none

instance (w : Console) : Decidable (Defined w) :=
  inferInstanceAs (Decidable (w.fault = none ∧ ∀ c ∈ w.cases, c.device.fault = none))

/-- A step of the program. -/
def step (enc : Bool) (a : Act) (w : Console) : Option Console :=
  if Defined w then
    match a with
    | .command order env =>
        if w.pc = .prompt then some (w.settle (runCommand enc order env w)) else none
    | .endOfInput => if w.pc = .prompt then some { w with pc := .shutdown 0 } else none
    | .stop a => match w.pc with
        | .stopping k _ => w.stepDevice k (.stop a)
        | _ => none
    | .resume env => match w.pc with
        | .stopping k next =>
            if (w.cases[k]?.map fun c => c.device.stopPc) = some .stopped then
              some (w.settle (resume enc env w k next))
            else none
        | _ => none
    | .shutdown => match w.pc with
        | .shutdown i => some (w.settle (w.shutdownStep i))
        | _ => none
    | .thread k a => if OfMain a then none else w.stepDevice k a
  else none

end Console

end QCamx

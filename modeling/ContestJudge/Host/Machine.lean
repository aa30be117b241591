import ContestJudge.Host.Task
import ContestJudge.Signal
import ContestJudge.Text.Words
/-!
A machine with files, pipes, processes and a clock. Jobs are groups of processes that were started
together; each has its diagnostics collected, and an alarm may end it.
-/

namespace ContestJudge.Host

inductive Channel where
  | device (device : Device)
  /-- What is left to read of a file of some size. -/
  | input (size : Nat) (rest : Bytes)
  | memory (index : Nat)
  | pipe (e : PipeEnd)
  /-- The collected diagnostics of a job. -/
  | collector (job : Nat)
  | file (path : String)
  /-- Nothing can be read from a directory. -/
  | directory
  | process (number : Nat)
  deriving DecidableEq

def Channel.isSame : Channel → Channel → Bool
  | .pipe e, .pipe other => e.pipe == other.pipe
  | channel, other => channel == other

structure OpenChannel where
  channel : Channel
  holders : Nat
  /-- A call that cannot go on waits. -/
  waits : Bool

structure Process where
  job : Nat
  parent : Option Nat
  task : Task
  /-- Descriptor numbers and channels. -/
  descriptors : List (Nat × Nat)
  directory : String
  limits : ResourceLimits
  /-- How far the process may raise its limits. -/
  bounds : ResourceLimits
  /-- The signals that do not do what they usually do. -/
  dispositions : List (Nat × Disposition)
  /-- Signals that were noted, in their order. -/
  noted : List Nat
  /-- A signal has stopped it. -/
  isStopped : Bool
  /-- When a sleep ends. -/
  wake : Option Nat
  ending : Option Ending
  /-- Somebody has been told of the end. -/
  isReaped : Bool
  /-- Nanoseconds of processor time. -/
  processor : Nat
  /-- Nanoseconds of processor time of children that were waited for. -/
  childProcessor : Nat
  /-- KiB. -/
  resident : Nat

structure Job where
  leader : Nat
  started : Nat
  /-- When the alarm rings. -/
  alarm : Option Nat
  watch : Watch
  /-- The channel that the owner reads the output from. -/
  output : Option Nat
  /-- Whether diagnostics are collected. -/
  collects : Bool
  /-- What was collected, the last piece first. -/
  collected : List Bytes

structure Machine where
  files : FileStore
  /-- Files that processes wrote, the last one first. -/
  written : List (String × Bytes)
  channels : List OpenChannel
  pipes : PipeTable
  memories : List MemoryFile
  processes : List Process
  jobs : List Job
  /-- Nanoseconds. -/
  clock : Nat

abbrev Programs := String → Option (Image → Task)

namespace Machine

def start : Machine := ⟨.empty, [], [], .empty, [], [], [], 0⟩

def stepCost : Nat := 5000

/-! Channels -/

def openChannel (m : Machine) (channel : Channel) : Nat × Machine :=
  (m.channels.length, { m with channels := m.channels ++ [⟨channel, 0, true⟩] })

def channel? (m : Machine) (index : Nat) : Option Channel := (m.channels[index]?).map (·.channel)

def setChannel (m : Machine) (index : Nat) (channel : Channel) : Machine :=
  { m with channels := m.channels.modify index ({ · with channel := channel }) }

def hold (m : Machine) (index : Nat) : Machine :=
  { m with channels := m.channels.modify index fun c => { c with holders := c.holders + 1 } }

/-- One descriptor less leads to a channel. The last one takes the end of a pipe along. -/
def letGo (m : Machine) (index : Nat) : Machine :=
  match m.channels[index]? with
  | none => m
  | some found =>
    let channels := m.channels.modify index fun c => { c with holders := c.holders - 1 }
    let fewer := { m with channels := channels }
    match found.channel, found.holders with
    | .pipe e, 1 => { fewer with pipes := fewer.pipes.release e }
    | _, _ => fewer

/-! Processes -/

def update (m : Machine) (process : Nat) (change : Process → Process) : Machine :=
  { m with processes := m.processes.modify process change }

def setTask (m : Machine) (process : Nat) (task : Task) : Machine :=
  m.update process ({ · with task := task })

def descriptor? (p : Process) (number : Nat) : Option Nat :=
  (p.descriptors.find? (·.1 = number)).map (·.2)

def freeDescriptor (p : Process) : Nat :=
  ((List.range (p.descriptors.length + 1)).map (· + 3)).find?
    (fun n => p.descriptors.all (·.1 ≠ n)) |>.getD 3

def bind (m : Machine) (process channel : Nat) : Nat × Machine :=
  match m.processes[process]? with
  | none => (0, m)
  | some p =>
    let number := freeDescriptor p
    (number, (m.hold channel).update process
      fun p => { p with descriptors := (number, channel) :: p.descriptors })

def unbind (m : Machine) (process number : Nat) : Machine :=
  match (m.processes[process]?).bind (descriptor? · number) with
  | none => m
  | some channel => (m.update process fun p =>
      { p with descriptors := p.descriptors.filter (·.1 ≠ number) }).letGo channel

def finish (m : Machine) (process : Nat) (ending : Ending) : Machine :=
  match m.processes[process]? with
  | none => m
  | some p =>
    if p.ending.isSome then m
    else p.descriptors.foldl (fun m (_, channel) => m.letGo channel)
      (m.update process fun p => { p with ending := some ending, descriptors := [] })

inductive SignalEffect where
  | nothing
  | stop
  | resume
  | kill
  deriving DecidableEq, Repr

def usualEffect (number : Nat) : SignalEffect :=
  if number = Signal.resume.toNat then .resume
  else if [0, 17, 23, 28].contains number then .nothing
  else if [19, 20, 21, 22].contains number then .stop
  else .kill

def disposition? (p : Process) (number : Nat) : Option Disposition :=
  (p.dispositions.find? (·.1 = number)).map (·.2)

def deliver (m : Machine) (process number : Nat) : Machine :=
  match m.processes[process]? with
  | none => m
  | some p =>
    match disposition? p number, usualEffect number with
    | some .ignored, _ => m
    | some .noted, _ =>
      m.update process fun p =>
        { p with noted := if p.noted.contains number then p.noted else p.noted ++ [number] }
    | none, .nothing => m
    | none, .stop => m.update process ({ · with isStopped := true })
    | none, .resume => m.update process ({ · with isStopped := false })
    | none, .kill => m.finish process (.signaled number)

def killJob (m : Machine) (job : Nat) : Machine :=
  (List.range m.processes.length).foldl (fun m process =>
    if (m.processes[process]?).any (·.job = job) then m.finish process (.signaled Signal.kill.toNat)
    else m) m

/-! Paths -/

def streamOf? : String → Option Nat
  | "/dev/stdin" => some 0
  | "/dev/stdout" => some 1
  | "/dev/stderr" => some 2
  | _ => none

def writeFile (m : Machine) (path : String) (content : Bytes) : Except FileFault Machine := do
  let files ← m.files.write path content
  return { m with files := files, written := (path, content) :: m.written.filter (·.1 ≠ path) }

/-- The files as they are given, with what processes wrote since then in place. -/
def adopt (m : Machine) (files : FileStore) : Machine :=
  { m with files := m.written.reverse.foldl (fun files (path, content) =>
      ((files.write path content).toOption).getD files) files }

def readChannel : OpenedFile → Channel
  | .content data => .input data.length data
  | .device device => .device device
  | .directory => .directory

def openPath (m : Machine) (directory path : String) (mode : OpenMode) :
    Except FileFault (Channel × Machine) := do
  if mode = .read then return (readChannel (← m.files.resolveFrom directory path).2.opened, m)
  else
    let location ← m.files.targetFrom directory path
    let full := FileStore.pathOf location
    match m.files.node? location, mode with
    | some (.device device), _ => return (.device device, m)
    | some (.file ..), .append => return (.file full, m)
    | _, _ => return (.file full, ← m.writeFile full [])

/-! Programs -/

def interpreter? (content : Bytes) : Option (String × List Octets) :=
  match Octets.ofBytes (content.take 256) with
  | '#' :: '!' :: rest =>
    let line := Text.trimChars (rest.takeWhile (· ≠ '\n'))
    let path := line.takeWhile fun c => c ≠ ' ' && c ≠ '\t'
    let argument := Text.trimChars (line.drop path.length)
    if path.isEmpty then none
    else some (Octets.toString path, if argument.isEmpty then [] else [argument])
  | _ => none

/-- How many scripts may stand between a script and the program that runs it. -/
def interpreterDepth : Nat := 5

/-- What a path from a directory runs with some arguments: a program of the system, or an executable
script by its interpreter, which may be a script itself. -/
def loadThrough (m : Machine) (programs : Programs) (directory : String) :
    Nat → String → List Octets → Except FileFault ((Image → Task) × List Octets)
  | depth, path, argv => do
    match (← m.files.resolveFrom directory path).2 with
    | .program name =>
      match programs name with
      | some program => return (program, argv)
      | none => throw .notFound
    | .file content true =>
      match interpreter? content, depth with
      | none, _ => throw .badFormat
      | some _, 0 => throw .tooManyLinks
      | some (tool, extra), depth + 1 =>
        loadThrough m programs directory depth tool
          (Octets.ofString tool :: extra ++ Octets.ofString path :: argv.drop 1)
    | _ => throw .denied

def argumentLimit : Nat := 131071

def load (m : Machine) (programs : Programs) (directory path : String) (argv : List Octets) :
    Except FileFault ((Image → Task) × List Octets) := do
  let loaded ← m.loadThrough programs directory interpreterDepth path argv
  if argv.any (·.length > argumentLimit) then throw .argumentsTooLong
  return loaded

/-! Calls -/

inductive Attempt where
  /-- The call has to wait. -/
  | blocked
  | answered (reply : Reply) (m : Machine)
  /-- The call went on in another way. -/
  | moved (m : Machine)

def refuse (m : Machine) (cause : Refusal) : Attempt := .answered (.refused cause) m

def waits (m : Machine) (index : Nat) : Bool := (m.channels[index]?).all (·.waits)

/-- A call that cannot go on is refused on a channel that does not wait. -/
def onDescriptor (m : Machine) (p : Process) (number : Nat) : Attempt → Attempt
  | .blocked => if (descriptor? p number).all m.waits then .blocked else m.refuse .again
  | made => made

def tryRead (m : Machine) (p : Process) (number limit : Nat) : Attempt :=
  match (descriptor? p number).bind fun index => (m.channel? index).map (index, ·) with
  | none => m.refuse .badDescriptor
  | some (index, channel) =>
    match channel with
    | .device .null => .answered (.data []) m
    | .device _ => .answered (.data (List.replicate limit 0)) m
    | .input size rest =>
      .answered (.data (rest.take limit)) (m.setChannel index (.input size (rest.drop limit)))
    | .directory => m.refuse (.file .isDirectory)
    | .pipe ⟨pipe, .read⟩ =>
      match m.pipes.get? pipe with
      | none => .answered (.data []) m
      | some found =>
        if found.isEmpty then
          if found.writers = 0 then .answered (.data []) m else .blocked
        else
          let (data, rest) := found.take limit
          .answered (.data data) { m with pipes := m.pipes.update pipe fun _ => rest }
    | _ => m.refuse .badDescriptor

def isWithin : Option Nat → Option Nat → Bool
  | _, none => true
  | none, some _ => false
  | some n, some bound => n ≤ bound

def areWithin (limits bounds : ResourceLimits) : Bool :=
  isWithin limits.processor bounds.processor && isWithin limits.addressSpace bounds.addressSpace &&
    isWithin limits.fileSize bounds.fileSize && isWithin limits.core bounds.core

/-- New limits have to lie within their bounds, which cannot be raised. -/
def tryLimit (m : Machine) (process : Nat) (p : Process) (limits bounds : ResourceLimits) : Attempt :=
  if !areWithin limits bounds then m.refuse .invalid
  else if !areWithin bounds p.bounds then m.refuse .notPermitted
  else .answered .done (m.update process ({ · with limits := limits, bounds := bounds }))

def trySize (m : Machine) (p : Process) (number : Nat) : Attempt :=
  match (descriptor? p number).bind m.channel? with
  | some (.input size _) => .answered (.number size) m
  | _ => m.refuse .invalid

def failWrite (m : Machine) (process : Nat) (p : Process) (signal : Int) (cause : Refusal) :
    Attempt :=
  let told := m.deliver process signal.toNat
  if (disposition? p signal.toNat).isSome then told.refuse cause else .moved told

/-- Writes as much as a limit on the size of a file allows, and goes on with the rest. -/
def writeLimited (m : Machine) (process : Nat) (p : Process) (number size : Nat) (data : Bytes)
    (next : Reply → Task) (store : Bytes → Machine) : Attempt :=
  match p.limits.fileSize with
  | none => .answered .done (store data)
  | some limit =>
    if size + data.length ≤ limit then .answered .done (store data)
    else if size ≥ limit then m.failWrite process p Signal.fileSizeLimit .fileTooLarge
    else .moved ((store (data.take (limit - size))).setTask process
      (.call (.write number (data.drop (limit - size))) next))

def tryWrite (m : Machine) (process : Nat) (p : Process) (number : Nat) (data : Bytes)
    (next : Reply → Task) : Attempt :=
  match (descriptor? p number).bind m.channel? with
  | some (.device .full) => m.refuse (.file .noSpace)
  | some (.device _) => .answered .done m
  | some (.memory index) =>
    let file := (m.memories[index]?).getD .empty
    m.writeLimited process p number file.size data next fun data =>
      { m with memories := m.memories.modify index (·.write data) }
  | some (.file path) =>
    let content := (m.files.read path).toOption.getD []
    m.writeLimited process p number content.length data next fun data =>
      (m.writeFile path (content ++ data)).toOption.getD m
  | some (.collector job) =>
    .answered .done { m with
      jobs := m.jobs.modify job fun job => { job with collected := data :: job.collected } }
  | some (.pipe e) =>
    match m.pipes.writeAt e data with
    | (.refused, _) => m.refuse .badDescriptor
    | (.broken, _) => m.failWrite process p Signal.brokenPipe .brokenPipe
    | (.written, pipes) => .answered .done { m with pipes := pipes }
    | (.full rest, pipes) =>
      if rest.length = data.length then .blocked
      else .moved ({ m with pipes := pipes }.setTask process (.call (.write number rest) next))
  | _ => m.refuse .badDescriptor

def tryOpen (m : Machine) (process : Nat) (p : Process) (path : String) (mode : OpenMode) :
    Attempt :=
  match streamOf? path with
  | some number =>
    match descriptor? p number with
    | some channel =>
      let (number, m) := m.bind process channel
      .answered (.number number) m
    | none => m.refuse (.file .notFound)
  | none =>
    match m.openPath p.directory path mode with
    | .error cause => m.refuse (.file cause)
    | .ok (channel, m) =>
      let (index, m) := m.openChannel channel
      let (number, m) := m.bind process index
      .answered (.number number) m

def trySetWaiting (m : Machine) (p : Process) (number : Nat) (waits : Bool) : Attempt :=
  match descriptor? p number with
  | some index =>
    .answered .done { m with channels := m.channels.modify index ({ · with waits := waits }) }
  | none => m.refuse .badDescriptor

def tryCompare (m : Machine) (p : Process) (number other : Nat) : Attempt :=
  match (descriptor? p number).bind m.channel?, (descriptor? p other).bind m.channel? with
  | some channel, some second => .answered (.number (if channel.isSame second then 1 else 0)) m
  | _, _ => m.refuse .badDescriptor

def tryPipe (m : Machine) (process : Nat) : Attempt :=
  let (pipe, pipes) := m.pipes.create
  let (reader, m) := { m with pipes := pipes }.openChannel (.pipe ⟨pipe, .read⟩)
  let (writer, m) := m.openChannel (.pipe ⟨pipe, .write⟩)
  let (readNumber, m) := m.bind process reader
  let (writeNumber, m) := m.bind process writer
  .answered (.ends readNumber writeNumber) m

def placeOf? (m : Machine) (pid : Nat) : Option (Nat × Process) :=
  if pid < firstPid then none else (m.processes[pid - firstPid]?).map (pid - firstPid, ·)

def channelOf? (m : Machine) (pid number : Nat) : Option Nat :=
  if pid = ownerPid then
    if number < 3 then none else (m.jobs[number - 3]?).bind (·.output)
  else (m.placeOf? pid).bind fun (_, p) => descriptor? p number

def tryOpenProcess (m : Machine) (process pid : Nat) : Attempt :=
  if pid = ownerPid ∨ (m.placeOf? pid).any (fun (_, p) => !p.isReaped) then
    let (index, m) := m.openChannel (.process pid)
    let (number, m) := m.bind process index
    .answered (.number number) m
  else m.refuse .noProcess

def tryShare (m : Machine) (process : Nat) (p : Process) (number other : Nat) : Attempt :=
  match (descriptor? p number).bind m.channel? with
  | some (.process pid) =>
    match m.channelOf? pid other with
    | some index =>
      let (number, m) := m.bind process index
      .answered (.number number) m
    | none => m.refuse .badDescriptor
  | _ => m.refuse .badDescriptor

def tryWait (m : Machine) (process pid : Nat) : Attempt :=
  match m.placeOf? pid with
  | none => m.refuse .noProcess
  | some (child, c) =>
    if c.parent ≠ some process ∨ c.isReaped then m.refuse .noProcess
    else match c.ending with
      | none => .blocked
      | some ending =>
        .answered (.ended ending) ((m.update child ({ · with isReaped := true })).update process
          fun p => { p with
            childProcessor := p.childProcessor + c.processor + c.childProcessor
            resident := max p.resident c.resident })

def trySignal (m : Machine) (p : Process) (pid number : Nat) : Attempt :=
  if pid = 0 then
    let members := (List.range m.processes.length).filter fun process =>
      (m.processes[process]?).any (·.job = p.job)
    .answered .done (members.foldl (·.deliver · number) m)
  else match m.placeOf? pid with
    | none => m.refuse .noProcess
    | some (target, p) =>
      if p.isReaped then m.refuse .noProcess else .answered .done (m.deliver target number)

def isAbsolute (number : Nat) : Bool := number = 9 || number = 19

def tryHandle (m : Machine) (process number : Nat) (disposition : Option Disposition) : Attempt :=
  if isAbsolute number then m.refuse .noProcess
  else .answered .done (m.update process fun p =>
    { p with dispositions := disposition.toList.map (number, ·) ++ p.dispositions.filter (·.1 ≠ number) })

def trySleep (m : Machine) (process : Nat) (p : Process) (time : Nat) : Attempt :=
  match p.wake with
  | none => .moved (m.update process ({ · with wake := some (m.clock + time) }))
  | some wake =>
    if m.clock < wake then .blocked
    else .answered .done (m.update process ({ · with wake := none }))

def tryExecute (m : Machine) (programs : Programs) (process : Nat) (p : Process) (path : String)
    (argv : List Octets) (env : Variables) (streams : Streams) : Attempt :=
  match m.load programs p.directory path argv with
  | .error cause => m.refuse (.file cause)
  | .ok (program, argv) =>
    .moved ((m.setTask process (program ⟨argv, env, streams, firstPid + process⟩)).update process
      fun p => { p with dispositions := p.dispositions.filter (·.2 = .ignored) })

def tryListing (m : Machine) (p : Process) (path : String) : Attempt :=
  match m.files.resolveFrom p.directory path with
  | .error cause => m.refuse (.file cause)
  | .ok (location, .directory) => .answered (.names (m.files.list location)) m
  | .ok _ => m.refuse (.file .notDirectory)

def tryStatus (m : Machine) (p : Process) (path : String) : Attempt :=
  match m.files.resolveFrom p.directory path with
  | .error cause => m.refuse (.file cause)
  | .ok (_, node) => .answered (.node node) m

def tryEnter (m : Machine) (process : Nat) (p : Process) (path : String) : Attempt :=
  match m.files.resolveFrom p.directory path with
  | .error cause => m.refuse (.file cause)
  | .ok (location, .directory) =>
    .answered .done (m.update process ({ · with directory := FileStore.pathOf location }))
  | .ok _ => m.refuse (.file .notDirectory)

def attempt (m : Machine) (programs : Programs) (process : Nat) (p : Process) (call : Call)
    (next : Reply → Task) : Attempt :=
  match call with
  | .tick => .answered .done m
  | .read number limit => m.onDescriptor p number (m.tryRead p number limit)
  | .write number data => m.onDescriptor p number (m.tryWrite process p number data next)
  | .openFile path mode => m.tryOpen process p (Octets.toString path) mode
  | .close number => .answered .done (m.unbind process number)
  | .size number => m.trySize p number
  | .setWaiting number waits => m.trySetWaiting p number waits
  | .isSame number other => m.tryCompare p number other
  | .parent => .answered (.number (p.parent.elim ownerPid (firstPid + ·))) m
  | .openProcess pid => m.tryOpenProcess process pid
  | .share number other => m.tryShare process p number other
  | .pipe => m.tryPipe process
  | .wait child => m.tryWait process child
  | .signal target number => m.trySignal p target number
  | .handle number disposition => m.tryHandle process number disposition
  | .noted => .answered (.signals p.noted) (m.update process ({ · with noted := [] }))
  | .sleep time => m.trySleep process p time
  | .listing path => m.tryListing p (Octets.toString path)
  | .status path => m.tryStatus p (Octets.toString path)
  | .enter directory => m.tryEnter process p (Octets.toString directory)
  | .whereami => .answered (.text (Octets.ofString p.directory)) m
  | .limits => .answered (.current p.limits p.bounds) m
  | .limit limits bounds => m.tryLimit process p limits bounds
  | .execute path argv env streams =>
    m.tryExecute programs process p (Octets.toString path) argv env streams

def spawnChild (m : Machine) (parent : Nat) (p : Process) (child : Task) (shared : List Nat) :
    Nat × Machine :=
  let inherited := p.descriptors.filter fun (number, _) => shared.contains number
  let process : Process := { p with
    parent := some parent
    task := child
    descriptors := inherited
    dispositions := p.dispositions.filter (·.2 = .ignored)
    noted := []
    wake := none
    processor := 0
    childProcessor := 0 }
  let held := inherited.foldl (fun m (_, channel) => m.hold channel) m
  (m.processes.length, { held with processes := held.processes ++ [process] })

/-- Signals a process that has used up its time, once in every second; past the bound it ends. -/
def signalOverrun (m : Machine) (process : Nat) (p : Process) : Machine :=
  let isPast (limit : Option Nat) := limit.any fun seconds =>
    seconds * Duration.nanosPerSecond ≤ p.processor
  if isPast p.bounds.processor then m.finish process (.signaled Signal.kill.toNat)
  else if isPast p.limits.processor then
    (m.update process fun p => { p with limits := { p.limits with
        processor := p.limits.processor.map (· + 1) } }).deliver process Signal.cpuLimit.toNat
  else m

def charge (m : Machine) (process : Nat) : Machine :=
  let m := { m with clock := m.clock + stepCost }.update process
    fun p => { p with processor := p.processor + stepCost }
  match m.processes[process]? with
  | none => m
  | some p => m.signalOverrun process p

/-- Makes one step of a process; none if it has to wait or has ended. -/
def step? (m : Machine) (programs : Programs) (process : Nat) : Option Machine :=
  match m.processes[process]? with
  | none => none
  | some p =>
    if p.ending.isSome || p.isStopped then none
    else match p.task with
      | .exit code => some (m.finish process (.exited code))
      | .spawn child shared next =>
        let (number, spawned) := m.spawnChild process p child shared
        some ((spawned.setTask process (next (firstPid + number))).charge process)
      | .call call next =>
        match m.attempt programs process p call next with
        | .blocked => none
        | .moved moved => some (moved.charge process)
        | .answered reply answered => some ((answered.setTask process (next reply)).charge process)

end Machine
end ContestJudge.Host

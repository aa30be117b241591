import ContestJudge.Proofs.SandboxContract
import ContestJudge.Sandbox.Local
/-!
The sandbox of plain processes keeps the contract of a sandbox on every kernel. What is true of a
process is carried through whatever is done with the sandbox, as long as the process is not let go of.
-/

namespace ContestJudge

namespace Capture

def Within (limit : Nat) (capture : Capture) : Prop := capture.size ≤ limit

theorem Within.take {limit : Nat} {capture : Capture} (within : capture.Within limit)
    (chunk : Bytes) : (capture.take limit chunk).Within limit := by
  unfold Capture.take
  split
  · exact within
  split
  · have kept : (chunk.take (limit - capture.size)).length ≤ limit - capture.size :=
      List.length_take_le _ _
    change (chunk.take (limit - capture.size)).length + capture.size ≤ limit
    have held : capture.size ≤ limit := within
    omega
  · rename_i fits
    change chunk.length + capture.size ≤ limit
    omega

theorem Within.readOn {limit : Nat} (overflow : Overflow) (reads : List ReadOutcome) :
    ∀ {capture : Capture}, capture.Within limit →
      (ContestJudge.readOn limit overflow capture reads).1.Within limit := by
  induction reads with
  | nil => exact id
  | cons read rest ih =>
    intro capture within
    match read with
    | .interrupted => exact ih within
    | .failed =>
      change capture.fail.Within limit
      unfold Capture.fail
      split <;> exact within
    | .chunk [] => exact within
    | .chunk (b :: data) =>
      unfold ContestJudge.readOn
      dsimp only
      split
      · exact within.take (b :: data)
      · exact ih (within.take (b :: data))

theorem length_readBounded (reads : List ReadOutcome) (limit : Nat) (overflow : Overflow) :
    (readBounded reads limit overflow).1.data.length ≤ limit := by
  have within : (ContestJudge.readOn limit overflow .start reads).1.Within limit :=
    Within.readOn overflow reads (Nat.zero_le limit)
  change (ContestJudge.readOn limit overflow .start reads).1.parts.reverse.flatten.length ≤ limit
  rw [Within, size_eq] at within
  simpa only [List.length_flatten, List.map_reverse, List.sum_reverse] using within

end Capture

namespace LocalProcess

variable {σ : Type} {control : JobControl σ}

/-- A property of a process that survives whatever its owner does, short of letting go of it. -/
structure Lasting (holds : LocalProcess → Prop) : Prop where
  captures : ∀ {p : LocalProcess}, holds p → ∀ outputOpen diagnosticsOpen diagnostics,
    holds { p with
      outputOpen := outputOpen, diagnosticsOpen := diagnosticsOpen, diagnostics := diagnostics }
  files : ∀ {p : LocalProcess}, holds p → ∀ ending usage wall alarmRang,
    holds { p with report := some (p.buildReport ending usage wall alarmRang) }
  marks : ∀ {p : LocalProcess}, holds p →
    holds { p with
      marked := true
      report := p.report.map fun report => { report with outputLimitExceeded := true } }

def Beside (holds : LocalProcess → Prop) (s : Supervised σ) : Prop := holds s.process

theorem keeps_process_onKernel {α : Type} (work : Work σ α) :
    (onKernel work).Keeps Supervised.process := fun _ => rfl

theorem keeps_process_act {α : Type} (change : σ → α × σ) :
    (act change).Keeps Supervised.process := fun _ => rfl

theorem keeps_process_perform (change : σ → σ) : (perform change).Keeps Supervised.process :=
  fun _ => rfl

section Maintained

variable {holds : LocalProcess → Prop} (lasting : Lasting holds)

theorem maintains_beside {α : Type} {work : Work (Supervised σ) α}
    (kept : work.Keeps Supervised.process) : work.Maintains (Beside holds) :=
  kept.maintains fun _ _ same held => by
    rw [Beside, same]
    exact held

include lasting

theorem maintains_awaitReport : (awaitReport control).Maintains (Beside holds) := by
  refine Work.maintains_get.bind fun s => ?_
  refine (maintains_beside (keeps_process_onKernel _)).bind fun wall => ?_
  refine (maintains_beside (keeps_process_act _)).bind fun watch => ?_
  refine (maintains_beside (keeps_process_perform _)).bind fun _ => ?_
  refine (maintains_beside (keeps_process_perform _)).bind fun _ => ?_
  refine (maintains_beside (keeps_process_perform _)).bind fun _ => ?_
  refine (maintains_beside (keeps_process_onKernel _)).bind fun ⟨ending, usage⟩ => ?_
  intro later held
  exact lasting.files held ending usage wall _

theorem maintains_wait : (wait control).Maintains (Beside holds) := by
  refine Work.maintains_get.bind fun s => ?_
  split
  · exact Work.maintains_pure _
  · exact maintains_awaitReport lasting

theorem maintains_takeDiagnostics : (takeDiagnostics control).Maintains (Beside holds) := by
  refine Work.maintains_get.bind fun s => ?_
  dsimp only
  split
  · refine (maintains_beside (keeps_process_act _)).bind fun reads => ?_
    refine Work.Maintains.bind ?_ fun _ => Work.maintains_pure _
    intro later held
    exact lasting.captures held _ _ _
  · exact Work.maintains_pure _

theorem maintains_takeOutput (limit : Nat) :
    (takeOutput control limit).Maintains (Beside holds) := by
  refine Work.maintains_get.bind fun s => ?_
  dsimp only
  split
  · refine (maintains_beside (keeps_process_act _)).bind fun reads => ?_
    refine Work.Maintains.bind ?_ fun _ => Work.maintains_pure _
    intro later held
    exact lasting.captures held _ _ _
  · exact Work.maintains_pure _

theorem maintains_communicate (outLimit errLimit : Nat) :
    (communicate control outLimit errLimit).Maintains (Beside holds) := by
  refine (maintains_takeOutput lasting outLimit).bind fun output => ?_
  split
  · exact Work.maintains_pure _
  · refine (maintains_wait lasting).bind fun _ => ?_
    exact (maintains_takeDiagnostics lasting).bind fun _ => Work.maintains_pure _

theorem maintains_readStderr : (readStderr control).Maintains (Beside holds) :=
  (maintains_takeDiagnostics lasting).bind fun _ => Work.maintains_pure _

end Maintained
end LocalProcess

namespace LocalHost

variable {σ : Type} {kernel : Kernel σ} {handle : Handle}

def Holds (handle : Handle) (holds : LocalProcess → Prop) (host : LocalHost σ) : Prop :=
  ∃ process, host.processes[handle]? = some process ∧ holds process

variable {holds : LocalProcess → Prop}

theorem Holds.of_processes {host later : LocalHost σ} (held : Holds handle holds host)
    (same : later.processes = host.processes) : Holds handle holds later := by
  rw [Holds, same]
  exact held

theorem Holds.append {host : LocalHost σ} (held : Holds handle holds host) (state : σ)
    (process : LocalProcess) : Holds handle holds ⟨state, host.processes ++ [process]⟩ := by
  obtain ⟨found, present, held⟩ := held
  refine ⟨found, ?_, held⟩
  obtain ⟨bound, -⟩ := List.getElem?_eq_some_iff.mp present
  exact (List.getElem?_append_left bound).trans present

theorem Holds.set {host : LocalHost σ} (held : Holds handle holds host) (state : σ)
    {other : Handle} {process changed : LocalProcess} (present : host.processes[other]? = some process)
    (lasts : holds process → holds changed) :
    Holds handle holds ⟨state, host.processes.set other changed⟩ := by
  obtain ⟨found, there, held⟩ := held
  by_cases same : other = handle
  · subst same
    obtain rfl : found = process := Option.some.inj (there.symm.trans present)
    obtain ⟨bound, -⟩ := List.getElem?_eq_some_iff.mp present
    exact ⟨changed, List.getElem?_set_self bound, lasts held⟩
  · exact ⟨found, (List.getElem?_set_ne same).trans there, held⟩

theorem runOn_onProcess_of_present {α : Type} {host : LocalHost σ} {process : LocalProcess}
    (present : host.processes[handle]? = some process) (work : Work (Supervised σ) α) :
    (onProcess handle work).runOn host =
      ((work.runOn ⟨host.kernel, process⟩).1,
        ⟨(work.runOn ⟨host.kernel, process⟩).2.kernel,
          host.processes.set handle (work.runOn ⟨host.kernel, process⟩).2.process⟩) := by
  rw [onProcess, Work.runOn_bind, Work.runOn_get]
  simp only [present]
  rfl

theorem runOn_onProcess_of_absent {α : Type} {host : LocalHost σ}
    (absent : host.processes[handle]? = none) (work : Work (Supervised σ) α) :
    (onProcess handle work).Stops host (.internal (.unreported handle)) host := by
  rw [Work.Stops, onProcess, Work.runOn_bind, Work.runOn_get]
  simp only [absent]
  rfl

theorem maintains_onProcess {α : Type} {work : Work (Supervised σ) α} (other : Handle)
    (maintained : work.Maintains (LocalProcess.Beside holds)) :
    (onProcess other work).Maintains (Holds handle holds) := by
  intro host held
  cases present : host.processes[other]? with
  | none =>
    rw [runOn_onProcess_of_absent present]
    exact held
  | some process =>
    rw [runOn_onProcess_of_present present]
    exact held.set _ present (maintained ⟨host.kernel, process⟩)

theorem Holds.change {host : LocalHost σ} (held : Holds handle holds host) (other : Handle)
    {change : Supervised σ → Supervised σ}
    (lasts : ∀ s, LocalProcess.Beside holds s → LocalProcess.Beside holds (change s)) :
    Holds handle holds (LocalHost.change other change host) := by
  unfold LocalHost.change
  split
  · exact held
  · rename_i process present
    exact held.set _ present (lasts ⟨host.kernel, process⟩)

theorem maintains_launch (files : FileStore) (binary : Binary) (spec : LaunchSpec) :
    (launch kernel files binary spec).Maintains (Holds handle holds) := by
  intro host held
  unfold launch
  split
  · exact held.of_processes rfl
  · rename_i program baseArgs _
    rw [Work.runOn_bind, Work.runOn_get]
    dsimp only
    split
    · exact held.of_processes rfl
    · rename_i job state started
      exact held.append state (.start job spec)

theorem maintains_onKernel {α : Type} (work : Work σ α) :
    (onKernel work).Maintains (Holds handle holds) := fun _ held => held.of_processes rfl

/-- A lasting property of a process survives every use of the sandbox. -/
theorem Holds.of_moves (lasting : LocalProcess.Lasting holds) {before after : LocalHost σ}
    (moves : (Sandbox.plain kernel).Moves before after) (held : Holds handle holds before) :
    Holds handle holds after := by
  cases moves with
  | launch files binary spec => exact maintains_launch files binary spec before held
  | wait process =>
    exact maintains_onProcess process (LocalProcess.maintains_wait lasting) before held
  | communicate process outLimit errLimit =>
    exact maintains_onProcess process
      (LocalProcess.maintains_communicate lasting outLimit errLimit) before held
  | readStderr process =>
    exact maintains_onProcess process (LocalProcess.maintains_readStderr lasting) before held
  | kill process => exact held.change process fun _ beside => beside
  | markOutput process => exact held.change process fun _ beside => lasting.marks beside
  | openMemory => exact maintains_onKernel kernel.openMemory before held
  | memorySize index => exact maintains_onKernel (kernel.memorySize index) before held
  | memoryBytes index => exact maintains_onKernel (kernel.memoryBytes index) before held
  | openPipe => exact maintains_onKernel kernel.openPipe before held
  | closeEnd e => exact held.of_processes rfl

theorem Holds.of_reaches (lasting : LocalProcess.Lasting holds) {before after : LocalHost σ}
    (reaches : (Sandbox.plain kernel).Reaches before after) (held : Holds handle holds before) :
    Holds handle holds after :=
  reaches.of_preserved (fun moves => Holds.of_moves lasting moves) held

theorem exists_of_gives_onProcess {α : Type} {work : Work (Supervised σ) α} {a : α}
    {before after : LocalHost σ} (gives : (onProcess handle work).Gives before a after) :
    ∃ process s, before.processes[handle]? = some process ∧
      work.Gives ⟨before.kernel, process⟩ a s ∧
      after = ⟨s.kernel, before.processes.set handle s.process⟩ := by
  cases present : before.processes[handle]? with
  | none => cases gives.symm.trans (runOn_onProcess_of_absent present work)
  | some process =>
    rw [Work.Gives, runOn_onProcess_of_present present, Prod.mk.injEq] at gives
    exact ⟨process, _, rfl, Work.gives_of_answer gives.1, gives.2.symm⟩

theorem gives_of_onKernel {α : Type} {work : Work σ α} {a : α} {before after : LocalHost σ}
    (gives : (onKernel work).Gives before a after) :
    work.Gives before.kernel a after.kernel := by
  rw [Work.Gives, onKernel, Work.runOn_within, Prod.mk.injEq] at gives
  rw [← gives.2]
  exact Work.gives_of_answer gives.1

theorem holds_of_gives_onProcess {α : Type} {work : Work (Supervised σ) α} {a : α}
    {before after : LocalHost σ} (gives : (onProcess handle work).Gives before a after)
    (done : ∀ {s later}, work.Gives s a later → holds later.process) :
    Holds handle holds after := by
  obtain ⟨process, s, present, worked, rfl⟩ := exists_of_gives_onProcess gives
  obtain ⟨bound, -⟩ := List.getElem?_eq_some_iff.mp present
  exact ⟨s.process, List.getElem?_set_self bound, done worked⟩

theorem holds_of_launch {files : FileStore} {binary : Binary} {spec : LaunchSpec}
    {before after : LocalHost σ}
    (launches : (launch kernel files binary spec).Gives before handle after)
    (starts : ∀ job, holds (.start job spec)) : Holds handle holds after := by
  unfold launch at launches
  split at launches
  · obtain ⟨_, _, -, refused⟩ := Work.exists_of_gives_bind launches
    cases refused
  · rename_i program baseArgs _
    rw [Work.Gives, Work.runOn_bind, Work.runOn_get] at launches
    dsimp only at launches
    split at launches
    · cases launches
    · rename_i job state started
      obtain ⟨rfl, rfl⟩ : before.processes.length = handle ∧
          (⟨state, before.processes ++ [.start job spec]⟩ : LocalHost σ) = after := by
        cases launches
        exact ⟨rfl, rfl⟩
      exact ⟨.start job spec, List.getElem?_concat_length, starts job⟩

end LocalHost

namespace LocalProcess

variable {σ : Type} {control : JobControl σ}

def HasReport (p : LocalProcess) : Prop := p.report.isSome

structure BearsMark (p : LocalProcess) : Prop where
  marked : p.marked = true
  reported : ∀ {report}, p.report = some report → report.outputLimitExceeded = true

def TellsEnd (p : LocalProcess) : Prop :=
  ∀ ⦃report⦄, p.report = some report → report.exitCode.isSome ∨ report.signal.isSome

theorem lasting_hasReport : Lasting HasReport where
  captures held _ _ _ := held
  files _ _ _ _ _ := rfl
  marks held := (Option.isSome_map ..).trans held

theorem lasting_bearsMark : Lasting BearsMark where
  captures held _ _ _ := ⟨held.marked, held.reported⟩
  files held _ _ _ _ := by
    refine ⟨held.marked, fun reported => ?_⟩
    cases reported
    exact held.marked
  marks held := by
    refine ⟨rfl, fun reported => ?_⟩
    obtain ⟨_, -, rfl⟩ := Option.map_eq_some_iff.mp reported
    rfl

theorem lasting_tellsEnd : Lasting TellsEnd where
  captures held _ _ _ := held
  files _ ending _ _ _ := by
    intro report reported
    cases reported
    cases ending with
    | exited code => exact .inl rfl
    | signaled number => exact .inr rfl
  marks held := by
    intro report reported
    obtain ⟨unmarked, known, rfl⟩ := Option.map_eq_some_iff.mp reported
    have tells : unmarked.exitCode.isSome ∨ unmarked.signal.isSome := held known
    exact tells

theorem lasting_true : Lasting fun _ => True := ⟨fun _ _ _ _ => trivial, fun _ _ _ _ _ => trivial,
  fun _ => trivial⟩

theorem bearsMark_markOutput (s : Supervised σ) : BearsMark (markOutput s).process := by
  refine ⟨rfl, fun reported => ?_⟩
  obtain ⟨_, -, rfl⟩ := Option.map_eq_some_iff.mp reported
  rfl

theorem hasReport_of_awaitReport {report : ProcessReport} {s later : Supervised σ}
    (waits : (awaitReport control).Gives s report later) : HasReport later.process := by
  -- Only the last two steps matter: the report is put on file and then given.
  obtain ⟨_, _, -, waits⟩ := Work.exists_of_gives_bind waits
  obtain ⟨wall, _, -, waits⟩ := Work.exists_of_gives_bind waits
  obtain ⟨watch, _, -, waits⟩ := Work.exists_of_gives_bind waits
  obtain ⟨_, _, -, waits⟩ := Work.exists_of_gives_bind waits
  obtain ⟨_, _, -, waits⟩ := Work.exists_of_gives_bind waits
  obtain ⟨_, _, -, waits⟩ := Work.exists_of_gives_bind waits
  obtain ⟨⟨ending, usage⟩, _, -, waits⟩ := Work.exists_of_gives_bind waits
  obtain ⟨seen, _, -, waits⟩ := Work.exists_of_gives_bind waits
  obtain ⟨_, _, filed, waits⟩ := Work.exists_of_gives_bind waits
  cases filed
  cases waits
  rfl

theorem hasReport_of_wait {report : ProcessReport} {s later : Supervised σ}
    (waits : (wait control).Gives s report later) : HasReport later.process := by
  obtain ⟨_, _, same, waits⟩ := Work.exists_of_gives_bind waits
  cases same
  split at waits
  · rename_i known
    cases waits
    exact Option.isSome_of_mem known
  · exact hasReport_of_awaitReport waits

theorem hasReport_of_communicate {outLimit errLimit : Nat} {output : CapturedOutput}
    {s later : Supervised σ}
    (captures : (communicate control outLimit errLimit).Gives s output later)
    (whole : output.isTruncated = false) : HasReport later.process := by
  obtain ⟨taken, middle, -, captures⟩ := Work.exists_of_gives_bind captures
  split at captures
  · rename_i cut
    cases captures
    rw [CapturedOutput.isTruncated, cut] at whole
    cases whole
  · obtain ⟨report, ended, waits, captures⟩ := Work.exists_of_gives_bind captures
    obtain ⟨diagnostics, last, reads, captures⟩ := Work.exists_of_gives_bind captures
    cases captures
    have kept : (takeDiagnostics control).Maintains (Beside HasReport) :=
      maintains_takeDiagnostics lasting_hasReport
    have filed := kept ended (hasReport_of_wait waits)
    rw [reads] at filed
    exact filed

theorem length_of_takeOutput {limit : Nat} {taken : CapturedStream} {s later : Supervised σ}
    (takes : (takeOutput control limit).Gives s taken later) : taken.data.length ≤ limit := by
  obtain ⟨_, _, same, takes⟩ := Work.exists_of_gives_bind takes
  cases same
  dsimp only at takes
  split at takes
  · obtain ⟨reads, _, -, takes⟩ := Work.exists_of_gives_bind takes
    obtain ⟨_, _, -, takes⟩ := Work.exists_of_gives_bind takes
    cases takes
    exact Capture.length_readBounded reads limit .stop
  · cases takes
    exact Nat.zero_le limit

theorem length_of_communicate {outLimit errLimit : Nat} {output : CapturedOutput}
    {s later : Supervised σ}
    (captures : (communicate control outLimit errLimit).Gives s output later) :
    output.stdout.length ≤ outLimit := by
  obtain ⟨taken, _, takes, captures⟩ := Work.exists_of_gives_bind captures
  have bound : taken.data.length ≤ outLimit := length_of_takeOutput takes
  split at captures
  · cases captures
    exact bound
  · obtain ⟨_, _, -, captures⟩ := Work.exists_of_gives_bind captures
    obtain ⟨_, _, -, captures⟩ := Work.exists_of_gives_bind captures
    cases captures
    exact bound

end LocalProcess

inductive Kernel.Raises {σ : Type} (kernel : Kernel σ) (fault : Fault) : Prop where
  | awaitExit {job : JobId} {state later : σ} (stops : (kernel.awaitExit job).Stops state fault later)
  | reap {job : JobId} {state later : σ} (stops : (kernel.reap job).Stops state fault later)
  | openMemory {state later : σ} (stops : kernel.openMemory.Stops state fault later)
  | memorySize {index : Nat} {state later : σ}
      (stops : (kernel.memorySize index).Stops state fault later)
  | memoryBytes {index : Nat} {state later : σ}
      (stops : (kernel.memoryBytes index).Stops state fault later)
  | openPipe {state later : σ} (stops : kernel.openPipe.Stops state fault later)

namespace LocalProcess

variable {σ : Type} {kernel : Kernel σ}

theorem stopsOnly_act {α : Type} {kind : Fault → Prop} (change : σ → α × σ) :
    (act change).StopsOnly kind := by
  intro s fault later stops
  cases congrArg Prod.fst stops

theorem stopsOnly_awaitReport : (awaitReport kernel.toJobControl).StopsOnly kernel.Raises := by
  have awaits (job : JobId) : (kernel.awaitExit job).StopsOnly kernel.Raises :=
    fun _ _ _ stops => .awaitExit stops
  have reaps (job : JobId) : (kernel.reap job).StopsOnly kernel.Raises :=
    fun _ _ _ stops => .reap stops
  refine Work.stopsOnly_get.bind fun s => ?_
  refine (awaits _).within.bind fun wall => ?_
  refine (stopsOnly_act _).bind fun watch => ?_
  refine (Work.stopsOnly_modify _).bind fun _ => ?_
  refine (Work.stopsOnly_modify _).bind fun _ => ?_
  refine (Work.stopsOnly_modify _).bind fun _ => ?_
  refine (reaps _).within.bind fun ⟨ending, usage⟩ => ?_
  refine Work.stopsOnly_get.bind fun seen => ?_
  exact (Work.stopsOnly_modify _).bind fun _ => Work.stopsOnly_pure _

theorem stopsOnly_wait : (wait kernel.toJobControl).StopsOnly kernel.Raises := by
  refine Work.stopsOnly_get.bind fun s => ?_
  split
  · exact Work.stopsOnly_pure _
  · exact stopsOnly_awaitReport

theorem stopsOnly_takeDiagnostics :
    (takeDiagnostics kernel.toJobControl).StopsOnly kernel.Raises := by
  refine Work.stopsOnly_get.bind fun s => ?_
  dsimp only
  split
  · refine (stopsOnly_act _).bind fun reads => ?_
    exact (Work.stopsOnly_modify _).bind fun _ => Work.stopsOnly_pure _
  · exact Work.stopsOnly_pure _

theorem stopsOnly_communicate (outLimit errLimit : Nat) :
    (communicate kernel.toJobControl outLimit errLimit).StopsOnly kernel.Raises := by
  have takes : (takeOutput kernel.toJobControl outLimit).StopsOnly kernel.Raises := by
    refine Work.stopsOnly_get.bind fun s => ?_
    dsimp only
    split
    · refine (stopsOnly_act _).bind fun reads => ?_
      exact (Work.stopsOnly_modify _).bind fun _ => Work.stopsOnly_pure _
    · exact Work.stopsOnly_pure _
  refine takes.bind fun output => ?_
  split
  · exact Work.stopsOnly_pure _
  · refine stopsOnly_wait.bind fun _ => ?_
    exact stopsOnly_takeDiagnostics.bind fun _ => Work.stopsOnly_pure _

end LocalProcess

theorem LocalHost.stopsOnly_launch {σ : Type} {kernel : Kernel σ} (files : FileStore)
    (binary : Binary) (spec : LaunchSpec) :
    (launch kernel files binary spec).StopsOnly fun fault => fault.isDefensive = false := by
  unfold launch
  split
  · exact (Work.stopsOnly_modify _).bind fun _ => Work.stopsOnly_throw rfl
  · refine Work.stopsOnly_get.bind fun host => ?_
    split
    · exact (Work.stopsOnly_modify _).bind fun _ => Work.stopsOnly_throw rfl
    · exact (Work.stopsOnly_modify _).bind fun _ => Work.stopsOnly_pure _

theorem LocalHost.kind_of_onProcess {σ α : Type} {kind : Fault → Prop} {handle : Handle}
    {holds : LocalProcess → Prop} {work : Work (Supervised σ) α} (only : work.StopsOnly kind)
    {before after : LocalHost σ} {fault : Fault} (present : Holds handle holds before)
    (stops : (onProcess handle work).Stops before fault after) : kind fault := by
  obtain ⟨process, present, -⟩ := present
  rw [Work.Stops, runOn_onProcess_of_present present] at stops
  exact only (Prod.ext (congrArg Prod.fst stops : _ = Except.error fault) rfl)

namespace Sandbox

variable {σ : Type} (kernel : Kernel σ)

theorem plain_keepsReports : (plain kernel).KeepsReports := by
  intro process before after last _ waits reaches
  have reported : LocalHost.Holds process LocalProcess.HasReport after := by
    cases waits with
    | @wait report waits =>
      have waited : (LocalHost.onProcess process (LocalProcess.wait kernel.toJobControl)).Gives
        before report after := waits
      exact LocalHost.holds_of_gives_onProcess waited LocalProcess.hasReport_of_wait
    | @communicate outLimit errLimit output captures whole =>
      have captured : (LocalHost.onProcess process
        (LocalProcess.communicate kernel.toJobControl outLimit errLimit)).Gives
        before output after := captures
      exact LocalHost.holds_of_gives_onProcess captured fun captured =>
        LocalProcess.hasReport_of_communicate captured whole
  obtain ⟨found, present, reported⟩ :=
    LocalHost.Holds.of_reaches LocalProcess.lasting_hasReport reaches reported
  change ((last.processes[process]?).bind (·.report)).isSome
  rw [present]
  exact reported

variable {kernel} in
theorem holds_of_handed {holds : LocalProcess → Prop} (lasting : LocalProcess.Lasting holds)
    (starts : ∀ job spec, holds (.start job spec)) {process : Handle} {host : LocalHost σ}
    (handed : (plain kernel).Handed process host) : LocalHost.Holds process holds host := by
  obtain ⟨launches, reaches⟩ := handed
  exact LocalHost.Holds.of_reaches lasting reaches
    (LocalHost.holds_of_launch launches fun job => starts job _)

variable {kernel} in
theorem holds_true_of_handed {process : Handle} {host : LocalHost σ}
    (handed : (plain kernel).Handed process host) :
    LocalHost.Holds process (fun _ => True) host :=
  holds_of_handed LocalProcess.lasting_true (fun _ _ => trivial) handed

variable {kernel} in
/-- Every report tells of an exit code or of a signal. -/
theorem plain_tellsEnd {process : Handle} {host : LocalHost σ} {report : ProcessReport}
    (handed : (plain kernel).Handed process host)
    (reported : (plain kernel).report? host process = some report) :
    report.exitCode.isSome ∨ report.signal.isSome := by
  have unreported (job : JobId) (spec : LaunchSpec) :
      LocalProcess.TellsEnd (.start job spec) := by
    intro report reported
    cases reported
  obtain ⟨found, present, tells⟩ := holds_of_handed LocalProcess.lasting_tellsEnd unreported handed
  change (host.processes[process]?).bind (·.report) = some report at reported
  rw [present] at reported
  exact tells reported

variable {kernel} in
theorem bearsMark_of_markOutput {process : Handle} {host : LocalHost σ}
    (handed : (plain kernel).Handed process host) :
    LocalHost.Holds process LocalProcess.BearsMark ((plain kernel).markOutput process host) := by
  obtain ⟨found, present, -⟩ := holds_true_of_handed handed
  obtain ⟨bound, -⟩ := List.getElem?_eq_some_iff.mp present
  change LocalHost.Holds process _ (LocalHost.change process LocalProcess.markOutput host)
  unfold LocalHost.change
  simp only [present]
  exact ⟨_, List.getElem?_set_self bound, LocalProcess.bearsMark_markOutput _⟩

theorem plain_honoursLimits
    (measures : ∀ {index size : Nat} {data : Bytes} {before sized after : σ},
      (kernel.memorySize index).Gives before size sized →
      (kernel.memoryBytes index).Gives sized data after → data.length = size) :
    (plain kernel).HonoursLimits where
  captures {process outLimit errLimit output before after} captures := by
    have captured : (LocalHost.onProcess process
      (LocalProcess.communicate kernel.toJobControl outLimit errLimit)).Gives
      before output after := captures
    obtain ⟨_, _, -, captured, -⟩ := LocalHost.exists_of_gives_onProcess captured
    exact LocalProcess.length_of_communicate captured
  marks handed reaches reported := by
    obtain ⟨found, present, bears⟩ := LocalHost.Holds.of_reaches LocalProcess.lasting_bearsMark
      reaches (bearsMark_of_markOutput handed)
    change (_ : Option LocalProcess).bind (·.report) = some _ at reported
    rw [present] at reported
    rw [ProcessReport.isOle, bears.reported reported, Bool.true_or]
  measures {index size data before sized after} sizes takes := by
    have measured : (LocalHost.onKernel (kernel.memorySize index)).Gives before size sized := sizes
    have taken : (LocalHost.onKernel (kernel.memoryBytes index)).Gives sized data after := takes
    exact measures (LocalHost.gives_of_onKernel measured) (LocalHost.gives_of_onKernel taken)

/-- A sandbox of plain processes never loses track by itself. -/
theorem plain_raises {fault : Fault} (raises : (plain kernel).Raises fault)
    (defensive : fault.isDefensive) : kernel.Raises fault := by
  have onKernel {α : Type} {work : Work σ α} {state later : LocalHost σ}
      (only : work.StopsOnly kernel.Raises) (stops : (LocalHost.onKernel work).Stops state fault later) :
      kernel.Raises fault := only.within stops
  cases raises with
  | @launch files binary spec state later stops =>
    have stops : (LocalHost.launch kernel files binary spec).Stops state fault later := stops
    have unlike : fault.isDefensive = false := LocalHost.stopsOnly_launch files binary spec stops
    rw [defensive] at unlike
    cases unlike
  | @wait process state later handed stops =>
    have stops : (LocalHost.onProcess process (LocalProcess.wait kernel.toJobControl)).Stops state
      fault later := stops
    exact LocalHost.kind_of_onProcess LocalProcess.stopsOnly_wait (holds_true_of_handed handed) stops
  | @communicate process outLimit errLimit state later handed stops =>
    have stops : (LocalHost.onProcess process
      (LocalProcess.communicate kernel.toJobControl outLimit errLimit)).Stops state fault later := stops
    exact LocalHost.kind_of_onProcess (LocalProcess.stopsOnly_communicate outLimit errLimit)
      (holds_true_of_handed handed) stops
  | @readStderr process state later handed stops =>
    have stops : (LocalHost.onProcess process (LocalProcess.readStderr kernel.toJobControl)).Stops
      state fault later := stops
    have only : (LocalProcess.readStderr kernel.toJobControl).StopsOnly kernel.Raises :=
      LocalProcess.stopsOnly_takeDiagnostics.bind fun _ => Work.stopsOnly_pure _
    exact LocalHost.kind_of_onProcess only (holds_true_of_handed handed) stops
  | openMemory stops => exact onKernel (fun _ _ _ stops => .openMemory stops) stops
  | memorySize stops => exact onKernel (fun _ _ _ stops => .memorySize stops) stops
  | memoryBytes stops => exact onKernel (fun _ _ _ stops => .memoryBytes stops) stops
  | openPipe stops => exact onKernel (fun _ _ _ stops => .openPipe stops) stops

end Sandbox
end ContestJudge

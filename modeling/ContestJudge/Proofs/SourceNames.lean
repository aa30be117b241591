import ContestJudge.Proofs.Attendance
import ContestJudge.Proofs.Construction
import ContestJudge.Proofs.FileNames
/-!
What the source of a submission can do to its own build. Where the compiler runs, the build gives a
binary or blames the source, but for one kind of source: the name of its file comes from it, and a
name can pass for a plain one that no file system takes.
-/

namespace ContestJudge

def Fault.IsCompile (fault : Fault) : Prop := ∃ diagnostics, fault = .compile diagnostics

/-- A sandbox that launches whatever has a command, and in which what was launched can be read and
comes to an end. -/
structure Sandbox.Obliges {σ : Type} (sandbox : Sandbox σ) : Prop where
  launches : ∀ {binary : Binary}, binary.argv ≠ [] → ∀ files spec state,
    ∃ process later, (sandbox.launch files binary spec).Gives state process later
  reads : ∀ {process : Handle} {state : σ}, sandbox.Handed process state → ∀ outLimit errLimit,
    ∃ output later, (sandbox.communicate process outLimit errLimit).Gives state output later
  reaps : ∀ {process : Handle} {state : σ}, sandbox.Handed process state →
    ∃ report later, (sandbox.wait process).Gives state report later

/-- The sandbox of plain processes does so on a kernel that starts everything and comes to no fault. -/
theorem Sandbox.plain_obliges {σ : Type} {kernel : Kernel σ}
    (starts : ∀ files startup state, ∃ job later,
      kernel.start files startup state = (.ok job, later))
    (faultless : ∀ fault, ¬ kernel.Raises fault) : (plain kernel).Obliges where
  launches {binary} command files spec state := by
    obtain ⟨program, baseArgs, argv⟩ := List.exists_cons_of_ne_nil command
    obtain ⟨job, later, started⟩ :=
      starts files (LocalHost.startup binary spec program baseArgs) state.kernel
    refine ⟨state.processes.length, ⟨later, state.processes ++ [.start job spec]⟩, ?_⟩
    change (LocalHost.launch kernel files binary spec).Gives _ _ _
    simp only [LocalHost.launch, argv]
    rw [Work.Gives, Work.runOn_bind, Work.runOn_get]
    simp only [started]
    rfl
  reads {process state} handed outLimit errLimit := by
    rcases Work.gives_or_stops (LocalHost.onProcess process
      (LocalProcess.communicate kernel.toJobControl outLimit errLimit)) state with
      gives | ⟨fault, later, stops⟩
    · exact gives
    · exact absurd (LocalHost.kind_of_onProcess
        (LocalProcess.stopsOnly_communicate outLimit errLimit) (holds_true_of_handed handed) stops)
        (faultless fault)
  reaps {process state} handed := by
    rcases Work.gives_or_stops (LocalHost.onProcess process
      (LocalProcess.wait kernel.toJobControl)) state with gives | ⟨fault, later, stops⟩
    · exact gives
    · exact absurd (LocalHost.kind_of_onProcess LocalProcess.stopsOnly_wait
        (holds_true_of_handed handed) stops) (faultless fault)

namespace Build

variable {σ : Type} {sandbox : Sandbox σ}

section Running

variable (obliges : sandbox.Obliges)
include obliges

theorem ends_of_obliges {order : LaunchOrder} (command : order.binary.argv ≠ []) (host : σ) :
    ∃ output report, Ends sandbox order host output report := by
  obtain ⟨process, launched, launches⟩ := obliges.launches command order.files order.spec host
  have handed : sandbox.Handed process launched := Sandbox.handed_of_launch launches
  obtain ⟨output, captured, reads⟩ := obliges.reads handed outputLimit outputLimit
  have reaches : sandbox.Reaches launched (heard sandbox process output captured) := by
    have read := Sandbox.reaches_of_gives (.communicate process _ _ launched) reads
    unfold heard
    split
    · exact read.trans (Sandbox.Moves.kill process captured).reaches
    · exact read
  obtain ⟨report, ended, waits⟩ := obliges.reaps (handed.of_reaches reaches)
  exact ⟨output, report, .intro launches reads waits⟩

theorem yields_runTool {tool : Binary} (command : tool.argv ≠ []) (spec : LaunchSpec)
    (desk : Desk σ) :
    (runTool sandbox tool spec).Yields desk (fun _ _ => True) Fault.IsCompile := by
  have sees : ∃ output report, Ends sandbox ⟨tool, spec, desk.files⟩ desk.host output report :=
    ends_of_obliges obliges command desk.host
  obtain ⟨output, report, ends⟩ := sees
  have answers := runTool_of_ends ends
  rcases Work.gives_or_stops (runTool sandbox tool spec) desk with ⟨_, later, gives⟩ |
    ⟨fault, later, stops⟩
  · exact Work.yields_of_gives gives trivial
  · rw [stops] at answers
    obtain ⟨-, diagnostics, blamed, -⟩ := exists_of_conclude_eq_error answers.symm
    exact .inr ⟨fault, later, stops, diagnostics, blamed⟩

end Running
end Build

namespace Language

theorem find?_cases {name : String} {language : Language} (found : find? name = some language) :
    language = python ∨ language = cpp ∨ name = "java" ∧ language = java := by
  obtain ⟨entry, listed, rfl⟩ := Option.map_eq_some_iff.mp found
  have goesBy := List.find?_some listed
  have known := List.mem_of_find?_eq_some listed
  simp only [Language.known, List.mem_cons, List.not_mem_nil, or_false] at known
  rcases known with rfl | rfl | rfl
  · exact .inl rfl
  · exact .inr (.inl rfl)
  · simp only [List.contains_cons, List.contains_nil, Bool.or_false, beq_iff_eq] at goesBy
    exact .inr (.inr ⟨goesBy, rfl⟩)

theorem compileCommand_ne_nil {name : String} {language : Language}
    (found : find? name = some language) {directory : String} {sources flags command : List String}
    (builds : language.compileCommand directory sources flags = some command) : command ≠ [] := by
  rcases find?_cases found with rfl | rfl | ⟨-, rfl⟩
  · cases builds
  · cases builds
    exact List.cons_ne_nil _ _
  · cases builds
    exact List.cons_ne_nil _ _

/-- The usual name of a source stands for a file, but for none that a file system takes. -/
structure Misnames (language : Language) (source : Bytes) : Prop where
  plain : Path.isPlainName (language.sourceName source)
  refused : ¬ FileStore.AllowsName (language.sourceName source)

theorem java_isPlainName_iff (source : Bytes) :
    Path.isPlainName (java.sourceName source) ↔ '/' ∉ (Java.className source).toList := by
  have name : java.sourceName source = Java.className source ++ ".java" := rfl
  have ending : '/' ∉ ".java".toList := by decide
  have length : ".java".toList.length = 5 := rfl
  rw [Path.isPlainName_iff, name, String.toList_append, List.mem_append]
  constructor
  · rintro ⟨separate, -⟩
    exact fun there => separate (.inl there)
  · intro separate
    -- The ending alone is too long for the names of directories.
    have long {text : List Char} (short : text.length < 5) :
        (Java.className source).toList ++ ".java".toList ≠ text := by
      rintro rfl
      rw [List.length_append] at short
      omega
    exact ⟨not_or.mpr ⟨separate, ending⟩, long (by decide), long (by decide), long (by decide)⟩

theorem java_allowsName_iff (source : Bytes) :
    FileStore.AllowsName (java.sourceName source) ↔
      '\x00' ∉ (Java.className source).toList ∧ (Java.className source).utf8ByteSize ≤ 250 := by
  have name : java.sourceName source = Java.className source ++ ".java" := rfl
  have ending : '\x00' ∉ ".java".toList := by decide
  have size : ".java".utf8ByteSize = 5 := by decide
  have limit : FileStore.nameLimit = 255 := rfl
  constructor
  · rintro ⟨noNul, short⟩
    rw [name, String.toList_append, List.mem_append] at noNul
    rw [name, String.utf8ByteSize_append] at short
    exact ⟨fun there => noNul (.inl there), by omega⟩
  · rintro ⟨noNul, short⟩
    refine ⟨?_, ?_⟩
    · rw [name, String.toList_append, List.mem_append]
      exact not_or.mpr ⟨noNul, ending⟩
    · rw [name, String.utf8ByteSize_append]
      omega

/-- Only the class of a source can bring in such a name: with a zero byte, or with more than 250
bytes. -/
theorem misnames_iff {name : String} {language : Language} (found : find? name = some language)
    (source : Bytes) : language.Misnames source ↔ name = "java" ∧
      '/' ∉ (Java.className source).toList ∧
      ('\x00' ∈ (Java.className source).toList ∨ 250 < (Java.className source).utf8ByteSize) := by
  constructor
  · rintro ⟨plain, refused⟩
    rcases find?_cases found with rfl | rfl | ⟨named, rfl⟩
    · exact absurd (by decide : FileStore.AllowsName "solution.py") refused
    · exact absurd (by decide : FileStore.AllowsName "solution.cpp") refused
    · rw [java_isPlainName_iff] at plain
      rw [java_allowsName_iff, Decidable.not_and_iff_not_or_not, Decidable.not_not, Nat.not_le]
        at refused
      exact ⟨named, plain, refused⟩
  · rintro ⟨rfl, plain, refused⟩
    obtain rfl : java = language := Option.some.inj found
    refine ⟨(java_isPlainName_iff source).mpr plain, ?_⟩
    rw [java_allowsName_iff, Decidable.not_and_iff_not_or_not, Decidable.not_not, Nat.not_le]
    exact refused

end Language

namespace Build

variable {σ : Type} {language : Language} {source : Bytes}

section Writing

variable (workspace : String) (desk : Desk σ)

variable {workspace desk} in
theorem yields_writeSource (accepts : desk.files.Accepts workspace)
    (named : ¬ language.Misnames source) :
    (writeSource language workspace ⟨none, source⟩ : Judge σ String).Yields desk
      (fun _ _ => True) Fault.IsCompile := by
  by_cases plain : isPlain language ⟨none, source⟩
  · have allowed : FileStore.AllowsName (language.sourceName source) :=
      Decidable.not_not.mp fun refused => named ⟨plain, refused⟩
    obtain ⟨later, writes⟩ := accepts plain allowed source
    exact Work.yields_of_gives (writeSource_gives plain writes) trivial
  · exact .inr ⟨_, desk, writeSource_stops desk plain, _, rfl⟩

theorem writeSource_stops_of_misnames (misnames : language.Misnames source) :
    ∃ cause, (writeSource language workspace ⟨none, source⟩ : Judge σ String).Stops desk
      (.internal (.sourceUnwritable (language.sourceName source) cause)) desk := by
  have plain : isPlain language ⟨none, source⟩ := misnames.plain
  cases writes : desk.files.write (Path.join workspace (language.sourceName source)) source with
  | ok later =>
    have separate := ((Path.isPlainName_iff _).mp misnames.plain).1
    exact absurd (FileStore.allowsName_of_write separate writes) misnames.refused
  | error cause => exact ⟨cause, writeSource_stops_of_refused plain writes⟩

end Writing

section Compiling

variable (sandbox : Sandbox σ) (memoryLimit : Nat) {workspace : String} {desk : Desk σ}
  {request : CompileRequest}
  (found : Language.find? request.language = some language)
  (single : request.sources = [⟨none, source⟩])
include found single

theorem yields_inWorkspace (obliges : sandbox.Obliges) (accepts : desk.files.Accepts workspace)
    (named : ¬ language.Misnames source) :
    (inWorkspace sandbox memoryLimit language request workspace).Yields desk (fun _ _ => True)
      Fault.IsCompile := by
  have writes : (writeSources language workspace request.sources : Judge σ (List String)).Yields desk
      (fun _ _ => True) Fault.IsCompile := by
    rw [single]
    refine (yields_writeSource accepts named).bind fun name later _ => ?_
    exact Work.yields_of_gives rfl trivial
  refine writes.bind fun names later _ => ?_
  split
  · rename_i command builds
    have runs : (tool language command).argv ≠ [] := Language.compileCommand_ne_nil found builds
    exact (yields_runTool obliges runs _ later).bind fun _ _ _ => Work.yields_of_gives rfl trivial
  · exact Work.yields_of_gives rfl trivial

omit found in
theorem inWorkspace_stops_of_misnames (misnames : language.Misnames source) :
    ∃ cause, (inWorkspace sandbox memoryLimit language request workspace).Stops desk
      (.internal (.sourceUnwritable (language.sourceName source) cause)) desk := by
  obtain ⟨cause, stops⟩ := writeSource_stops_of_misnames workspace desk misnames
  have writes : (writeSources language workspace request.sources : Judge σ (List String)).Stops desk
      (.internal (.sourceUnwritable (language.sourceName source) cause)) desk := by
    rw [single]
    exact Work.runOn_bind_of_stops stops _
  exact ⟨cause, Work.runOn_bind_of_stops writes _⟩

variable {files : FileStore} (room : desk.files.createWorkspace = (.ok workspace, files))
include room

theorem yields_compiler (obliges : sandbox.Obliges) (accepts : files.Accepts workspace)
    (named : ¬ language.Misnames source) :
    (compiler sandbox memoryLimit request).Yields desk (fun _ _ => True) Fault.IsCompile := by
  have builds : (inWorkspace sandbox memoryLimit language request workspace).Yields
      (desk.withFiles files) (fun _ _ => True) Fault.IsCompile :=
    yields_inWorkspace sandbox memoryLimit found single obliges accepts named
  have same := runOn_compiler sandbox memoryLimit found room
  simp only [Work.Yields, Work.Gives, Work.Stops, same]
  exact builds.unlessDone

theorem compiler_stops_of_misnames (misnames : language.Misnames source) :
    ∃ cause later, (compiler sandbox memoryLimit request).Stops desk
      (.internal (.sourceUnwritable (language.sourceName source) cause)) later := by
  have writes : ∃ cause, (inWorkspace sandbox memoryLimit language request workspace).Stops
      (desk.withFiles files) (.internal (.sourceUnwritable (language.sourceName source) cause))
      (desk.withFiles files) := inWorkspace_stops_of_misnames sandbox memoryLimit single misnames
  obtain ⟨cause, stops⟩ := writes
  have same := runOn_compiler sandbox memoryLimit found room
  exact ⟨cause, _, same.trans (Work.stops_unlessDone _ stops)⟩

end Compiling
end Build

def Submission.IsMisnamed (submission : Submission) : Prop :=
  submission.language = "java" ∧ '/' ∉ (Language.Java.className submission.source).toList ∧
    ('\x00' ∈ (Language.Java.className submission.source).toList ∨
      250 < (Language.Java.className submission.source).utf8ByteSize)

namespace StandardGrader

variable {σ : Type}

/-- Where the compiler runs, a submission in a known language builds or is blamed for its source,
unless it is misnamed; then the judge is blamed. -/
theorem build_blames_source_unless_misnamed (problem : Problem) (submission : Submission)
    {bench : Bench σ} {sandbox : Sandbox σ} {memoryLimit : Nat}
    (compiles : bench.compiler = Build.compiler sandbox memoryLimit) (obliges : sandbox.Obliges)
    {time : Duration} (timed : bench.environment.compilerTime = .ok time) {desk : Desk σ}
    {workspace : String} {files : FileStore}
    (room : desk.files.createWorkspace = (.ok workspace, files)) (accepts : files.Accepts workspace)
    {language : Language} (found : Language.find? submission.language = some language) :
    (¬ submission.IsMisnamed →
      (∃ g later, (build problem submission bench).Gives desk g later) ∨
        ∃ diagnostics later, (build problem submission bench).Stops desk (.compile diagnostics) later) ∧
    (submission.IsMisnamed → ∃ cause later, (build problem submission bench).Stops desk
      (.internal (.sourceUnwritable (language.sourceName submission.source) cause)) later) := by
  let request : CompileRequest :=
    ⟨[⟨none, submission.source⟩], [], submission.language, time, problem.config.unbuffered⟩
  have asked : submissionRequest problem submission bench.environment = .ok request := by
    rw [submissionRequest, timed]
    rfl
  have submits := runOn_compileSubmission asked desk
  have notes : (Judge.note (.requested request) : Judge σ Unit).Gives desk ()
    (desk.note (.requested request)) := rfl
  have single : request.sources = [⟨none, submission.source⟩] := rfl
  have vacant : (desk.note (.requested request)).files.createWorkspace = (.ok workspace, files) := room
  have same : language.Misnames submission.source ↔ submission.IsMisnamed :=
    Language.misnames_iff found submission.source
  constructor
  · intro named
    have compiled := Build.yields_compiler sandbox memoryLimit found single vacant obliges accepts
      (mt same.mp named)
    have requested : (bench.compiler.request request).Yields desk (fun _ _ => True)
        Fault.IsCompile := by
      rw [Compiler.request, compiles]
      exact Work.yields_bind_of_gives notes compiled
    have submitted : (compileSubmission problem submission bench).Yields desk (fun _ _ => True)
        Fault.IsCompile := by
      simp only [Work.Yields, Work.Gives, Work.Stops, submits]
      exact requested
    rcases submitted with ⟨binary, later, gives, -⟩ | ⟨_, later, stops, diagnostics, rfl⟩
    · exact .inl ⟨⟨problem, submission, binary, bench⟩, later, Work.runOn_bind_of_gives gives _⟩
    · exact .inr ⟨diagnostics, later, Work.runOn_bind_of_stops stops _⟩
  · intro misnamed
    obtain ⟨cause, later, stops⟩ := Build.compiler_stops_of_misnames sandbox memoryLimit found single
      vacant (same.mpr misnamed)
    have requested : (bench.compiler.request request).Stops desk
        (.internal (.sourceUnwritable (language.sourceName submission.source) cause)) later := by
      rw [Work.Stops, Compiler.request, compiles, Work.runOn_bind_of_gives notes]
      exact stops
    exact ⟨cause, later, Work.runOn_bind_of_stops (submits.trans requested) _⟩

end StandardGrader

namespace Sample

def building : Bench (LocalHost Unit) :=
  ⟨.plain (kernel []), Build.compiler (.plain (kernel [])) 0, .builtin, .usual⟩

theorem kernel_faultless (output : List ReadOutcome) (fault : Fault) :
    ¬ (kernel output).Raises fault := by
  intro raises
  cases raises with
  | awaitExit stops => cases stops
  | reap stops => cases stops
  | openMemory stops => cases stops
  | memorySize stops => cases stops
  | memoryBytes stops => cases stops
  | openPipe stops => cases stops

theorem building_obliges : (Sandbox.plain (kernel [])).Obliges :=
  Sandbox.plain_obliges (fun _ _ _ => ⟨_, _, rfl⟩) (kernel_faultless [])

theorem empty_hasRoom : FileStore.empty.HasRoom where
  unrefused := rfl
  root := by decide
  temporary := by decide
  vacant _ := rfl
  short := by decide

def declaring (name : Bytes) : Submission :=
  ⟨"java", [112, 117, 98, 108, 105, 99, 32, 99, 108, 97, 115, 115, 32] ++ name ++ [32, 123, 125]⟩

theorem common_class_blames_source_at_most :
    (∃ g later, (StandardGrader.build problem (declaring [65]) building).Gives bare g later) ∨
      ∃ diagnostics later, (StandardGrader.build problem (declaring [65]) building).Stops bare
        (.compile diagnostics) later := by
  obtain ⟨workspace, files, room, accepts⟩ := empty_hasRoom.createWorkspace
  have timed : building.environment.compilerTime = .ok (.ofSeconds 10) := by decide +kernel
  have named : ¬ (declaring [65]).IsMisnamed := by
    have class' : Language.Java.className (declaring [65]).source = "A" := by decide +kernel
    rintro ⟨-, -, refused⟩
    rw [class'] at refused
    exact absurd refused (by decide)
  exact (StandardGrader.build_blames_source_unless_misnamed problem (declaring [65]) rfl
    building_obliges timed room accepts rfl).1 named

/-- A class with a zero byte in its name is taken for a fault of the judge, though the compiler runs
and the workspace takes every name that it can. -/
theorem nul_in_class_blames_judge :
    building.compiler = Build.compiler (.plain (kernel [])) 0 ∧ (Sandbox.plain (kernel [])).Obliges ∧
    (∃ workspace files, bare.files.createWorkspace = (.ok workspace, files) ∧
      files.Accepts workspace) ∧
    ((StandardGrader.build problem (declaring [65, 0, 66]) building).runOn bare).1.map (fun _ => ()) =
      .error (.internal (.sourceUnwritable "A\x00B.java" .nulInName)) :=
  ⟨rfl, building_obliges, empty_hasRoom.createWorkspace, by decide +kernel⟩

end Sample
end ContestJudge

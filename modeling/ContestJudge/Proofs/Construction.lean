import ContestJudge.Proofs.Sequence
import ContestJudge.Proofs.SourceFiles

namespace ContestJudge

def submissionRequest (problem : Problem) (submission : Submission)
    (environment : JudgeEnvironment) : Except Fault CompileRequest := do
  let time ← environment.compilerTime
  return ⟨[⟨none, submission.source⟩], [], submission.language, time, problem.config.unbuffered⟩

def Fault.tellsOfSources : Fault → Bool
  | .compile _ => true
  | .interactorCompile _ => true
  | _ => false

section Faults

variable {problem : Problem} {config : InteractiveConfig} {environment : JudgeEnvironment}
  {files : FileStore} {fault : Fault}

theorem configuredTime_error {value : Binary64} {field : String}
    (fails : configuredTime value field = .error fault) : ∃ cause, fault = .config cause := by
  unfold configuredTime at fails
  split at fails
  · cases fails
  · cases fails
    exact ⟨_, rfl⟩

theorem AdapterRegistry.find_eq_error_iff (adapters : AdapterRegistry) (name : String) :
    adapters.find name = .error fault ↔
      adapters.get? name = none ∧ fault = .internal (.unknownAdapter name) := by
  unfold find
  cases adapters.get? name with
  | some adapter => simp only [reduceCtorEq, false_and]
  | none => simp only [Except.error.injEq, true_and, eq_comm]

theorem InteractiveConfig.preprocessing_error (fails : config.preprocessing = .error fault) :
    ∃ cause, fault = .config cause := by
  unfold preprocessing at fails
  split at fails
  · split at fails
    · exact configuredTime_error fails
    · cases fails
  · cases fails

theorem InteractorLimits.derive_error (fails : derive problem config environment = .error fault) :
    ∃ cause, fault = .config cause := by
  rcases (bind_eq_error_iff _ _).mp fails with fails | ⟨preprocessing, -, fails⟩
  · exact InteractiveConfig.preprocessing_error fails
  · split at fails
    · cases fails
    · cases fails
      exact ⟨_, rfl⟩

theorem submissionRequest_error {submission : Submission}
    (fails : submissionRequest problem submission environment = .error fault) :
    ∃ cause, fault = .config cause := by
  rcases (bind_eq_error_iff _ _).mp fails with fails | ⟨time, -, fails⟩
  · exact configuredTime_error fails
  · cases fails

theorem interactorCompilerTime_error
    (fails : interactorCompilerTime config environment = .error fault) :
    ∃ cause, fault = .config cause := by
  unfold interactorCompilerTime at fails
  split at fails <;> exact configuredTime_error fails

theorem blameInteractor_ne_compile (fault : Fault) (diagnostics : String) :
    blameInteractor fault ≠ .compile diagnostics := by
  cases fault <;> simp [blameInteractor]

theorem blameInteractor_eq_interactorCompile_iff (fault : Fault) (diagnostics : String) :
    blameInteractor fault = .interactorCompile diagnostics ↔
      fault = .compile diagnostics ∨ fault = .interactorCompile diagnostics := by
  cases fault <;> simp [blameInteractor]

theorem readInteractorSource_error {file : String}
    (fails : readInteractorSource problem files file = .error fault) :
    ∃ cause, fault = .internal cause := by
  unfold readInteractorSource at fails
  dsimp only at fails
  split at fails
  · cases fails
  · cases fails
    exact ⟨_, rfl⟩

theorem interactorRequest_error
    (fails : interactorRequest problem config environment files = .error fault) :
    (∃ cause, fault = .internal cause) ∨ ∃ cause, fault = .config cause := by
  rcases (bind_eq_error_iff _ _).mp fails with fails | ⟨sources, -, fails⟩
  · obtain ⟨file, -, fails⟩ := exists_of_mapM_eq_error fails
    exact .inl (readInteractorSource_error fails)
  · rcases (bind_eq_error_iff _ _).mp fails with fails | ⟨time, -, fails⟩
    · exact .inr (interactorCompilerTime_error fails)
    · cases fails

/-- An interactor with a source that cannot be read is not asked for, whatever else is wrong. -/
theorem interactorRequest_of_unreadable {file : String} {cause : FileFault}
    (listed : file ∈ config.files.toList)
    (unreadable : files.read (Path.join problem.root file) = .error cause) :
    ∃ cause, interactorRequest problem config environment files = .error (.internal cause) := by
  have faulty : readInteractorSource problem files file =
      .error (.internal (.sourceUnreadable (Path.join problem.root file) cause)) := by
    unfold readInteractorSource
    simp only [unreadable]
  obtain ⟨first, fails⟩ := mapM_eq_error_of_mem listed faulty
  obtain ⟨_, -, internal⟩ := exists_of_mapM_eq_error fails
  obtain ⟨cause, rfl⟩ := readInteractorSource_error internal
  exact ⟨cause, (bind_eq_error_iff _ _).mpr (.inl fails)⟩

end Faults

section Requests

variable {problem : Problem} {config : InteractiveConfig} {environment : JudgeEnvironment}
  {files : FileStore} {time : Duration} {request : CompileRequest}

def strippedName (file : String) : String := (Path.fileName? file).getD file

def interactorSource (problem : Problem) (files : FileStore) (file : String) : SourceFile :=
  ⟨some (strippedName file), ((files.read (Path.join problem.root file)).toOption).getD []⟩

theorem readInteractorSource_of_readable {file : String} {content : Bytes}
    (read : files.read (Path.join problem.root file) = .ok content) :
    readInteractorSource problem files file = .ok (interactorSource problem files file) := by
  have made : interactorSource problem files file = ⟨some (strippedName file), content⟩ := by
    rw [interactorSource, read]
    rfl
  unfold readInteractorSource
  dsimp only
  rw [made, read]
  rfl

/-- Readable files of an interactor are its sources, in their order and without directories. -/
theorem interactorRequest_of_readable
    (readable : ∀ file ∈ config.files.toList, ∃ content,
      files.read (Path.join problem.root file) = .ok content)
    (timed : interactorCompilerTime config environment = .ok time) :
    interactorRequest problem config environment files = .ok
      ⟨config.files.toList.map (interactorSource problem files), config.flags, config.lang, time,
        config.unbuffered⟩ := by
  have each : ∀ file ∈ config.files.toList,
      readInteractorSource problem files file = .ok (interactorSource problem files file) := by
    intro file listed
    obtain ⟨content, read⟩ := readable file listed
    exact readInteractorSource_of_readable read
  rw [interactorRequest, mapM_eq_ok_map each, timed]
  rfl

theorem interactorRequest_eq_ok_iff :
    interactorRequest problem config environment files = .ok request ↔
      (∀ file ∈ config.files.toList, ∃ content,
        files.read (Path.join problem.root file) = .ok content) ∧
      ∃ time, interactorCompilerTime config environment = .ok time ∧
        request = ⟨config.files.toList.map (interactorSource problem files), config.flags,
          config.lang, time, config.unbuffered⟩ := by
  constructor
  · intro asked
    have readable : ∀ file ∈ config.files.toList, ∃ content,
        files.read (Path.join problem.root file) = .ok content := by
      intro file listed
      cases read : files.read (Path.join problem.root file) with
      | ok content => exact ⟨content, rfl⟩
      | error cause =>
        obtain ⟨_, refused⟩ := interactorRequest_of_unreadable listed read
        cases asked.symm.trans refused
    obtain ⟨sources, -, asked'⟩ := bind_eq_ok_iff.mp asked
    obtain ⟨time, timed, -⟩ := bind_eq_ok_iff.mp asked'
    have same := interactorRequest_of_readable readable timed
    exact ⟨readable, time, timed, Except.ok.inj (asked.symm.trans same)⟩
  · rintro ⟨readable, time, timed, rfl⟩
    exact interactorRequest_of_readable readable timed

theorem submissionRequest_eq_ok_iff {submission : Submission} :
    submissionRequest problem submission environment = .ok request ↔
      ∃ time, environment.compilerTime = .ok time ∧
        request = ⟨[⟨none, submission.source⟩], [], submission.language, time,
          problem.config.unbuffered⟩ := by
  refine bind_eq_ok_iff.trans ?_
  simp only [pure, Except.pure, Except.ok.injEq, eq_comm]

end Requests

section Discretion

variable {σ : Type}

/-- A compiler that asks for no build of its own. -/
def Compiler.IsDiscreet (compiler : Compiler σ) : Prop :=
  ∀ request, (compiler request).Keeps Desk.requests

theorem Compiler.ofFunction_isDiscreet (answer : CompileRequest → Except Fault Binary) :
    (ofFunction answer : Compiler σ).IsDiscreet := fun request => Work.keeps_ofExcept (answer request)

theorem Compiler.requests_request {compiler : Compiler σ} (discreet : compiler.IsDiscreet)
    (request : CompileRequest) (desk : Desk σ) :
    ((compiler.request request).runOn desk).2.requests = desk.requests ++ [request] := by
  have notes : (Judge.note (.requested request)).Gives desk () (desk.note (.requested request)) := rfl
  rw [Compiler.request, Work.runOn_bind_of_gives notes, discreet request _, Desk.requests_note]
  rfl

theorem Binary.requests_letGo (binary : Binary) (desk : Desk σ) :
    (binary.letGo desk).requests = desk.requests := by
  unfold letGo
  split <;> rfl

namespace Build

theorem compiler_isDiscreet (sandbox : Sandbox σ) (memoryLimit : Nat) :
    (compiler sandbox memoryLimit).IsDiscreet := by
  intro request
  have blind : Desk.IgnoresSandbox (Desk.requests : Desk σ → _) := Desk.requests_ignore_sandbox
  unfold compiler
  split
  · exact Work.keeps_throw _
  · refine Work.Keeps.bind (fun _ => rfl) fun workspace => ?_
    refine Work.Keeps.unlessDone ?_ fun _ => rfl
    refine (keeps_writeSources (fun _ _ => rfl) _).bind fun names => ?_
    split
    · exact (keeps_runTool sandbox blind _ _).bind fun _ => Work.keeps_pure _
    · exact Work.keeps_pure _

end Build
end Discretion

section Submissions

variable {σ : Type} {problem : Problem} {submission : Submission} {bench : Bench σ}

theorem compileSubmission_eq : compileSubmission problem submission bench =
    Work.ofExcept (submissionRequest problem submission bench.environment) >>=
      bench.compiler.request := by
  unfold compileSubmission submissionRequest
  cases bench.environment.compilerTime <;> rfl

theorem compileSubmission_stops {fault : Fault}
    (refused : submissionRequest problem submission bench.environment = .error fault)
    (desk : Desk σ) : (compileSubmission problem submission bench).Stops desk fault desk := by
  rw [Work.Stops, compileSubmission_eq, refused]
  rfl

theorem runOn_compileSubmission {request : CompileRequest}
    (asked : submissionRequest problem submission bench.environment = .ok request)
    (desk : Desk σ) : (compileSubmission problem submission bench).runOn desk =
      (bench.compiler.request request).runOn desk := by
  rw [compileSubmission_eq, asked]
  rfl

end Submissions

namespace InteractiveGrader

variable {σ : Type}

structure Prepared (problem : Problem) (config : InteractiveConfig) (bench : Bench σ)
    (files : FileStore) (adapter : Adapter) (limits : InteractorLimits) (request : CompileRequest) :
    Prop where
  found : bench.adapters.find config.adapter = .ok adapter
  limited : InteractorLimits.derive problem config bench.environment = .ok limits
  asked : interactorRequest problem config bench.environment files = .ok request

/-- The ways that a construction can go, each with its outcome and the builds that were asked for. -/
inductive Course (problem : Problem) (config : InteractiveConfig) (submission : Submission)
    (bench : Bench σ) (desk : Desk σ) :
    Except Fault (InteractiveGrader σ) → List CompileRequest → Prop where
  | adapterUnknown {fault : Fault} (unknown : bench.adapters.find config.adapter = .error fault) :
      Course problem config submission bench desk (.error fault) []
  | limitsRefused {adapter : Adapter} {fault : Fault}
      (found : bench.adapters.find config.adapter = .ok adapter)
      (refused : InteractorLimits.derive problem config bench.environment = .error fault) :
      Course problem config submission bench desk (.error fault) []
  | sourcesRefused {adapter : Adapter} {limits : InteractorLimits} {fault : Fault}
      (found : bench.adapters.find config.adapter = .ok adapter)
      (limited : InteractorLimits.derive problem config bench.environment = .ok limits)
      (refused : interactorRequest problem config bench.environment desk.files = .error fault) :
      Course problem config submission bench desk (.error fault) []
  | interactorBroken {adapter : Adapter} {limits : InteractorLimits} {request : CompileRequest}
      {fault : Fault} {later : Desk σ}
      (prepared : Prepared problem config bench desk.files adapter limits request)
      (breaks : (bench.compiler.request request).Stops desk fault later) :
      Course problem config submission bench desk (.error (blameInteractor fault)) [request]
  | timeRefused {adapter : Adapter} {limits : InteractorLimits} {request : CompileRequest}
      {interactor : Binary} {fault : Fault} {built : Desk σ}
      (prepared : Prepared problem config bench desk.files adapter limits request)
      (builds : (bench.compiler.request request).Gives desk interactor built)
      (refused : submissionRequest problem submission bench.environment = .error fault) :
      Course problem config submission bench desk (.error fault) [request]
  | submissionBroken {adapter : Adapter} {limits : InteractorLimits}
      {request second : CompileRequest} {interactor : Binary} {fault : Fault} {built later : Desk σ}
      (prepared : Prepared problem config bench desk.files adapter limits request)
      (builds : (bench.compiler.request request).Gives desk interactor built)
      (asked : submissionRequest problem submission bench.environment = .ok second)
      (breaks : (bench.compiler.request second).Stops built fault later) :
      Course problem config submission bench desk (.error fault) [request, second]
  | completed {adapter : Adapter} {limits : InteractorLimits} {request second : CompileRequest}
      {interactor binary : Binary} {built later : Desk σ}
      (prepared : Prepared problem config bench desk.files adapter limits request)
      (builds : (bench.compiler.request request).Gives desk interactor built)
      (asked : submissionRequest problem submission bench.environment = .ok second)
      (finishes : (bench.compiler.request second).Gives built binary later) :
      Course problem config submission bench desk
        (.ok ⟨⟨problem, submission, binary, bench⟩, config, interactor, adapter, limits⟩)
        [request, second]

def InteractorBreaks (problem : Problem) (config : InteractiveConfig) (bench : Bench σ)
    (desk : Desk σ) (fault : Fault) : Prop :=
  ∃ adapter limits request later,
    Prepared problem config bench desk.files adapter limits request ∧
    (bench.compiler.request request).Stops desk fault later

def SubmissionBreaks (problem : Problem) (config : InteractiveConfig) (submission : Submission)
    (bench : Bench σ) (desk : Desk σ) (fault : Fault) : Prop :=
  ∃ adapter limits request interactor built second later,
    Prepared problem config bench desk.files adapter limits request ∧
    (bench.compiler.request request).Gives desk interactor built ∧
    submissionRequest problem submission bench.environment = .ok second ∧
    (bench.compiler.request second).Stops built fault later

variable {problem : Problem} {config : InteractiveConfig} {submission : Submission}
  {bench : Bench σ}

section Steps

variable {desk built later : Desk σ} {adapter : Adapter} {limits : InteractorLimits}
  {request : CompileRequest} {interactor binary : Binary} {fault : Fault}

theorem compileInteractor_stops_of_refused
    (refused : interactorRequest problem config bench.environment desk.files = .error fault) :
    (compileInteractor problem config bench).Stops desk fault desk := by
  rw [Work.Stops, compileInteractor, Work.runOn_bind, Work.runOn_get]
  exact Work.runOn_bind_of_stops (Work.stops_ofExcept refused desk) _

theorem runOn_compileInteractor
    (asked : interactorRequest problem config bench.environment desk.files = .ok request) :
    (compileInteractor problem config bench).runOn desk =
      (((bench.compiler.request request).runOn desk).1.mapError blameInteractor,
        ((bench.compiler.request request).runOn desk).2) := by
  rw [compileInteractor, Work.runOn_bind, Work.runOn_get]
  exact Work.runOn_bind_of_gives (Work.gives_ofExcept asked desk) _

theorem compileInteractor_gives
    (asked : interactorRequest problem config bench.environment desk.files = .ok request)
    (builds : (bench.compiler.request request).Gives desk interactor built) :
    (compileInteractor problem config bench).Gives desk interactor built := by
  rw [Work.Gives, runOn_compileInteractor asked, builds]
  rfl

theorem compileInteractor_stops
    (asked : interactorRequest problem config bench.environment desk.files = .ok request)
    (breaks : (bench.compiler.request request).Stops desk fault later) :
    (compileInteractor problem config bench).Stops desk (blameInteractor fault) later := by
  rw [Work.Stops, runOn_compileInteractor asked, breaks]
  rfl

def buildBoth (problem : Problem) (config : InteractiveConfig) (submission : Submission)
    (bench : Bench σ) (adapter : Adapter) (limits : InteractorLimits) :
    Judge σ (InteractiveGrader σ) := do
  let interactor ← compileInteractor problem config bench
  let binary ← (compileSubmission problem submission bench).unlessDone interactor.letGo
  return ⟨⟨problem, submission, binary, bench⟩, config, interactor, adapter, limits⟩

theorem build_eq (interactive : problem.config.interactive = some config) :
    build problem submission bench = (do
      let adapter ← Work.ofExcept (bench.adapters.find config.adapter)
      let limits ← Work.ofExcept (InteractorLimits.derive problem config bench.environment)
      buildBoth problem config submission bench adapter limits) := by
  unfold build
  simp only [interactive]
  rfl

theorem runOn_build (interactive : problem.config.interactive = some config)
    (found : bench.adapters.find config.adapter = .ok adapter)
    (limited : InteractorLimits.derive problem config bench.environment = .ok limits)
    (desk : Desk σ) : (build problem submission bench).runOn desk =
      (buildBoth problem config submission bench adapter limits).runOn desk := by
  rw [build_eq interactive, Work.runOn_bind_of_gives (Work.gives_ofExcept found desk),
    Work.runOn_bind_of_gives (Work.gives_ofExcept limited desk)]

theorem buildBoth_gives
    (interacts : (compileInteractor problem config bench).Gives desk interactor built)
    (submits : (compileSubmission problem submission bench).Gives built binary later) :
    (buildBoth problem config submission bench adapter limits).Gives desk
      ⟨⟨problem, submission, binary, bench⟩, config, interactor, adapter, limits⟩ later := by
  rw [Work.Gives, buildBoth, Work.runOn_bind_of_gives interacts,
    Work.runOn_bind_of_gives (Work.gives_unlessDone _ submits), Work.runOn_pure]

theorem buildBoth_stops
    (interacts : (compileInteractor problem config bench).Gives desk interactor built)
    (submits : (compileSubmission problem submission bench).Stops built fault later) :
    (buildBoth problem config submission bench adapter limits).Stops desk fault
      (interactor.letGo later) := by
  rw [Work.Stops, buildBoth, Work.runOn_bind_of_gives interacts]
  exact Work.runOn_bind_of_stops (Work.stops_unlessDone _ submits) _

end Steps

theorem runOn_of_course (interactive : problem.config.interactive = some config)
    (discreet : bench.compiler.IsDiscreet) {desk : Desk σ}
    {answer : Except Fault (InteractiveGrader σ)} {issued : List CompileRequest}
    (course : Course problem config submission bench desk answer issued) :
    ((build problem submission bench).runOn desk).1 = answer ∧
      ((build problem submission bench).runOn desk).2.requests = desk.requests ++ issued := by
  have noted {request : CompileRequest} {desk later : Desk σ} {answer : Except Fault Binary}
      (ran : (bench.compiler.request request).runOn desk = (answer, later)) :
      later.requests = desk.requests ++ [request] := by
    rw [← Compiler.requests_request discreet request desk, ran]
  cases course with
  | adapterUnknown unknown =>
    rw [build_eq interactive, Work.runOn_bind_of_stops (Work.stops_ofExcept unknown desk)]
    exact ⟨rfl, (List.append_nil _).symm⟩
  | limitsRefused found refused =>
    rw [build_eq interactive, Work.runOn_bind_of_gives (Work.gives_ofExcept found desk),
      Work.runOn_bind_of_stops (Work.stops_ofExcept refused desk)]
    exact ⟨rfl, (List.append_nil _).symm⟩
  | sourcesRefused found limited refused =>
    rw [runOn_build interactive found limited, buildBoth,
      Work.runOn_bind_of_stops (compileInteractor_stops_of_refused refused)]
    exact ⟨rfl, (List.append_nil _).symm⟩
  | interactorBroken prepared breaks =>
    rw [runOn_build interactive prepared.found prepared.limited, buildBoth,
      Work.runOn_bind_of_stops (compileInteractor_stops prepared.asked breaks)]
    exact ⟨rfl, noted breaks⟩
  -- From here on the workspace of the interactor is let go of, which no request shows.
  | timeRefused prepared builds refused =>
    rw [runOn_build interactive prepared.found prepared.limited,
      buildBoth_stops (compileInteractor_gives prepared.asked builds)
        (compileSubmission_stops refused _)]
    exact ⟨rfl, (Binary.requests_letGo _ _).trans (noted builds)⟩
  | submissionBroken prepared builds asked breaks =>
    rw [runOn_build interactive prepared.found prepared.limited,
      buildBoth_stops (compileInteractor_gives prepared.asked builds)
        ((runOn_compileSubmission asked _).trans breaks)]
    refine ⟨rfl, (Binary.requests_letGo _ _).trans ?_⟩
    rw [noted breaks, noted builds, List.append_assoc]
    rfl
  | completed prepared builds asked finishes =>
    rw [runOn_build interactive prepared.found prepared.limited,
      buildBoth_gives (compileInteractor_gives prepared.asked builds)
        ((runOn_compileSubmission asked _).trans finishes)]
    refine ⟨rfl, ?_⟩
    rw [noted finishes, noted builds, List.append_assoc]
    rfl

theorem exists_course (problem : Problem) (config : InteractiveConfig) (submission : Submission)
    (bench : Bench σ) (desk : Desk σ) :
    ∃ answer issued, Course problem config submission bench desk answer issued := by
  cases found : bench.adapters.find config.adapter with
  | error fault => exact ⟨_, _, .adapterUnknown found⟩
  | ok adapter =>
  cases limited : InteractorLimits.derive problem config bench.environment with
  | error fault => exact ⟨_, _, .limitsRefused found limited⟩
  | ok limits =>
  cases asked : interactorRequest problem config bench.environment desk.files with
  | error fault => exact ⟨_, _, .sourcesRefused found limited asked⟩
  | ok request =>
  rcases Work.gives_or_stops (bench.compiler.request request) desk with
    ⟨interactor, built, builds⟩ | ⟨fault, later, breaks⟩
  · cases second : submissionRequest problem submission bench.environment with
    | error fault => exact ⟨_, _, .timeRefused ⟨found, limited, asked⟩ builds second⟩
    | ok request' =>
      rcases Work.gives_or_stops (bench.compiler.request request') built with
        ⟨binary, later, finishes⟩ | ⟨fault, later, breaks⟩
      · exact ⟨_, _, .completed ⟨found, limited, asked⟩ builds second finishes⟩
      · exact ⟨_, _, .submissionBroken ⟨found, limited, asked⟩ builds second breaks⟩
  · exact ⟨_, _, .interactorBroken ⟨found, limited, asked⟩ breaks⟩

theorem runOn_graderBuild (submission : Submission) (bench : Bench σ)
    (interactive : problem.config.interactive = some config) (desk : Desk σ) :
    (Grader.build problem submission bench).runOn desk =
      (((build problem submission bench).runOn desk).1.map .interactive,
        ((build problem submission bench).runOn desk).2) := by
  have isInteractive : problem.isInteractive = true := by
    rw [Problem.isInteractive, interactive]
    rfl
  rw [Grader.build, if_pos isInteractive, Work.runOn_bind]
  rcases (build problem submission bench).runOn desk with ⟨fault | grader, later⟩ <;> rfl

namespace Course

variable {desk built later : Desk σ} {answer : Except Fault (InteractiveGrader σ)}
  {issued : List CompileRequest} {fault : Fault}
  (course : Course problem config submission bench desk answer issued)
include course

theorem isPrefix : issued.map .ok <+: [interactorRequest problem config bench.environment desk.files,
    submissionRequest problem submission bench.environment] := by
  cases course with
  | adapterUnknown => exact List.nil_prefix
  | limitsRefused => exact List.nil_prefix
  | sourcesRefused => exact List.nil_prefix
  | interactorBroken prepared => exact ⟨[_], by rw [prepared.asked]; rfl⟩
  | timeRefused prepared => exact ⟨[_], by rw [prepared.asked]; rfl⟩
  | submissionBroken prepared _ asked => exact ⟨[], by rw [prepared.asked, asked]; rfl⟩
  | completed prepared _ asked => exact ⟨[], by rw [prepared.asked, asked]; rfl⟩

theorem nil_of_unprepared (unprepared : ∀ adapter limits request,
    ¬ Prepared problem config bench desk.files adapter limits request) : issued = [] := by
  cases course with
  | adapterUnknown => rfl
  | limitsRefused => rfl
  | sourcesRefused => rfl
  | interactorBroken prepared => exact absurd prepared (unprepared _ _ _)
  | timeRefused prepared => exact absurd prepared (unprepared _ _ _)
  | submissionBroken prepared => exact absurd prepared (unprepared _ _ _)
  | completed prepared => exact absurd prepared (unprepared _ _ _)

theorem exists_interactor (both : 1 < issued.length) :
    ∃ request interactor built,
      interactorRequest problem config bench.environment desk.files = .ok request ∧
      (bench.compiler.request request).Gives desk interactor built := by
  cases course with
  | adapterUnknown => cases both
  | limitsRefused => cases both
  | sourcesRefused => cases both
  | interactorBroken => exact absurd both (Nat.lt_irrefl 1)
  | timeRefused => exact absurd both (Nat.lt_irrefl 1)
  | submissionBroken prepared builds => exact ⟨_, _, _, prepared.asked, builds⟩
  | completed prepared builds => exact ⟨_, _, _, prepared.asked, builds⟩

/-- A fault that tells of sources is a compiler's: of the interactor's under its own name, or of the
submission's as it is. -/
theorem broken_of_tellsOfSources (stops : answer = .error fault) (tells : fault.tellsOfSources) :
    (∃ cause, InteractorBreaks problem config bench desk cause ∧ fault = blameInteractor cause) ∨
      SubmissionBreaks problem config submission bench desk fault := by
  cases course with
  | adapterUnknown unknown =>
    cases stops
    obtain ⟨-, rfl⟩ := (AdapterRegistry.find_eq_error_iff _ _).mp unknown
    cases tells
  | limitsRefused _ refused =>
    cases stops
    obtain ⟨_, rfl⟩ := InteractorLimits.derive_error refused
    cases tells
  | sourcesRefused _ _ refused =>
    cases stops
    rcases interactorRequest_error refused with ⟨_, rfl⟩ | ⟨_, rfl⟩ <;> cases tells
  | interactorBroken prepared breaks =>
    cases stops
    exact .inl ⟨_, ⟨_, _, _, _, prepared, breaks⟩, rfl⟩
  | timeRefused _ _ refused =>
    cases stops
    obtain ⟨_, rfl⟩ := submissionRequest_error refused
    cases tells
  | submissionBroken prepared builds asked breaks =>
    cases stops
    exact .inr ⟨_, _, _, _, _, _, _, prepared, builds, asked, breaks⟩
  | completed => cases stops

end Course

/-- What a construction asks for and whom it blames. The interactor is built first, once all of the
judge's own part is in order; a compile fault is blamed on the contestant only if everything of the
judge's is in order and the submission's own sources do not build. -/
theorem build_blames_whose_sources_break (problem : Problem) (config : InteractiveConfig)
    (interactive : problem.config.interactive = some config) (submission : Submission)
    (bench : Bench σ) (discreet : bench.compiler.IsDiscreet) (desk : Desk σ) :
    let built := (Grader.build problem submission bench).runOn desk
    let first := interactorRequest problem config bench.environment desk.files
    let second := submissionRequest problem submission bench.environment
    let hasUnreadable := ∃ file ∈ config.files.toList, ∃ cause,
      desk.files.read (Path.join problem.root file) = .error cause
    (∀ request, first = .ok request ↔
      (∀ file ∈ config.files.toList, ∃ content,
        desk.files.read (Path.join problem.root file) = .ok content) ∧
      ∃ time, interactorCompilerTime config bench.environment = .ok time ∧
        request = ⟨config.files.toList.map (interactorSource problem desk.files), config.flags,
          config.lang, time, config.unbuffered⟩) ∧
    (∀ request, second = .ok request ↔ ∃ time, bench.environment.compilerTime = .ok time ∧
      request = ⟨[⟨none, submission.source⟩], [], submission.language, time,
        problem.config.unbuffered⟩) ∧
    (∃ issued, built.2.requests = desk.requests ++ issued ∧ issued.map .ok <+: [first, second] ∧
      (bench.adapters.get? config.adapter = none ∨
        (∃ fault, InteractorLimits.derive problem config bench.environment = .error fault) ∨
        hasUnreadable → issued = []) ∧
      (1 < issued.length → ∃ request interactor later,
        first = .ok request ∧ (bench.compiler.request request).Gives desk interactor later)) ∧
    (∀ text, InteractorBreaks problem config bench desk (.compile text) →
      built.1 = .error (.interactorCompile text)) ∧
    ((∀ request desk text,
        ((bench.compiler request).runOn desk).1 ≠ .error (.interactorCompile text)) →
      ∀ text, built.1 = .error (.interactorCompile text) →
        InteractorBreaks problem config bench desk (.compile text)) ∧
    (∀ text, built.1 = .error (.compile text) ↔
      SubmissionBreaks problem config submission bench desk (.compile text)) ∧
    (bench.adapters.get? config.adapter = none →
      built.1 = .error (.internal (.unknownAdapter config.adapter))) ∧
    (∀ adapter limits, bench.adapters.find config.adapter = .ok adapter →
      InteractorLimits.derive problem config bench.environment = .ok limits → hasUnreadable →
      ∃ cause, built.1 = .error (.internal cause)) := by
  intro built first second hasUnreadable
  have ran := runOn_graderBuild submission bench interactive desk
  have errs (fault : Fault) : built.1 = .error fault ↔
      ((InteractiveGrader.build problem submission bench).runOn desk).1 = .error fault := by
    change ((Grader.build problem submission bench).runOn desk).1 = _ ↔ _
    rw [ran]
    exact map_eq_error_iff _ _
  have goes {answer : Except Fault (InteractiveGrader σ)} {issued : List CompileRequest}
      (course : Course problem config submission bench desk answer issued) :=
    runOn_of_course interactive discreet course
  have refuses (unreadable : hasUnreadable) : ∃ cause, first = .error (.internal cause) := by
    obtain ⟨file, listed, cause, unreadable⟩ := unreadable
    exact interactorRequest_of_unreadable listed unreadable
  obtain ⟨answer, issued, course⟩ := exists_course problem config submission bench desk
  have stops {fault : Fault} (stopped : built.1 = .error fault) : answer = .error fault :=
    (goes course).1.symm.trans ((errs _).mp stopped)
  refine ⟨fun _ => interactorRequest_eq_ok_iff, fun _ => submissionRequest_eq_ok_iff,
    ⟨issued, ?_, course.isPrefix, ?_, course.exists_interactor⟩, ?_, ?_, ?_, ?_, ?_⟩
  · change ((Grader.build problem submission bench).runOn desk).2.requests = _
    rw [ran]
    exact (goes course).2
  · intro unready
    refine course.nil_of_unprepared fun adapter limits request prepared => ?_
    rcases unready with unknown | ⟨fault, refused⟩ | unreadable
    · have missing := (AdapterRegistry.find_eq_error_iff _ _).mpr ⟨unknown, rfl⟩
      cases prepared.found.symm.trans missing
    · cases prepared.limited.symm.trans refused
    · obtain ⟨_, refused⟩ := refuses unreadable
      cases prepared.asked.symm.trans refused
  · rintro text ⟨_, _, _, _, prepared, breaks⟩
    exact (errs _).mpr (goes (.interactorBroken prepared breaks)).1
  · intro never text stopped
    rcases course.broken_of_tellsOfSources (stops stopped) rfl with
      ⟨cause, breaks, blamed⟩ | ⟨_, _, _, _, middle, second, _, _, _, _, breaks⟩
    · rcases (blameInteractor_eq_interactorCompile_iff cause text).mp blamed.symm with rfl | rfl
      · exact breaks
      · obtain ⟨_, _, request, _, _, breaks⟩ := breaks
        exact absurd (congrArg Prod.fst breaks) (never request _ text)
    · exact absurd (congrArg Prod.fst breaks) (never second _ text)
  · intro text
    constructor
    · intro stopped
      rcases course.broken_of_tellsOfSources (stops stopped) rfl with ⟨cause, -, blamed⟩ | breaks
      · exact absurd blamed.symm (blameInteractor_ne_compile cause text)
      · exact breaks
    · rintro ⟨_, _, _, _, _, _, _, prepared, builds, asked, breaks⟩
      exact (errs _).mpr (goes (.submissionBroken prepared builds asked breaks)).1
  · intro unknown
    have missing := (AdapterRegistry.find_eq_error_iff bench.adapters config.adapter).mpr
      ⟨unknown, rfl⟩
    exact (errs _).mpr (goes (.adapterUnknown missing)).1
  · intro adapter limits found limited unreadable
    obtain ⟨cause, refused⟩ := refuses unreadable
    exact ⟨cause, (errs _).mpr (goes (.sourcesRefused found limited refused)).1⟩

end InteractiveGrader

namespace Sample

def guessingConfig : InteractiveConfig :=
  ⟨.one "interactor.py", "PY3", [], none, true, none, none, none, false, "testlib"⟩

/-- Builds nothing in a language that it does not know. -/
def pickyBench : Bench ScriptedHost :=
  { bench true with
    compiler := .ofFunction fun request =>
      if request.language = "PY3" then .error (.compile "no main") else .ok (binary "submission") }

def guessingDesk : Desk ScriptedHost :=
  .fresh (FileStore.empty.install "/problems/guess/interactor.py" [112] false) (.start [])

theorem interactor_without_main_blamed :
    let problem := { problem with config := ⟨some guessingConfig, true⟩ }
    let built := (Grader.build problem ⟨"CPP17", []⟩ pickyBench).runOn guessingDesk
    pickyBench.compiler.IsDiscreet ∧ built.1 = .error (.interactorCompile "no main") := by
  have discreet : pickyBench.compiler.IsDiscreet := Compiler.ofFunction_isDiscreet _
  have prepared : InteractiveGrader.Prepared
      { problem with config := ⟨some guessingConfig, true⟩ } guessingConfig pickyBench
      guessingDesk.files .testlib ⟨.ofSeconds 3, 262144⟩
      ⟨[⟨some "interactor.py", [112]⟩], [], "PY3", .ofSeconds 10, true⟩ :=
    ⟨rfl, by decide +kernel, by decide +kernel⟩
  have blames := InteractiveGrader.build_blames_whose_sources_break
    { problem with config := ⟨some guessingConfig, true⟩ } guessingConfig rfl ⟨"CPP17", []⟩
    pickyBench discreet guessingDesk
  exact ⟨discreet, blames.2.2.2.1 "no main" ⟨_, _, _, _, prepared, rfl⟩⟩

end Sample
end ContestJudge

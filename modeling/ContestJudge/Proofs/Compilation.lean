import ContestJudge.Proofs.SourceFiles
/-!
Who is to blame when a build gives no binary. The sources are if their language is unknown, if one
of them has no plain name, or if their compiler ran and did not like them; the judge is if their
compiler could not be run. The workspace of a build lives as long as its binary.
-/

namespace ContestJudge

def Language.IsInterpreted (language : Language) : Prop :=
  ∀ directory names flags, language.compileCommand directory names flags = none

example : Language.python.IsInterpreted := fun _ _ _ => rfl

namespace Build

variable {σ : Type}

/-- A workspace can be made for a request, and what is written into it is taken. -/
structure Housed (request : CompileRequest) (desk : Desk σ) (workspace : String)
    (files : FileStore) : Prop where
  made : desk.files.createWorkspace = (.ok workspace, files)
  there : files.isPresent workspace = true
  taken : ∀ language, Language.find? request.language = some language → ∃ names left,
    (writeSources language workspace (ahead language request.sources) :
      Judge σ (List String)).Gives (desk.withFiles files) names left

inductive Ordered (memoryLimit : Nat) (request : CompileRequest) (workspace : String)
    (desk : Desk σ) : LaunchOrder → Prop where
  | intro {language : Language} {left : Desk σ} {command : List String}
      (found : Language.find? request.language = some language)
      (plain : ∀ source ∈ request.sources, isPlain language source)
      (wrote : (writeSources language workspace request.sources : Judge σ (List String)).Gives desk
        (request.sources.map (fileName language)) left)
      (builds : language.compileCommand workspace (request.sources.map (fileName language))
        request.flags = some command) :
      Ordered memoryLimit request workspace desk
        ⟨tool language command, toolSpec request.timeLimit memoryLimit workspace, left.files⟩

inductive Breaks (sandbox : Sandbox σ) (memoryLimit : Nat) (request : CompileRequest)
    (desk : Desk σ) (workspace : String) (files : FileStore) : Fault → Prop where
  | unknown {diagnostics : String} (unknown : Language.find? request.language = none) :
      Breaks sandbox memoryLimit request desk workspace files (.compile diagnostics)
  | misnamed {language : Language} {source : SourceFile} {diagnostics : String}
      (found : Language.find? request.language = some language) (listed : source ∈ request.sources)
      (pathlike : ¬ isPlain language source) :
      Breaks sandbox memoryLimit request desk workspace files (.compile diagnostics)
  | rejected {order : LaunchOrder} {output : CapturedOutput} {report : ProcessReport}
      {diagnostics : String}
      (ordered : Ordered memoryLimit request workspace (desk.withFiles files) order)
      (ends : Ends sandbox order desk.host output report) (blames : Blames report) :
      Breaks sandbox memoryLimit request desk workspace files (.compile diagnostics)
  | unrunnable {order : LaunchOrder} {cause : InternalFault}
      (ordered : Ordered memoryLimit request workspace (desk.withFiles files) order)
      (fails : Fails sandbox order desk.host cause) :
      Breaks sandbox memoryLimit request desk workspace files (.internal cause)

section Writing

variable {language : Language} {workspace : String} {sources : List SourceFile}
  {desk left : Desk σ} {names : List String}

theorem names_of_writeSources
    (gives : (writeSources language workspace sources : Judge σ (List String)).Gives desk names
      left) : (∀ source ∈ sources, isPlain language source) ∧
        names = sources.map (fileName language) := by
  induction sources generalizing desk names with
  | nil =>
    cases gives
    exact ⟨nofun, rfl⟩
  | cons source rest ih =>
    obtain ⟨name, middle, first, gives⟩ := Work.exists_of_gives_bind gives
    obtain ⟨others, last, later, ends⟩ := Work.exists_of_gives_bind gives
    cases ends
    obtain ⟨plain, rfl⟩ := ih later
    by_cases named : isPlain language source
    · rw [Work.Gives, runOn_writeSource desk named] at first
      split at first
      · cases first
        exact ⟨List.forall_mem_cons.mpr ⟨named, plain⟩, rfl⟩
      · cases first
    · cases first.symm.trans (writeSource_stops desk named)

theorem writeSources_stops_of_pathlike
    (taken : (writeSources language workspace (ahead language sources) :
      Judge σ (List String)).Gives desk names left)
    (pathlike : ∃ source ∈ sources, ¬ isPlain language source) :
    ∃ diagnostics, (writeSources language workspace sources : Judge σ (List String)).Stops desk
      (.compile diagnostics) left := by
  induction sources generalizing desk names with
  | nil =>
    obtain ⟨source, listed, -⟩ := pathlike
    cases listed
  | cons source rest ih =>
    by_cases named : isPlain language source
    · have goes : ahead language (source :: rest) = source :: ahead language rest :=
        List.takeWhile_cons_of_pos named
      rw [goes] at taken
      obtain ⟨name, middle, first, taken⟩ := Work.exists_of_gives_bind taken
      obtain ⟨others, last, later, ends⟩ := Work.exists_of_gives_bind taken
      cases ends
      have behind : ∃ other ∈ rest, ¬ isPlain language other := by
        obtain ⟨other, listed, unnamed⟩ := pathlike
        rcases List.mem_cons.mp listed with rfl | listed
        · exact absurd named unnamed
        · exact ⟨other, listed, unnamed⟩
      obtain ⟨diagnostics, stops⟩ := ih later behind
      have next := Work.runOn_bind_of_stops stops
        (fun others => (pure (name :: others) : Judge σ (List String)))
      exact ⟨diagnostics, (Work.runOn_bind_of_gives first _).trans next⟩
    · have ends : ahead language (source :: rest) = [] := List.takeWhile_cons_of_neg named
      rw [ends] at taken
      cases taken
      exact ⟨_, Work.runOn_bind_of_stops (writeSource_stops _ named) _⟩

theorem ahead_of_plain (plain : ∀ source ∈ sources, isPlain language source) :
    ahead language sources = sources := List.takeWhile_eq_self_iff.mpr plain

end Writing

section Ways

variable (sandbox : Sandbox σ) (memoryLimit : Nat) {request : CompileRequest} {desk left : Desk σ}
  {workspace : String} {files : FileStore} {language : Language}

theorem answer_compiler (found : Language.find? request.language = some language)
    (made : desk.files.createWorkspace = (.ok workspace, files)) :
    ((compiler sandbox memoryLimit request).runOn desk).1 =
      ((inWorkspace sandbox memoryLimit language request workspace).runOn
        (desk.withFiles files)).1 := by
  rw [runOn_compiler sandbox memoryLimit found made, Work.runOn_unlessDone]
  split <;> simp_all

theorem view_compiler {τ : Type} (view : Desk σ → τ)
    (blind : ∀ desk files, view (desk.withFiles files) = view desk)
    (found : Language.find? request.language = some language)
    (made : desk.files.createWorkspace = (.ok workspace, files)) :
    view ((compiler sandbox memoryLimit request).runOn desk).2 =
      view ((inWorkspace sandbox memoryLimit language request workspace).runOn
        (desk.withFiles files)).2 := by
  rw [runOn_compiler sandbox memoryLimit found made, Work.runOn_unlessDone]
  split <;> simp_all

theorem inWorkspace_of_pathlike {names : List String}
    (taken : (writeSources language workspace (ahead language request.sources) :
      Judge σ (List String)).Gives desk names left)
    (pathlike : ∃ source ∈ request.sources, ¬ isPlain language source) :
    ∃ diagnostics, (inWorkspace sandbox memoryLimit language request workspace).Stops desk
      (.compile diagnostics) left := by
  obtain ⟨diagnostics, stops⟩ := writeSources_stops_of_pathlike taken pathlike
  exact ⟨diagnostics, Work.runOn_bind_of_stops stops _⟩

section Named

variable (wrote : (writeSources language workspace request.sources : Judge σ (List String)).Gives
  desk (request.sources.map (fileName language)) left)
include wrote

theorem inWorkspace_of_no_command (runs : language.compileCommand workspace
    (request.sources.map (fileName language)) request.flags = none) :
    (inWorkspace sandbox memoryLimit language request workspace).Gives desk
      (product language workspace (request.sources.map (fileName language)) request.unbuffered)
      left := by
  rw [Work.Gives, inWorkspace, Work.runOn_bind_of_gives wrote]
  simp only [runs]
  rfl

theorem runOn_inWorkspace_of_command {command : List String} (builds : language.compileCommand
    workspace (request.sources.map (fileName language)) request.flags = some command) :
    (inWorkspace sandbox memoryLimit language request workspace).runOn desk =
      (runTool sandbox (tool language command) (toolSpec request.timeLimit memoryLimit workspace) >>=
        fun _ => pure (product language workspace (request.sources.map (fileName language))
          request.unbuffered)).runOn left := by
  rw [inWorkspace, Work.runOn_bind_of_gives wrote]
  simp only [builds]

end Named

theorem Housed.wrote (housed : Housed request desk workspace files)
    (found : Language.find? request.language = some language)
    (plain : ∀ source ∈ request.sources, isPlain language source) :
    ∃ left, (writeSources language workspace request.sources : Judge σ (List String)).Gives
      (desk.withFiles files) (request.sources.map (fileName language)) left := by
  obtain ⟨names, left, gives⟩ := housed.taken language found
  rw [ahead_of_plain plain] at gives
  obtain ⟨-, rfl⟩ := names_of_writeSources gives
  exact ⟨left, gives⟩

section Launching

variable {order : LaunchOrder} (made : desk.files.createWorkspace = (.ok workspace, files))
  (ordered : Ordered memoryLimit request workspace (desk.withFiles files) order)
include made ordered

theorem exists_run_of_ordered :
    ∃ (left : Desk σ) (binary : Binary), left.files = order.files ∧ left.host = desk.host ∧
      launches left = launches desk ∧
      ((compiler sandbox memoryLimit request).runOn desk).1 =
        ((runTool sandbox order.binary order.spec).runOn left).1.map (fun _ => binary) ∧
      launches ((compiler sandbox memoryLimit request).runOn desk).2 =
        launches ((runTool sandbox order.binary order.spec).runOn left).2 := by
  obtain ⟨found, -, wrote, builds⟩ := ordered
  rename_i language left command
  have ran := runOn_inWorkspace_of_command sandbox memoryLimit wrote builds
  have hosted : (writeSources language workspace request.sources :
      Judge σ (List String)).Keeps Desk.host := keeps_writeSources (fun _ _ => rfl) _
  have launched : (writeSources language workspace request.sources :
      Judge σ (List String)).Keeps launches := keeps_writeSources (fun _ _ => rfl) _
  refine ⟨left, product language workspace (request.sources.map (fileName language))
    request.unbuffered, rfl, (hosted.of_gives wrote :), (launched.of_gives wrote :), ?_, ?_⟩
  · rw [answer_compiler sandbox memoryLimit found made, ran, Work.runOn_bind_pure]
  · rw [view_compiler sandbox memoryLimit launches (fun _ _ => rfl) found made, ran,
      Work.runOn_bind_pure]

theorem answer_of_ends {output : CapturedOutput} {report : ProcessReport}
    (ends : Ends sandbox order desk.host output report) :
    ∃ binary, ((compiler sandbox memoryLimit request).runOn desk).1 =
      (conclude order.spec.time output report).map fun _ => binary := by
  obtain ⟨left, binary, files, host, -, answered, -⟩ :=
    exists_run_of_ordered sandbox memoryLimit made ordered
  have ends' : Ends sandbox ⟨order.binary, order.spec, left.files⟩ left.host output report := by
    rw [files, host]
    exact ends
  exact ⟨binary, by rw [answered, runTool_of_ends ends']⟩

theorem answer_of_fails {cause : InternalFault} (fails : Fails sandbox order desk.host cause) :
    ((compiler sandbox memoryLimit request).runOn desk).1 = .error (.internal cause) := by
  obtain ⟨left, binary, files, host, -, answered, -⟩ :=
    exists_run_of_ordered sandbox memoryLimit made ordered
  have fails' : Fails sandbox ⟨order.binary, order.spec, left.files⟩ left.host cause := by
    rw [files, host]
    exact fails
  rw [answered, runTool_of_fails fails']
  rfl

theorem launches_of_ordered :
    launches ((compiler sandbox memoryLimit request).runOn desk).2 = launches desk ++ [order] := by
  obtain ⟨left, binary, files, -, launched, -, noted⟩ :=
    exists_run_of_ordered sandbox memoryLimit made ordered
  rw [noted, launches_runTool, launched, files]

end Launching

section Quiet

variable (housed : Housed request desk workspace files)
  (found : Language.find? request.language = some language)
include housed found

omit housed in
/-- Where a build comes to its end with the writing of sources, the sandbox is left alone. -/
theorem untouched_of_written {sources : List SourceFile} {names : List String}
    {answer : Except Fault Binary} (made : desk.files.createWorkspace = (.ok workspace, files))
    (ran : (inWorkspace sandbox memoryLimit language request workspace).runOn
      (desk.withFiles files) = (answer, left))
    (wrote : (writeSources language workspace sources : Judge σ (List String)).Gives
      (desk.withFiles files) names left) :
    ((compiler sandbox memoryLimit request).runOn desk).2.journal = desk.journal ∧
    ((compiler sandbox memoryLimit request).runOn desk).2.host = desk.host := by
  have kept {τ : Type} (view : Desk σ → τ)
      (blind : ∀ desk files, view (desk.withFiles files) = view desk) :
      view ((compiler sandbox memoryLimit request).runOn desk).2 = view desk := by
    have written : (writeSources language workspace sources : Judge σ (List String)).Keeps view :=
      keeps_writeSources blind sources
    rw [view_compiler sandbox memoryLimit view blind found made, ran, written.of_gives wrote, blind]
  exact ⟨kept Desk.journal fun _ _ => rfl, kept Desk.host fun _ _ => rfl⟩

theorem compiler_of_pathlike (pathlike : ∃ source ∈ request.sources, ¬ isPlain language source) :
    (∃ diagnostics,
      ((compiler sandbox memoryLimit request).runOn desk).1 = .error (.compile diagnostics)) ∧
    ((compiler sandbox memoryLimit request).runOn desk).2.journal = desk.journal ∧
    ((compiler sandbox memoryLimit request).runOn desk).2.host = desk.host := by
  obtain ⟨names, left, taken⟩ := housed.taken language found
  obtain ⟨diagnostics, stops⟩ := inWorkspace_of_pathlike sandbox memoryLimit taken pathlike
  have answered := answer_compiler sandbox memoryLimit found housed.made
  rw [stops] at answered
  exact ⟨⟨diagnostics, answered⟩,
    untouched_of_written sandbox memoryLimit found housed.made stops taken⟩

theorem compiler_of_no_command (plain : ∀ source ∈ request.sources, isPlain language source)
    (runs : language.compileCommand workspace (request.sources.map (fileName language))
      request.flags = none) :
    (∃ binary, ((compiler sandbox memoryLimit request).runOn desk).1 = .ok binary) ∧
    ((compiler sandbox memoryLimit request).runOn desk).2.journal = desk.journal ∧
    ((compiler sandbox memoryLimit request).runOn desk).2.host = desk.host := by
  obtain ⟨left, wrote⟩ := housed.wrote found plain
  have gives := inWorkspace_of_no_command sandbox memoryLimit wrote runs
  have answered := answer_compiler sandbox memoryLimit found housed.made
  rw [gives] at answered
  exact ⟨⟨_, answered⟩, untouched_of_written sandbox memoryLimit found housed.made gives wrote⟩

end Quiet

section Lifetime

variable (found : Language.find? request.language = some language)
  (made : desk.files.createWorkspace = (.ok workspace, files))
include found made

theorem not_isPresent_of_failed {fault : Fault}
    (failed : ((compiler sandbox memoryLimit request).runOn desk).1 = .error fault) :
    ((compiler sandbox memoryLimit request).runOn desk).2.files.isPresent workspace = false := by
  obtain ⟨rfl, -⟩ := FileStore.eq_of_createWorkspace made
  rw [files_compiler sandbox memoryLimit found made, failed]
  exact FileStore.not_isPresent_removeWorkspace _ _

theorem workspace_of_built {binary : Binary}
    (built : ((compiler sandbox memoryLimit request).runOn desk).1 = .ok binary) :
    binary.workspace = some workspace := by
  rw [answer_compiler sandbox memoryLimit found made] at built
  obtain ⟨names, left, -, ends⟩ := Work.exists_of_gives_bind (Work.gives_of_answer built)
  split at ends
  · obtain ⟨_, last, -, ends⟩ := Work.exists_of_gives_bind ends
    cases ends
    rfl
  · cases ends
    rfl

theorem retains_of_built {binary : Binary}
    (built : ((compiler sandbox memoryLimit request).runOn desk).1 = .ok binary) :
    files.Retains ((compiler sandbox memoryLimit request).runOn desk).2.files := by
  rw [files_compiler sandbox memoryLimit found made, built]
  exact retains_written sandbox memoryLimit language request workspace (desk.withFiles files)

end Lifetime
end Ways

structure Classified (sandbox : Sandbox σ) (memoryLimit : Nat) (request : CompileRequest)
    (desk : Desk σ) (workspace : String) (files : FileStore)
    (compiled : Except Fault Binary × Desk σ) : Prop where
  /-- The sources are to blame if their language is unknown, if one of them has no plain name, or if
  their compiler ran to its end and took too long or did not succeed. -/
  sources : (∃ diagnostics, compiled.1 = .error (.compile diagnostics)) ↔
    Language.find? request.language = none ∨
    (∃ language, Language.find? request.language = some language ∧
      ∃ source ∈ request.sources, ¬ isPlain language source) ∨
    ∃ order output report, Ordered memoryLimit request workspace (desk.withFiles files) order ∧
      Ends sandbox order desk.host output report ∧ Blames report
  /-- The judge is to blame if their compiler could not be launched, read or waited for. -/
  judge (cause : InternalFault) : compiled.1 = .error (.internal cause) ↔
    ∃ order, Ordered memoryLimit request workspace (desk.withFiles files) order ∧
      Fails sandbox order desk.host cause
  nobodyElse (fault : Fault) : compiled.1 = .error fault →
    (∃ diagnostics, fault = .compile diagnostics) ∨ ∃ cause, fault = .internal cause
  /-- What is told of a compiler that ran to its end. -/
  told (order : LaunchOrder) (output : CapturedOutput) (report : ProcessReport)
    (diagnostics : String) :
    Ordered memoryLimit request workspace (desk.withFiles files) order →
    Ends sandbox order desk.host output report → compiled.1 = .error (.compile diagnostics) →
    Text.isBlank diagnostics = false ∧ (report.isTle = false →
      Text.isBlank (said output) = false → diagnostics = said output)
  /-- A compiler is launched once, and only where it is to be. -/
  once : ∃ orders : List LaunchOrder, launches compiled.2 = launches desk ++ orders ∧
    orders.length ≤ 1 ∧
    ∀ order ∈ orders, Ordered memoryLimit request workspace (desk.withFiles files) order
  /-- The sandbox is left alone where the language has no compiler, and behind a bad name. -/
  never (language : Language) : Language.find? request.language = some language →
    (language.IsInterpreted ∨ ∃ source ∈ request.sources, ¬ isPlain language source) →
    compiled.2.journal = desk.journal ∧ compiled.2.host = desk.host
  /-- After a fault there is no workspace. In an unknown language there never was one. -/
  removed (fault : Fault) : compiled.1 = .error fault →
    compiled.2.files.isPresent workspace = false ∨
      Language.find? request.language = none ∧ compiled.2 = desk
  /-- A binary comes with its workspace, which goes with it. -/
  kept (binary : Binary) : compiled.1 = .ok binary → binary.workspace = some workspace ∧
    ∀ after : Desk σ, compiled.2.files.Retains after.files →
      after.files.isPresent workspace = true ∧
      (binary.letGo after).files.isPresent workspace = false

section Classification

variable (sandbox : Sandbox σ) (memoryLimit : Nat) {request : CompileRequest} {desk : Desk σ}
  {workspace : String} {files : FileStore} (housed : Housed request desk workspace files)
include housed

/-- The ways of a build: its language is unknown, or a source has no plain name, or there is nothing
to run, or a compiler is launched. -/
theorem ways_of_housed : Language.find? request.language = none ∨
    (∃ language, Language.find? request.language = some language ∧
      ∃ source ∈ request.sources, ¬ isPlain language source) ∨
    (∃ language, Language.find? request.language = some language ∧
      (∀ source ∈ request.sources, isPlain language source) ∧
      language.compileCommand workspace (request.sources.map (fileName language))
        request.flags = none) ∨
    ∃ order, Ordered memoryLimit request workspace (desk.withFiles files) order := by
  cases found : Language.find? request.language with
  | none => exact .inl rfl
  | some language =>
    right
    by_cases plain : ∀ source ∈ request.sources, isPlain language source
    · right
      cases builds : language.compileCommand workspace (request.sources.map (fileName language))
          request.flags with
      | none => exact .inl ⟨language, rfl, plain, builds⟩
      | some command =>
        obtain ⟨left, wrote⟩ := housed.wrote found plain
        exact .inr ⟨_, .intro found plain wrote builds⟩
    · left
      obtain ⟨source, listed, unnamed⟩ := by simpa using plain
      exact ⟨language, rfl, source, listed, by simp [unnamed]⟩

theorem breaks_of_error {fault : Fault}
    (broken : ((compiler sandbox memoryLimit request).runOn desk).1 = .error fault) :
    Breaks sandbox memoryLimit request desk workspace files fault := by
  rcases ways_of_housed memoryLimit housed with
    unknown | ⟨language, found, misnamed⟩ | ⟨language, found, plain, runs⟩ | ⟨order, ordered⟩
  · have stops := compiler_of_unknown sandbox memoryLimit unknown desk
    cases broken.symm.trans (congrArg Prod.fst stops)
    exact .unknown unknown
  · obtain ⟨⟨diagnostics, told⟩, -⟩ :=
      compiler_of_pathlike sandbox memoryLimit housed found misnamed
    obtain ⟨source, listed, pathlike⟩ := misnamed
    cases broken.symm.trans told
    exact .misnamed found listed pathlike
  · obtain ⟨⟨binary, built⟩, -⟩ :=
      compiler_of_no_command sandbox memoryLimit housed found plain runs
    cases broken.symm.trans built
  · rcases ends_or_fails sandbox order desk.host with ⟨output, report, ends⟩ | ⟨cause, fails⟩
    · obtain ⟨binary, answered⟩ := answer_of_ends sandbox memoryLimit housed.made ordered ends
      have failed := (map_eq_error_iff _ _).mp (answered.symm.trans broken)
      obtain ⟨blames, diagnostics, rfl, -⟩ := exists_of_conclude_eq_error failed
      exact .rejected ordered ends blames
    · have answered := answer_of_fails sandbox memoryLimit housed.made ordered fails
      cases broken.symm.trans answered
      exact .unrunnable ordered fails

theorem blames_sources_iff :
    (∃ diagnostics,
      ((compiler sandbox memoryLimit request).runOn desk).1 = .error (.compile diagnostics)) ↔
    Language.find? request.language = none ∨
    (∃ language, Language.find? request.language = some language ∧
      ∃ source ∈ request.sources, ¬ isPlain language source) ∨
    ∃ order output report, Ordered memoryLimit request workspace (desk.withFiles files) order ∧
      Ends sandbox order desk.host output report ∧ Blames report := by
  constructor
  · rintro ⟨diagnostics, broken⟩
    cases breaks_of_error sandbox memoryLimit housed broken with
    | unknown unknown => exact .inl unknown
    | misnamed found listed pathlike => exact .inr (.inl ⟨_, found, _, listed, pathlike⟩)
    | rejected ordered ends blames => exact .inr (.inr ⟨_, _, _, ordered, ends, blames⟩)
  · rintro (unknown | ⟨language, found, misnamed⟩ | ⟨order, output, report, ordered, ends, blames⟩)
    · exact ⟨_, congrArg Prod.fst (compiler_of_unknown sandbox memoryLimit unknown desk)⟩
    · exact (compiler_of_pathlike sandbox memoryLimit housed found misnamed).1
    · obtain ⟨binary, answered⟩ := answer_of_ends sandbox memoryLimit housed.made ordered ends
      obtain ⟨diagnostics, failed⟩ := conclude_of_blames blames
      exact ⟨diagnostics, answered.trans ((map_eq_error_iff _ _).mpr failed)⟩

theorem blames_judge_iff (cause : InternalFault) :
    ((compiler sandbox memoryLimit request).runOn desk).1 = .error (.internal cause) ↔
    ∃ order, Ordered memoryLimit request workspace (desk.withFiles files) order ∧
      Fails sandbox order desk.host cause := by
  constructor
  · intro broken
    cases breaks_of_error sandbox memoryLimit housed broken with
    | unrunnable ordered fails => exact ⟨_, ordered, fails⟩
  · rintro ⟨order, ordered, fails⟩
    exact answer_of_fails sandbox memoryLimit housed.made ordered fails

theorem launches_of_housed : ∃ orders : List LaunchOrder,
    launches ((compiler sandbox memoryLimit request).runOn desk).2 = launches desk ++ orders ∧
    orders.length ≤ 1 ∧
    ∀ order ∈ orders, Ordered memoryLimit request workspace (desk.withFiles files) order := by
  have unlaunched (same : ((compiler sandbox memoryLimit request).runOn desk).2.journal =
      desk.journal) : launches ((compiler sandbox memoryLimit request).runOn desk).2 =
        launches desk ++ [] := by
    rw [launches, same, List.append_nil]
    rfl
  rcases ways_of_housed memoryLimit housed with
    unknown | ⟨language, found, misnamed⟩ | ⟨language, found, plain, runs⟩ | ⟨order, ordered⟩
  · refine ⟨[], unlaunched ?_, by simp, by simp⟩
    rw [compiler_of_unknown sandbox memoryLimit unknown desk]
  · obtain ⟨-, same, -⟩ := compiler_of_pathlike sandbox memoryLimit housed found misnamed
    exact ⟨[], unlaunched same, by simp, by simp⟩
  · obtain ⟨-, same, -⟩ := compiler_of_no_command sandbox memoryLimit housed found plain runs
    exact ⟨[], unlaunched same, by simp, by simp⟩
  · refine ⟨[order], launches_of_ordered sandbox memoryLimit housed.made ordered, by simp, ?_⟩
    simpa using ordered

theorem untouched_of_housed {language : Language}
    (found : Language.find? request.language = some language)
    (quiet : language.IsInterpreted ∨ ∃ source ∈ request.sources, ¬ isPlain language source) :
    ((compiler sandbox memoryLimit request).runOn desk).2.journal = desk.journal ∧
    ((compiler sandbox memoryLimit request).runOn desk).2.host = desk.host := by
  by_cases misnamed : ∃ source ∈ request.sources, ¬ isPlain language source
  · exact (compiler_of_pathlike sandbox memoryLimit housed found misnamed).2
  · have plain : ∀ source ∈ request.sources, isPlain language source := by simpa using misnamed
    have interpreted := quiet.resolve_right misnamed
    exact (compiler_of_no_command sandbox memoryLimit housed found plain
      (interpreted workspace _ _)).2

/-- Where a workspace can be made and written into, builds are classified so. -/
theorem compiler_classifies : Classified sandbox memoryLimit request desk workspace files
    ((compiler sandbox memoryLimit request).runOn desk) where
  sources := blames_sources_iff sandbox memoryLimit housed
  judge := blames_judge_iff sandbox memoryLimit housed
  nobodyElse fault broken := by
    cases breaks_of_error sandbox memoryLimit housed broken with
    | unrunnable => exact .inr ⟨_, rfl⟩
    | _ => exact .inl ⟨_, rfl⟩
  told order output report diagnostics ordered ends broken := by
    obtain ⟨binary, answered⟩ := answer_of_ends sandbox memoryLimit housed.made ordered ends
    have failed := (map_eq_error_iff _ _).mp (answered.symm.trans broken)
    obtain ⟨-, told, same, visible, spoken⟩ := exists_of_conclude_eq_error failed
    cases same
    exact ⟨visible, spoken⟩
  once := launches_of_housed sandbox memoryLimit housed
  never language found quiet := untouched_of_housed sandbox memoryLimit housed found quiet
  removed fault broken := by
    cases found : Language.find? request.language with
    | none =>
      have stops := compiler_of_unknown sandbox memoryLimit found desk
      exact .inr ⟨rfl, congrArg Prod.snd stops⟩
    | some language =>
      exact .inl (not_isPresent_of_failed sandbox memoryLimit found housed.made broken)
  kept binary built := by
    cases found : Language.find? request.language with
    | none =>
      have stops := compiler_of_unknown sandbox memoryLimit found desk
      cases built.symm.trans (congrArg Prod.fst stops)
    | some language =>
      have holds := workspace_of_built sandbox memoryLimit found housed.made built
      refine ⟨holds, fun after retained => ⟨?_, ?_⟩⟩
      · have grown := (retains_of_built sandbox memoryLimit found housed.made built).trans retained
        by_contra absent
        rw [Bool.not_eq_true] at absent
        have lost := grown.not_isPresent absent
        rw [housed.there] at lost
        cases lost
      · obtain ⟨rfl, -⟩ := FileStore.eq_of_createWorkspace housed.made
        simp only [Binary.letGo, holds]
        exact FileStore.not_isPresent_removeWorkspace _ _

end Classification
end Build

namespace Sample

def speechless : Script :=
  { Script.silent with
    report := { Script.silent.report with exitCode := some 3 }
    stderr := [10] }

def nameless : CompileRequest := ⟨[⟨none, [1]⟩], [], "c++", .ofSeconds 10, false⟩

def frustrated : Desk ScriptedHost := .fresh .empty (.start [("cpp", [speechless])])

theorem nameless_housed :
    Build.Housed nameless frustrated "/tmp/.build0" FileStore.empty.createWorkspace.2 where
  made := rfl
  there := by decide +kernel
  taken language found := by
    cases found
    exact ⟨_, _, rfl⟩

theorem nameless_told : ((Build.compiler .scripted 0 nameless).runOn frustrated).1.map
    (fun _ => ()) = .error (.compile "compiler exited with code 3") := by decide +kernel

/-- The author of a source is told of a compiler that failed without a word, and its workspace is
gone. -/
theorem silent_failure_blames_sources :
    (∃ order output report, Build.Ordered 0 nameless "/tmp/.build0"
        (frustrated.withFiles FileStore.empty.createWorkspace.2) order ∧
      Build.Ends .scripted order frustrated.host output report ∧ Build.Blames report) ∧
    ((Build.compiler .scripted 0 nameless).runOn frustrated).2.files.isPresent "/tmp/.build0" =
      false := by
  have classified := Build.compiler_classifies .scripted 0 nameless_housed
  have told := (map_eq_error_iff _ _).mp nameless_told
  constructor
  · rcases classified.sources.mp ⟨_, told⟩ with unknown | ⟨language, found, misnamed⟩ | rejected
    · cases unknown
    · cases found
      exact absurd misnamed (by decide)
    · exact rejected
  · rcases classified.removed _ told with gone | ⟨unknown, -⟩
    · exact gone
    · cases unknown

end Sample
end ContestJudge

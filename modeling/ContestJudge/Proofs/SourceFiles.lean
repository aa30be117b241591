import ContestJudge.Proofs.ToolRuns
import ContestJudge.Proofs.Workspaces
import ContestJudge.Sandbox.Scripted
import Mathlib.Data.List.TakeWhile

namespace ContestJudge

theorem Desk.files_ignore_sandbox {σ : Type} : IgnoresSandbox (files : Desk σ → FileStore) where
  host _ _ := rfl
  act _ _ _ := rfl

namespace Build

def fileName (language : Language) (source : SourceFile) : String :=
  source.name.getD (language.sourceName source.content)

def isPlain (language : Language) (source : SourceFile) : Bool :=
  Path.isPlainName (fileName language source)

def ahead (language : Language) (sources : List SourceFile) : List SourceFile :=
  sources.takeWhile (isPlain language)

/-- Two stores differ in nothing but files of a directory with names and contents of sources. -/
def Adds (language : Language) (directory : Location) (sources : List SourceFile)
    (before after : FileStore) : Prop :=
  ∀ location, after.node? location = before.node? location ∨
    ∃ source ∈ sources, ∃ executable, location = directory ++ [fileName language source] ∧
      after.node? location = some (.file source.content executable)

variable {σ τ : Type} {language : Language} {workspace : String}

section Writing

variable {source : SourceFile} {sources : List SourceFile} (desk : Desk σ)

theorem runOn_writeSource (plain : isPlain language source) :
    (writeSource language workspace source : Judge σ String).runOn desk =
      match desk.files.write (Path.join workspace (fileName language source)) source.content with
      | .ok files => (.ok (fileName language source), desk.withFiles files)
      | .error cause =>
        (.error (.internal (.sourceUnwritable (fileName language source) cause)), desk) := by
  have named : Path.isPlainName (source.name.getD (language.sourceName source.content)) := plain
  rw [writeSource, if_pos named, Work.runOn_bind, Work.runOn_get]
  dsimp only [fileName]
  generalize source.name.getD (language.sourceName source.content) = name
  cases desk.files.write (Path.join workspace name) source.content <;> rfl

variable {desk} in
theorem writeSource_gives {files : FileStore} (plain : isPlain language source)
    (writes : desk.files.write (Path.join workspace (fileName language source)) source.content =
      .ok files) :
    (writeSource language workspace source : Judge σ String).Gives desk (fileName language source)
      (desk.withFiles files) := by
  rw [Work.Gives, runOn_writeSource desk plain, writes]

variable {desk} in
theorem writeSource_stops_of_refused {cause : FileFault} (plain : isPlain language source)
    (refused : desk.files.write (Path.join workspace (fileName language source)) source.content =
      .error cause) :
    (writeSource language workspace source : Judge σ String).Stops desk
      (.internal (.sourceUnwritable (fileName language source) cause)) desk := by
  rw [Work.Stops, runOn_writeSource desk plain, refused]

theorem writeSource_stops (pathlike : ¬ isPlain language source) :
    (writeSource language workspace source : Judge σ String).Stops desk
      (.compile s!"invalid source file name: {fileName language source}") desk := by
  have named : ¬ Path.isPlainName (source.name.getD (language.sourceName source.content)) :=
    pathlike
  rw [Work.Stops, writeSource, if_neg named]
  rfl

theorem maintains_writeSource {holds : Desk σ → Prop} (source : SourceFile)
    (step : ∀ desk files, isPlain language source →
      desk.files.write (Path.join workspace (fileName language source)) source.content = .ok files →
      holds desk → holds (desk.withFiles files)) :
    (writeSource language workspace source : Judge σ String).Maintains holds := by
  intro desk held
  by_cases plain : isPlain language source
  · rw [runOn_writeSource desk plain]
    split
    · rename_i files writes
      exact step desk files plain writes held
    · exact held
  · rw [writeSource_stops desk plain]
    exact held

theorem maintains_writeSources {holds : Desk σ → Prop} (sources : List SourceFile)
    (steps : ∀ source ∈ sources, ∀ desk files, isPlain language source →
      desk.files.write (Path.join workspace (fileName language source)) source.content = .ok files →
      holds desk → holds (desk.withFiles files)) :
    (writeSources language workspace sources : Judge σ (List String)).Maintains holds := by
  induction sources with
  | nil => exact Work.maintains_pure _
  | cons source rest ih =>
    have first := maintains_writeSource source (steps source List.mem_cons_self)
    have others := ih fun later listed => steps later (List.mem_cons_of_mem source listed)
    exact first.bind fun _ => others.bind fun _ => Work.maintains_pure _

theorem keeps_writeSources {view : Desk σ → τ}
    (blind : ∀ desk files, view (desk.withFiles files) = view desk) (sources : List SourceFile) :
    (writeSources language workspace sources : Judge σ (List String)).Keeps view := by
  intro desk
  have kept : (writeSources language workspace sources : Judge σ (List String)).Maintains
      fun later => view later = view desk := by
    apply maintains_writeSources
    intro source listed later files plain writes same
    exact (blind later files).trans same
  exact kept desk rfl

theorem left_writeSources_ahead (sources : List SourceFile) (desk : Desk σ) :
    ((writeSources language workspace sources : Judge σ (List String)).runOn desk).2 =
      ((writeSources language workspace (ahead language sources) : Judge σ (List String)).runOn
        desk).2 := by
  induction sources generalizing desk with
  | nil => rfl
  | cons source rest ih =>
    by_cases plain : isPlain language source
    · have goes : ahead language (source :: rest) = source :: ahead language rest :=
        List.takeWhile_cons_of_pos plain
      rw [goes, writeSources, writeSources, Work.runOn_bind, Work.runOn_bind]
      split
      · rw [Work.runOn_bind_pure, Work.runOn_bind_pure, ih]
      · rfl
    · have ends : ahead language (source :: rest) = [] := List.takeWhile_cons_of_neg plain
      have stops : (writeSources language workspace (source :: rest) :
          Judge σ (List String)).Stops desk _ desk :=
        Work.runOn_bind_of_stops (writeSource_stops desk plain) _
      rw [ends, stops]
      rfl

end Writing

section Adding

variable {directory : Location} {sources : List SourceFile} {source : SourceFile}
  {before middle after : FileStore} {number : Nat}

theorem Adds.refl (store : FileStore) : Adds language directory sources store store :=
  fun _ => .inl rfl

theorem Adds.trans (first : Adds language directory sources before middle)
    (second : Adds language directory sources middle after) :
    Adds language directory sources before after := by
  intro location
  rcases second location with same | added
  · rw [same]
    exact first location
  · exact .inr added

theorem adds_of_write (plain : isPlain language source) (listed : source ∈ sources)
    (writes : before.write (Path.join (FileStore.pathOf (FileStore.workspaceLocation number))
      (fileName language source)) source.content = .ok after) :
    Adds language (FileStore.workspaceLocation number) sources before after := by
  have separate := ((Path.isPlainName_iff _).mp plain).1
  obtain rfl | ⟨place, executable, target, -, rfl⟩ := FileStore.write_cases writes
  · exact Adds.refl after
  intro location
  by_cases here : location = place
  · rw [here, FileStore.node?_put_self]
    have below := FileStore.targetFrom_join_workspacePath separate target
    exact .inr ⟨source, listed, executable, below, rfl⟩
  · exact .inl (FileStore.node?_put_other here _)

end Adding

section Compiling

variable (sandbox : Sandbox σ) (memoryLimit : Nat) {request : CompileRequest} {desk : Desk σ}
  {files : FileStore}

def written (language : Language) (request : CompileRequest) (workspace : String)
    (desk : Desk σ) : FileStore :=
  ((inWorkspace sandbox memoryLimit language request workspace).runOn desk).2.files

theorem written_eq (language : Language) (request : CompileRequest) (workspace : String)
    (desk : Desk σ) : written sandbox memoryLimit language request workspace desk =
      ((writeSources language workspace (ahead language request.sources) :
        Judge σ (List String)).runOn desk).2.files := by
  rw [← left_writeSources_ahead, written, inWorkspace, Work.runOn_bind]
  split
  · rename_i names later ran
    rw [ran]
    dsimp only
    split
    · rename_i command builds
      have runs := keeps_runTool sandbox Desk.files_ignore_sandbox (tool language command)
        (toolSpec request.timeLimit memoryLimit workspace)
      exact (runs.bind fun _ => Work.keeps_pure _) later
    · rfl
  · rename_i fault later ran
    rw [ran]

theorem compiler_of_unknown (unknown : Language.find? request.language = none) (desk : Desk σ) :
    (compiler sandbox memoryLimit request).Stops desk
      (.compile s!"unsupported language: {request.language}") desk := by
  simp only [compiler, unknown]
  rfl

theorem runOn_compiler (found : Language.find? request.language = some language)
    (room : desk.files.createWorkspace = (.ok workspace, files)) :
    (compiler sandbox memoryLimit request).runOn desk =
    ((inWorkspace sandbox memoryLimit language request workspace).unlessDone fun desk =>
      desk.withFiles (desk.files.removeWorkspace workspace)).runOn (desk.withFiles files) := by
  have creates : (newWorkspace : Judge σ String).Gives desk workspace (desk.withFiles files) := by
    change (desk.files.createWorkspace.1.mapError _, desk.withFiles desk.files.createWorkspace.2) = _
    rw [room]
    rfl
  simp only [compiler, found]
  exact Work.runOn_bind_of_gives creates _

theorem files_compiler (found : Language.find? request.language = some language)
    (room : desk.files.createWorkspace = (.ok workspace, files)) :
    ((compiler sandbox memoryLimit request).runOn desk).2.files =
      if ((compiler sandbox memoryLimit request).runOn desk).1.isOk then
        written sandbox memoryLimit language request workspace (desk.withFiles files)
      else (written sandbox memoryLimit language request workspace
        (desk.withFiles files)).removeWorkspace workspace := by
  rw [runOn_compiler sandbox memoryLimit found room, Work.runOn_unlessDone, written]
  split
  · rename_i ran
    simp only [ran]
    rfl
  · rename_i ran
    simp only [ran]
    rfl

theorem adds_written (language : Language) (request : CompileRequest) (number : Nat)
    (desk : Desk σ) :
    Adds language (FileStore.workspaceLocation number) (ahead language request.sources) desk.files
      (written sandbox memoryLimit language request
        (FileStore.pathOf (FileStore.workspaceLocation number)) desk) := by
  rw [written_eq]
  have kept : (writeSources language (FileStore.pathOf (FileStore.workspaceLocation number))
      (ahead language request.sources) : Judge σ (List String)).Maintains fun later =>
        Adds language (FileStore.workspaceLocation number) (ahead language request.sources)
          desk.files later.files := by
    apply maintains_writeSources
    intro source listed later files plain writes added
    exact added.trans (adds_of_write plain listed writes)
  exact kept desk (Adds.refl desk.files)

theorem retains_written (language : Language) (request : CompileRequest) (workspace : String)
    (desk : Desk σ) :
    desk.files.Retains (written sandbox memoryLimit language request workspace desk) := by
  rw [written_eq]
  have kept : (writeSources language workspace (ahead language request.sources) :
      Judge σ (List String)).Maintains fun later => desk.files.Retains later.files := by
    apply maintains_writeSources
    intro source listed later files plain writes retained
    exact retained.trans (FileStore.retains_of_write writes)
  exact kept desk (FileStore.Retains.refl desk.files)

/-- A build that fails early or late leaves no trace outside the place of its workspace. -/
theorem node?_compiler_outside (request : CompileRequest) {location : Location}
    (outside : ¬ FileStore.workspaceLocation desk.files.nextName <+: location) :
    ((compiler sandbox memoryLimit request).runOn desk).2.files.node? location =
      desk.files.node? location := by
  cases found : Language.find? request.language with
  | none => rw [compiler_of_unknown sandbox memoryLimit found desk]
  | some language =>
    rcases made : desk.files.createWorkspace with ⟨cause | workspace, files⟩
    · have refused : (newWorkspace : Judge σ String).Stops desk (.internal (.noWorkspace cause))
          (desk.withFiles files) := by
        change (desk.files.createWorkspace.1.mapError _,
          desk.withFiles desk.files.createWorkspace.2) = _
        rw [made]
        rfl
      have stops : (compiler sandbox memoryLimit request).Stops desk
          (.internal (.noWorkspace cause)) (desk.withFiles files) := by
        simp only [compiler, found]
        exact Work.runOn_bind_of_stops refused _
      have same := FileStore.node?_createWorkspace_outside outside
      rw [made] at same
      rw [stops]
      exact same
    · obtain ⟨rfl, -⟩ := FileStore.eq_of_createWorkspace made
      have kept : files.node? location = desk.files.node? location := by
        have same := FileStore.node?_createWorkspace_outside outside
        rw [made] at same
        exact same
      have wrote : (written sandbox memoryLimit language request
          (FileStore.pathOf (FileStore.workspaceLocation desk.files.nextName))
          (desk.withFiles files)).node? location = files.node? location := by
        have added := adds_written sandbox memoryLimit language request desk.files.nextName
          (desk.withFiles files)
        rcases added location with same | ⟨source, -, _, below, -⟩
        · exact same
        · exact absurd (below ▸ List.prefix_append _ _) outside
      rw [files_compiler sandbox memoryLimit found made]
      split
      · rw [wrote, kept]
      · rw [FileStore.node?_removeWorkspace_outside outside, wrote, kept]

/-- What a build writes stays in its workspace, whatever its sources are called, and nothing is
written of sources from the first one on that has no plain name. -/
theorem compiler_writes_in_workspace (request : CompileRequest) (desk : Desk σ) :
    (∀ name, Path.isPlainName name ↔
      name ≠ "" ∧ '/' ∉ name.toList ∧ name ≠ "." ∧ name ≠ "..") ∧
    (∀ location, ¬ FileStore.workspaceLocation desk.files.nextName <+: location →
      ((compiler sandbox memoryLimit request).runOn desk).2.files.node? location =
        desk.files.node? location) ∧
    ∀ language workspace files, Language.find? request.language = some language →
      desk.files.createWorkspace = (.ok workspace, files) →
      let wrote := written sandbox memoryLimit language request workspace (desk.withFiles files)
      (((compiler sandbox memoryLimit request).runOn desk).2.files = wrote ∨
        ((compiler sandbox memoryLimit request).runOn desk).2.files =
          wrote.removeWorkspace workspace) ∧
      wrote = ((writeSources language workspace (ahead language request.sources) :
        Judge σ (List String)).runOn (desk.withFiles files)).2.files ∧
      Adds language (FileStore.workspaceLocation desk.files.nextName)
        (ahead language request.sources) files wrote ∧
      ∀ source ∈ ahead language request.sources, ∀ (store : FileStore) location,
        store.targetFrom "/" (Path.join workspace (fileName language source)) = .ok location →
        location = FileStore.workspaceLocation desk.files.nextName ++ [fileName language source] := by
  refine ⟨Path.isPlainName_iff_ne, fun location outside =>
    node?_compiler_outside sandbox memoryLimit request outside, ?_⟩
  intro language workspace files found made wrote
  refine ⟨?_, written_eq sandbox memoryLimit language request workspace _, ?_, ?_⟩
  · rw [files_compiler sandbox memoryLimit found made]
    split
    · exact .inl rfl
    · exact .inr rfl
  · obtain ⟨rfl, -⟩ := FileStore.eq_of_createWorkspace made
    exact adds_written sandbox memoryLimit language request _ _
  · intro source listed store location target
    obtain ⟨rfl, -⟩ := FileStore.eq_of_createWorkspace made
    have plain : isPlain language source := List.mem_takeWhile_imp listed
    exact FileStore.targetFrom_join_workspacePath ((Path.isPlainName_iff _).mp plain).1 target

end Compiling
end Build

namespace Sample

/-- A request to build three sources, the second of which tells a way out of the workspace. -/
def escaping : CompileRequest :=
  ⟨[⟨some "a.py", [1]⟩, ⟨some "../escape", [2]⟩, ⟨some "b.py", [3]⟩], [], "python", .zero, false⟩

theorem escape_unwritten :
    (((Build.compiler .scripted 0 escaping).runOn (.fresh .empty (.start []))).2.files.node?
      ["tmp", "escape"] = none) ∧
    Build.Adds .python ["tmp", ".build0"] [⟨some "a.py", [1]⟩] FileStore.empty.createWorkspace.2
      (Build.written .scripted 0 .python escaping "/tmp/.build0"
        ((Desk.fresh .empty (.start [])).withFiles FileStore.empty.createWorkspace.2)) := by
  have confined := Build.compiler_writes_in_workspace .scripted 0 escaping
    (.fresh .empty (.start []))
  refine ⟨confined.2.1 ["tmp", "escape"] (by decide), ?_⟩
  exact (confined.2.2 .python "/tmp/.build0" _ rfl rfl).2.2.1

end Sample
end ContestJudge

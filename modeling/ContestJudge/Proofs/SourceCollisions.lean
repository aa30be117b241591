import ContestJudge.Proofs.Compilation
import ContestJudge.Proofs.Construction
/-!
Sources that go by one name. They are written one after the other into the workspace of a build, and
when the compiler is launched only the last one of a name is there. So no source is lost exactly if
those of one name have the same content. The files of an interactor go by their names without
directories.
-/

namespace ContestJudge

namespace FileStore

variable {store later : FileStore} {number : Nat}

def IsOrdinary (store : FileStore) (number : Nat) : Prop :=
  ∀ name, store.node? (workspaceLocation number ++ [name]) = none ∨
    ∃ content, store.node? (workspaceLocation number ++ [name]) = some (.file content false)

theorem isOrdinary_put (ordinary : store.IsOrdinary number) (name : String) (content : Bytes) :
    (store.put (workspaceLocation number ++ [name]) (.file content false)).IsOrdinary number := by
  intro other
  by_cases same : other = name
  · rw [same, node?_put_self]
    exact .inr ⟨content, rfl⟩
  · have apart : workspaceLocation number ++ [other] ≠ workspaceLocation number ++ [name] := by
      simpa using same
    rw [node?_put_other apart]
    exact ordinary other

theorem eq_put_of_write {name : String} {content : Bytes} (ordinary : store.IsOrdinary number)
    (plain : '/' ∉ name.toList)
    (writes : store.write (Path.join (pathOf (workspaceLocation number)) name) content =
      .ok later) :
    later = store.put (workspaceLocation number ++ [name]) (.file content false) := by
  obtain ⟨location, target, writes⟩ := bind_eq_ok_iff.mp writes
  obtain rfl := targetFrom_join_workspacePath plain target
  rcases ordinary name with free | ⟨old, taken⟩
  · simp only [free] at writes
    exact (Except.ok.inj writes).symm
  · simp only [taken] at writes
    exact (Except.ok.inj writes).symm

end FileStore

namespace Build

section Names

variable (language : Language) (sources : List SourceFile)

def lastNamed (name : String) : Option SourceFile :=
  sources.reverse.find? fun source => fileName language source = name

def Agree : Prop :=
  ∀ first ∈ sources, ∀ second ∈ sources, fileName language first = fileName language second →
    first.content = second.content

instance : Decidable (Agree language sources) := by
  unfold Agree
  infer_instance

def Stored (directory : Location) (store : FileStore) (source : SourceFile) : Prop :=
  store.node? (directory ++ [fileName language source]) = some (.file source.content false)

variable {language sources} {source : SourceFile}

theorem lastNamed_cons (name : String) : lastNamed language (source :: sources) name =
    (lastNamed language sources name).or
      (if fileName language source = name then some source else none) := by
  rw [lastNamed, List.reverse_cons, List.find?_append, List.find?_singleton, lastNamed]
  congr 1
  by_cases same : fileName language source = name <;> simp [same]

theorem exists_lastNamed (listed : source ∈ sources) : ∃ last ∈ sources,
    lastNamed language sources (fileName language source) = some last ∧
      fileName language last = fileName language source := by
  cases found : lastNamed language sources (fileName language source) with
  | none =>
    have none := List.find?_eq_none.mp found source (List.mem_reverse.mpr listed)
    simp at none
  | some last =>
    rw [lastNamed] at found
    have there := List.mem_reverse.mp (List.mem_of_find?_eq_some found)
    exact ⟨last, there, rfl, by simpa using List.find?_some found⟩

end Names

section Writing

variable {σ : Type} {language : Language} {sources : List SourceFile} {desk left : Desk σ}
  {names : List String} {number : Nat}

/-- What stands under a name once sources are written: the last one of them that goes by it, else
what stood there before. -/
theorem node?_of_writeSources (ordinary : desk.files.IsOrdinary number)
    (wrote : (writeSources language (FileStore.pathOf (FileStore.workspaceLocation number))
      sources : Judge σ (List String)).Gives desk names left) (name : String) :
    left.files.node? (FileStore.workspaceLocation number ++ [name]) =
      ((lastNamed language sources name).map fun source => .file source.content false).or
        (desk.files.node? (FileStore.workspaceLocation number ++ [name])) := by
  induction sources generalizing desk names with
  | nil =>
    cases wrote
    rfl
  | cons source rest ih =>
    have plain : isPlain language source :=
      (names_of_writeSources wrote).1 source List.mem_cons_self
    obtain ⟨_, middle, first, wrote⟩ := Work.exists_of_gives_bind wrote
    obtain ⟨others, last, later, ends⟩ := Work.exists_of_gives_bind wrote
    cases ends
    rw [Work.Gives, runOn_writeSource desk plain] at first
    split at first
    · rename_i files writes
      obtain ⟨-, rfl⟩ := Prod.mk.inj first
      have separate := ((Path.isPlainName_iff _).mp plain).1
      obtain rfl := FileStore.eq_put_of_write ordinary separate writes
      have kept := FileStore.isOrdinary_put ordinary (fileName language source) source.content
      rw [ih kept later, lastNamed_cons, Option.map_or, Option.or_assoc]
      congr 1
      change (desk.files.put _ _).node? _ = _
      by_cases same : fileName language source = name
      · rw [same, FileStore.node?_put_self, if_pos rfl]
        rfl
      · have apart : FileStore.workspaceLocation number ++ [name] ≠
            FileStore.workspaceLocation number ++ [fileName language source] := by
          simpa using Ne.symm same
        rw [FileStore.node?_put_other apart, if_neg same]
        rfl
    · cases first

theorem gives_writeSources_cons {source : SourceFile} {workspace : String} {files : FileStore}
    (plain : isPlain language source)
    (writes : desk.files.write (Path.join workspace (fileName language source)) source.content =
      .ok files)
    (later : (writeSources language workspace sources : Judge σ (List String)).Gives
      (desk.withFiles files) names left) :
    (writeSources language workspace (source :: sources) : Judge σ (List String)).Gives desk
      (fileName language source :: names) left := by
  have first := writeSource_gives plain writes
  have rest := Work.runOn_bind_of_gives later fun names =>
    (pure (fileName language source :: names) : Judge σ (List String))
  exact (Work.runOn_bind_of_gives first _).trans rest

section Vacant

variable (vacant : ∀ name, desk.files.node? (FileStore.workspaceLocation number ++ [name]) = none)
  (wrote : (writeSources language (FileStore.pathOf (FileStore.workspaceLocation number)) sources :
    Judge σ (List String)).Gives desk names left)
include vacant wrote

theorem node?_of_vacant (name : String) :
    left.files.node? (FileStore.workspaceLocation number ++ [name]) =
      (lastNamed language sources name).map fun source => .file source.content false := by
  have ordinary : desk.files.IsOrdinary number := fun name => .inl (vacant name)
  rw [node?_of_writeSources ordinary wrote, vacant, Option.or_none]

theorem stored_iff_agree :
    (∀ source ∈ sources,
      Stored language (FileStore.workspaceLocation number) left.files source) ↔
        Agree language sources := by
  constructor
  · intro stored first listed second later same
    have here := stored first listed
    have there := stored second later
    rw [Stored, same] at here
    rw [Stored, here, Option.some.injEq, FileNode.file.injEq] at there
    exact there.1
  · intro agree source listed
    obtain ⟨last, later, found, same⟩ := exists_lastNamed listed
    have content := agree last later source listed same
    rw [Stored, node?_of_vacant vacant wrote, found, Option.map_some, content]

end Vacant

end Writing

section Compiling

variable {σ : Type} (sandbox : Sandbox σ) (memoryLimit : Nat) {request : CompileRequest}
  {desk left : Desk σ} {workspace : String} {files : FileStore} {language : Language}
  {names : List String}

theorem vacant_of_made (made : desk.files.createWorkspace = (.ok workspace, files))
    (vacant : ∀ name,
      desk.files.node? (FileStore.workspaceLocation desk.files.nextName ++ [name]) = none)
    (name : String) :
    files.node? (FileStore.workspaceLocation desk.files.nextName ++ [name]) = none := by
  obtain ⟨-, rfl⟩ := FileStore.eq_of_createWorkspace made
  have apart : FileStore.workspaceLocation desk.files.nextName ++ [name] ≠
      FileStore.workspaceLocation desk.files.nextName := by simp
  rw [FileStore.node?_put_other apart]
  exact vacant name

section Written

variable (found : Language.find? request.language = some language)
  (made : desk.files.createWorkspace = (.ok workspace, files))
  (wrote : (writeSources language workspace request.sources : Judge σ (List String)).Gives
    (desk.withFiles files) names left)
include found made wrote

theorem launches_of_written {command : List String}
    (builds : language.compileCommand workspace names request.flags = some command) :
    launches ((compiler sandbox memoryLimit request).runOn desk).2 = launches desk ++
      [⟨tool language command, toolSpec request.timeLimit memoryLimit workspace, left.files⟩] := by
  obtain ⟨plain, rfl⟩ := names_of_writeSources wrote
  exact launches_of_ordered sandbox memoryLimit made (.intro found plain wrote builds)

theorem compiler_gives_of_written
    (runs : language.compileCommand workspace names request.flags = none) :
    (compiler sandbox memoryLimit request).Gives desk
      (product language workspace names request.unbuffered) left := by
  obtain ⟨-, rfl⟩ := names_of_writeSources wrote
  rw [Work.Gives, runOn_compiler sandbox memoryLimit found made]
  exact Work.gives_unlessDone _ (inWorkspace_of_no_command sandbox memoryLimit wrote runs)

end Written
end Compiling
end Build

section Interactor

variable {problem : Problem} {config : InteractiveConfig} {environment : JudgeEnvironment}
  {files : FileStore} {time : Duration}

theorem agree_interactorSources_iff
    (readable : ∀ file ∈ config.files.toList, ∃ content,
      files.read (Path.join problem.root file) = .ok content) (language : Language) :
    Build.Agree language (config.files.toList.map (interactorSource problem files)) ↔
      ∀ first ∈ config.files.toList, ∀ second ∈ config.files.toList,
        strippedName first = strippedName second →
          files.read (Path.join problem.root first) =
            files.read (Path.join problem.root second) := by
  have content {file : String} (listed : file ∈ config.files.toList) :
      files.read (Path.join problem.root file) =
        .ok (interactorSource problem files file).content := by
    obtain ⟨content, read⟩ := readable file listed
    rw [interactorSource, read]
    rfl
  constructor
  · intro agree first listed second later same
    have contents := agree _ (List.mem_map_of_mem listed) _ (List.mem_map_of_mem later) same
    rw [content listed, content later, contents]
  · intro agree one first other second same
    obtain ⟨file, listed, rfl⟩ := List.mem_map.mp first
    obtain ⟨later, follows, rfl⟩ := List.mem_map.mp second
    have contents := agree file listed later follows same
    rw [content listed, content follows] at contents
    exact Except.ok.inj contents

end Interactor

/-- When a compiler is launched, or a binary without one is made, the workspace has under each name
the last source that goes by it. So every source is there exactly if those of one name have one
content; of an interactor, if readable files with one name in any directories do. -/
theorem sources_kept_iff_agree {σ : Type} (sandbox : Sandbox σ) (memoryLimit : Nat) :
    (∀ (request : CompileRequest) (desk : Desk σ),
      (∀ name,
        desk.files.node? (FileStore.workspaceLocation desk.files.nextName ++ [name]) = none) →
      ∀ (language : Language) (workspace : String) (files : FileStore) (names : List String)
        (left : Desk σ), Language.find? request.language = some language →
      desk.files.createWorkspace = (.ok workspace, files) →
      (Build.writeSources language workspace request.sources : Judge σ (List String)).Gives
        (desk.withFiles files) names left →
      let directory := FileStore.workspaceLocation desk.files.nextName
      names = request.sources.map (Build.fileName language) ∧
      (∀ name, left.files.node? (directory ++ [name]) =
        (Build.lastNamed language request.sources name).map
          fun source => .file source.content false) ∧
      ((∀ source ∈ request.sources, Build.Stored language directory left.files source) ↔
        Build.Agree language request.sources) ∧
      (∀ command, language.compileCommand workspace names request.flags = some command →
        Build.launches ((Build.compiler sandbox memoryLimit request).runOn desk).2 =
          Build.launches desk ++ [⟨Build.tool language command,
            Build.toolSpec request.timeLimit memoryLimit workspace, left.files⟩]) ∧
      (language.compileCommand workspace names request.flags = none →
        (Build.compiler sandbox memoryLimit request).Gives desk
          (Build.product language workspace names request.unbuffered) left)) ∧
    (∀ (problem : Problem) (config : InteractiveConfig) (environment : JudgeEnvironment)
        (files : FileStore) (time : Duration),
      (∀ file ∈ config.files.toList, ∃ content,
        files.read (Path.join problem.root file) = .ok content) →
      interactorCompilerTime config environment = .ok time →
      ∃ request, interactorRequest problem config environment files = .ok request ∧
        ∀ language, Build.Agree language request.sources ↔
          ∀ first ∈ config.files.toList, ∀ second ∈ config.files.toList,
            strippedName first = strippedName second →
              files.read (Path.join problem.root first) =
                files.read (Path.join problem.root second)) := by
  constructor
  · intro request desk vacant language workspace files names left found made wrote directory
    have free := Build.vacant_of_made made vacant
    refine ⟨(Build.names_of_writeSources wrote).2, ?_, ?_, ?_, ?_⟩
    · obtain ⟨rfl, -⟩ := FileStore.eq_of_createWorkspace made
      exact Build.node?_of_vacant free wrote
    · obtain ⟨rfl, -⟩ := FileStore.eq_of_createWorkspace made
      exact Build.stored_iff_agree free wrote
    · intro command builds
      exact Build.launches_of_written sandbox memoryLimit found made wrote builds
    · exact Build.compiler_gives_of_written sandbox memoryLimit found made wrote
  · intro problem config environment files time readable timed
    exact ⟨_, interactorRequest_of_readable readable timed, agree_interactorSources_iff readable⟩

namespace Sample

section Namesakes

variable (first second content : Bytes)

def namesakes : CompileRequest :=
  ⟨[⟨some "a.py", first⟩, ⟨some "a.py", second⟩], [], "python", .zero, false⟩

def bareDesk : Desk ScriptedHost := .fresh .empty (.start [])

/-- An interactor with two files of one name in two directories. -/
def guardedConfig : InteractiveConfig :=
  { guessingConfig with files := .many ["x/a.py", "y/a.py"] }

def guardedProblem : Problem := { problem with root := "/p", config := ⟨some guardedConfig, true⟩ }

def guardedFiles : FileStore :=
  { FileStore.empty with
    nodes := [(["p"], .directory), (["p", "x"], .directory), (["p", "y"], .directory),
      (["p", "x", "a.py"], .file first false), (["p", "y", "a.py"], .file second false)] }

def singleFile : FileStore :=
  { FileStore.empty with
    nodes := [(["tmp", ".build0", "a.py"], .file content false), (["tmp", ".build0"], .directory)]
    nextName := 1 }

def firstWorkspace : String := FileStore.pathOf (FileStore.workspaceLocation 0)

theorem write_namesakes :
    (Build.writeSources .python firstWorkspace (namesakes first second).sources :
      Judge ScriptedHost (List String)).Gives (bareDesk.withFiles FileStore.empty.createWorkspace.2)
        ["a.py", "a.py"] (bareDesk.withFiles (singleFile second)) := by
  have path : Path.join firstWorkspace "a.py" = "/tmp/.build0/a.py" := by decide +kernel
  have name : Path.isPlainName "a.py" := by decide +kernel
  have placed : FileStore.empty.createWorkspace.2.write "/tmp/.build0/a.py" first =
      .ok (singleFile first) := by with_unfolding_all rfl
  have replaced : (singleFile first).write "/tmp/.build0/a.py" second =
      .ok (singleFile second) := by with_unfolding_all rfl
  rw [← path] at placed replaced
  exact Build.gives_writeSources_cons name placed (Build.gives_writeSources_cons name replaced rfl)

theorem read_guardedFiles :
    (guardedFiles first second).read (Path.join guardedProblem.root "x/a.py") = .ok first ∧
    (guardedFiles first second).read (Path.join guardedProblem.root "y/a.py") = .ok second := by
  have paths : Path.join guardedProblem.root "x/a.py" = "/p/x/a.py" ∧
      Path.join guardedProblem.root "y/a.py" = "/p/y/a.py" := by decide +kernel
  rw [paths.1, paths.2]
  constructor
  · with_unfolding_all rfl
  · with_unfolding_all rfl

theorem readable_guardedFiles : ∀ file ∈ guardedConfig.files.toList, ∃ content,
    (guardedFiles first second).read (Path.join guardedProblem.root file) = .ok content := by
  obtain ⟨one, other⟩ := read_guardedFiles first second
  exact List.forall_mem_cons.mpr ⟨⟨first, one⟩, List.forall_mem_singleton.mpr ⟨second, other⟩⟩

theorem time_guardedConfig : interactorCompilerTime guardedConfig .usual = .ok (.ofSeconds 10) := by
  decide +kernel

end Namesakes

theorem same_namesakes_kept :
    (∃ left, (Build.compiler .scripted 0 (namesakes [1] [1])).Gives bareDesk
        (Build.product .python firstWorkspace ["a.py", "a.py"] false) left ∧
      ∀ source ∈ (namesakes [1] [1]).sources,
        Build.Stored .python ["tmp", ".build0"] left.files source) ∧
    ∃ request, interactorRequest guardedProblem guardedConfig .usual (guardedFiles [1] [1]) =
      .ok request ∧ Build.Agree .python request.sources := by
  obtain ⟨builds, asks⟩ := sources_kept_iff_agree .scripted 0
  constructor
  · obtain ⟨-, -, stored, -, gives⟩ := builds (namesakes [1] [1]) bareDesk (fun _ => rfl) .python
      firstWorkspace FileStore.empty.createWorkspace.2 _ _ rfl rfl (write_namesakes [1] [1])
    exact ⟨_, gives rfl, stored.mpr (by decide +kernel)⟩
  · obtain ⟨request, asked, agree⟩ := asks guardedProblem guardedConfig .usual
      (guardedFiles [1] [1]) _ (readable_guardedFiles [1] [1]) time_guardedConfig
    obtain ⟨one, other⟩ := read_guardedFiles [1] [1]
    have same : ∀ file ∈ guardedConfig.files.toList,
        (guardedFiles [1] [1]).read (Path.join guardedProblem.root file) = .ok [1] :=
      List.forall_mem_cons.mpr ⟨one, List.forall_mem_singleton.mpr other⟩
    refine ⟨request, asked, (agree .python).mpr ?_⟩
    intro first listed second later _
    rw [same first listed, same second later]

theorem first_namesake_lost :
    (∃ left, (Build.compiler .scripted 0 (namesakes [1] [2])).Gives bareDesk
        (Build.product .python firstWorkspace ["a.py", "a.py"] false) left ∧
      ¬ ∀ source ∈ (namesakes [1] [2]).sources,
        Build.Stored .python ["tmp", ".build0"] left.files source) ∧
    ∃ request, interactorRequest guardedProblem guardedConfig .usual (guardedFiles [1] [2]) =
      .ok request ∧ ¬ Build.Agree .python request.sources := by
  constructor
  · have wrote := write_namesakes [1] [2]
    have found : Language.find? (namesakes [1] [2]).language = some .python := rfl
    have made : bareDesk.files.createWorkspace =
      (.ok firstWorkspace, FileStore.empty.createWorkspace.2) := rfl
    have vacant (name : String) : (bareDesk.withFiles FileStore.empty.createWorkspace.2).files.node?
        (FileStore.workspaceLocation 0 ++ [name]) = none := rfl
    have lost := mt (Build.stored_iff_agree vacant wrote).mp (by decide +kernel)
    exact ⟨_, Build.compiler_gives_of_written .scripted 0 found made wrote rfl, lost⟩
  · have readable := readable_guardedFiles [1] [2]
    refine ⟨_, interactorRequest_of_readable readable time_guardedConfig, ?_⟩
    rw [agree_interactorSources_iff readable]
    intro agree
    obtain ⟨one, other⟩ := read_guardedFiles [1] [2]
    have same := agree "x/a.py" List.mem_cons_self "y/a.py"
      (List.mem_cons_of_mem _ List.mem_cons_self) (by decide +kernel)
    rw [one, other] at same
    cases same

end Sample
end ContestJudge

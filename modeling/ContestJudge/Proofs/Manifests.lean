import ContestJudge.Problem.Manifest
import ContestJudge.Proofs.Encoding
import ContestJudge.Proofs.Leases
import ContestJudge.Proofs.SettingsRoundTrip
import ContestJudge.Proofs.Work
/-!
What a manifest loads. Each setting of a case is taken for itself: from the case, else from the
defaults of the problem, else it has its usual value. The cases are loaded in order, and the first
one with an unknown checker or an ill-typed setting is the fault.
-/

namespace ContestJudge

theorem FileStore.readText_of_encoded {store : FileStore} {path text : String}
    (read : store.read path = .ok (Utf8.encode text)) : store.readText path = .ok text := by
  refine bind_eq_ok_iff.mpr ⟨_, read, ?_⟩
  rw [Utf8.decode?_encode]
  rfl

namespace Json

section Members

variable {members others : List (WrittenText × Json)} {entry : WrittenText × Json} {name : String}

theorem member?_cons : member? (entry :: members) name =
    (member? members name).or (if entry.1 = some name then some entry.2 else none) := by
  rw [member?, List.reverse_cons, List.find?_append, Option.map_or, List.find?_singleton, member?]
  congr 1
  by_cases same : entry.1 = some name <;> simp [same]

theorem member?_concat : member? (members ++ [entry]) name =
    if entry.1 = some name then some entry.2 else member? members name := by
  rw [member?, List.reverse_append, List.reverse_singleton, List.singleton_append, List.find?_cons,
    member?]
  by_cases same : entry.1 = some name <;> simp [same]

theorem member?_putMember : member? (putMember members entry) name =
    if entry.1 = some name then some entry.2 else member? members name := by
  rw [putMember, member?_concat]
  split
  · rfl
  · rename_i differ
    rw [member?, ← List.filter_reverse, FileStore.find?_filter_ne (Ne.symm differ), member?]

theorem member?_overlay : member? (overlay members others) name =
    (member? others name).or (member? members name) := by
  induction others generalizing members with
  | nil => rfl
  | cons entry others ih =>
    have later : overlay members (entry :: others) = overlay (putMember members entry) others := rfl
    rw [later, ih, member?_putMember, member?_cons, Option.or_assoc]
    congr 1
    split <;> rfl

end Members

end Json

namespace CaseConfig

section Settings

variable (defaults overrides : List (WrittenText × Json))

/-- The value that one setting takes: the case comes before the problem, and what neither gives has
its usual value. -/
inductive Takes {α : Type} (name : String) (read : Json → Option α) (usual : α) : α → Prop
  | own {document : Json} {value : α} (given : Json.member? overrides name = some document)
      (typed : read document.settled = some value) : Takes name read usual value
  | inherited {document : Json} {value : α} (silent : Json.member? overrides name = none)
      (given : Json.member? defaults name = some document)
      (typed : read document.settled = some value) : Takes name read usual value
  | usual (silent : Json.member? overrides name = none)
      (unset : Json.member? defaults name = none) : Takes name read usual usual

structure Effective (config : CaseConfig) : Prop where
  symlinks : Takes defaults overrides "symlinks" Json.textMap? usual.symlinks config.symlinks
  wallTimeFactor : Takes defaults overrides "wall_time_factor" Json.real? usual.wallTimeFactor
    config.wallTimeFactor
  outputLimit : Takes defaults overrides "output_limit_length" (Json.natural? wordBound)
    usual.outputLimit config.outputLimit
  binaryData : Takes defaults overrides "binary_data" Json.bool? usual.binaryData config.binaryData

structure WellTyped : Prop where
  symlinks : ∃ links, Takes defaults overrides "symlinks" Json.textMap? usual.symlinks links
  wallTimeFactor : ∃ factor,
    Takes defaults overrides "wall_time_factor" Json.real? usual.wallTimeFactor factor
  outputLimit : ∃ limit,
    Takes defaults overrides "output_limit_length" (Json.natural? wordBound) usual.outputLimit limit
  binaryData : ∃ binary, Takes defaults overrides "binary_data" Json.bool? usual.binaryData binary

end Settings

variable {defaults overrides : List (WrittenText × Json)} {config : CaseConfig}

theorem default?_eq_some_iff_takes {α : Type} {name : String} {read : Json → Option α}
    {usual value : α} :
    Json.default? usual read ((Json.member? (Json.overlay defaults overrides) name).map
      Json.settled) = some value ↔ Takes defaults overrides name read usual value := by
  rw [Json.member?_overlay]
  constructor
  · intro found
    cases own : Json.member? overrides name with
    | some document =>
      rw [own] at found
      exact .own own found
    | none =>
      cases inherited : Json.member? defaults name with
      | some document =>
        rw [own, inherited] at found
        exact .inherited own inherited found
      | none =>
        rw [own, inherited] at found
        obtain rfl : usual = value := Option.some.inj found
        exact .usual own inherited
  · rintro (⟨given, typed⟩ | ⟨silent, given, typed⟩ | ⟨silent, unset⟩)
    · rw [given]
      exact typed
    · rw [silent, given]
      exact typed
    · rw [silent, unset]
      rfl

theorem merge?_eq_some_iff :
    merge? defaults overrides = some config ↔ Effective defaults overrides config := by
  simp only [merge?, given, fieldNames, List.map_cons, List.map_nil, ofFields?, Option.bind_eq_bind,
    Option.bind_eq_some_iff, default?_eq_some_iff_takes, Option.pure_def, Option.some.injEq]
  constructor
  · rintro ⟨links, symlinks, factor, wallTimeFactor, limit, outputLimit, binary, binaryData, rfl⟩
    exact ⟨symlinks, wallTimeFactor, outputLimit, binaryData⟩
  · rintro ⟨symlinks, wallTimeFactor, outputLimit, binaryData⟩
    exact ⟨_, symlinks, _, wallTimeFactor, _, outputLimit, _, binaryData, rfl⟩

theorem exists_effective_iff :
    (∃ config, Effective defaults overrides config) ↔ WellTyped defaults overrides := by
  constructor
  · rintro ⟨config, symlinks, wallTimeFactor, outputLimit, binaryData⟩
    exact ⟨⟨_, symlinks⟩, ⟨_, wallTimeFactor⟩, ⟨_, outputLimit⟩, ⟨_, binaryData⟩⟩
  · rintro ⟨⟨links, symlinks⟩, ⟨factor, wallTimeFactor⟩, ⟨limit, outputLimit⟩, ⟨binary, binaryData⟩⟩
    exact ⟨⟨links, factor, limit, binary⟩, symlinks, wallTimeFactor, outputLimit, binaryData⟩

theorem merge?_eq_none_iff :
    merge? defaults overrides = none ↔ ¬ WellTyped defaults overrides := by
  rw [← exists_effective_iff, Option.eq_none_iff_forall_ne_some, not_exists]
  exact forall_congr' fun config => not_congr merge?_eq_some_iff

/-- Nothing else matters in the sections of a problem and of a case: no member of another name, and
no default of a setting that the case gives. -/
theorem merge?_congr {otherDefaults otherOverrides : List (WrittenText × Json)}
    (own : ∀ name ∈ fieldNames,
      Json.member? otherOverrides name = Json.member? overrides name)
    (inherited : ∀ name ∈ fieldNames, Json.member? overrides name = none →
      Json.member? otherDefaults name = Json.member? defaults name) :
    merge? otherDefaults otherOverrides = merge? defaults overrides := by
  have same : given (Json.overlay otherDefaults otherOverrides) =
      given (Json.overlay defaults overrides) := by
    apply List.map_congr_left
    intro name listed
    rw [Json.member?_overlay, Json.member?_overlay, own name listed]
    cases silent : Json.member? overrides name with
    | some document => rfl
    | none => rw [inherited name listed silent]
  rw [merge?, same, merge?]

end CaseConfig

namespace Manifest

section Cases

variable (manifest : Manifest) (directory : String) (checkers : CheckerRegistry)

def checkerName (entry : ManifestCase) : String := entry.checker.getD manifest.checker

structure Accepts (entry : ManifestCase) : Prop where
  registered : (checkers.get? (manifest.checkerName entry)).isSome
  typed : CaseConfig.WellTyped manifest.caseDefaults entry.config

/-- Why a case cannot be loaded. An unknown checker comes before an ill-typed setting. -/
inductive Refuses (entry : ManifestCase) : Fault → Prop
  | unknown (missing : checkers.get? (manifest.checkerName entry) = none) :
      Refuses entry (.config (.unknownChecker (manifest.checkerName entry)))
  | illTyped (registered : (checkers.get? (manifest.checkerName entry)).isSome)
      (illTyped : ¬ CaseConfig.WellTyped manifest.caseDefaults entry.config) :
      Refuses entry (.config .caseConfigMalformed)

structure Describes (position : Nat) (entry : ManifestCase) (case : TestCase) : Prop where
  position : case.position = position
  batch : case.batch = entry.batch
  points : case.points = entry.points
  input : case.input = .file (Path.join directory entry.input)
  output : ∀ name, entry.output = some name → case.output = .file (Path.join directory name)
  noOutput : entry.output = none → case.output = .inline []
  config : CaseConfig.Effective manifest.caseDefaults entry.config case.config
  checker : checkers.get? (manifest.checkerName entry) = some case.checker

/-- Whether cases are those of entries, one for each in its order, from a position on. -/
structure DescribesAll (position : Nat) (entries : List ManifestCase) (cases : List TestCase) :
    Prop where
  length : cases.length = entries.length
  each : ∀ (index : Nat) (entry : ManifestCase), entries[index]? = some entry →
    ∃ case, cases[index]? = some case ∧
      manifest.Describes directory checkers (position + index) entry case

def RefusesFirst (entries : List ManifestCase) (fault : Fault) : Prop :=
  ∃ before entry after, entries = before ++ entry :: after ∧
    (∀ earlier ∈ before, manifest.Accepts checkers earlier) ∧ manifest.Refuses checkers entry fault

end Cases

variable {manifest : Manifest} {directory : String} {checkers : CheckerRegistry}
  {position : Nat} {entry : ManifestCase} {entries : List ManifestCase} {case : TestCase}
  {cases : List TestCase} {fault : Fault}

theorem testCase_of_unknown (missing : checkers.get? (manifest.checkerName entry) = none) :
    manifest.testCase directory checkers position entry =
      .error (.config (.unknownChecker (manifest.checkerName entry))) := by
  have unknown : checkers.find (manifest.checkerName entry) =
      .error (.config (.unknownChecker (manifest.checkerName entry))) := by
    rw [CheckerRegistry.find, missing]
  rw [testCase, ← checkerName, unknown]
  rfl

theorem testCase_of_registered {checker : Checker}
    (found : checkers.get? (manifest.checkerName entry) = some checker) :
    manifest.testCase directory checkers position entry =
    match CaseConfig.merge? manifest.caseDefaults entry.config with
    | some config => .ok ⟨position, entry.batch, entry.points,
        .file (Path.join directory entry.input),
        match entry.output with
        | some name => .file (Path.join directory name)
        | none => .inline [],
        config, checker⟩
    | none => .error (.config .caseConfigMalformed) := by
  have known : checkers.find (manifest.checkerName entry) = .ok checker := by
    rw [CheckerRegistry.find, found]
  rw [testCase, ← checkerName, known]
  cases CaseConfig.merge? manifest.caseDefaults entry.config <;> rfl

theorem testCase_eq_ok_iff : manifest.testCase directory checkers position entry = .ok case ↔
    manifest.Describes directory checkers position entry case := by
  constructor
  · intro loads
    cases found : checkers.get? (manifest.checkerName entry) with
    | none =>
      rw [testCase_of_unknown found] at loads
      cases loads
    | some checker =>
      rw [testCase_of_registered found] at loads
      cases merged : CaseConfig.merge? manifest.caseDefaults entry.config with
      | none =>
        rw [merged] at loads
        cases loads
      | some config =>
        rw [merged] at loads
        obtain rfl := Except.ok.inj loads
        refine ⟨rfl, rfl, rfl, rfl, ?_, ?_, CaseConfig.merge?_eq_some_iff.mp merged, found⟩
        · intro name named
          rw [named]
        · intro unnamed
          rw [unnamed]
  · obtain ⟨_, _, _, _, source, _, _⟩ := case
    rintro ⟨rfl, rfl, rfl, rfl, output, noOutput, config, checker⟩
    rw [testCase_of_registered checker, CaseConfig.merge?_eq_some_iff.mpr config]
    cases named : entry.output with
    | none =>
      obtain rfl : source = .inline [] := noOutput named
      rfl
    | some name =>
      obtain rfl : source = .file (Path.join directory name) := output name named
      rfl

theorem testCase_eq_error_iff : manifest.testCase directory checkers position entry = .error fault ↔
    manifest.Refuses checkers entry fault := by
  constructor
  · intro fails
    cases found : checkers.get? (manifest.checkerName entry) with
    | none =>
      rw [testCase_of_unknown found] at fails
      obtain rfl := Except.error.inj fails
      exact .unknown found
    | some checker =>
      rw [testCase_of_registered found] at fails
      cases merged : CaseConfig.merge? manifest.caseDefaults entry.config with
      | some config =>
        rw [merged] at fails
        cases fails
      | none =>
        rw [merged] at fails
        obtain rfl := Except.error.inj fails
        exact .illTyped (Option.isSome_of_eq_some found) (CaseConfig.merge?_eq_none_iff.mp merged)
  · rintro (missing | ⟨registered, illTyped⟩)
    · exact testCase_of_unknown missing
    · obtain ⟨checker, found⟩ := Option.isSome_iff_exists.mp registered
      rw [testCase_of_registered found, CaseConfig.merge?_eq_none_iff.mpr illTyped]

variable (directory position) in
theorem accepts_iff : manifest.Accepts checkers entry ↔
    ∃ case, manifest.testCase directory checkers position entry = .ok case := by
  constructor
  · rintro ⟨registered, typed⟩
    obtain ⟨checker, found⟩ := Option.isSome_iff_exists.mp registered
    obtain ⟨config, effective⟩ := CaseConfig.exists_effective_iff.mpr typed
    rw [testCase_of_registered found, CaseConfig.merge?_eq_some_iff.mpr effective]
    exact ⟨_, rfl⟩
  · rintro ⟨case, loads⟩
    have describes := testCase_eq_ok_iff.mp loads
    exact ⟨Option.isSome_of_eq_some describes.checker,
      CaseConfig.exists_effective_iff.mp ⟨_, describes.config⟩⟩

section Steps

theorem testCases_cons_eq_ok_iff :
    manifest.testCases directory checkers position (entry :: entries) = .ok cases ↔
      ∃ case later, cases = case :: later ∧
        manifest.testCase directory checkers position entry = .ok case ∧
        manifest.testCases directory checkers (position + 1) entries = .ok later := by
  rw [testCases, bind_eq_ok_iff]
  constructor
  · rintro ⟨case, first, loads⟩
    obtain ⟨later, rest, same⟩ := bind_eq_ok_iff.mp loads
    exact ⟨case, later, (Except.ok.inj same).symm, first, rest⟩
  · rintro ⟨case, later, rfl, first, rest⟩
    exact ⟨case, first, bind_eq_ok_iff.mpr ⟨later, rest, rfl⟩⟩

theorem testCases_cons_eq_error_iff :
    manifest.testCases directory checkers position (entry :: entries) = .error fault ↔
      manifest.testCase directory checkers position entry = .error fault ∨
        (∃ case, manifest.testCase directory checkers position entry = .ok case) ∧
          manifest.testCases directory checkers (position + 1) entries = .error fault := by
  rw [testCases, bind_eq_error_iff]
  constructor
  · rintro (fails | ⟨case, first, fails⟩)
    · exact .inl fails
    · rcases (bind_eq_error_iff _ _).mp fails with fails | ⟨later, -, fails⟩
      · exact .inr ⟨⟨case, first⟩, fails⟩
      · cases fails
  · rintro (fails | ⟨⟨case, first⟩, fails⟩)
    · exact .inl fails
    · exact .inr ⟨case, first, (bind_eq_error_iff _ _).mpr (.inl fails)⟩

theorem describesAll_cons_iff :
    manifest.DescribesAll directory checkers position (entry :: entries) cases ↔
      ∃ case later, cases = case :: later ∧
        manifest.Describes directory checkers position entry case ∧
        manifest.DescribesAll directory checkers (position + 1) entries later := by
  constructor
  · rintro ⟨length, each⟩
    obtain ⟨case, found, describes⟩ := each 0 entry List.getElem?_cons_zero
    cases cases with
    | nil => cases length
    | cons given later =>
      rw [List.getElem?_cons_zero, Option.some.injEq] at found
      refine ⟨given, later, rfl, found ▸ describes, Nat.succ.inj length, ?_⟩
      intro index sought listed
      obtain ⟨case, found, describes⟩ :=
        each (index + 1) sought (List.getElem?_cons_succ.trans listed)
      rw [List.getElem?_cons_succ] at found
      rw [Nat.add_comm index, ← Nat.add_assoc] at describes
      exact ⟨case, found, describes⟩
  · rintro ⟨case, later, rfl, describes, length, each⟩
    refine ⟨congrArg (· + 1) length, ?_⟩
    intro index sought listed
    cases index with
    | zero =>
      rw [List.getElem?_cons_zero, Option.some.injEq] at listed
      exact ⟨case, List.getElem?_cons_zero, listed ▸ describes⟩
    | succ index =>
      rw [List.getElem?_cons_succ] at listed
      obtain ⟨case, found, describes⟩ := each index sought listed
      rw [Nat.add_assoc, Nat.add_comm 1] at describes
      exact ⟨case, List.getElem?_cons_succ.trans found, describes⟩

theorem refusesFirst_cons_iff : manifest.RefusesFirst checkers (entry :: entries) fault ↔
    manifest.Refuses checkers entry fault ∨
      manifest.Accepts checkers entry ∧ manifest.RefusesFirst checkers entries fault := by
  constructor
  · rintro ⟨before, refused, after, split, accepted, refuses⟩
    cases before with
    | nil =>
      obtain ⟨rfl, -⟩ := List.cons.inj split
      exact .inl refuses
    | cons first before =>
      obtain ⟨rfl, rest⟩ := List.cons.inj split
      rw [List.forall_mem_cons] at accepted
      exact .inr ⟨accepted.1, before, refused, after, rest, accepted.2, refuses⟩
  · rintro (refuses | ⟨accepts, before, refused, after, rfl, accepted, refuses⟩)
    · exact ⟨[], entry, entries, rfl, List.forall_mem_nil _, refuses⟩
    · exact ⟨entry :: before, refused, after, rfl, List.forall_mem_cons.mpr ⟨accepts, accepted⟩,
        refuses⟩

end Steps

theorem testCases_eq_ok_iff : manifest.testCases directory checkers position entries = .ok cases ↔
    manifest.DescribesAll directory checkers position entries cases := by
  induction entries generalizing position cases with
  | nil =>
    constructor
    · intro loads
      rw [testCases, Except.ok.injEq] at loads
      refine ⟨congrArg List.length loads.symm, ?_⟩
      intro index sought listed
      simp at listed
    · rintro ⟨length, -⟩
      rw [List.eq_nil_of_length_eq_zero length, testCases]
  | cons entry entries ih =>
    simp only [testCases_cons_eq_ok_iff, describesAll_cons_iff, testCase_eq_ok_iff, ih]

theorem testCases_eq_error_iff :
    manifest.testCases directory checkers position entries = .error fault ↔
      manifest.RefusesFirst checkers entries fault := by
  induction entries generalizing position with
  | nil =>
    constructor
    · intro fails
      rw [testCases] at fails
      cases fails
    · rintro ⟨before, entry, after, split, -⟩
      simp at split
  | cons entry entries ih =>
    rw [testCases_cons_eq_error_iff, refusesFirst_cons_iff, testCase_eq_error_iff, ih,
      accepts_iff directory position]

variable (directory position) in
theorem exists_testCases_iff :
    (∃ cases, manifest.testCases directory checkers position entries = .ok cases) ↔
      ∀ entry ∈ entries, manifest.Accepts checkers entry := by
  induction entries generalizing position with
  | nil => simp [testCases]
  | cons entry entries ih =>
    rw [List.forall_mem_cons, accepts_iff directory position, ← ih (position + 1)]
    simp only [testCases_cons_eq_ok_iff]
    constructor
    · rintro ⟨cases, case, later, rfl, first, rest⟩
      exact ⟨⟨case, first⟩, later, rest⟩
    · rintro ⟨⟨case, first⟩, later, rest⟩
      exact ⟨_, case, later, rfl, first, rest⟩

section Whole

variable (manifest directory checkers)

def describedProblem (time : Duration) : Problem :=
  ⟨manifest.id, time, manifest.memoryLimit, directory, ⟨manifest.interactive, manifest.unbuffered⟩⟩

variable {manifest} {time : Duration} (positive : Binary64.lt 0 manifest.timeLimit)
  (inRange : Duration.ofSeconds? manifest.timeLimit = some time)
include positive inRange

theorem problem_eq :
    manifest.problem directory = .ok (manifest.describedProblem directory time) := by
  have finite : manifest.timeLimit.isFinite := by
    cases limit : manifest.timeLimit with
    | finite => rfl
    | nan =>
      rw [limit] at inRange
      cases inRange
    | infinite =>
      rw [limit] at inRange
      cases inRange
  have kept : configuredTime manifest.timeLimit "time_limit" = .ok time := by
    rw [configuredTime, inRange]
  rw [problem, finite, positive, kept]
  rfl

theorem load_eq : manifest.load directory checkers =
    (manifest.testCases directory checkers 1 manifest.cases).map
      fun cases => (manifest.describedProblem directory time, cases) := by
  rw [load, problem_eq directory positive inRange]
  cases manifest.testCases directory checkers 1 manifest.cases <;> rfl

end Whole

end Manifest

theorem loadProblem_eq_load {files : FileStore} {directory text : String}
    {manifest : Manifest} (read : files.readText (Path.join directory manifestName) = .ok text)
    (decoded : (Json.parse? text).bind Manifest.ofJson? = some manifest)
    (checkers : CheckerRegistry) :
    loadProblem files directory checkers = manifest.load directory checkers := by
  simp only [loadProblem, read, decoded]

/-- A manifest loads if every one of its cases has a known checker and settings that are, each taken
for itself, of their types. Then its cases are exactly those that it describes, in its order. Else
the fault is that of the first other case. Members of other names and defaults that a case replaces
do not matter. -/
theorem manifest_loads {files : FileStore} {directory text : String} {manifest : Manifest}
    {time : Duration} (read : files.readText (Path.join directory manifestName) = .ok text)
    (decoded : (Json.parse? text).bind Manifest.ofJson? = some manifest)
    (positive : Binary64.lt 0 manifest.timeLimit)
    (inRange : Duration.ofSeconds? manifest.timeLimit = some time) (checkers : CheckerRegistry) :
    ((∃ loaded, loadProblem files directory checkers = .ok loaded) ↔
      ∀ entry ∈ manifest.cases, manifest.Accepts checkers entry) ∧
    (∀ problem cases, loadProblem files directory checkers = .ok (problem, cases) ↔
      problem = manifest.describedProblem directory time ∧
        manifest.DescribesAll directory checkers 1 manifest.cases cases) ∧
    (∀ fault, loadProblem files directory checkers = .error fault ↔
      manifest.RefusesFirst checkers manifest.cases fault) ∧
    ∀ entry ∈ manifest.cases, ∀ defaults overrides,
      (∀ name ∈ CaseConfig.fieldNames,
        Json.member? overrides name = Json.member? entry.config name ∧
          (Json.member? entry.config name = none →
            Json.member? defaults name = Json.member? manifest.caseDefaults name)) →
        CaseConfig.merge? defaults overrides =
          CaseConfig.merge? manifest.caseDefaults entry.config := by
  rw [loadProblem_eq_load read decoded, Manifest.load_eq directory checkers positive inRange]
  refine ⟨?_, ?_, ?_, ?_⟩
  · rw [← Manifest.exists_testCases_iff directory 1]
    simp only [map_eq_ok_iff]
    constructor
    · rintro ⟨loaded, cases, loads, -⟩
      exact ⟨cases, loads⟩
    · rintro ⟨cases, loads⟩
      exact ⟨_, cases, loads, rfl⟩
  · intro problem cases
    rw [map_eq_ok_iff]
    constructor
    · rintro ⟨_, loads, same⟩
      obtain ⟨rfl, rfl⟩ := Prod.mk.inj same
      exact ⟨rfl, Manifest.testCases_eq_ok_iff.mp loads⟩
    · rintro ⟨rfl, describes⟩
      exact ⟨cases, Manifest.testCases_eq_ok_iff.mpr describes, rfl⟩
  · intro fault
    rw [map_eq_error_iff, Manifest.testCases_eq_error_iff]
  · intro entry _ defaults overrides agree
    exact CaseConfig.merge?_congr (fun name listed => (agree name listed).1)
      fun name listed => (agree name listed).2

namespace Sample

def manifestFiles (document : Json) : FileStore :=
  FileStore.empty.install "/p/problem.json" (Utf8.encode document.render) false

theorem readText_manifestFiles (document : Json) :
    (manifestFiles document).readText (Path.join "/p" manifestName) = .ok document.render := by
  have path : Path.join "/p" manifestName = "/p/problem.json" := by decide +kernel
  have stored (content : Bytes) : (FileStore.empty.install "/p/problem.json" content false).read
      "/p/problem.json" = .ok content := by with_unfolding_all rfl
  rw [path]
  exact FileStore.readText_of_encoded (stored _)

/-- Two cases that replace an ill-typed default, the second one also the links. -/
def layeredDocument : Json := .record [
  ("id", .ofString "sum"), ("time_limit", .ofNat 2),
  ("memory_limit", .ofNat 1024),
  ("case_defaults", .record [
    ("symlinks", .record [("a", .ofString "/a")]), ("output_limit_length", .ofString "much"),
    ("colour", .ofNat 7)]),
  ("cases", .array [
    .record [
      ("input", .ofString "1.in"), ("output", .ofString "1.out"), ("points", .ofNat 10),
      ("config", .record [("output_limit_length", .ofNat 64)])],
    .record [
      ("input", .ofString "2.in"), ("points", .ofNat 20), ("batch", .ofNat 1),
      ("checker", .ofString "identical"),
      ("config", .record [
        ("output_limit_length", .ofNat 8), ("wall_time_factor", .ofNat 2),
        ("symlinks", .record [("b", .ofString "/b")])])]])]

theorem writable_layeredDocument : layeredDocument.Writable := by
  have text (value : String) : (Json.ofString value).Writable := .string value
  have number := Json.writable_ofNat
  have single (name : String) {value : Json} (writable : value.Writable) :
      (Json.record [(name, value)]).Writable := by
    apply Json.Writable.record
    rintro member listed
    obtain rfl := List.mem_singleton.mp listed
    exact writable
  refine .record ?_
  simp only [List.forall_mem_cons]
  refine ⟨text _, number _, number _, .record ?_, .array ?_, nofun⟩
  · simp only [List.forall_mem_cons]
    exact ⟨single "a" (text _), text _, number _, nofun⟩
  · simp only [List.forall_mem_cons]
    refine ⟨.record ?_, .record ?_, nofun⟩
    · simp only [List.forall_mem_cons]
      exact ⟨text _, text _, number _, single "output_limit_length" (number _), nofun⟩
    · simp only [List.forall_mem_cons]
      refine ⟨text _, number _, number _, text _, .record ?_, nofun⟩
      simp only [List.forall_mem_cons]
      exact ⟨number _, number _, single "b" (text _), nofun⟩

def layeredManifest : Manifest where
  id := "sum"
  timeLimit := 2
  memoryLimit := 1024
  checker := "standard"
  unbuffered := true
  interactive := none
  caseDefaults := [(some "symlinks", .record [("a", .ofString "/a")]),
    (some "output_limit_length", .ofString "much"), (some "colour", .ofNat 7)]
  cases := [
    ⟨"1.in", some "1.out", 10, none, none, [(some "output_limit_length", .ofNat 64)]⟩,
    ⟨"2.in", none, 20, some 1, some "identical", [(some "output_limit_length", .ofNat 8),
      (some "wall_time_factor", .ofNat 2), (some "symlinks", .record [("b", .ofString "/b")])]⟩]

theorem layered_loads :
    (manifestFiles layeredDocument).readText (Path.join "/p" manifestName) =
      .ok layeredDocument.render ∧
    (Json.parse? layeredDocument.render).bind Manifest.ofJson? = some layeredManifest ∧
    Binary64.lt 0 layeredManifest.timeLimit ∧
    Duration.ofSeconds? layeredManifest.timeLimit = some (.ofSeconds 2) ∧
    ∃ cases, loadProblem (manifestFiles layeredDocument) "/p" .builtin =
        .ok (layeredManifest.describedProblem "/p" (.ofSeconds 2), cases) ∧
      cases.map TestCase.config =
        [⟨[("a", "/a")], 3, 64, false⟩, ⟨[("b", "/b")], 2, 8, false⟩] := by
  have decoded : (Json.parse? layeredDocument.render).bind Manifest.ofJson? =
      some layeredManifest := by
    rw [Json.parse?_render writable_layeredDocument]
    with_unfolding_all rfl
  have positive : Binary64.lt 0 layeredManifest.timeLimit := by decide +kernel
  have inRange : Duration.ofSeconds? layeredManifest.timeLimit = some (.ofSeconds 2) := by
    decide +kernel
  have listed : (layeredManifest.testCases "/p" .builtin 1 layeredManifest.cases).map
      (List.map TestCase.config) =
        .ok [⟨[("a", "/a")], 3, 64, false⟩, ⟨[("b", "/b")], 2, 8, false⟩] := by decide +kernel
  obtain ⟨cases, loads, settings⟩ := map_eq_ok_iff.mp listed
  have read := readText_manifestFiles layeredDocument
  have described := (manifest_loads read decoded positive inRange .builtin).2.1
  refine ⟨read, decoded, positive, inRange, cases, ?_, settings⟩
  exact (described _ _).mpr ⟨rfl, Manifest.testCases_eq_ok_iff.mp loads⟩

end Sample
end ContestJudge

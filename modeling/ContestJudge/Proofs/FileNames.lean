import ContestJudge.Proofs.Leases

namespace ContestJudge

namespace Path

theorem pieces_cons (c : Char) (path : List Char) : pieces (c :: path) =
    match pieces path with
    | [] => [[c]]
    | piece :: rest => if c = '/' then [] :: piece :: rest else (c :: piece) :: rest := rfl

theorem pieces_ne_nil (path : List Char) : pieces path ≠ [] := by
  cases path with
  | nil => exact List.cons_ne_nil _ _
  | cons c path =>
    rw [pieces_cons]
    split
    · exact List.cons_ne_nil _ _
    · split <;> exact List.cons_ne_nil _ _

theorem separator_not_mem_pieces {path piece : List Char} (listed : piece ∈ pieces path) :
    '/' ∉ piece := by
  induction path generalizing piece with
  | nil =>
    obtain rfl : piece = [] := List.mem_singleton.mp listed
    exact List.not_mem_nil
  | cons c path ih =>
    obtain ⟨first, rest, found⟩ := List.exists_cons_of_ne_nil (pieces_ne_nil path)
    rw [pieces_cons, found] at listed
    rw [found] at ih
    by_cases separator : c = '/'
    · simp only [if_pos separator] at listed
      rcases List.mem_cons.mp listed with rfl | later
      · exact List.not_mem_nil
      · exact ih later
    · simp only [if_neg separator] at listed
      rcases List.mem_cons.mp listed with rfl | later
      · intro here
        rcases List.mem_cons.mp here with same | here
        · exact separator same.symm
        · exact ih List.mem_cons_self here
      · exact ih (List.mem_cons_of_mem first later)

theorem pieces_of_plain {path : List Char} (plain : '/' ∉ path) : pieces path = [path] := by
  induction path with
  | nil => rfl
  | cons c path ih =>
    rw [List.mem_cons, not_or] at plain
    have name : c ≠ '/' := fun same => plain.1 same.symm
    rw [pieces_cons, ih plain.2]
    exact if_neg name

theorem pieces_append_separator (front back : List Char) :
    pieces (front ++ '/' :: back) = pieces front ++ pieces back := by
  induction front with
  | nil =>
    obtain ⟨first, rest, found⟩ := List.exists_cons_of_ne_nil (pieces_ne_nil back)
    rw [List.nil_append, pieces_cons, found]
    rfl
  | cons c front ih =>
    obtain ⟨first, rest, found⟩ := List.exists_cons_of_ne_nil (pieces_ne_nil front)
    rw [List.cons_append, pieces_cons, pieces_cons c front, ih, found]
    simp only [List.cons_append]
    split <;> rfl

theorem name_mem_components {path text : String} (listed : .name text ∈ components path) :
    text.toList ∈ pieces path.toList ∧ text.toList ≠ [] ∧ text.toList ≠ ['.'] ∧
      text.toList ≠ ['.', '.'] := by
  unfold components at listed
  rcases List.mem_append.mp listed with start | part
  · split at start
    · simp only [List.mem_singleton, reduceCtorEq] at start
    · split at start
      · simp only [List.mem_singleton, reduceCtorEq] at start
      · cases start
  · obtain ⟨piece, there, names⟩ := List.mem_filterMap.mp part
    unfold componentOf? at names
    split at names
    · cases names
    split at names
    · cases names
    rename_i named below
    rw [not_or] at named
    simp only [Option.some.injEq, Component.name.injEq] at names
    rw [← names, String.toList_ofList]
    exact ⟨there, named.1, named.2, below⟩

theorem components_of_plain {name : String} (plain : '/' ∉ name.toList) (some : name.toList ≠ [])
    (here : name.toList ≠ ['.']) (above : name.toList ≠ ['.', '.']) :
    components name = [.name name] := by
  have relative : isAbsolute name = false := by
    rw [isAbsolute, beq_eq_false_iff_ne]
    intro absolute
    exact plain (List.mem_of_head? absolute)
  have unlike : ¬ [name.toList].head? = Option.some ['.'] := fun same => here (Option.some.inj same)
  have named : componentOf? name.toList = Option.some (.name name) := by
    rw [componentOf?, if_neg (not_or.mpr ⟨some, here⟩), if_neg above, String.ofList_toList]
  rw [components, pieces_of_plain plain, relative]
  simp only [Bool.false_eq_true, if_false, if_neg unlike, List.nil_append, List.filterMap_cons,
    named, List.filterMap_nil]

/-- A plain name is one that has no separator and stands for no directory that is always there. -/
theorem isPlainName_iff (name : String) : isPlainName name ↔
    '/' ∉ name.toList ∧ name.toList ≠ [] ∧ name.toList ≠ ['.'] ∧ name.toList ≠ ['.', '.'] := by
  rw [isPlainName, Bool.and_eq_true, beq_iff_eq, beq_iff_eq]
  constructor
  · rintro ⟨-, named⟩
    unfold fileName? at named
    split at named
    · rename_i text last
      cases named
      obtain ⟨there, some, here, above⟩ := name_mem_components (List.mem_of_getLast? last)
      exact ⟨separator_not_mem_pieces there, some, here, above⟩
    · cases named
  · rintro ⟨plain, some, here, above⟩
    rw [fileName?, components_of_plain plain some here above]
    exact ⟨rfl, rfl⟩

theorem isPlainName_iff_ne (name : String) : isPlainName name ↔
    name ≠ "" ∧ '/' ∉ name.toList ∧ name ≠ "." ∧ name ≠ ".." := by
  have unlike (text : String) : name ≠ text ↔ name.toList ≠ text.toList :=
    not_congr String.toList_inj.symm
  rw [isPlainName_iff, unlike, unlike, unlike]
  exact and_left_comm

theorem getLast?_pieces_join (base : String) {name : String} (plain : '/' ∉ name.toList) :
    (pieces (join base name).toList).getLast? = some name.toList := by
  have alone : (pieces name.toList).getLast? = some name.toList := by
    rw [pieces_of_plain plain]
    rfl
  have below (front : List Char) :
      (pieces (front ++ '/' :: name.toList)).getLast? = some name.toList := by
    rw [pieces_append_separator, List.getLast?_append, alone]
    rfl
  unfold join
  split
  · exact alone
  split
  · rename_i ends
    obtain ⟨front, base⟩ := List.getLast?_eq_some_iff.mp ends
    rw [String.toList_append, base, List.append_assoc]
    exact below front
  · have text : (base ++ "/" ++ name).toList = base.toList ++ '/' :: name.toList := by
      rw [String.toList_append, String.toList_append, List.append_assoc]
      rfl
    rw [text]
    exact below base.toList

theorem mem_toList_join {c : Char} (base : String) {name : String} (there : c ∈ name.toList) :
    c ∈ (join base name).toList := by
  unfold join
  split
  · exact there
  split
  · rw [String.toList_append]
    exact List.mem_append_right _ there
  · rw [String.toList_append]
    exact List.mem_append_right _ there

end Path

namespace FileStore

/-- What a file system takes for the name of a file: no more than so many bytes, and none of them
zero. -/
structure AllowsName (name : String) : Prop where
  noNul : '\x00' ∉ name.toList
  short : name.utf8ByteSize ≤ nameLimit

instance decidableAllowsName (name : String) : Decidable (AllowsName name) :=
  decidable_of_iff ('\x00' ∉ name.toList ∧ name.utf8ByteSize ≤ nameLimit)
    ⟨fun ⟨noNul, short⟩ => ⟨noNul, short⟩, fun allowed => ⟨allowed.noNul, allowed.short⟩⟩

def Accepts (store : FileStore) (directory : String) : Prop :=
  ∀ ⦃name : String⦄, Path.isPlainName name → AllowsName name → ∀ content, ∃ later,
    store.write (Path.join directory name) content = .ok later

variable {store : FileStore}

theorem checkPath_eq_ok_iff (path : String) : checkPath path = .ok () ↔
    '\x00' ∉ path.toList ∧ path.isEmpty = false ∧ path.utf8ByteSize ≤ 4095 := by
  have nul : path.toList.contains '\x00' = true ↔ '\x00' ∈ path.toList := List.contains_iff_mem
  unfold checkPath
  split
  · rename_i there
    simp only [reduceCtorEq, nul.mp there, not_true_eq_false, false_and]
  split
  · rename_i empty
    simp only [reduceCtorEq, empty, Bool.true_eq_false, false_and, and_false]
  split
  · rename_i long
    simp only [reduceCtorEq, Nat.not_le.mpr long, and_false]
  · rename_i noNul text short
    exact iff_of_true rfl ⟨fun there => noNul (nul.mpr there), Bool.eq_false_iff.mpr text,
      Nat.not_lt.mp short⟩

theorem allowsName_of_write {directory name : String} {content : Bytes} {later : FileStore}
    (plain : '/' ∉ name.toList)
    (writes : store.write (Path.join directory name) content = .ok later) : AllowsName name := by
  obtain ⟨location, target, -⟩ := bind_eq_ok_iff.mp writes
  obtain ⟨checked, _, _, last, -, pieces, -, -, -, -, short, -⟩ := exists_of_targetFrom target
  have same : last = name := by
    have ends : (piecesOf (Path.join directory name)).getLast? = some name := by
      rw [piecesOf, List.getLast?_map, Path.getLast?_pieces_join directory plain, Option.map_some,
        String.ofList_toList]
    rw [pieces, List.getLast?_concat] at ends
    exact Option.some.inj ends
  refine ⟨fun nul => ?_, ?_⟩
  · exact ((checkPath_eq_ok_iff _).mp checked).1 (Path.mem_toList_join directory nul)
  · rw [same] at short
    exact Nat.not_lt.mp short

theorem targetFrom_of_walk {path name : String} {start directory : Location} {front : List String}
    (checked : checkPath path = .ok ()) (starts : store.startOf "/" path = .ok start)
    (pieces : piecesOf path = front ++ [name]) (walks : store.walk start front = .ok directory)
    (holder : store.node? directory = some .directory)
    (named : ¬ (name = "" ∨ name = "." ∨ name = "..")) (short : ¬ name.utf8ByteSize > nameLimit) :
    store.targetFrom "/" path = .ok (directory ++ [name]) := by
  have held : ¬ store.node? directory ≠ some .directory := not_not_intro holder
  simp only [targetFrom, checked, starts, pieces, bind, Except.bind, List.dropLast_concat, walks,
    List.getLast?_concat, if_neg held, if_neg named, if_neg short]
  rfl

section Numbered

theorem not_mem_numbered {c : Char} {stem : String} (unlike : c ∉ stem.toList)
    (noDigit : c.isDigit = false) (number : Nat) : c ∉ (stem ++ toString number).toList := by
  rw [String.toList_append, List.mem_append, Nat.toString_eq_repr, Nat.repr_eq_ofList_toDigits,
    String.toList_ofList]
  rintro (there | digit)
  · exact unlike there
  · rw [Nat.isDigit_of_mem_toDigits (by decide) (by decide) digit] at noDigit
    cases noDigit

theorem toList_pathOf_tmp (name : String) : (pathOf ["tmp", name]).toList =
    [] ++ '/' :: ("tmp".toList ++ '/' :: name.toList) := by
  have text : pathOf ["tmp", name] = "/" ++ ("tmp" ++ "/" ++ name) := rfl
  rw [text, String.toList_append, String.toList_append, String.toList_append, List.append_assoc]
  rfl

end Numbered

section Temporaries

def temporaryName (number : Nat) : String := ".tmp" ++ toString number

theorem getLast?_piecesOf_temporaryPath (number : Nat) :
    (piecesOf (temporaryPath number)).getLast? = some (temporaryName number) := by
  have plain : '/' ∉ (temporaryName number).toList :=
    not_mem_numbered (by decide) (by decide) number
  have text : (temporaryPath number).toList =
      [] ++ '/' :: ("tmp".toList ++ '/' :: (temporaryName number).toList) :=
    toList_pathOf_tmp (temporaryName number)
  rw [piecesOf, text, Path.pieces_append_separator, Path.pieces_append_separator,
    Path.pieces_of_plain plain]
  simp

theorem temporaryName_inj {number other : Nat} (same : temporaryName number = temporaryName other) :
    number = other := by
  have reads (n : Nat) : Nat.ofDigitChars 10 (toString n).toList 0 = n := by
    rw [Nat.toString_eq_repr, Nat.repr_eq_ofList_toDigits, String.toList_ofList,
      Nat.ofDigitChars_toDigits (by decide) (by decide)]
  have digits : toString number = toString other := (String.append_right_inj ".tmp").mp same
  rw [← reads number, digits, reads other]

theorem temporaryPath_inj {number other : Nat} (same : temporaryPath number = temporaryPath other) :
    number = other := by
  have last := getLast?_piecesOf_temporaryPath number
  rw [same, getLast?_piecesOf_temporaryPath] at last
  exact (temporaryName_inj (Option.some.inj last)).symm

/-- Where the path of a temporary file leads to tells its number. -/
theorem getLast?_of_targetFrom_temporaryPath {number : Nat} {location : Location}
    (target : store.targetFrom "/" (temporaryPath number) = .ok location) :
    location.getLast? = some (temporaryName number) := by
  obtain ⟨-, _, directory, name, -, pieces, -, -, -, -, -, rfl⟩ := exists_of_targetFrom target
  have last := getLast?_piecesOf_temporaryPath number
  rw [pieces, List.getLast?_concat] at last
  rw [List.getLast?_concat, last]

end Temporaries

section Workspaces

def workspaceName (number : Nat) : String := ".build" ++ toString number

theorem not_mem_workspaceName {c : Char} (unlike : c ∉ ".build".toList) (noDigit : c.isDigit = false)
    (number : Nat) : c ∉ (workspaceName number).toList := not_mem_numbered unlike noDigit number

theorem toList_workspacePath (number : Nat) : (pathOf (workspaceLocation number)).toList =
    [] ++ '/' :: ("tmp".toList ++ '/' :: (workspaceName number).toList) :=
  toList_pathOf_tmp (workspaceName number)

theorem workspaceName_ne {text : String} (short : text.toList.length < 6) (number : Nat) :
    workspaceName number ≠ text := by
  rintro rfl
  rw [workspaceName, String.toList_append, List.length_append] at short
  have stem : ".build".toList.length = 6 := rfl
  omega

theorem join_workspacePath (number : Nat) {name : String} (plain : '/' ∉ name.toList) :
    Path.join (pathOf (workspaceLocation number)) name =
      pathOf (workspaceLocation number) ++ "/" ++ name := by
  have relative : ¬ (Path.isAbsolute name ∨ (pathOf (workspaceLocation number)).isEmpty) := by
    rintro (absolute | empty)
    · rw [Path.isAbsolute, beq_iff_eq] at absolute
      exact plain (List.mem_of_head? absolute)
    · have text := toList_workspacePath number
      rw [String.isEmpty_iff.mp empty] at text
      cases text
  have unlike : workspaceName number ≠ "" := workspaceName_ne (by decide) number
  have named : (workspaceName number).toList ≠ [] := fun empty =>
    unlike (String.toList_inj.mp empty)
  have entered : (pathOf (workspaceLocation number)).toList.getLast? ≠ some '/' := by
    obtain ⟨last, ends⟩ := Option.isSome_iff_exists.mp
      (List.getLast?_isSome.mpr named)
    rw [toList_workspacePath, List.nil_append, ← List.cons_append, List.getLast?_append,
      List.getLast?_cons, ends]
    intro separator
    cases separator
    exact not_mem_workspaceName (by decide) (by decide) number (List.mem_of_getLast? ends)
  rw [Path.join, if_neg relative, if_neg entered]

theorem piecesOf_join_workspacePath (number : Nat) {name : String} (plain : '/' ∉ name.toList) :
    piecesOf (Path.join (pathOf (workspaceLocation number)) name) =
      ["", "tmp", workspaceName number, name] := by
  have text : (pathOf (workspaceLocation number) ++ "/" ++ name).toList = [] ++ '/' ::
      ("tmp".toList ++ '/' :: ((workspaceName number).toList ++ '/' :: name.toList)) := by
    rw [String.toList_append, String.toList_append, toList_workspacePath]
    simp only [List.nil_append, List.cons_append, List.append_assoc]
    rfl
  have separated : '/' ∉ (workspaceName number).toList :=
    not_mem_workspaceName (by decide) (by decide) number
  rw [join_workspacePath number plain, piecesOf, text, Path.pieces_append_separator,
    Path.pieces_append_separator, Path.pieces_append_separator, Path.pieces_of_plain plain,
    Path.pieces_of_plain separated]
  simp only [List.map_append, List.map_cons, List.map_nil, String.ofList_toList]
  rfl

theorem isAbsolute_workspacePath (number : Nat) :
    Path.isAbsolute (pathOf (workspaceLocation number)) := by
  rw [Path.isAbsolute, toList_workspacePath]
  rfl

theorem isAbsolute_join_workspacePath (number : Nat) {name : String} (plain : '/' ∉ name.toList) :
    Path.isAbsolute (Path.join (pathOf (workspaceLocation number)) name) := by
  rw [Path.isAbsolute, join_workspacePath number plain, String.toList_append, String.toList_append,
    toList_workspacePath]
  rfl

theorem startOf_of_isAbsolute {path : String} (absolute : Path.isAbsolute path)
    (directory : String) : store.startOf directory path = .ok [] := if_pos absolute

theorem checkPath_join_workspacePath {number : Nat}
    (short : (workspaceName number).utf8ByteSize ≤ nameLimit) {name : String}
    (plain : '/' ∉ name.toList) (allowed : AllowsName name) :
    checkPath (Path.join (pathOf (workspaceLocation number)) name) = .ok () := by
  have limit : nameLimit = 255 := rfl
  have noNul : '\x00' ∉ (workspaceName number).toList :=
    not_mem_workspaceName (by decide) (by decide) number
  rw [checkPath_eq_ok_iff, join_workspacePath number plain]
  refine ⟨?_, ?_, ?_⟩
  · rw [String.toList_append, String.toList_append, toList_workspacePath]
    have stem : '\x00' ∉ '/' :: "tmp".toList := by decide
    have separator : '\x00' ∉ "/".toList := by decide
    simp only [List.nil_append, List.mem_append, List.mem_cons, noNul, allowed.noNul, or_false,
      not_or] at stem separator ⊢
    exact ⟨⟨stem.1, stem.2, stem.1⟩, separator⟩
  · rw [Bool.eq_false_iff, ne_eq, String.isEmpty_iff]
    intro empty
    have text := congrArg String.toList empty
    rw [String.toList_append, String.toList_append, toList_workspacePath] at text
    cases text
  · have text : pathOf (workspaceLocation number) = "/" ++ ("tmp" ++ "/" ++ workspaceName number) :=
      rfl
    have sizes : "/".utf8ByteSize = 1 ∧ "tmp".utf8ByteSize = 3 := by decide
    have named := allowed.short
    simp only [text, String.utf8ByteSize_append, sizes]
    omega

structure HasWorkspace (store : FileStore) (number : Nat) : Prop where
  root : store.node? [] = some .directory
  temporary : store.node? ["tmp"] = some .directory
  made : store.node? (workspaceLocation number) = some .directory
  vacant : ∀ name, store.node? (workspaceLocation number ++ [name]) = none
  short : (workspaceName number).utf8ByteSize ≤ nameLimit

theorem HasWorkspace.walk {number : Nat} (there : store.HasWorkspace number) :
    store.walk [] ["", "tmp", workspaceName number] = .ok (workspaceLocation number) := by
  have starts : store.walk [] ["", "tmp"] = .ok ["tmp"] := by
    have below : ([] : Location) ++ ["tmp"] = ["tmp"] := rfl
    have named : ¬ ("tmp" = "" ∨ "tmp" = ".") := by decide
    have inside : ¬ "tmp" = ".." := by decide
    have short : ¬ "tmp".utf8ByteSize > nameLimit := by decide
    simp only [FileStore.walk, there.root, ne_eq, not_true_eq_false, if_false, true_or, if_true,
      if_neg named, if_neg inside, if_neg short, below, there.temporary, Option.isNone_some,
      Bool.false_eq_true]
  have ends : store.walk ["tmp"] [workspaceName number] = .ok (workspaceLocation number) := by
    have below : ["tmp"] ++ [workspaceName number] = workspaceLocation number := rfl
    have named : ¬ (workspaceName number = "" ∨ workspaceName number = ".") :=
      not_or.mpr ⟨workspaceName_ne (by decide) number, workspaceName_ne (by decide) number⟩
    have inside : ¬ workspaceName number = ".." := workspaceName_ne (by decide) number
    have short : ¬ (workspaceName number).utf8ByteSize > nameLimit := Nat.not_lt.mpr there.short
    simp only [FileStore.walk, there.temporary, ne_eq, not_true_eq_false, if_false, if_neg named,
      if_neg inside, if_neg short, below, there.made, Option.isNone_some, Bool.false_eq_true]
  change store.walk [] (["", "tmp"] ++ [workspaceName number]) = _
  rw [walk_append, starts]
  exact ends

theorem HasWorkspace.accepts {number : Nat} (there : store.HasWorkspace number) :
    store.Accepts (pathOf (workspaceLocation number)) := by
  intro name plain allowed content
  obtain ⟨separate, filled, here, above⟩ := (Path.isPlainName_iff name).mp plain
  have starts : store.startOf "/" (Path.join (pathOf (workspaceLocation number)) name) = .ok [] :=
    startOf_of_isAbsolute (isAbsolute_join_workspacePath number separate) "/"
  have named : ¬ (name = "" ∨ name = "." ∨ name = "..") := by
    rintro (rfl | rfl | rfl)
    · exact filled rfl
    · exact here rfl
    · exact above rfl
  have target : store.targetFrom "/" (Path.join (pathOf (workspaceLocation number)) name) =
      .ok (workspaceLocation number ++ [name]) :=
    targetFrom_of_walk (checkPath_join_workspacePath there.short separate allowed) starts
      (piecesOf_join_workspacePath number separate) there.walk there.made named
      (Nat.not_lt.mpr allowed.short)
  refine ⟨store.put (workspaceLocation number ++ [name]) (.file content false), ?_⟩
  rw [write, target]
  simp only [bind, Except.bind, there.vacant name]
  rfl

structure HasRoom (store : FileStore) : Prop where
  unrefused : store.refusal store.nextName = none
  root : store.node? [] = some .directory
  temporary : store.node? ["tmp"] = some .directory
  vacant : ∀ name, store.node? (workspaceLocation store.nextName ++ [name]) = none
  short : (workspaceName store.nextName).utf8ByteSize ≤ nameLimit

theorem HasRoom.createWorkspace (room : store.HasRoom) :
    ∃ workspace later, store.createWorkspace = (.ok workspace, later) ∧ later.Accepts workspace := by
  let renumbered : FileStore := { store with nextName := store.nextName + 1 }
  let later := renumbered.put (workspaceLocation store.nextName) .directory
  have creates : store.createWorkspace = (.ok (pathOf (workspaceLocation store.nextName)), later) := by
    rw [FileStore.createWorkspace, room.unrefused]
  have there : later.HasWorkspace store.nextName := by
    refine ⟨(node?_put_other (List.cons_ne_nil _ _).symm .directory).trans room.root,
      (node?_put_other ?_ .directory).trans room.temporary,
      node?_put_self renumbered _ .directory,
      fun name => (node?_put_other ?_ .directory).trans (room.vacant name), room.short⟩
    · intro same
      cases (List.cons.inj same).2
    · intro same
      have lengths := congrArg List.length same
      rw [List.length_append] at lengths
      exact absurd lengths (by simp)
  exact ⟨_, later, creates, there.accepts⟩

end Workspaces

end FileStore
end ContestJudge

import ContestJudge.Proofs.FileNames
/-!
Workspaces in the file system. The path of a workspace leads to one place, whatever else there is;
a plain name below it leads to a file in that place, and removing a workspace leaves the rest of
the files as they were.
-/

namespace ContestJudge.FileStore

variable {store later last : FileStore} {number : Nat}

section Walking

variable {start location : Location} {path : String}

/-- A walk that never turns back ends below its start, with a name for each piece that is one. -/
theorem walk_of_descending {pieces : List String} (descends : ".." ∉ pieces)
    (leads : store.walk start pieces = .ok location) :
    location = start ++ pieces.filter fun piece => piece ≠ "" ∧ piece ≠ "." := by
  induction pieces generalizing start with
  | nil =>
    simp only [walk, Except.ok.injEq] at leads
    simp [leads]
  | cons piece rest ih =>
    have below : piece ≠ ".." := fun same => descends (by simp [same])
    have later : ".." ∉ rest := fun there => descends (List.mem_cons_of_mem piece there)
    simp only [walk, if_neg below] at leads
    split at leads
    · cases leads
    split at leads
    · rename_i stays
      have unnamed : ¬(piece ≠ "" ∧ piece ≠ ".") := by
        intro named
        exact stays.elim named.1 named.2
      rw [ih later leads, List.filter_cons_of_neg (by simpa using unnamed)]
    rename_i named
    rw [not_or] at named
    split at leads
    · cases leads
    split at leads
    · cases leads
    · rw [ih later leads, List.filter_cons_of_pos (by simpa using named), List.append_assoc]
      rfl

theorem piecesOf_workspacePath (number : Nat) :
    piecesOf (pathOf (workspaceLocation number)) = ["", "tmp", workspaceName number] := by
  have separated : '/' ∉ (workspaceName number).toList :=
    not_mem_workspaceName (by decide) (by decide) number
  rw [piecesOf, toList_workspacePath, Path.pieces_append_separator, Path.pieces_append_separator,
    Path.pieces_of_plain separated]
  simp only [List.map_append, List.map_cons, List.map_nil, String.ofList_toList]
  rfl

theorem walk_workspacePieces
    (leads : store.walk [] ["", "tmp", workspaceName number] = .ok location) :
    location = workspaceLocation number := by
  have named : workspaceName number ≠ "" ∧ workspaceName number ≠ "." :=
    ⟨workspaceName_ne (by decide) number, workspaceName_ne (by decide) number⟩
  have below : ".." ≠ workspaceName number := (workspaceName_ne (by decide) number).symm
  have descends : ".." ∉ ["", "tmp", workspaceName number] := by simp [below]
  rw [walk_of_descending descends leads]
  simp [named]
  rfl

theorem locate_workspacePath
    (leads : store.locate (pathOf (workspaceLocation number)) = .ok location) :
    location = workspaceLocation number := by
  obtain ⟨-, start, starts, walks⟩ := exists_of_locate leads
  cases (startOf_of_isAbsolute (isAbsolute_workspacePath number) "/").symm.trans starts
  rw [piecesOf_workspacePath] at walks
  exact walk_workspacePieces walks

/-- A name without separators is written into the workspace that it is put below, or nowhere. -/
theorem targetFrom_join_workspacePath {name : String} (plain : '/' ∉ name.toList)
    (target : store.targetFrom "/" (Path.join (pathOf (workspaceLocation number)) name) =
      .ok location) : location = workspaceLocation number ++ [name] := by
  obtain ⟨-, start, directory, last, starts, ends, walks, -, -, -, -, rfl⟩ :=
    exists_of_targetFrom target
  have absolute := isAbsolute_join_workspacePath number plain
  cases (startOf_of_isAbsolute absolute "/").symm.trans starts
  have pieces : piecesOf (Path.join (pathOf (workspaceLocation number)) name) =
      ["", "tmp", workspaceName number] ++ [name] := piecesOf_join_workspacePath number plain
  rw [pieces, List.dropLast_concat] at ends walks
  have same : name = last := by simpa using ends
  rw [walk_workspacePieces walks, same]

end Walking

section Making

variable {workspace : String}

theorem createWorkspace_cases (store : FileStore) :
    (∃ cause, store.createWorkspace = (.error cause, store.renumber (store.nextName + 1))) ∨
    store.createWorkspace = (.ok (pathOf (workspaceLocation store.nextName)),
      (store.renumber (store.nextName + 1)).put (workspaceLocation store.nextName) .directory) := by
  unfold createWorkspace
  cases refused : store.refusal store.nextName with
  | some cause =>
    simp only [refused]
    exact .inl ⟨cause, rfl⟩
  | none =>
    simp only [refused]
    exact .inr rfl

theorem eq_of_createWorkspace (made : store.createWorkspace = (.ok workspace, later)) :
    workspace = pathOf (workspaceLocation store.nextName) ∧
      later = (store.renumber (store.nextName + 1)).put (workspaceLocation store.nextName)
        .directory := by
  rcases createWorkspace_cases store with ⟨cause, refused⟩ | created
  · cases made.symm.trans refused
  · cases made.symm.trans created
    exact ⟨rfl, rfl⟩

theorem node?_createWorkspace_outside {other : Location}
    (outside : ¬ workspaceLocation store.nextName <+: other) :
    store.createWorkspace.2.node? other = store.node? other := by
  rcases createWorkspace_cases store with ⟨cause, refused⟩ | created
  · rw [refused]
    rfl
  · have apart : other ≠ workspaceLocation store.nextName := by
      intro same
      exact outside (same ▸ List.prefix_refl _)
    rw [created, node?_put_other apart]
    rfl

end Making

section Writing

variable {path : String} {content : Bytes}

theorem Retains.refl (store : FileStore) : store.Retains store :=
  ⟨fun _ found => found, fun _ found => found⟩

theorem Retains.trans (first : store.Retains later) (second : later.Retains last) :
    store.Retains last where
  directory location found := second.directory location (first.directory location found)
  there location found := second.there location (first.there location found)

theorem retains_put {location : Location} {node : FileNode}
    (free : store.node? location ≠ some .directory) :
    store.Retains (store.put location node) where
  directory other found := by
    have apart : other ≠ location := fun same => free (same ▸ found)
    rw [node?_put_other apart, found]
  there other found := by
    by_cases same : other = location
    · rw [same, node?_put_self, Option.isSome_some]
    · rwa [node?_put_other same]

/-- What is written replaces no directory, and is in place unless a device took it. -/
theorem write_cases (writes : store.write path content = .ok later) : later = store ∨
    ∃ location executable, store.targetFrom "/" path = .ok location ∧
      store.node? location ≠ some .directory ∧
      later = store.put location (.file content executable) := by
  obtain ⟨location, target, writes⟩ := bind_eq_ok_iff.mp writes
  cases found : store.node? location with
  | none =>
    simp only [found] at writes
    cases writes
    exact .inr ⟨location, false, target, by simp [found], rfl⟩
  | some node =>
    cases node with
    | file _ executable =>
      simp only [found] at writes
      cases writes
      exact .inr ⟨location, executable, target, by simp [found], rfl⟩
    | directory =>
      simp only [found] at writes
      cases writes
    | program _ =>
      simp only [found] at writes
      cases writes
    | device kind =>
      left
      cases kind with
      | full =>
        simp only [found] at writes
        cases writes
      | null =>
        simp only [found] at writes
        exact (Except.ok.inj writes).symm
      | zero =>
        simp only [found] at writes
        exact (Except.ok.inj writes).symm

theorem retains_of_write (writes : store.write path content = .ok later) : store.Retains later := by
  obtain rfl | ⟨location, executable, -, free, rfl⟩ := write_cases writes
  · exact Retains.refl later
  · exact retains_put free

end Writing

section Removing

variable {location other : Location}

theorem node?_dropTree_outside (outside : ¬ location <+: other) :
    (store.dropTree location).node? other = store.node? other := by
  have kept : (store.nodes.filter fun entry => !location.isPrefixOf entry.1).find? (·.1 = other) =
      store.nodes.find? (·.1 = other) := by
    rw [List.find?_filter]
    congr 1
    funext entry
    by_cases same : entry.1 = other
    · have apart : location.isPrefixOf other = false :=
        Bool.eq_false_iff.mpr (mt List.isPrefixOf_iff_prefix.mp outside)
      simp [same, apart]
    · simp [same]
  simp only [node?, dropTree, kept]

theorem node?_dropTree_below (below : location <+: other) :
    (store.dropTree location).node? other = FileNode.ofSystem? other := by
  have dropped : (store.nodes.filter fun entry => !location.isPrefixOf entry.1).find?
      (·.1 = other) = none := by
    rw [List.find?_eq_none]
    intro entry listed same
    have kept := (List.mem_filter.mp listed).2
    rw [of_decide_eq_true same, List.isPrefixOf_iff_prefix.mpr below] at kept
    cases kept
  simp only [node?, dropTree, dropped]

theorem ofSystem?_workspaceLocation (number : Nat) :
    FileNode.ofSystem? (workspaceLocation number) = none := by
  have unlisted : workspaceLocation number ∉ FileNode.systemDirectories := by
    intro listed
    simp [FileNode.systemDirectories, workspaceLocation] at listed
  unfold FileNode.ofSystem?
  rw [if_neg unlisted]
  rfl

theorem removeWorkspace_cases (store : FileStore) (number : Nat) :
    (∃ cause, store.locate (pathOf (workspaceLocation number)) = .error cause ∧
      store.removeWorkspace (pathOf (workspaceLocation number)) = store) ∨
    store.removeWorkspace (pathOf (workspaceLocation number)) =
      store.dropTree (workspaceLocation number) := by
  unfold removeWorkspace
  cases leads : store.locate (pathOf (workspaceLocation number)) with
  | error cause => exact .inl ⟨cause, rfl, rfl⟩
  | ok location =>
    right
    rw [locate_workspacePath leads]

theorem node?_removeWorkspace_outside (outside : ¬ workspaceLocation number <+: other) :
    (store.removeWorkspace (pathOf (workspaceLocation number))).node? other = store.node? other := by
  obtain ⟨_, -, same⟩ | dropped := removeWorkspace_cases store number
  · rw [same]
  · rw [dropped, node?_dropTree_outside outside]

theorem not_isPresent_removeWorkspace (store : FileStore) (number : Nat) :
    (store.removeWorkspace (pathOf (workspaceLocation number))).isPresent
      (pathOf (workspaceLocation number)) = false := by
  unfold isPresent
  cases resolves : (store.removeWorkspace (pathOf (workspaceLocation number))).resolve
      (pathOf (workspaceLocation number)) with
  | error cause => rfl
  | ok entry =>
    obtain ⟨leads, found⟩ := locate_of_resolve resolves
    obtain ⟨cause, lost, same⟩ | dropped := removeWorkspace_cases store number
    · rw [same, lost] at leads
      cases leads
    · rw [locate_workspacePath leads, dropped, node?_dropTree_below (List.prefix_refl _),
        ofSystem?_workspaceLocation] at found
      cases found

end Removing
end ContestJudge.FileStore

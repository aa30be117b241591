import ContestJudge.Proofs.Work
/-!
Temporary files. A new one stands where nothing was: while it is there all other files are found as
before, and when the last of its holders lets go the store is as before.
-/

namespace ContestJudge.FileStore

def Extends (store later : FileStore) : Prop :=
  ∀ location node, store.node? location = some node → later.node? location = some node

/-- The directories of a store are directories of another one, and where something is found in the
first, something is found in the other. -/
structure Retains (store later : FileStore) : Prop where
  directory : ∀ location, store.node? location = some .directory →
    later.node? location = some .directory
  there : ∀ location, (store.node? location).isSome → (later.node? location).isSome

structure SameShape (store later : FileStore) : Prop where
  directory : ∀ location, store.node? location = some .directory ↔
    later.node? location = some .directory
  there : ∀ location, (store.node? location).isNone = (later.node? location).isNone

section Finding

variable {store later : FileStore} {start location : Location} {path : String}

theorem walk_cons (store : FileStore) (start : Location) (piece : String) (rest : List String) :
    store.walk start (piece :: rest) = store.walk start [piece] >>= (store.walk · rest) := by
  simp only [walk]
  by_cases directory : store.node? start ≠ some .directory
  · simp only [if_pos directory]
    rfl
  by_cases current : piece = "" ∨ piece = "."
  · simp only [if_neg directory, if_pos current]
    rfl
  by_cases parent : piece = ".."
  · simp only [if_neg directory, if_neg current, if_pos parent]
    rfl
  by_cases long : piece.utf8ByteSize > nameLimit
  · simp only [if_neg directory, if_neg current, if_neg parent, if_pos long]
    rfl
  by_cases missing : (store.node? (start ++ [piece])).isNone = true
  · simp only [if_neg directory, if_neg current, if_neg parent, if_neg long, if_pos missing]
    rfl
  · simp only [if_neg directory, if_neg current, if_neg parent, if_neg long, if_neg missing]
    rfl

theorem walk_append (store : FileStore) (start : Location) (front rest : List String) :
    store.walk start (front ++ rest) = store.walk start front >>= (store.walk · rest) := by
  induction front generalizing start with
  | nil => rfl
  | cons piece front ih =>
    rw [List.cons_append, walk_cons, walk_cons store start piece front, bind_assoc]
    exact bind_congr fun location => ih location

theorem Extends.trans {last : FileStore} (first : store.Extends later)
    (second : later.Extends last) : store.Extends last :=
  fun location node found => second location node (first location node found)

theorem Extends.retains (grown : store.Extends later) : store.Retains later where
  directory location found := grown location .directory found
  there location found := by
    obtain ⟨node, found⟩ := Option.isSome_iff_exists.mp found
    exact Option.isSome_of_eq_some (grown location node found)

theorem Retains.walk (retained : store.Retains later) {pieces : List String}
    (leads : store.walk start pieces = .ok location) : later.walk start pieces = .ok location := by
  induction pieces generalizing start with
  | nil => exact leads
  | cons piece rest ih =>
    simp only [FileStore.walk] at leads ⊢
    by_cases directory : store.node? start = some .directory
    · simp only [directory, retained.directory start directory, ne_eq, not_true_eq_false,
        if_false] at leads ⊢
      split at leads
      · rename_i current
        rw [if_pos current]
        exact ih leads
      rename_i named
      rw [if_neg named]
      split at leads
      · rename_i parent
        rw [if_pos parent]
        exact ih leads
      rename_i below
      rw [if_neg below]
      split at leads
      · cases leads
      rename_i short
      rw [if_neg short]
      split at leads
      · cases leads
      rename_i found
      rw [Bool.not_eq_true, Option.isNone_eq_false_iff] at found
      have present : ¬(later.node? (start ++ [piece])).isNone = true := by
        rw [Bool.not_eq_true, Option.isNone_eq_false_iff]
        exact retained.there _ found
      rw [if_neg present]
      exact ih leads
    · rw [if_pos directory] at leads
      cases leads

theorem SameShape.walk (same : store.SameShape later) (start : Location) (pieces : List String) :
    store.walk start pieces = later.walk start pieces := by
  induction pieces generalizing start with
  | nil => rfl
  | cons piece rest ih =>
    simp only [FileStore.walk, ih, same.there, ne_eq, same.directory]

theorem exists_of_locate (leads : store.locate path = .ok location) :
    checkPath path = .ok () ∧ ∃ start, store.startOf "/" path = .ok start ∧
      store.walk start (piecesOf path) = .ok location := by
  obtain ⟨_, checked, leads⟩ := bind_eq_ok_iff.mp leads
  exact ⟨checked, bind_eq_ok_iff.mp leads⟩

theorem locate_of_walk (checked : checkPath path = .ok ())
    (starts : store.startOf "/" path = .ok start)
    (leads : store.walk start (piecesOf path) = .ok location) :
    store.locate path = .ok location := by
  rw [locate, locateFrom, checked, starts]
  exact leads

theorem Retains.startOf (retained : store.Retains later)
    (starts : store.startOf "/" path = .ok start) : later.startOf "/" path = .ok start := by
  unfold FileStore.startOf at starts ⊢
  split at starts
  · rwa [if_pos ‹_›]
  · rw [if_neg ‹_›]
    exact retained.walk starts

theorem Retains.locate (retained : store.Retains later) (leads : store.locate path = .ok location) :
    later.locate path = .ok location := by
  obtain ⟨checked, start, starts, walks⟩ := exists_of_locate leads
  exact locate_of_walk checked (retained.startOf starts) (retained.walk walks)

theorem SameShape.locate (same : store.SameShape later) (path : String) :
    store.locate path = later.locate path := by
  simp only [FileStore.locate, locateFrom, FileStore.startOf, same.walk]

theorem SameShape.targetFrom (same : store.SameShape later) (base path : String) :
    store.targetFrom base path = later.targetFrom base path := by
  simp only [FileStore.targetFrom, FileStore.startOf, same.walk, ne_eq, same.directory]

theorem resolve_of_locate (leads : store.locate path = .ok location) {node : FileNode}
    (found : store.node? location = some node) : store.resolve path = .ok (location, node) := by
  rw [resolve, resolveFrom, ← locate, leads]
  simp only [bind, Except.bind, found]
  rfl

theorem locate_of_resolve {node : FileNode} (resolves : store.resolve path = .ok (location, node)) :
    store.locate path = .ok location ∧ store.node? location = some node := by
  obtain ⟨place, leads, found⟩ := bind_eq_ok_iff.mp resolves
  split at found
  · rename_i there
    cases found
    exact ⟨leads, there⟩
  · cases found

theorem exists_of_read {data : Bytes} (reads : store.read path = .ok data) :
    ∃ location node, store.locate path = .ok location ∧ store.node? location = some node ∧
      node.opened ≠ .directory ∧ node.opened.data = data := by
  obtain ⟨⟨location, node⟩, resolves, reads⟩ := bind_eq_ok_iff.mp reads
  obtain ⟨leads, found⟩ := locate_of_resolve resolves
  refine ⟨location, node, leads, found, ?_⟩
  dsimp only at reads
  split at reads
  · cases reads
  · rename_i readable
    cases reads
    exact ⟨readable, rfl⟩

theorem read_of_locate {node : FileNode} (leads : store.locate path = .ok location)
    (found : store.node? location = some node) (readable : node.opened ≠ .directory) :
    store.read path = .ok node.opened.data := by
  rw [read, resolve_of_locate leads found]
  simp only [bind, Except.bind]
  rfl

theorem Extends.read (grown : store.Extends later) {data : Bytes}
    (reads : store.read path = .ok data) : later.read path = .ok data := by
  obtain ⟨location, node, leads, found, readable, rfl⟩ := exists_of_read reads
  exact read_of_locate (grown.retains.locate leads) (grown location node found) readable

theorem Retains.not_isPresent (retained : store.Retains later)
    (absent : later.isPresent path = false) : store.isPresent path = false := by
  unfold isPresent at absent ⊢
  cases resolves : store.resolve path with
  | error cause => rfl
  | ok entry =>
    obtain ⟨leads, found⟩ := locate_of_resolve resolves
    obtain ⟨node, found'⟩ := Option.isSome_iff_exists.mp
      (retained.there _ (Option.isSome_of_eq_some found))
    rw [resolve_of_locate (retained.locate leads) found'] at absent
    cases absent

theorem Extends.not_isPresent (grown : store.Extends later)
    (absent : later.isPresent path = false) : store.isPresent path = false :=
  grown.retains.not_isPresent absent

theorem exists_of_targetFrom (target : store.targetFrom "/" path = .ok location) :
    checkPath path = .ok () ∧ ∃ start directory name, store.startOf "/" path = .ok start ∧
      piecesOf path = (piecesOf path).dropLast ++ [name] ∧
      store.walk start (piecesOf path).dropLast = .ok directory ∧
      store.node? directory = some .directory ∧ ¬(name = "" ∨ name = ".") ∧ name ≠ ".." ∧
      ¬name.utf8ByteSize > nameLimit ∧ location = directory ++ [name] := by
  obtain ⟨_, checked, target⟩ := bind_eq_ok_iff.mp target
  obtain ⟨start, starts, target⟩ := bind_eq_ok_iff.mp target
  obtain ⟨directory, walks, target⟩ := bind_eq_ok_iff.mp target
  refine ⟨checked, start, directory, ?_⟩
  split at target
  · cases target
  rename_i name last
  split at target
  · cases target
  rename_i holder
  split at target
  · cases target
  rename_i named
  split at target
  · cases target
  rename_i short
  cases target
  rw [← or_assoc, not_or] at named
  have pieces : piecesOf path = (piecesOf path).dropLast ++ [name] := by
    obtain ⟨front, pieces⟩ := List.getLast?_eq_some_iff.mp last
    rw [pieces, List.dropLast_concat]
  exact ⟨name, starts, pieces, walks, Decidable.not_not.mp holder, named.1, named.2, short, rfl⟩

theorem Extends.locate_of_targetFrom (grown : store.Extends later)
    (target : store.targetFrom "/" path = .ok location) (there : (later.node? location).isSome) :
    later.locate path = .ok location := by
  obtain ⟨checked, start, directory, name, starts, pieces, walks, holder, named, below, short,
    rfl⟩ := exists_of_targetFrom target
  have present : ¬(later.node? (directory ++ [name])).isNone = true := by
    rw [Option.isNone_iff_eq_none]
    exact Option.isSome_iff_ne_none.mp there
  have enters : later.walk directory [name] = .ok (directory ++ [name]) := by
    simp only [FileStore.walk, grown _ _ holder, ne_eq, not_true_eq_false, if_false, if_neg named,
      if_neg below, if_neg short, if_neg present]
  refine locate_of_walk checked (grown.retains.startOf starts) ?_
  rw [pieces, walk_append, grown.retains.walk walks]
  exact enters

end Finding

section Entries

variable {store : FileStore} {location other : Location}

theorem find?_filter_ne {κ ν : Type} [DecidableEq κ] {key sought : κ} (apart : sought ≠ key)
    (entries : List (κ × ν)) :
    (entries.filter (·.1 ≠ key)).find? (·.1 = sought) = entries.find? (·.1 = sought) := by
  rw [List.find?_filter]
  congr 1
  funext entry
  by_cases same : entry.1 = sought
  · simp only [same, apart, ne_eq, not_false_eq_true, decide_true, and_self]
  · simp only [same, decide_false, Bool.false_eq_true, and_false]

theorem find?_filter_self {κ ν : Type} [DecidableEq κ] (key : κ) (entries : List (κ × ν)) :
    (entries.filter (·.1 ≠ key)).find? (·.1 = key) = none := by
  rw [List.find?_eq_none]
  intro entry listed
  simpa using (List.mem_filter.mp listed).2

theorem node?_put_self (store : FileStore) (location : Location) (node : FileNode) :
    (store.put location node).node? location = some node := by
  simp only [node?, put, List.find?_cons, decide_true]

theorem node?_put_other (apart : other ≠ location) (node : FileNode) :
    (store.put location node).node? other = store.node? other := by
  simp only [node?, put, List.find?_cons, decide_eq_false apart.symm, find?_filter_ne apart]

theorem node?_drop_self (store : FileStore) (location : Location) :
    (store.drop location).node? location = FileNode.ofSystem? location := by
  simp only [node?, drop, find?_filter_self]

theorem node?_drop_other (apart : other ≠ location) :
    (store.drop location).node? other = store.node? other := by
  simp only [node?, drop, find?_filter_ne apart]

theorem ofSystem?_of_empty (empty : store.node? location = none) :
    FileNode.ofSystem? location = none := by
  unfold node? at empty
  split at empty
  · cases empty
  · exact empty

end Entries

section Leasing

def renumber (store : FileStore) (number : Nat) : FileStore := { store with nextName := number }

def lease (store : FileStore) (location : Location) (path : String) (content : Bytes)
    (count : Nat) : FileStore :=
  { store with
    nodes := (location, .file content false) :: store.nodes
    holders := (path, count) :: store.holders }

/-- A place where a temporary file can be made. -/
structure Vacant (store : FileStore) (location : Location) (path : String) : Prop where
  target : store.targetFrom "/" path = .ok location
  empty : store.node? location = none
  unheld : path ∉ store.holders.map (·.1)

variable {store : FileStore} {location : Location} {path : String} {content : Bytes} {count : Nat}

theorem sameShape_renumber (store : FileStore) (number : Nat) :
    (store.renumber number).SameShape store := ⟨fun _ => Iff.rfl, fun _ => rfl⟩

theorem extends_renumber (store : FileStore) (number : Nat) :
    store.Extends (store.renumber number) := fun _ _ found => found

theorem renumber_extends (store : FileStore) (number : Nat) :
    (store.renumber number).Extends store := fun _ _ found => found

theorem Vacant.renumber (vacant : store.Vacant location path) (number : Nat) :
    (store.renumber number).Vacant location path where
  target := ((sameShape_renumber store number).targetFrom _ _).trans vacant.target
  empty := vacant.empty
  unheld := vacant.unheld

theorem vacant_of_vacancy (found : store.vacancy path = .ok location) :
    store.Vacant location path := by
  obtain ⟨place, target, found⟩ := bind_eq_ok_iff.mp found
  split at found
  · cases found
  · rename_i free
    rw [not_or] at free
    cases found
    exact ⟨target, Option.not_isSome_iff_eq_none.mp free.1, free.2⟩

theorem Vacant.filter_nodes (vacant : store.Vacant location path) :
    store.nodes.filter (·.1 ≠ location) = store.nodes := by
  have unnamed := vacant.empty
  unfold node? at unnamed
  split at unnamed
  · cases unnamed
  · rename_i absent
    rw [List.find?_eq_none] at absent
    rw [List.filter_eq_self]
    intro entry listed
    simpa using absent entry listed

structure TakesTemporary (store : FileStore) (content : Bytes) : Prop where
  site : ∃ location, store.temporarySite store.nextName = .ok location
  unrejected : store.rejection (temporaryPath store.nextName) content = none

/-- A request for a temporary file uses up a number, and the file is named for it. -/
theorem createTemporary_cases (store : FileStore) :
    (∃ cause, store.temporarySite store.nextName = .error cause ∧
      store.createTemporary = (.error cause, store.renumber (store.nextName + 1))) ∨
      ∃ location,
        (store.renumber (store.nextName + 1)).Vacant location (temporaryPath store.nextName) ∧
        store.createTemporary = (.ok (temporaryPath store.nextName),
          (store.renumber (store.nextName + 1)).lease location (temporaryPath store.nextName)
            [] 1) := by
  let renumbered := store.renumber (store.nextName + 1)
  cases site : store.temporarySite store.nextName with
  | error cause =>
    refine .inl ⟨cause, rfl, ?_⟩
    simp only [createTemporary, site]
    rfl
  | ok location =>
    have vacant : renumbered.Vacant location (temporaryPath store.nextName) := by
      rw [temporarySite] at site
      split at site
      · cases site
      · exact (vacant_of_vacancy site).renumber _
    have nodes : renumbered.nodes.filter (·.1 ≠ location) = renumbered.nodes := vacant.filter_nodes
    refine .inr ⟨location, vacant, ?_⟩
    rw [lease, ← nodes]
    simp only [createTemporary, site]
    rfl

theorem node?_lease_self (store : FileStore) (location : Location) (path : String)
    (content : Bytes) (count : Nat) : (store.lease location path content count).node? location =
      some (.file content false) := by
  simp only [node?, lease, List.find?_cons, decide_true]

theorem heldBy_lease (store : FileStore) (location : Location) (path : String) (content : Bytes)
    (count : Nat) : (store.lease location path content count).heldBy path = count := by
  simp only [heldBy, lease, List.find?_cons, decide_true, Option.map_some, Option.getD_some]

theorem node?_lease_other {other : Location} (apart : other ≠ location) :
    (store.lease location path content count).node? other = store.node? other := by
  simp only [node?, lease, List.find?_cons, decide_eq_false apart.symm]

theorem sameShape_lease (store : FileStore) (location : Location) (path : String)
    (content other : Bytes) (count : Nat) :
    (store.lease location path content count).SameShape
      (store.lease location path other count) := by
  constructor <;> intro place <;> by_cases same : place = location
  · rw [same, node?_lease_self, node?_lease_self]
    simp only [Option.some.injEq, reduceCtorEq]
  · rw [node?_lease_other same, node?_lease_other same]
  · rw [same, node?_lease_self, node?_lease_self]
    rfl
  · rw [node?_lease_other same, node?_lease_other same]

/-- A temporary file that is filled with what was read of a path holds what is now read of it, also
where the path leads to that file itself. -/
theorem read_lease_of_read_unfilled {other : String} {data : Bytes}
    (reads : (store.lease location path [] count).read other = .ok data) :
    (store.lease location path data count).read other = .ok data := by
  obtain ⟨place, node, leads, found, readable, rfl⟩ := exists_of_read reads
  have leads' := leads
  rw [(sameShape_lease store location path [] node.opened.data count).locate] at leads'
  by_cases same : place = location
  · rw [same, node?_lease_self] at found
    cases found
    exact read_of_locate leads (same ▸ node?_lease_self _ _ _ _ _) nofun
  · rw [node?_lease_other same, ← node?_lease_other same] at found
    exact read_of_locate leads' found readable

section Leased

variable (vacant : store.Vacant location path)
include vacant

theorem filter_nodes_lease :
    (store.lease location path content count).nodes.filter (·.1 ≠ location) = store.nodes := by
  simp only [lease, vacant.filter_nodes, List.filter_cons, ne_eq, not_true_eq_false, decide_false,
    Bool.false_eq_true, if_false]

theorem filter_holders_lease :
    (store.lease location path content count).holders.filter (·.1 ≠ path) = store.holders := by
  have kept : store.holders.filter (·.1 ≠ path) = store.holders := by
    rw [List.filter_eq_self]
    intro entry listed
    have other : entry.1 ≠ path := fun same => vacant.unheld (same ▸ List.mem_map_of_mem listed)
    exact decide_eq_true other
  simp only [lease, kept, List.filter_cons, ne_eq, not_true_eq_false, decide_false,
    Bool.false_eq_true, if_false]

theorem extends_lease : store.Extends (store.lease location path content count) := by
  intro other node found
  have apart : other ≠ location := by
    rintro rfl
    rw [vacant.empty] at found
    cases found
  rw [node?_lease_other apart, found]

theorem locate_lease : (store.lease location path content count).locate path = .ok location := by
  refine (extends_lease vacant).locate_of_targetFrom vacant.target ?_
  rw [node?_lease_self, Option.isSome_some]

theorem not_isPresent_of_vacant : store.isPresent path = false := by
  unfold isPresent
  cases resolves : store.resolve path with
  | error cause => rfl
  | ok entry =>
    -- What the path leads to would stay there beside the temporary file, at the same place.
    obtain ⟨leads, found⟩ := locate_of_resolve resolves
    have grown : store.Extends (store.lease location path [] 1) := extends_lease vacant
    have leads' := grown.retains.locate leads
    rw [locate_lease vacant] at leads'
    rw [← Except.ok.inj leads', vacant.empty] at found
    cases found

theorem read_lease : (store.lease location path content count).read path = .ok content :=
  read_of_locate (locate_lease vacant) (node?_lease_self _ _ _ _ _) nofun

theorem overwrite_lease (other : Bytes) :
    (store.lease location path content count).overwrite path other =
      store.lease location path other count := by
  have nodes : (store.lease location path content count).nodes.filter (·.1 ≠ location) =
      store.nodes := filter_nodes_lease vacant
  rw [overwrite, resolve_of_locate (locate_lease vacant) (node?_lease_self _ _ _ _ _)]
  simp only [put, nodes]
  rfl

theorem fill_lease {other : Bytes} (unrejected : store.rejection path other = none) :
    (store.lease location path content count).fill path other =
      .ok (store.lease location path other count) := by
  have fills : (store.lease location path content count).rejection path other = none := unrejected
  rw [fill, fills, overwrite_lease vacant]

omit vacant in
theorem fill_lease_of_rejected {other : Bytes} {cause : FileFault}
    (rejected : store.rejection path other = some cause) :
    (store.lease location path content count).fill path other = .error cause := by
  have refuses : (store.lease location path content count).rejection path other = some cause :=
    rejected
  rw [fill, refuses]

theorem setHolders_lease (number : Nat) :
    (store.lease location path content count).setHolders path number =
      if number = 0 then store else store.lease location path content number := by
  have nodes : (store.lease location path content count).nodes.filter (·.1 ≠ location) =
      store.nodes := filter_nodes_lease vacant
  have holders : (store.lease location path content count).holders.filter (·.1 ≠ path) =
      store.holders := filter_holders_lease vacant
  simp only [setHolders, holders, remove, locate_lease vacant, drop, nodes]
  rfl

theorem retain_lease : (store.lease location path content count).retain path =
    store.lease location path content (count + 1) := by
  rw [retain, heldBy_lease, setHolders_lease vacant, if_neg (Nat.succ_ne_zero count)]

theorem release_lease : (store.lease location path content (count + 2)).release path =
    store.lease location path content (count + 1) := by
  rw [release, heldBy_lease, if_neg (Nat.succ_ne_zero _), setHolders_lease vacant]
  rfl

theorem release_lease_last : (store.lease location path content 1).release path = store := by
  rw [release, heldBy_lease, if_neg Nat.one_ne_zero, setHolders_lease vacant]
  rfl

end Leased
end Leasing

end ContestJudge.FileStore

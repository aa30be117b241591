import ContestJudge.Proofs.FileNames
import Mathlib.Logic.Function.Basic
/-!
Temporary files that are referred to from several places. A store notes for each of them how many
refer to it; the file is there with its content as long as one does, and all other files are as
they were before there were any of these.
-/

namespace ContestJudge.FileStore

section Noting

variable {store : FileStore} {location place : Location} {path other : String} {content : Bytes}
  {count : Nat}

def noted? (store : FileStore) (path : String) : Option Nat :=
  (store.holders.find? (·.1 = path)).map (·.2)

theorem heldBy_of_noted (noted : store.noted? path = some count) : store.heldBy path = count :=
  congrArg (·.getD 0) noted

theorem noted?_eq_none_iff : store.noted? path = none ↔ path ∉ store.holders.map (·.1) := by
  rw [noted?, Option.map_eq_none_iff, List.find?_eq_none, List.mem_map]
  simp only [decide_eq_true_eq, not_exists, not_and]

theorem noted?_lease (store : FileStore) (location : Location) (path other : String)
    (content : Bytes) (count : Nat) : (store.lease location path content count).noted? other =
      if other = path then some count else store.noted? other := by
  by_cases same : other = path
  · simp [noted?, lease, same]
  · simp [noted?, lease, same, Ne.symm same]

theorem noted?_setHolders (store : FileStore) (path other : String) (count : Nat) :
    (store.setHolders path count).noted? other =
      if other = path then (if count = 0 then none else some count) else store.noted? other := by
  by_cases same : other = path <;> by_cases last : count = 0
  · simp only [noted?, setHolders, last, same, if_true, find?_filter_self, Option.map_none]
  · simp [noted?, setHolders, last, same]
  · simp only [noted?, setHolders, last, if_neg same, if_true, find?_filter_ne same]
  · simp only [noted?, setHolders, if_neg last, if_neg same, List.find?_cons,
      decide_eq_false (Ne.symm same), find?_filter_ne same]

theorem node?_setHolders (held : count ≠ 0) :
    (store.setHolders path count).node? location = store.node? location := by
  rw [setHolders, if_neg held]
  rfl

theorem node?_setHolders_zero (leads : store.locate path = .ok place) :
    (store.setHolders path 0).node? location =
      if location = place then FileNode.ofSystem? location else store.node? location := by
  have dropped : (store.setHolders path 0).node? location = (store.drop place).node? location := by
    simp only [setHolders, if_pos, remove, leads]
    rfl
  rw [dropped]
  split
  · rename_i same
    rw [same, node?_drop_self]
  · rename_i apart
    exact node?_drop_other apart

theorem nextName_setHolders (store : FileStore) (path : String) (count : Nat) :
    (store.setHolders path count).nextName = store.nextName := by
  unfold setHolders
  split
  · unfold remove
    split <;> rfl
  · rfl

theorem nextName_retain (store : FileStore) (path : String) :
    (store.retain path).nextName = store.nextName := nextName_setHolders _ _ _

theorem nextName_release (store : FileStore) (path : String) :
    (store.release path).nextName = store.nextName := by
  unfold release
  split
  · rfl
  · exact nextName_setHolders _ _ _

end Noting

section Directories

variable {store later : FileStore} {start location : Location} {path : String}

theorem walk_of_directories
    (kept : ∀ place, store.node? place = some .directory → later.node? place = some .directory)
    {pieces : List String} (leads : store.walk start pieces = .ok location)
    (ends : store.node? location = some .directory) :
    store.node? start = some .directory ∧ later.walk start pieces = .ok location := by
  induction pieces generalizing start with
  | nil =>
    cases leads
    exact ⟨ends, rfl⟩
  | cons piece rest ih =>
    simp only [walk] at leads ⊢
    split at leads
    · cases leads
    rename_i stays
    have directory : store.node? start = some .directory := not_not.mp stays
    refine ⟨directory, ?_⟩
    rw [if_neg (not_not_intro (kept start directory))]
    split at leads
    · rename_i current
      rw [if_pos current]
      exact (ih leads).2
    rename_i named
    rw [if_neg named]
    split at leads
    · rename_i parent
      rw [if_pos parent]
      exact (ih leads).2
    rename_i below
    rw [if_neg below]
    split at leads
    · cases leads
    rename_i short
    rw [if_neg short]
    split at leads
    · cases leads
    obtain ⟨next, walks⟩ := ih leads
    simp only [kept _ next, Option.isNone_some, Bool.false_eq_true, if_false, walks]

theorem targetFrom_of_directories
    (kept : ∀ place, store.node? place = some .directory → later.node? place = some .directory)
    (target : store.targetFrom "/" path = .ok location) :
    later.targetFrom "/" path = .ok location := by
  obtain ⟨checked, start, directory, name, starts, pieces, walks, holder, named, below, short,
    rfl⟩ := exists_of_targetFrom target
  obtain ⟨enters, walks'⟩ := walk_of_directories kept walks holder
  have starts' : later.startOf "/" path = .ok start := by
    unfold startOf at starts ⊢
    split at starts
    · rwa [if_pos ‹_›]
    · rw [if_neg ‹_›]
      exact (walk_of_directories kept starts enters).2
  have unnamed : ¬(name = "" ∨ name = "." ∨ name = "..") := by
    rw [← or_assoc]
    exact not_or.mpr ⟨named, below⟩
  exact targetFrom_of_walk checked starts' pieces walks' (kept _ holder) unnamed short

end Directories

/-- A store that has, beside what was there at first, a file with the content for each path that is
referred to, and knows how many references there are. -/
structure Shares (first : FileStore) (content : Bytes) (references : String → Nat)
    (store : FileStore) : Prop where
  noted : ∀ path, store.noted? path =
    if references path = 0 then first.noted? path else some (references path)
  named : ∀ path, references path ≠ 0 → ∃ number < store.nextName, path = temporaryPath number
  lent : ∀ path, references path ≠ 0 → ∃ location, first.Vacant location path ∧
    store.node? location = some (.file content false)
  others : ∀ location, (∀ path, references path ≠ 0 → ¬first.Vacant location path) →
    store.node? location = first.node? location

section Sharing

variable {first store : FileStore} {content : Bytes} {references : String → Nat}
  {location other : Location} {path : String} {count : Nat}

theorem shares_none (first : FileStore) (content : Bytes) :
    first.Shares content (fun _ => 0) first where
  noted _ := rfl
  named _ some := absurd rfl some
  lent _ some := absurd rfl some
  others _ _ := rfl

theorem Vacant.location_eq (vacant : store.Vacant location path)
    (vacant' : store.Vacant other path) : location = other :=
  Except.ok.inj (vacant.target.symm.trans vacant'.target)

theorem Vacant.temporaryPath_eq {number number' : Nat}
    (vacant : store.Vacant location (temporaryPath number))
    (vacant' : store.Vacant location (temporaryPath number')) : number = number' := by
  have last := getLast?_of_targetFrom_temporaryPath vacant.target
  rw [getLast?_of_targetFrom_temporaryPath vacant'.target] at last
  exact (temporaryName_inj (Option.some.inj last)).symm

namespace Shares

variable (shares : first.Shares content references store)
include shares

theorem path_eq {path' : String} (there : references path ≠ 0) (there' : references path' ≠ 0)
    (vacant : first.Vacant location path) (vacant' : first.Vacant location path') :
    path = path' := by
  obtain ⟨number, -, rfl⟩ := shares.named path there
  obtain ⟨number', -, rfl⟩ := shares.named path' there'
  rw [vacant.temporaryPath_eq vacant']

theorem extends_first : first.Extends store := by
  intro place node found
  rw [shares.others place]
  · exact found
  · intro path _ vacant
    rw [vacant.empty] at found
    cases found

theorem directories (place : Location) (directory : store.node? place = some .directory) :
    first.node? place = some .directory := by
  by_cases lent : ∃ path, references path ≠ 0 ∧ first.Vacant place path
  · obtain ⟨path, there, vacant⟩ := lent
    obtain ⟨location, vacant', file⟩ := shares.lent path there
    rw [vacant.location_eq vacant', file] at directory
    cases directory
  · have unlent : ∀ path, references path ≠ 0 → ¬first.Vacant place path := by
      intro path there vacant
      exact lent ⟨path, there, vacant⟩
    rw [← shares.others place unlent, directory]

theorem locate (there : references path ≠ 0) (vacant : first.Vacant location path) :
    store.locate path = .ok location := by
  obtain ⟨location', vacant', file⟩ := shares.lent path there
  obtain rfl := vacant.location_eq vacant'
  refine shares.extends_first.locate_of_targetFrom vacant.target ?_
  rw [file, Option.isSome_some]

theorem read (there : references path ≠ 0) : store.read path = .ok content := by
  obtain ⟨location, vacant, file⟩ := shares.lent path there
  exact read_of_locate (shares.locate there vacant) file nofun

theorem isPresent (there : references path ≠ 0) : store.isPresent path = true := by
  obtain ⟨location, vacant, file⟩ := shares.lent path there
  rw [FileStore.isPresent, resolve_of_locate (shares.locate there vacant) file]
  rfl

theorem unreferred (vacant : store.Vacant location path) : references path = 0 := by
  by_contra there
  have noted := shares.noted path
  rw [if_neg there, noted?_eq_none_iff.mpr vacant.unheld] at noted
  cases noted

theorem vacant_first (vacant : store.Vacant location path) : first.Vacant location path where
  target := targetFrom_of_directories shares.directories vacant.target
  empty := by
    cases found : first.node? location with
    | none => rfl
    | some node =>
      have kept := shares.extends_first location node found
      rw [vacant.empty] at kept
      cases kept
  unheld := by
    have noted := shares.noted path
    rw [if_pos (shares.unreferred vacant), noted?_eq_none_iff.mpr vacant.unheld] at noted
    exact noted?_eq_none_iff.mp noted.symm

theorem vacant_of_unreferred {number : Nat} (gone : references (temporaryPath number) = 0)
    (vacant : first.Vacant location (temporaryPath number)) :
    store.Vacant location (temporaryPath number) where
  target := targetFrom_of_directories (shares.extends_first · .directory) vacant.target
  empty := by
    rw [shares.others location, vacant.empty]
    intro path there vacant'
    obtain ⟨number', -, rfl⟩ := shares.named path there
    obtain rfl := vacant.temporaryPath_eq vacant'
    exact there gone
  unheld := by
    rw [← noted?_eq_none_iff, shares.noted, if_pos gone]
    exact noted?_eq_none_iff.mpr vacant.unheld

theorem renumber {number : Nat} (grown : store.nextName ≤ number) :
    first.Shares content references (store.renumber number) where
  noted := shares.noted
  named path there := by
    obtain ⟨earlier, used, same⟩ := shares.named path there
    exact ⟨earlier, Nat.lt_of_lt_of_le used grown, same⟩
  lent := shares.lent
  others := shares.others

theorem lease (vacant : store.Vacant location path)
    (named : ∃ number < store.nextName, path = temporaryPath number) (counted : count ≠ 0) :
    first.Shares content (Function.update references path count)
      (store.lease location path content count) where
  noted sought := by
    rw [noted?_lease, shares.noted, Function.update_apply]
    split <;> rfl
  named sought there := by
    by_cases same : sought = path
    · rw [same]
      exact named
    · rw [Function.update_of_ne same] at there
      exact shares.named sought there
  lent sought there := by
    by_cases same : sought = path
    · exact ⟨location, same ▸ shares.vacant_first vacant, node?_lease_self _ _ _ _ _⟩
    · rw [Function.update_of_ne same] at there
      obtain ⟨place, vacant', file⟩ := shares.lent sought there
      have apart : place ≠ location := by
        rintro rfl
        rw [vacant.empty] at file
        cases file
      exact ⟨place, vacant', (node?_lease_other apart).trans file⟩
  others place unlent := by
    have referred : Function.update references path count path ≠ 0 := by
      rwa [Function.update_self]
    have apart : place ≠ location := by
      rintro rfl
      exact unlent path referred (shares.vacant_first vacant)
    rw [node?_lease_other apart]
    refine shares.others place fun sought there => unlent sought ?_
    have other : sought ≠ path := by
      rintro rfl
      exact there (shares.unreferred vacant)
    rwa [Function.update_of_ne other]

theorem recount (there : references path ≠ 0) (counted : count ≠ 0) :
    first.Shares content (Function.update references path count) (store.setHolders path count) := by
  have referred (sought : String) :
      Function.update references path count sought ≠ 0 ↔ references sought ≠ 0 := by
    by_cases same : sought = path
    · rw [same, Function.update_self]
      exact iff_of_true counted there
    · rw [Function.update_of_ne same]
  refine ⟨fun sought => ?_, fun sought there' => ?_, fun sought there' => ?_,
    fun place unlent => ?_⟩
  · rw [noted?_setHolders, shares.noted, Function.update_apply, if_neg counted]
    split <;> rfl
  · rw [nextName_setHolders]
    exact shares.named sought ((referred sought).mp there')
  · obtain ⟨place, vacant, file⟩ := shares.lent sought ((referred sought).mp there')
    exact ⟨place, vacant, (node?_setHolders counted).trans file⟩
  · rw [node?_setHolders counted]
    exact shares.others place fun sought there' => unlent sought ((referred sought).mpr there')

theorem withdraw (there : references path ≠ 0) :
    first.Shares content (Function.update references path 0) (store.setHolders path 0) := by
  obtain ⟨location, vacant, file⟩ := shares.lent path there
  have leads : store.locate path = .ok location := shares.locate there vacant
  have referred {sought : String} (there' : Function.update references path 0 sought ≠ 0) :
      sought ≠ path ∧ references sought ≠ 0 := by
    by_cases same : sought = path
    · rw [same, Function.update_self] at there'
      exact absurd rfl there'
    · rw [Function.update_of_ne same] at there'
      exact ⟨same, there'⟩
  refine ⟨fun sought => ?_, fun sought there' => ?_, fun sought there' => ?_,
    fun place unlent => ?_⟩
  · rw [noted?_setHolders, shares.noted, Function.update_apply]
    split
    · rename_i same
      rw [if_pos rfl, if_pos rfl, same, noted?_eq_none_iff.mpr vacant.unheld]
    · rfl
  · rw [nextName_setHolders]
    exact shares.named sought (referred there').2
  · obtain ⟨other, there'⟩ := referred there'
    obtain ⟨place, vacant', file'⟩ := shares.lent sought there'
    have apart : place ≠ location := by
      rintro rfl
      exact other (shares.path_eq there' there vacant' vacant)
    refine ⟨place, vacant', ?_⟩
    rw [node?_setHolders_zero leads, if_neg apart, file']
  · rw [node?_setHolders_zero leads]
    split
    · rename_i same
      rw [same, vacant.empty, ofSystem?_of_empty vacant.empty]
    · rename_i apart
      refine shares.others place fun sought there' vacant' => ?_
      by_cases same : sought = path
      · rw [same] at vacant'
        exact apart (vacant'.location_eq vacant)
      · refine unlent sought ?_ vacant'
        rwa [Function.update_of_ne same]

theorem heldBy (there : references path ≠ 0) : store.heldBy path = references path := by
  refine heldBy_of_noted ?_
  rw [shares.noted, if_neg there]

theorem retain (there : references path ≠ 0) :
    first.Shares content (Function.update references path (references path + 1))
      (store.retain path) := by
  rw [FileStore.retain, shares.heldBy there]
  exact shares.recount there (Nat.succ_ne_zero _)

theorem release (there : references path ≠ 0) :
    first.Shares content (Function.update references path (references path - 1))
      (store.release path) := by
  rw [FileStore.release, shares.heldBy there, if_neg there]
  by_cases last : references path - 1 = 0
  · rw [last]
    exact shares.withdraw there
  · exact shares.recount there last

end Shares
end Sharing
end ContestJudge.FileStore

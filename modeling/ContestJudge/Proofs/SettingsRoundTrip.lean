import ContestJudge.Config.Case
import ContestJudge.Config.Interactive
import ContestJudge.Proofs.FiniteReadings
import ContestJudge.Proofs.JsonText

namespace ContestJudge

theorem mapM_eq_some_map {α β : Type} {f : α → Option β} {g : α → β} {list : List α}
    (each : ∀ a ∈ list, f a = some (g a)) : list.mapM f = some (list.map g) := by
  induction list with
  | nil => rfl
  | cons a list ih =>
    have others := ih fun b mem => each b (List.mem_cons_of_mem _ mem)
    rw [List.mapM_cons, each a List.mem_cons_self, others]
    rfl

namespace Json

section Records

theorem filter_named {members : List (String × Json)} (distinct : (members.map Prod.fst).Nodup)
    {name : String} {value : Json} (mem : (name, value) ∈ members) :
    (named members).filter (fun entry => entry.1 = some name) = [(some name, value)] := by
  induction members with
  | nil => cases mem
  | cons member members ih =>
    obtain ⟨other, given⟩ := member
    obtain ⟨unused, distinct⟩ := List.nodup_cons.mp distinct
    have shown : named ((other, given) :: members) = (some other, given) :: named members := rfl
    rcases List.mem_cons.mp mem with same | later
    · cases same
      have none : (named members).filter (fun entry => entry.1 = some name) = [] := by
        rw [List.filter_eq_nil_iff]
        intro entry listed
        obtain ⟨member, own, rfl⟩ := List.mem_map.mp listed
        have differ : member.1 ≠ name := by
          rintro rfl
          exact unused (List.mem_map.mpr ⟨member, own, rfl⟩)
        simpa using differ
      rw [shown, List.filter_cons_of_pos (by simp), none]
    · have differ : other ≠ name := by
        rintro rfl
        exact unused (List.mem_map.mpr ⟨_, later, rfl⟩)
      rw [shown, List.filter_cons_of_neg (by simpa using differ)]
      exact ih distinct later

theorem fields?_record {members : List (String × Json)}
    (distinct : (members.map Prod.fst).Nodup) :
    (record members).fields? (members.map Prod.fst) =
      some (members.map fun member => some member.2) := by
  have same : record members = .object (named members) := rfl
  have valued : (named members).all (fun entry => entry.1.isSome) = true := by
    simp [named]
  rw [same, fields?, if_pos valued, List.mapM_map]
  apply mapM_eq_some_map
  intro member mem
  rw [Function.comp_apply, filter_named distinct mem]

end Records

section Values

theorem natural?_ofNat {n : Nat} (fits : n < wordBound) :
    natural? wordBound (ofNat n) = some n := by
  rw [ofNat, natural?, NumberLiteral.value?_digitsOf fits]
  exact if_pos fits

theorem texts?_ofStrings (texts : List String) : texts? (ofStrings texts) = some texts := by
  rw [ofStrings, texts?, list?, List.mapM_map]
  exact (mapM_eq_some_map fun _ _ => rfl).trans (congrArg some (List.map_id texts))

theorem nullable?_ofOption {α : Type} {read : Json → Option α} {write : α → Json} {given : Option α}
    (shown : ∀ a ∈ given, write a ≠ .null) (back : ∀ a ∈ given, read (write a) = some a) :
    nullable? read (ofOption write given) = some given := by
  cases given with
  | none => rfl
  | some a =>
    rw [ofOption, nullable?, back a rfl]
    · rfl
    · exact shown a rfl

end Values

section TextMaps

def Ordered (pairs : List (String × String)) : Prop := pairs.Pairwise fun a b => a.1 < b.1

variable {pairs : List (String × String)} {name value : String}

theorem mem_insertSorted {entry : String × String} (mem : entry ∈ insertSorted name value pairs) :
    entry = (name, value) ∨ entry ∈ pairs := by
  induction pairs with
  | nil => exact .inl (List.mem_singleton.mp mem)
  | cons head pairs ih =>
    obtain ⟨other, old⟩ := head
    unfold insertSorted at mem
    split at mem
    · exact (List.mem_cons.mp mem).imp_right id
    · split at mem
      · exact (List.mem_cons.mp mem).imp_right (List.mem_cons_of_mem _)
      · rcases List.mem_cons.mp mem with rfl | later
        · exact .inr List.mem_cons_self
        · exact (ih later).imp_right (List.mem_cons_of_mem _)

theorem ordered_insertSorted (ordered : Ordered pairs) :
    Ordered (insertSorted name value pairs) := by
  induction pairs with
  | nil => exact List.pairwise_singleton _ _
  | cons head pairs ih =>
    obtain ⟨other, old⟩ := head
    obtain ⟨first, rest⟩ := List.pairwise_cons.mp ordered
    unfold insertSorted
    split
    · rename_i before
      refine List.pairwise_cons.mpr ⟨?_, ordered⟩
      intro entry mem
      rcases List.mem_cons.mp mem with rfl | later
      · exact before
      · exact String.lt_trans before (first entry later)
    · split
      · rename_i same
        exact List.pairwise_cons.mpr ⟨fun entry mem => same ▸ first entry mem, rest⟩
      · rename_i notBefore differ
        have behind : other < name := by
          apply String.not_le.mp
          intro above
          exact differ (String.le_antisymm above (String.not_lt.mp notBefore))
        refine List.pairwise_cons.mpr ⟨?_, ih rest⟩
        intro entry mem
        rcases mem_insertSorted mem with rfl | later
        · exact behind
        · exact first entry later

theorem insertSorted_last (last : ∀ entry ∈ pairs, entry.1 < name) :
    insertSorted name value pairs = pairs ++ [(name, value)] := by
  induction pairs with
  | nil => rfl
  | cons head pairs ih =>
    obtain ⟨other, old⟩ := head
    have before : other < name := last (other, old) List.mem_cons_self
    have differ : name ≠ other := by
      rintro rfl
      exact String.lt_irrefl name before
    have others := ih fun entry mem => last entry (List.mem_cons_of_mem _ mem)
    rw [insertSorted, if_neg (String.lt_asymm before), if_neg differ, others]
    rfl

theorem foldl_insertSorted {before : List (String × String)} (ordered : Ordered (before ++ pairs)) :
    pairs.foldl (fun map (name, value) => insertSorted name value map) before =
      before ++ pairs := by
  induction pairs generalizing before with
  | nil => exact (List.append_nil before).symm
  | cons head pairs ih =>
    obtain ⟨name, value⟩ := head
    have last : ∀ entry ∈ before, entry.1 < name := by
      intro entry mem
      exact (List.pairwise_append.mp ordered).2.2 entry mem (name, value) List.mem_cons_self
    rw [List.append_cons] at ordered
    rw [List.foldl_cons]
    change pairs.foldl _ (insertSorted name value before) = _
    rw [insertSorted_last last, ih ordered, ← List.append_cons]

theorem ordered_foldl {before : List (String × String)} (ordered : Ordered before) :
    Ordered (pairs.foldl (fun map (name, value) => insertSorted name value map) before) := by
  induction pairs generalizing before with
  | nil => exact ordered
  | cons head pairs ih => exact ih (ordered_insertSorted ordered)

theorem ordered_textMap? {document : Json} (read : document.textMap? = some pairs) :
    Ordered pairs := by
  cases document with
  | object members =>
    obtain ⟨given, -, folded⟩ := Option.bind_eq_some_iff.mp read
    obtain rfl := Option.some.inj folded
    exact ordered_foldl List.Pairwise.nil
  | _ => cases read

theorem textMap?_record (ordered : Ordered pairs) :
    textMap? (record (pairs.map fun pair => (pair.1, ofString pair.2))) = some pairs := by
  have same : record (pairs.map fun pair => (pair.1, ofString pair.2)) =
      .object (pairs.map fun pair => (some pair.1, ofString pair.2)) := by
    rw [record, List.map_map]
    rfl
  rw [same, textMap?, List.mapM_map, mapM_eq_some_map (g := id)]
  · rw [List.map_id]
    exact congrArg some (foldl_insertSorted ordered)
  · intro pair _
    rfl

end TextMaps

end Json

namespace Binary64

/-- Whether the text of a number is read as that number again. -/
def ReadsBack (x : Binary64) : Prop :=
  (Json.parse? (Json.ofBinary64 x).render).bind Json.real? = some x

instance (x : Binary64) : Decidable x.ReadsBack := by
  unfold ReadsBack
  infer_instance

-- Not every number is: digits that take more than 53 bits are rounded before they are scaled.
example : ¬(ofRatio false 275129 3).ReadsBack := by decide +kernel

end Binary64

namespace Json

theorem real?_ofBinary64 {x : Binary64} (back : x.ReadsBack) : real? (ofBinary64 x) = some x := by
  rw [Binary64.ReadsBack, parse?_render (writable_ofBinary64 x)] at back
  exact back

end Json

namespace SourceFiles

/-- One name and a list of one name stay apart. -/
theorem ofJson?_toJson (files : SourceFiles) : ofJson? files.toJson = some files := by
  cases files with
  | one file => rfl
  | many files =>
    have read := Json.texts?_ofStrings files
    exact congrArg (Option.map SourceFiles.many) read

theorem writable_toJson (files : SourceFiles) : files.toJson.Writable := by
  cases files with
  | one file => exact .string file
  | many files => exact Json.writable_ofStrings files

end SourceFiles

namespace Json

section Given

variable {α : Type} {read : Json → Option α}

theorem default?_cases {usual a : α} {given : Option Json}
    (found : default? usual read given = some a) :
    a = usual ∨ ∃ document, read document = some a := by
  cases given with
  | none => exact .inl (Option.some.inj found).symm
  | some document => exact .inr ⟨document, found⟩

theorem exists_of_nullable? {document : Json} {given : Option α}
    (found : nullable? read document = some given) :
    ∀ a ∈ given, ∃ document, read document = some a := by
  intro a mem
  unfold nullable? at found
  split at found
  · cases found
    cases mem
  · obtain ⟨value, value_read, rfl⟩ := Option.map_eq_some_iff.mp found
    cases mem
    exact ⟨_, value_read⟩

theorem exists_of_optional? {field : Option Json} {given : Option α}
    (found : default? none (nullable? read) field = some given) :
    ∀ a ∈ given, ∃ document, read document = some a := by
  rcases default?_cases found with rfl | ⟨document, nullable⟩
  · nofun
  · exact exists_of_nullable? nullable

theorem lt_of_natural? {bound n : Nat} {document : Json}
    (found : document.natural? bound = some n) : n < bound := by
  unfold natural? at found
  split at found
  · split at found
    · split at found
      · rename_i fits
        cases found
        exact fits
      · cases found
    · cases found
  · cases found

end Given

end Json

namespace InteractiveConfig

def reals (config : InteractiveConfig) : List Binary64 :=
  config.compilerTimeLimit.toList ++ config.preprocessingTime.toList

theorem writable_toJson (config : InteractiveConfig) : config.toJson.Writable := by
  apply Json.Writable.record
  simp only [List.forall_mem_cons]
  exact ⟨config.files.writable_toJson, .string _, Json.writable_ofStrings _,
    Json.writable_ofOption Json.writable_ofBinary64 _, .bool _,
    Json.writable_ofOption Json.writable_ofBinary64 _, Json.writable_ofOption Json.writable_ofNat _,
    Json.writable_ofOption .string _, .bool _, .string _, nofun⟩

theorem inRange_of_ofJson? {document : Json} {config : InteractiveConfig}
    (read : ofJson? document = some config) :
    (∀ limit ∈ config.memoryLimit, limit < wordBound) ∧ ∀ x ∈ config.reals, x.isFinite := by
  unfold ofJson? at read
  obtain ⟨fields, -, read⟩ := Option.bind_eq_some_iff.mp read
  split at read
  · simp only [Option.pure_def, Option.bind_eq_bind, Option.bind_eq_some_iff,
      Option.some.injEq] at read
    obtain ⟨files, -, lang, -, flags, -, compilerTime, compilerTimeRead, unbuffered, -,
      preprocessing, preprocessingRead, memory, memoryRead, args, -, feedback, -, adapter, -,
      rfl⟩ := read
    refine ⟨?_, ?_⟩
    · intro limit mem
      obtain ⟨given, found⟩ := Json.exists_of_optional? memoryRead limit mem
      exact Json.lt_of_natural? found
    · intro x mem
      simp only [reals, List.mem_append, Option.mem_toList] at mem
      rcases mem with listed | listed
      · obtain ⟨given, found⟩ := Json.exists_of_optional? compilerTimeRead x listed
        exact Json.isFinite_real? found
      · obtain ⟨given, found⟩ := Json.exists_of_optional? preprocessingRead x listed
        exact Json.isFinite_real? found
  · cases read

theorem fields?_toJson (config : InteractiveConfig) :
    config.toJson.fields? fieldNames = some [
      some config.files.toJson,
      some (.ofString config.lang),
      some (.ofStrings config.flags),
      some (.ofOption .ofBinary64 config.compilerTimeLimit),
      some (.bool config.unbuffered),
      some (.ofOption .ofBinary64 config.preprocessingTime),
      some (.ofOption .ofNat config.memoryLimit),
      some (.ofOption .ofString config.argsTemplate),
      some (.bool config.feedback),
      some (.ofString config.adapter)] := by
  have distinct : fieldNames.Nodup := by decide
  unfold toJson
  exact Json.fields?_record distinct

theorem ofJson?_toJson (config : InteractiveConfig)
    (fits : ∀ limit ∈ config.memoryLimit, limit < wordBound)
    (back : ∀ x ∈ config.reals, Json.real? (.ofBinary64 x) = some x) :
    ofJson? config.toJson = some config := by
  have optionalReal (given : Option Binary64) (listed : ∀ x ∈ given, x ∈ config.reals) :
      Json.nullable? Json.real? (.ofOption .ofBinary64 given) = some given := by
    apply Json.nullable?_ofOption
    · intro x mem null
      have read := back x (listed x mem)
      rw [null] at read
      cases read
    · exact fun x mem => back x (listed x mem)
  have compilerTime := optionalReal config.compilerTimeLimit fun x mem =>
    List.mem_append_left _ (Option.mem_toList.mpr mem)
  have preprocessing := optionalReal config.preprocessingTime fun x mem =>
    List.mem_append_right _ (Option.mem_toList.mpr mem)
  have memory : Json.nullable? (Json.natural? wordBound) (.ofOption .ofNat config.memoryLimit) =
      some config.memoryLimit := by
    apply Json.nullable?_ofOption
    · intro limit _
      nofun
    · exact fun limit mem => Json.natural?_ofNat (fits limit mem)
  have args : Json.nullable? Json.text? (.ofOption .ofString config.argsTemplate) =
      some config.argsTemplate := by
    apply Json.nullable?_ofOption
    · intro text _
      nofun
    · exact fun text _ => rfl
  have text (text : String) : Json.text? (.ofString text) = some text := rfl
  have bool (value : Bool) : Json.bool? (.bool value) = some value := rfl
  rw [ofJson?, fields?_toJson]
  simp [Json.required?, Json.default?, SourceFiles.ofJson?_toJson, Json.texts?_ofStrings,
    compilerTime, preprocessing, memory, args, text, bool]

end InteractiveConfig

namespace CaseConfig

def reals (config : CaseConfig) : List Binary64 := [config.wallTimeFactor]

theorem writable_toJson (config : CaseConfig) : config.toJson.Writable := by
  apply Json.Writable.record
  simp only [List.forall_mem_cons]
  refine ⟨?_, Json.writable_ofBinary64 _, Json.writable_ofNat _, .bool _, nofun⟩
  apply Json.Writable.record
  intro member mem
  obtain ⟨link, -, rfl⟩ := List.mem_map.mp mem
  exact .string link.2

theorem inRange_of_ofFields? {fields : List (Option Json)} {config : CaseConfig}
    (read : ofFields? fields = some config) :
    Json.Ordered config.symlinks ∧ config.outputLimit < wordBound ∧
      ∀ x ∈ config.reals, x.isFinite := by
  unfold ofFields? at read
  split at read
  · simp only [Option.pure_def, Option.bind_eq_bind, Option.bind_eq_some_iff,
      Option.some.injEq] at read
    obtain ⟨links, linksRead, factor, factorRead, limit, limitRead, binary, -, rfl⟩ := read
    refine ⟨?_, ?_, ?_⟩
    · rcases Json.default?_cases linksRead with rfl | ⟨given, found⟩
      · exact List.Pairwise.nil
      · exact Json.ordered_textMap? found
    · rcases Json.default?_cases limitRead with rfl | ⟨given, found⟩
      · exact (by decide : usual.outputLimit < wordBound)
      · exact Json.lt_of_natural? found
    · intro x mem
      obtain rfl := List.mem_singleton.mp mem
      rcases Json.default?_cases factorRead with same | ⟨given, found⟩
      · rw [same]
        simp only [usual]
        exact Binary64.isFinite_ofNat (by decide)
      · exact Json.isFinite_real? found
  · cases read

theorem fields?_toJson (config : CaseConfig) :
    config.toJson.fields? fieldNames = some [
      some (.record (config.symlinks.map fun (name, target) => (name, .ofString target))),
      some (.ofBinary64 config.wallTimeFactor),
      some (.ofNat config.outputLimit),
      some (.bool config.binaryData)] := by
  have distinct : fieldNames.Nodup := by decide
  unfold toJson
  exact Json.fields?_record distinct

theorem ofJson?_toJson (config : CaseConfig) (ordered : Json.Ordered config.symlinks)
    (fits : config.outputLimit < wordBound)
    (back : ∀ x ∈ config.reals, Json.real? (.ofBinary64 x) = some x) :
    ofJson? config.toJson = some config := by
  have links : Json.textMap? (.record (config.symlinks.map fun (name, target) =>
      (name, .ofString target))) = some config.symlinks := Json.textMap?_record ordered
  have factor := back config.wallTimeFactor (List.mem_singleton.mpr rfl)
  have limit := Json.natural?_ofNat fits
  have bool (value : Bool) : Json.bool? (.bool value) = some value := rfl
  rw [ofJson?, fields?_toJson]
  simp [ofFields?, Json.default?, links, factor, limit, bool]

end CaseConfig

section RoundTrips

variable {α : Type} {read : Json → Option α} {write : α → Json} {a : α}

/-- A value whose text is read back: as the document that was written, and as the value. What is
read back has the same text again. -/
structure RoundTrips (read : Json → Option α) (write : α → Json) (a : α) : Prop where
  document : Json.parse? (write a).render = some (write a)
  value : (Json.parse? (write a).render).bind read = some a
  text : ∀ again, (Json.parse? (write a).render).bind read = some again →
    (write again).render = (write a).render

theorem roundTrips_of_back (writable : (write a).Writable) (back : read (write a) = some a) :
    RoundTrips read write a := by
  have document := Json.parse?_render writable
  have value : (Json.parse? (write a).render).bind read = some a := by
    rw [document]
    exact back
  refine ⟨document, value, fun again found => ?_⟩
  rw [value] at found
  rw [Option.some.inj found]

end RoundTrips

theorem InteractiveConfig.roundTrips {document : Json} {config : InteractiveConfig}
    (read : ofJson? document = some config) (exact : ∀ x ∈ config.reals, x.isFinite → x.ReadsBack) :
    RoundTrips ofJson? toJson config := by
  obtain ⟨fits, finite⟩ := inRange_of_ofJson? read
  apply roundTrips_of_back config.writable_toJson
  apply ofJson?_toJson config fits
  exact fun x mem => Json.real?_ofBinary64 (exact x mem (finite x mem))

theorem CaseConfig.roundTrips {fields : List (Option Json)} {config : CaseConfig}
    (read : ofFields? fields = some config) (exact : ∀ x ∈ config.reals, x.isFinite → x.ReadsBack) :
    RoundTrips ofJson? toJson config := by
  obtain ⟨ordered, fits, finite⟩ := inRange_of_ofFields? read
  apply roundTrips_of_back config.writable_toJson
  apply ofJson?_toJson config ordered fits
  exact fun x mem => Json.real?_ofBinary64 (exact x mem (finite x mem))

/-- Settings that were read survive being written and read again, if their numbers do. -/
theorem settings_round_trip :
    (∀ (document : Json) (config : InteractiveConfig),
      InteractiveConfig.ofJson? document = some config →
      (∀ x ∈ config.reals, x.isFinite → x.ReadsBack) →
      RoundTrips InteractiveConfig.ofJson? InteractiveConfig.toJson config) ∧
    (∀ (document : Json) (config : CaseConfig), CaseConfig.ofJson? document = some config →
      (∀ x ∈ config.reals, x.isFinite → x.ReadsBack) →
      RoundTrips CaseConfig.ofJson? CaseConfig.toJson config) ∧
    (∀ (defaults overrides : List (WrittenText × Json)) (config : CaseConfig),
      CaseConfig.merge? defaults overrides = some config →
      (∀ x ∈ config.reals, x.isFinite → x.ReadsBack) →
      RoundTrips CaseConfig.ofJson? CaseConfig.toJson config) ∧
    (∀ files, RoundTrips SourceFiles.ofJson? SourceFiles.toJson files) ∧
    (∀ text, RoundTrips Json.text? Json.ofString text) := by
  refine ⟨?_, ?_, ?_, ?_, ?_⟩
  · intro document config read exact
    exact InteractiveConfig.roundTrips read exact
  · intro document config read exact
    obtain ⟨fields, -, typed⟩ := Option.bind_eq_some_iff.mp read
    exact CaseConfig.roundTrips typed exact
  · intro defaults overrides config merged exact
    exact CaseConfig.roundTrips merged exact
  · intro files
    exact roundTrips_of_back files.writable_toJson files.ofJson?_toJson
  · intro text
    exact roundTrips_of_back (.string text) rfl

namespace Sample

/-- An interactor without sources, with an escaped letter in its language. -/
def interactorText : String :=
  "\x7b \"files\" : [], \"lang\" : \"PY\\u0033\", \"preprocessing_time\" : 0.5 \x7d"

def interactorSettings : InteractiveConfig where
  files := .many []
  lang := "PY3"
  flags := []
  compilerTimeLimit := none
  unbuffered := true
  preprocessingTime := some (.ofRatio false 1 2)
  memoryLimit := none
  argsTemplate := none
  feedback := false
  adapter := "default"

def caseText : String :=
  "\x7b\"symlinks\":\x7b\"b\":\"/b\",\"a\":\"/\\n\"\x7d,\"wall_time_factor\":2.5\x7d"

def caseSettings : CaseConfig := ⟨[("a", "/\n"), ("b", "/b")], .ofRatio false 5 2, 26214400, false⟩

theorem settings_kept :
    (Json.parse? interactorText).bind InteractiveConfig.ofJson? = some interactorSettings ∧
    RoundTrips InteractiveConfig.ofJson? InteractiveConfig.toJson interactorSettings ∧
    (Json.parse? caseText).bind CaseConfig.ofJson? = some caseSettings ∧
    RoundTrips CaseConfig.ofJson? CaseConfig.toJson caseSettings := by
  have interactor : (Json.parse? interactorText).bind InteractiveConfig.ofJson? =
      some interactorSettings := by decide +kernel
  have given : (Json.parse? caseText).bind CaseConfig.ofJson? = some caseSettings := by
    decide +kernel
  obtain ⟨document, -, read⟩ := Option.bind_eq_some_iff.mp interactor
  obtain ⟨caseDocument, -, caseRead⟩ := Option.bind_eq_some_iff.mp given
  obtain ⟨interactive, case, -⟩ := settings_round_trip
  exact ⟨interactor, interactive document interactorSettings read (by decide +kernel),
    given, case caseDocument caseSettings caseRead (by decide +kernel)⟩

end Sample
end ContestJudge

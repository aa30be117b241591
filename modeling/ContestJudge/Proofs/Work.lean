import ContestJudge.Judge.Desk

namespace ContestJudge

instance decidableEqAnswer {ε α : Type} [DecidableEq ε] [DecidableEq α] :
    DecidableEq (Except ε α)
  | .ok a, .ok b =>
    if same : a = b then .isTrue (congrArg Except.ok same) else .isFalse fun h => same (Except.ok.inj h)
  | .error a, .error b =>
    if same : a = b then .isTrue (congrArg Except.error same)
    else .isFalse fun h => same (Except.error.inj h)
  | .ok _, .error _ => .isFalse nofun
  | .error _, .ok _ => .isFalse nofun

section Answers

variable {ε α β : Type} {fault : Fault}

theorem map_eq_error_iff (answer : Except Fault α) (f : α → β) :
    answer.map f = .error fault ↔ answer = .error fault := by
  cases answer <;> simp only [Except.map, reduceCtorEq, Except.error.injEq]

theorem map_eq_ok_iff {answer : Except ε α} {f : α → β} {b : β} :
    answer.map f = .ok b ↔ ∃ a, answer = .ok a ∧ f a = b := by
  cases answer <;> simp only [Except.map, Except.ok.injEq, reduceCtorEq, false_and, exists_false,
    exists_eq_left']

theorem bind_eq_ok_iff {answer : Except ε α} {next : α → Except ε β} {b : β} :
    answer >>= next = .ok b ↔ ∃ a, answer = .ok a ∧ next a = .ok b := by
  cases answer <;> simp only [bind, Except.bind, Except.ok.injEq, reduceCtorEq, false_and,
    exists_false, exists_eq_left']

theorem bind_eq_error_iff (answer : Except Fault α) (next : α → Except Fault β) :
    answer >>= next = .error fault ↔
      answer = .error fault ∨ ∃ a, answer = .ok a ∧ next a = .error fault := by
  cases answer <;>
    simp only [bind, Except.bind, Except.error.injEq, Except.ok.injEq, reduceCtorEq, false_and,
      exists_false, or_false, false_or, exists_eq_left']

theorem mapM_eq_ok_map {f : α → Except Fault β} {g : α → β} {list : List α}
    (each : ∀ a ∈ list, f a = .ok (g a)) : list.mapM f = .ok (list.map g) := by
  induction list with
  | nil => rfl
  | cons a list ih =>
    have others := ih fun b listed => each b (List.mem_cons_of_mem _ listed)
    rw [List.mapM_cons, each a List.mem_cons_self, others]
    rfl

theorem exists_of_mapM_eq_error {ask : α → Except Fault β} {questions : List α}
    (fails : questions.mapM ask = .error fault) : ∃ a ∈ questions, ask a = .error fault := by
  induction questions with
  | nil => cases fails
  | cons first rest ih =>
    rw [List.mapM_cons, bind_eq_error_iff] at fails
    rcases fails with fails | ⟨_, -, fails⟩
    · exact ⟨first, List.mem_cons_self, fails⟩
    · rcases (bind_eq_error_iff _ _).mp fails with fails | ⟨_, -, fails⟩
      · obtain ⟨a, listed, faulty⟩ := ih fails
        exact ⟨a, List.mem_cons_of_mem first listed, faulty⟩
      · cases fails

theorem mapM_eq_error_of_mem {ask : α → Except Fault β} {questions : List α} {a : α}
    (listed : a ∈ questions) (faulty : ask a = .error fault) :
    ∃ first, questions.mapM ask = .error first := by
  induction questions with
  | nil => cases listed
  | cons first rest ih =>
    rw [List.mapM_cons]
    cases answer : ask first with
    | error cause => exact ⟨cause, rfl⟩
    | ok b =>
      rcases List.mem_cons.mp listed with rfl | later
      · rw [answer] at faulty
        cases faulty
      · obtain ⟨cause, fails⟩ := ih later
        exact ⟨cause, (bind_eq_error_iff _ _).mpr (.inr ⟨b, rfl,
          (bind_eq_error_iff _ _).mpr (.inl fails)⟩)⟩

end Answers

namespace Work

variable {σ τ υ α β : Type}

section Runs

variable (state : σ)

@[simp] theorem runOn_pure (a : α) : (pure a : Work σ α).runOn state = (.ok a, state) := rfl

@[simp] theorem runOn_throw (fault : Fault) :
    (throw fault : Work σ α).runOn state = (.error fault, state) := rfl

@[simp] theorem runOn_get : (get : Work σ σ).runOn state = (.ok state, state) := rfl

@[simp] theorem runOn_modify (change : σ → σ) :
    (modify change : Work σ PUnit).runOn state = (.ok ⟨⟩, change state) := rfl

@[simp] theorem runOn_ofExcept (answer : Except Fault α) :
    (ofExcept answer : Work σ α).runOn state = (answer, state) := rfl

@[simp] theorem runOn_attempt (work : Work σ α) :
    work.attempt.runOn state = (.ok (work.runOn state).1, (work.runOn state).2) := rfl

@[simp] theorem runOn_always (tidy : σ → σ) (work : Work σ α) :
    (work.always tidy).runOn state = ((work.runOn state).1, tidy (work.runOn state).2) := rfl

@[simp] theorem runOn_relabel (rename : Fault → Fault) (work : Work σ α) :
    (work.relabel rename).runOn state =
      ((work.runOn state).1.mapError rename, (work.runOn state).2) := rfl

@[simp] theorem runOn_within (part : σ → τ) (replace : σ → τ → σ) (work : Work τ α) :
    (work.within part replace).runOn state =
      ((work.runOn (part state)).1, replace state (work.runOn (part state)).2) := rfl

theorem runOn_unlessDone (tidy : σ → σ) (work : Work σ α) :
    (work.unlessDone tidy).runOn state =
      match work.runOn state with
      | (.ok a, later) => (.ok a, later)
      | (.error fault, later) => (.error fault, tidy later) := rfl

theorem runOn_bind (work : Work σ α) (next : α → Work σ β) :
    (work >>= next).runOn state =
      match work.runOn state with
      | (.ok a, later) => (next a).runOn later
      | (.error fault, later) => (.error fault, later) := by
  change StateT.bind work.run (ExceptT.bindCont next) state = _
  rcases ran : work.runOn state with ⟨answer, later⟩
  have same : work.run state = (answer, later) := ran
  simp only [StateT.bind, same]
  cases answer <;> rfl

theorem runOn_bind_pure (work : Work σ α) (f : α → β) :
    (work >>= fun a => pure (f a)).runOn state =
      ((work.runOn state).1.map f, (work.runOn state).2) := by
  rw [runOn_bind]
  rcases work.runOn state with ⟨fault | a, later⟩ <;> rfl

end Runs

def Gives (work : Work σ α) (state : σ) (a : α) (later : σ) : Prop :=
  work.runOn state = (.ok a, later)

def Stops (work : Work σ α) (state : σ) (fault : Fault) (later : σ) : Prop :=
  work.runOn state = (.error fault, later)

section Answers

variable {work : Work σ α} {state later : σ} {a : α}

theorem runOn_bind_of_gives (gives : work.Gives state a later) (next : α → Work σ β) :
    (work >>= next).runOn state = (next a).runOn later := by
  rw [runOn_bind, gives]

theorem runOn_bind_of_stops {fault : Fault} (stops : work.Stops state fault later)
    (next : α → Work σ β) : (work >>= next).Stops state fault later := by
  rw [Stops, runOn_bind, stops]

theorem gives_unlessDone (tidy : σ → σ) (gives : work.Gives state a later) :
    (work.unlessDone tidy).Gives state a later := by
  rw [Gives, runOn_unlessDone, gives]

theorem gives_ofExcept {answer : Except Fault α} (answered : answer = .ok a) (state : σ) :
    (ofExcept answer).Gives state a state := by
  rw [Gives, runOn_ofExcept, answered]

theorem stops_ofExcept {answer : Except Fault α} {fault : Fault} (refused : answer = .error fault)
    (state : σ) : (ofExcept answer).Stops state fault state := by
  rw [Stops, runOn_ofExcept, refused]

theorem gives_relabel (rename : Fault → Fault) (gives : work.Gives state a later) :
    (work.relabel rename).Gives state a later := by
  rw [Gives, runOn_relabel, gives]
  rfl

theorem stops_relabel {fault : Fault} (rename : Fault → Fault)
    (stops : work.Stops state fault later) :
    (work.relabel rename).Stops state (rename fault) later := by
  rw [Stops, runOn_relabel, stops]
  rfl

theorem gives_always (tidy : σ → σ) (gives : work.Gives state a later) :
    (work.always tidy).Gives state a (tidy later) := by
  rw [Gives, runOn_always, gives]

theorem stops_always {fault : Fault} (tidy : σ → σ) (stops : work.Stops state fault later) :
    (work.always tidy).Stops state fault (tidy later) := by
  rw [Stops, runOn_always, stops]

theorem stops_unlessDone {fault : Fault} (tidy : σ → σ) (stops : work.Stops state fault later) :
    (work.unlessDone tidy).Stops state fault (tidy later) := by
  rw [Stops, runOn_unlessDone, stops]

theorem gives_of_answer (answers : (work.runOn state).1 = .ok a) :
    work.Gives state a (work.runOn state).2 := Prod.ext answers rfl

theorem exists_of_gives_bind {next : α → Work σ β} {b : β}
    (gives : (work >>= next).Gives state b later) :
    ∃ a middle, work.Gives state a middle ∧ (next a).Gives middle b later := by
  rcases ran : work.runOn state with ⟨fault | a, middle⟩
  · rw [Gives, runOn_bind, ran] at gives
    simp only [Prod.mk.injEq, reduceCtorEq, false_and] at gives
  · exact ⟨a, middle, ran, (runOn_bind_of_gives ran next).symm.trans gives⟩

theorem gives_of_unlessDone {tidy : σ → σ} (gives : (work.unlessDone tidy).Gives state a later) :
    work.Gives state a later := by
  rw [Gives, runOn_unlessDone] at gives
  split at gives
  · rename_i ran
    rw [Gives, ran, gives]
  · simp only [Prod.mk.injEq, reduceCtorEq, false_and] at gives

theorem gives_or_stops (work : Work σ α) (state : σ) :
    (∃ a later, work.Gives state a later) ∨ ∃ fault later, work.Stops state fault later := by
  rcases ran : work.runOn state with ⟨answer | answer, later⟩
  · exact .inr ⟨answer, later, ran⟩
  · exact .inl ⟨answer, later, ran⟩

end Answers

def Keeps (view : σ → τ) (work : Work σ α) : Prop :=
  ∀ state, view (work.runOn state).2 = view state

section Views

variable {view : σ → τ}

theorem keeps_pure (a : α) : (pure a : Work σ α).Keeps view := fun _ => rfl

theorem keeps_throw (fault : Fault) : (throw fault : Work σ α).Keeps view := fun _ => rfl

theorem keeps_get : (get : Work σ σ).Keeps view := fun _ => rfl

theorem keeps_ofExcept (answer : Except Fault α) : (ofExcept answer).Keeps view := fun _ => rfl

theorem keeps_modify {change : σ → σ} (same : ∀ state, view (change state) = view state) :
    (modify change : Work σ PUnit).Keeps view := same

theorem Keeps.bind {work : Work σ α} {next : α → Work σ β} (first : work.Keeps view)
    (second : ∀ a, (next a).Keeps view) : (work >>= next).Keeps view := by
  intro state
  rcases gives_or_stops work state with ⟨a, later, gives⟩ | ⟨fault, later, stops⟩
  · rw [runOn_bind_of_gives gives, second a later, ← first state, gives]
  · rw [runOn_bind_of_stops stops, ← first state, stops]

theorem Keeps.of_gives {work : Work σ α} {state later : σ} {a : α} (kept : work.Keeps view)
    (gives : work.Gives state a later) : view later = view state := by
  rw [← kept state, gives]

theorem Keeps.attempt {work : Work σ α} (kept : work.Keeps view) : work.attempt.Keeps view := kept

theorem Keeps.relabel {work : Work σ α} (kept : work.Keeps view) (rename : Fault → Fault) :
    (work.relabel rename).Keeps view := kept

theorem Keeps.always {work : Work σ α} (kept : work.Keeps view) {tidy : σ → σ}
    (same : ∀ state, view (tidy state) = view state) : (work.always tidy).Keeps view :=
  fun state => (same _).trans (kept state)

theorem Keeps.unlessDone {work : Work σ α} (kept : work.Keeps view) {tidy : σ → σ}
    (same : ∀ state, view (tidy state) = view state) : (work.unlessDone tidy).Keeps view := by
  intro state
  rcases gives_or_stops work state with ⟨a, later, gives⟩ | ⟨fault, later, stops⟩
  · rw [gives_unlessDone tidy gives, ← kept state, gives]
  · rw [runOn_unlessDone, stops, ← kept state, stops]
    exact same later

theorem Keeps.within {part : σ → υ} {replace : σ → υ → σ} {inner : υ → τ} {work : Work υ α}
    (kept : work.Keeps inner) (outer : ∀ state, view state = inner (part state))
    (replaced : ∀ state changed, view (replace state changed) = inner changed) :
    (work.within part replace).Keeps view := by
  intro state
  rw [runOn_within, replaced, kept, outer]

theorem keeps_within_unseen {part : σ → υ} {replace : σ → υ → σ}
    (unseen : ∀ state changed, view (replace state changed) = view state) (work : Work υ α) :
    (work.within part replace).Keeps view := fun _ => unseen _ _

end Views

def Maintains (holds : σ → Prop) (work : Work σ α) : Prop :=
  ∀ state, holds state → holds (work.runOn state).2

section Invariants

variable {holds : σ → Prop}

theorem maintains_pure (a : α) : (pure a : Work σ α).Maintains holds := fun _ held => held

theorem maintains_throw (fault : Fault) : (throw fault : Work σ α).Maintains holds :=
  fun _ held => held

theorem maintains_get : (get : Work σ σ).Maintains holds := fun _ held => held

theorem maintains_ofExcept (answer : Except Fault α) : (ofExcept answer).Maintains holds :=
  fun _ held => held

theorem Keeps.maintains {view : σ → τ} {work : Work σ α} (kept : work.Keeps view)
    (seen : ∀ state later, view later = view state → holds state → holds later) :
    work.Maintains holds := fun state held => seen state _ (kept state) held

theorem Maintains.bind {work : Work σ α} {next : α → Work σ β} (first : work.Maintains holds)
    (second : ∀ a, (next a).Maintains holds) : (work >>= next).Maintains holds := by
  intro state held
  have middle := first state held
  rcases gives_or_stops work state with ⟨a, later, gives⟩ | ⟨fault, later, stops⟩
  · rw [gives] at middle
    rw [runOn_bind_of_gives gives]
    exact second a later middle
  · rw [stops] at middle
    rw [runOn_bind_of_stops stops]
    exact middle

end Invariants

/-- Where work on a state leads: to an answer, with something true of the answer and of what is left,
or to a fault, with something true of what is left. -/
def Leads (work : Work σ α) (state : σ) (done : α → σ → Prop) (stopped : σ → Prop) : Prop :=
  (∃ a later, work.Gives state a later ∧ done a later) ∨
    ∃ fault later, work.Stops state fault later ∧ stopped later

section Outcomes

variable {state : σ} {done done' : α → σ → Prop} {stopped stopped' : σ → Prop}

theorem leads_of_left {work : Work σ α} {holds : σ → Prop} (left : holds (work.runOn state).2) :
    work.Leads state (fun _ => holds) holds := by
  rcases gives_or_stops work state with ⟨a, later, gives⟩ | ⟨fault, later, stops⟩
  · rw [gives] at left
    exact .inl ⟨a, later, gives, left⟩
  · rw [stops] at left
    exact .inr ⟨fault, later, stops, left⟩

theorem Keeps.leads {view : σ → τ} {work : Work σ α} (kept : work.Keeps view) (state : σ) :
    work.Leads state (fun _ later => view later = view state)
      (fun later => view later = view state) := leads_of_left (kept state)

theorem Maintains.leads {work : Work σ α} {holds : σ → Prop} (maintained : work.Maintains holds)
    (held : holds state) : work.Leads state (fun _ => holds) holds :=
  leads_of_left (maintained state held)

theorem leads_bind_of_gives {work : Work σ β} {next : β → Work σ α} {b : β} {later : σ}
    (gives : work.Gives state b later) (leads : (next b).Leads later done stopped) :
    (work >>= next).Leads state done stopped := by
  have same := runOn_bind_of_gives gives next
  simp only [Leads, Gives, Stops, same]
  exact leads

theorem Leads.bind {work : Work σ α} {next : α → Work σ β} {after : β → σ → Prop}
    (first : work.Leads state done stopped)
    (second : ∀ a later, work.Gives state a later → done a later →
      (next a).Leads later after stopped) : (work >>= next).Leads state after stopped := by
  rcases first with ⟨a, later, gives, held⟩ | ⟨fault, later, stops, held⟩
  · rcases second a later gives held with ⟨b, last, ran, ended⟩ | ⟨fault, last, ran, ended⟩
    · exact .inl ⟨b, last, (runOn_bind_of_gives gives next).trans ran, ended⟩
    · exact .inr ⟨fault, last, (runOn_bind_of_gives gives next).trans ran, ended⟩
  · exact .inr ⟨fault, later, runOn_bind_of_stops stops next, held⟩

theorem leads_ofExcept_bind {answer : Except Fault β} {next : β → Work σ α} (lost : stopped state)
    (later : ∀ b, answer = .ok b → (next b).Leads state done stopped) :
    (ofExcept answer >>= next).Leads state done stopped := by
  cases answer with
  | error fault => exact .inr ⟨fault, state, rfl, lost⟩
  | ok b => exact later b rfl

theorem Leads.mono {work : Work σ α} (leads : work.Leads state done stopped)
    (gained : ∀ a later, done a later → done' a later)
    (lost : ∀ later, stopped later → stopped' later) : work.Leads state done' stopped' := by
  rcases leads with ⟨a, later, gives, held⟩ | ⟨fault, later, stops, held⟩
  · exact .inl ⟨a, later, gives, gained a later held⟩
  · exact .inr ⟨fault, later, stops, lost later held⟩

theorem Leads.always {work : Work σ α} {tidy : σ → σ} (leads : work.Leads state done stopped)
    (gained : ∀ a later, done a later → done' a (tidy later))
    (lost : ∀ later, stopped later → stopped' (tidy later)) :
    (work.always tidy).Leads state done' stopped' := by
  rcases leads with ⟨a, later, gives, held⟩ | ⟨fault, later, stops, held⟩
  · exact .inl ⟨a, tidy later, by rw [Gives, runOn_always, gives], gained a later held⟩
  · exact .inr ⟨fault, tidy later, by rw [Stops, runOn_always, stops], lost later held⟩

theorem Leads.unlessDone {work : Work σ α} {tidy : σ → σ} (leads : work.Leads state done stopped)
    (lost : ∀ later, stopped later → stopped' (tidy later)) :
    (work.unlessDone tidy).Leads state done stopped' := by
  rcases leads with ⟨a, later, gives, held⟩ | ⟨fault, later, stops, held⟩
  · exact .inl ⟨a, later, gives_unlessDone tidy gives, held⟩
  · exact .inr ⟨fault, tidy later, stops_unlessDone tidy stops, lost later held⟩

theorem Leads.of_gives {work : Work σ α} {a : α} {later : σ}
    (leads : work.Leads state done stopped) (gives : work.Gives state a later) : done a later := by
  rcases leads with ⟨b, last, gives', held⟩ | ⟨fault, last, stops, held⟩
  · cases gives.symm.trans gives'
    exact held
  · cases gives.symm.trans stops

theorem Leads.left {work : Work σ α} {holds : σ → Prop}
    (leads : work.Leads state (fun _ => holds) holds) : holds (work.runOn state).2 := by
  rcases leads with ⟨a, later, gives, held⟩ | ⟨fault, later, stops, held⟩
  · rw [gives]
    exact held
  · rw [stops]
    exact held

end Outcomes

def StopsOnly (kind : Fault → Prop) (work : Work σ α) : Prop :=
  ∀ ⦃state fault later⦄, work.Stops state fault later → kind fault

section Faults

variable {kind : Fault → Prop}

theorem stops_of_stops_bind {work : Work σ α} {next : α → Work σ β} {state later : σ}
    {fault : Fault} (stops : (work >>= next).Stops state fault later) :
    work.Stops state fault later ∨
      ∃ a middle, work.Gives state a middle ∧ (next a).Stops middle fault later := by
  rcases gives_or_stops work state with ⟨a, middle, gives⟩ | ⟨first, left, breaks⟩
  · exact .inr ⟨a, middle, gives, (runOn_bind_of_gives gives next).symm.trans stops⟩
  · obtain ⟨rfl, rfl⟩ : first = fault ∧ left = later := by
      cases (runOn_bind_of_stops breaks next).symm.trans stops
      exact ⟨rfl, rfl⟩
    exact .inl breaks

theorem stopsOnly_pure (a : α) : (pure a : Work σ α).StopsOnly kind := by
  intro state fault later stops
  cases stops

theorem stopsOnly_throw {fault : Fault} (ofKind : kind fault) :
    (throw fault : Work σ α).StopsOnly kind := by
  intro state other later stops
  cases stops
  exact ofKind

theorem stopsOnly_get : (get : Work σ σ).StopsOnly kind := by
  intro state fault later stops
  cases stops

theorem stopsOnly_modify (change : σ → σ) : (modify change : Work σ PUnit).StopsOnly kind := by
  intro state fault later stops
  cases stops

theorem stopsOnly_ofExcept {answer : Except Fault α}
    (ofKind : ∀ fault, answer = .error fault → kind fault) :
    (ofExcept answer : Work σ α).StopsOnly kind := by
  intro state fault later stops
  exact ofKind fault (congrArg Prod.fst stops)

theorem stopsOnly_attempt (work : Work σ α) : work.attempt.StopsOnly kind := by
  intro state fault later stops
  cases congrArg Prod.fst stops

theorem StopsOnly.bind {work : Work σ α} {next : α → Work σ β} (first : work.StopsOnly kind)
    (second : ∀ a, (next a).StopsOnly kind) : (work >>= next).StopsOnly kind := by
  intro state fault later stops
  rcases stops_of_stops_bind stops with stops | ⟨a, middle, -, stops⟩
  · exact first stops
  · exact second a stops

theorem StopsOnly.unlessDone {work : Work σ α} (only : work.StopsOnly kind) (tidy : σ → σ) :
    (work.unlessDone tidy).StopsOnly kind := by
  intro state fault later stops
  rw [Stops, runOn_unlessDone] at stops
  split at stops
  · cases stops
  · rename_i ran
    cases stops
    exact only ran

theorem StopsOnly.within {part : σ → τ} {replace : σ → τ → σ} {work : Work τ α}
    (only : work.StopsOnly kind) : (work.within part replace).StopsOnly kind := by
  intro state fault later stops
  have answered : (work.runOn (part state)).1 = .error fault := congrArg Prod.fst stops
  exact only (Prod.ext answered rfl)

end Faults

/-- Where work on a state leads: to an answer, with something true of the answer and of what is left,
or to a fault, with something true of the fault. -/
def Yields (work : Work σ α) (state : σ) (done : α → σ → Prop) (blamed : Fault → Prop) : Prop :=
  (∃ a later, work.Gives state a later ∧ done a later) ∨
    ∃ fault later, work.Stops state fault later ∧ blamed fault

section Yielding

variable {state : σ} {done done' : α → σ → Prop} {blamed : Fault → Prop}

theorem yields_of_gives {work : Work σ α} {a : α} {later : σ} (gives : work.Gives state a later)
    (held : done a later) : work.Yields state done blamed := .inl ⟨a, later, gives, held⟩

theorem StopsOnly.yields {work : Work σ α} (only : work.StopsOnly blamed)
    (left : ∀ a later, work.Gives state a later → done a later) :
    work.Yields state done blamed := by
  rcases gives_or_stops work state with ⟨a, later, gives⟩ | ⟨fault, later, stops⟩
  · exact .inl ⟨a, later, gives, left a later gives⟩
  · exact .inr ⟨fault, later, stops, only stops⟩

theorem Yields.mono {work : Work σ α} (yields : work.Yields state done blamed)
    (gained : ∀ a later, done a later → done' a later) : work.Yields state done' blamed :=
  yields.imp_left fun ⟨a, later, gives, held⟩ => ⟨a, later, gives, gained a later held⟩

theorem Yields.bind {work : Work σ α} {next : α → Work σ β} {after : β → σ → Prop}
    (first : work.Yields state done blamed)
    (second : ∀ a later, done a later → (next a).Yields later after blamed) :
    (work >>= next).Yields state after blamed := by
  rcases first with ⟨a, later, gives, held⟩ | ⟨fault, later, stops, held⟩
  · rcases second a later held with ⟨b, last, ran, ended⟩ | ⟨fault, last, ran, ended⟩
    · exact .inl ⟨b, last, (runOn_bind_of_gives gives next).trans ran, ended⟩
    · exact .inr ⟨fault, last, (runOn_bind_of_gives gives next).trans ran, ended⟩
  · exact .inr ⟨fault, later, runOn_bind_of_stops stops next, held⟩

theorem yields_bind_of_gives {work : Work σ β} {next : β → Work σ α} {b : β} {later : σ}
    (gives : work.Gives state b later) (yields : (next b).Yields later done blamed) :
    (work >>= next).Yields state done blamed := by
  have same := runOn_bind_of_gives gives next
  simp only [Yields, Gives, Stops, same]
  exact yields

theorem yields_get_bind {next : σ → Work σ α} (yields : (next state).Yields state done blamed) :
    (get >>= next).Yields state done blamed :=
  yields_bind_of_gives (rfl : (get : Work σ σ).Gives state state state) yields

theorem Yields.unlessDone {work : Work σ α} {tidy : σ → σ} (yields : work.Yields state done blamed) :
    (work.unlessDone tidy).Yields state done blamed := by
  rcases yields with ⟨a, later, gives, held⟩ | ⟨fault, later, stops, held⟩
  · exact .inl ⟨a, later, gives_unlessDone tidy gives, held⟩
  · exact .inr ⟨fault, tidy later, stops_unlessDone tidy stops, held⟩

theorem Yields.always {work : Work σ α} {tidy : σ → σ} (yields : work.Yields state done blamed)
    (gained : ∀ a later, done a later → done' a (tidy later)) :
    (work.always tidy).Yields state done' blamed := by
  rcases yields with ⟨a, later, gives, held⟩ | ⟨fault, later, stops, held⟩
  · exact .inl ⟨a, tidy later, by rw [Gives, runOn_always, gives], gained a later held⟩
  · exact .inr ⟨fault, tidy later, by rw [Stops, runOn_always, stops], held⟩

end Yielding

/-- Works on two states that answer alike, and leave alike, whatever looks alike. -/
def Alike (view : σ → υ) (other : τ → υ) (first : Work σ α) (second : Work τ α) : Prop :=
  ∀ state state', view state = other state' →
    (first.runOn state).1 = (second.runOn state').1 ∧
      view (first.runOn state).2 = other (second.runOn state').2

abbrev Blind (change : σ → σ) (work : Work σ α) : Prop := Alike change id work work

section Likeness

variable {view : σ → υ} {other : τ → υ}

theorem alike_pure (a : α) : Alike view other (pure a) (pure a) := fun _ _ same => ⟨rfl, same⟩

theorem alike_throw (fault : Fault) :
    Alike view other (throw fault : Work σ α) (throw fault : Work τ α) :=
  fun _ _ same => ⟨rfl, same⟩

theorem alike_ofExcept (answer : Except Fault α) :
    Alike view other (ofExcept answer) (ofExcept answer) := fun _ _ same => ⟨rfl, same⟩

theorem alike_modify {change : σ → σ} {change' : τ → τ}
    (changed : ∀ state state', view state = other state' →
      view (change state) = other (change' state')) :
    Alike view other (modify change : Work σ PUnit) (modify change' : Work τ PUnit) :=
  fun state state' same => ⟨rfl, changed state state' same⟩

theorem Alike.bind {first : Work σ α} {second : Work τ α} {next : α → Work σ β}
    {next' : α → Work τ β} (alike : Alike view other first second)
    (later : ∀ a, Alike view other (next a) (next' a)) :
    Alike view other (first >>= next) (second >>= next') := by
  intro state state' same
  obtain ⟨answered, left⟩ := alike state state' same
  rcases ran : first.runOn state with ⟨fault | a, middle⟩ <;>
    rcases ran' : second.runOn state' with ⟨fault' | a', middle'⟩ <;>
    simp only [ran, ran', Except.error.injEq, Except.ok.injEq, reduceCtorEq] at answered left
  · rw [runOn_bind, runOn_bind, ran, ran', answered]
    exact ⟨rfl, left⟩
  · rw [runOn_bind, runOn_bind, ran, ran', answered]
    exact later a' middle middle' left

theorem alike_get_bind {next : σ → Work σ β} {next' : τ → Work τ β}
    (later : ∀ state state', view state = other state' →
      Alike view other (next state) (next' state')) :
    Alike view other (get >>= next) (get >>= next') :=
  fun state state' same => later state state' same state state' same

theorem Alike.attempt {first : Work σ α} {second : Work τ α} (alike : Alike view other first second) :
    Alike view other first.attempt second.attempt := by
  intro state state' same
  obtain ⟨answered, left⟩ := alike state state' same
  exact ⟨congrArg Except.ok answered, left⟩

theorem Alike.always {first : Work σ α} {second : Work τ α} {tidy : σ → σ} {tidy' : τ → τ}
    (alike : Alike view other first second)
    (tidied : ∀ state state', view state = other state' →
      view (tidy state) = other (tidy' state')) :
    Alike view other (first.always tidy) (second.always tidy') := by
  intro state state' same
  obtain ⟨answered, left⟩ := alike state state' same
  exact ⟨answered, tidied _ _ left⟩

theorem Alike.unlessDone {first : Work σ α} {second : Work τ α} {tidy : σ → σ} {tidy' : τ → τ}
    (alike : Alike view other first second)
    (tidied : ∀ state state', view state = other state' →
      view (tidy state) = other (tidy' state')) :
    Alike view other (first.unlessDone tidy) (second.unlessDone tidy') := by
  intro state state' same
  obtain ⟨answered, left⟩ := alike state state' same
  rcases ran : first.runOn state with ⟨fault | a, middle⟩ <;>
    rcases ran' : second.runOn state' with ⟨fault' | a', middle'⟩ <;>
    simp only [ran, ran', Except.error.injEq, Except.ok.injEq, reduceCtorEq] at answered left
  · rw [runOn_unlessDone, runOn_unlessDone, ran, ran', answered]
    exact ⟨rfl, tidied middle middle' left⟩
  · rw [runOn_unlessDone, runOn_unlessDone, ran, ran', answered]
    exact ⟨rfl, left⟩

theorem Alike.gives {first : Work σ α} {second : Work τ α} {state later : σ} {state' : τ} {a : α}
    (alike : Alike view other first second) (same : view state = other state')
    (gives : first.Gives state a later) :
    ∃ later', second.Gives state' a later' ∧ view later = other later' := by
  obtain ⟨answered, left⟩ := alike state state' same
  rw [gives] at answered left
  exact ⟨_, gives_of_answer answered.symm, left⟩

end Likeness
end Work
end ContestJudge

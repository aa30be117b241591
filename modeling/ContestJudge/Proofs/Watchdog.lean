import ContestJudge.Proofs.Histories
import ContestJudge.Sandbox.Interleaving
/-!
The alarm of a process and its owner never signal a process whose number may belong to another one,
however their steps interleave.
-/

namespace ContestJudge

def Deed.Allowed (past : List Deed) : Deed → Prop
  | .signalled .sweep => .reaped ∉ past
  | .signalled _ => .exitSeen ∉ past ∧ .reaped ∉ past
  | .exitSeen => .exitSeen ∉ past
  | .joined locked => locked = false
  | .reaped => .exitSeen ∈ past

def Orderly (trace : List Deed) : Prop :=
  ∀ past deed future, trace = past ++ deed :: future → deed.Allowed past

theorem orderly_nil : Orderly [] := lawful_nil

theorem Orderly.concat {trace : List Deed} {last : Deed} (orderly : Orderly trace)
    (allowed : last.Allowed trace) : Orderly (trace ++ [last]) :=
  Lawful.concat (show Lawful Deed.Allowed trace from orderly) allowed

namespace Scene

structure Sound (s : Scene) : Prop where
  orderly : Orderly s.trace
  seen : s.watch.exitSeen ↔ .exitSeen ∈ s.trace
  rang : s.watch.alarmRang ↔ .signalled .alarm ∈ s.trace
  reaped : s.stage = .reaped ↔ .reaped ∈ s.trace
  /-- Only a process whose end was seen is reaped. -/
  settled : s.stage = .reaped → s.watch.exitSeen

structure Idles (s t : Scene) : Prop where
  isLocked : t.isLocked = s.isLocked
  exitSeen : t.watch.exitSeen = s.watch.exitSeen
  reaped : t.stage = .reaped ↔ s.stage = .reaped
  /-- The alarm has no turn while the watch is locked, and no say after the end was seen. -/
  watch : s.isLocked ∨ s.watch.exitSeen → t.watch = s.watch

theorem Idles.refl (s : Scene) : s.Idles s := ⟨rfl, rfl, .rfl, fun _ => rfl⟩

theorem Idles.trans {s t u : Scene} (first : s.Idles t) (second : t.Idles u) : s.Idles u where
  isLocked := second.isLocked.trans first.isLocked
  exitSeen := second.exitSeen.trans first.exitSeen
  reaped := second.reaped.trans first.reaped
  watch settled := by
    have later : t.isLocked ∨ t.watch.exitSeen := by
      rwa [first.isLocked, first.exitSeen]
    exact (second.watch later).trans (first.watch settled)

section Turns

variable {s : Scene}

theorem note_sound (sound : s.Sound) {deed : Deed} (allowed : deed.Allowed s.trace)
    (quiet : deed ≠ .exitSeen ∧ deed ≠ .signalled .alarm ∧ deed ≠ .reaped) :
    (s.note deed).Sound where
  orderly := sound.orderly.concat allowed
  seen := by simp [note, sound.seen, quiet.1.symm]
  rang := by simp [note, sound.rang, quiet.2.1.symm]
  reaped := by simp [note, sound.reaped, quiet.2.2.symm]
  settled := sound.settled

theorem unreaped_of_unseen (sound : s.Sound) (unseen : s.watch.exitSeen = false) :
    s.stage ≠ .reaped := by
  intro reaped
  have seen := sound.settled reaped
  rw [unseen] at seen
  cases seen

theorem allowed_of_unseen (sound : s.Sound) (unseen : s.watch.exitSeen = false) :
    .exitSeen ∉ s.trace ∧ .reaped ∉ s.trace := by
  rw [← sound.seen, ← sound.reaped, unseen]
  exact ⟨Bool.false_ne_true, unreaped_of_unseen sound unseen⟩

theorem ring_of_seen (seen : s.watch.exitSeen = true) :
    s.ring = { s with alarm := .finished } := by
  simp only [ring, Watch.ring, seen, if_true, Bool.false_eq_true, if_false]

theorem ring_of_unseen (unseen : s.watch.exitSeen = false) :
    s.ring = { s with
      alarm := .finished
      watch := { s.watch with alarmRang := true }
      trace := s.trace ++ [.signalled .alarm] } := by
  simp only [ring, Watch.ring, unseen, if_true, Bool.false_eq_true, if_false, note]

theorem ring_sound (sound : s.Sound) : s.ring.Sound := by
  cases unseen : s.watch.exitSeen with
  | true =>
    rw [ring_of_seen unseen]
    exact ⟨sound.orderly, sound.seen, sound.rang, sound.reaped, sound.settled⟩
  | false =>
    rw [ring_of_unseen unseen]
    refine ⟨sound.orderly.concat (allowed_of_unseen sound unseen), ?_, ?_, ?_, sound.settled⟩
    · simp [sound.seen]
    · simp
    · simp [sound.reaped]

theorem idles_ring (unlocked : s.isLocked = false) : s.Idles s.ring := by
  cases unseen : s.watch.exitSeen with
  | true =>
    rw [ring_of_seen unseen]
    exact ⟨rfl, rfl, .rfl, fun _ => rfl⟩
  | false =>
    rw [ring_of_unseen unseen]
    refine ⟨rfl, rfl, .rfl, fun settled => ?_⟩
    simp [unlocked, unseen] at settled

theorem ringIfDue_sound (sound : s.Sound) : s.ringIfDue.Sound := by
  unfold ringIfDue
  split
  · exact ring_sound sound
  · exact sound

theorem idles_ringIfDue : s.Idles s.ringIfDue := by
  unfold ringIfDue
  split
  · rename_i due
    exact idles_ring due.2
  · exact .refl s

theorem happen_sound (sound : s.Sound) (what : Happening) : (s.happen what).Sound := by
  cases what with
  | exits =>
    unfold happen
    dsimp only
    split
    · rename_i running
      refine ⟨sound.orderly, sound.seen, sound.rang, ?_, nofun⟩
      rw [← sound.reaped, running]
      exact iff_of_false nofun nofun
    · exact sound
  | timesOut =>
    unfold happen
    dsimp only
    split
    · exact ⟨sound.orderly, sound.seen, sound.rang, sound.reaped, sound.settled⟩
    · exact sound
  | rings => exact ringIfDue_sound sound

theorem idles_happen (what : Happening) : s.Idles (s.happen what) := by
  cases what with
  | exits =>
    unfold happen
    dsimp only
    split
    · rename_i running
      refine ⟨rfl, rfl, ?_, fun _ => rfl⟩
      rw [running]
      exact iff_of_false nofun nofun
    · exact .refl s
  | timesOut =>
    unfold happen
    dsimp only
    split
    · exact ⟨rfl, rfl, .rfl, fun _ => rfl⟩
    · exact .refl s
  | rings => exact idles_ringIfDue

theorem foldl_happen_sound (sound : s.Sound) (now : List Happening) :
    (now.foldl happen s).Sound ∧ s.Idles (now.foldl happen s) := by
  induction now generalizing s with
  | nil => exact ⟨sound, .refl s⟩
  | cons first rest ih =>
    obtain ⟨later, idles⟩ := ih (happen_sound sound first)
    exact ⟨later, (idles_happen first).trans idles⟩

/-- Whatever happens before an act of the owner leaves the scene sound. -/
theorem elapse_sound (sound : s.Sound) : s.elapse.Sound ∧ s.Idles s.elapse := by
  unfold elapse
  split
  · exact ⟨sound, .refl s⟩
  · rename_i now later _
    have popped : ({ s with meanwhile := later } : Scene).Sound :=
      ⟨sound.orderly, sound.seen, sound.rang, sound.reaped, sound.settled⟩
    obtain ⟨elapsed, idles⟩ := foldl_happen_sound popped now
    exact ⟨elapsed, idles.isLocked, idles.exitSeen, idles.reaped, idles.watch⟩

end Turns

/-- A sound scene, by who holds the lock, whether the end of the process was seen, and whether it was
reaped. -/
structure Stands (locked seen reaped : Bool) (s : Scene) : Prop where
  sound : s.Sound
  isLocked : s.isLocked = locked
  exitSeen : s.watch.exitSeen = seen
  stage : s.stage = .reaped ↔ reaped

section Acts

variable {s : Scene} {locked seen reaped : Bool}

theorem Stands.idle {t : Scene} (stands : s.Stands locked seen reaped) (sound : t.Sound)
    (idles : s.Idles t) :
    t.Stands locked seen reaped ∧ (locked ∨ seen → t.watch = s.watch) := by
  refine ⟨⟨sound, idles.isLocked.trans stands.isLocked, idles.exitSeen.trans stands.exitSeen,
    idles.reaped.trans stands.stage⟩, ?_⟩
  rw [← stands.isLocked, ← stands.exitSeen]
  exact idles.watch

theorem elapse_stands (stands : s.Stands locked seen reaped) :
    s.elapse.Stands locked seen reaped ∧ (locked ∨ seen → s.elapse.watch = s.watch) := by
  obtain ⟨elapsed, idles⟩ := elapse_sound stands.sound
  exact stands.idle elapsed idles

theorem note_stands (stands : s.Stands locked seen reaped) {deed : Deed}
    (allowed : deed.Allowed s.trace)
    (quiet : deed ≠ .exitSeen ∧ deed ≠ .signalled .alarm ∧ deed ≠ .reaped) :
    (s.note deed).Stands locked seen reaped :=
  ⟨note_sound stands.sound allowed quiet, stands.isLocked, stands.exitSeen, stands.stage⟩

theorem unreaped_of_stands (stands : s.Stands locked seen false) : .reaped ∉ s.trace := by
  rw [← stands.sound.reaped, stands.stage]
  exact Bool.false_ne_true

theorem unseen_of_stands (stands : s.Stands locked false reaped) : .exitSeen ∉ s.trace := by
  rw [← stands.sound.seen, stands.exitSeen]
  exact Bool.false_ne_true

theorem seen_of_stands (stands : s.Stands locked true reaped) : .exitSeen ∈ s.trace :=
  stands.sound.seen.mp stands.exitSeen

theorem awaitExit_gives (stands : s.Stands locked seen false) :
    ∃ later, awaitExit.Gives s s.elapse.readings.wall later ∧ later.Stands locked seen false := by
  obtain ⟨elapsed, -⟩ := elapse_stands stands
  have alive : s.elapse.stage ≠ .reaped := fun dead => Bool.false_ne_true (elapsed.stage.mp dead)
  have same : Stage.ended = .reaped ↔ s.elapse.stage = .reaped := iff_of_false nofun alive
  have old := elapsed.sound
  refine ⟨{ s.elapse with stage := .ended }, if_neg alive, ?_⟩
  exact ⟨⟨old.orderly, old.seen, old.rang, same.trans old.reaped, nofun⟩, elapsed.isLocked,
    elapsed.exitSeen, same.trans elapsed.stage⟩

theorem lockWatch_stands (stands : s.Stands false seen reaped) :
    s.lockWatch.2.Stands true seen reaped ∧ s.lockWatch.1 = s.lockWatch.2.watch ∧
      (seen → s.lockWatch.2.watch = s.watch) := by
  obtain ⟨elapsed, kept⟩ := elapse_stands stands
  have old := elapsed.sound
  refine ⟨⟨⟨old.orderly, old.seen, old.rang, old.reaped, old.settled⟩, rfl, elapsed.exitSeen,
    elapsed.stage⟩, rfl, fun seen => kept (.inr seen)⟩

theorem unlockWatch_stands (stands : s.Stands true seen reaped) :
    (s.unlockWatch s.watch).Stands false seen reaped ∧
      (s.unlockWatch s.watch).watch = s.watch := by
  obtain ⟨elapsed, kept⟩ := elapse_stands stands
  have old := elapsed.sound
  have same : s.unlockWatch s.watch = { s.elapse with isLocked := false } := by
    simp only [unlockWatch, kept (.inl rfl), Bool.and_not_self, Bool.false_eq_true, if_false]
  rw [same]
  exact ⟨⟨⟨old.orderly, old.seen, old.rang, old.reaped, old.settled⟩, rfl, elapsed.exitSeen,
    elapsed.stage⟩, kept (.inl rfl)⟩

theorem unlockWatch_seen_stands (stands : s.Stands true false false) :
    (s.unlockWatch s.watch.seeExit.2).Stands false true false ∧
      (s.unlockWatch s.watch.seeExit.2).watch.alarmRang = s.watch.alarmRang := by
  obtain ⟨elapsed, kept⟩ := elapse_stands stands
  have old := elapsed.sound
  have same : s.unlockWatch s.watch.seeExit.2 = { s.elapse with
      trace := s.elapse.trace ++ [.exitSeen]
      watch := { s.elapse.watch with exitSeen := true }
      isLocked := false } := by
    simp only [unlockWatch, Watch.seeExit, kept (.inl rfl), stands.exitSeen, Bool.not_false,
      Bool.and_self, if_true, note]
  have rang : s.elapse.watch.alarmRang = s.watch.alarmRang := by rw [kept (.inl rfl)]
  rw [same]
  refine ⟨⟨⟨old.orderly.concat (unseen_of_stands elapsed), ?_, ?_, ?_, fun _ => rfl⟩, rfl, rfl,
    elapsed.stage⟩, rang⟩
  · simp
  · simp [old.rang]
  · simp [old.reaped]

theorem joinAlarm_stands (stands : s.Stands false true reaped) :
    s.joinAlarm.Stands false true reaped ∧ s.joinAlarm.watch = s.watch := by
  obtain ⟨elapsed, kept⟩ := elapse_stands stands
  have noted : (s.elapse.note (.joined s.elapse.isLocked)).Stands false true reaped :=
    note_stands elapsed elapsed.isLocked ⟨nofun, nofun, nofun⟩
  have idles : (s.elapse.note (.joined s.elapse.isLocked)).Idles _ := idles_ringIfDue
  have old := ringIfDue_sound noted.sound
  refine ⟨⟨⟨old.orderly, old.seen, old.rang, old.reaped, old.settled⟩,
    idles.isLocked.trans noted.isLocked, idles.exitSeen.trans noted.exitSeen,
    idles.reaped.trans noted.stage⟩, ?_⟩
  exact (idles.watch (.inr noted.exitSeen)).trans (kept (.inr rfl))

theorem kill_stands (stands : s.Stands true false false) :
    (s.signal .kill).Stands true false false ∧ (s.signal .kill).watch = s.watch := by
  obtain ⟨elapsed, kept⟩ := elapse_stands stands
  exact ⟨note_stands elapsed ⟨unseen_of_stands elapsed, unreaped_of_stands elapsed⟩
    ⟨nofun, nofun, nofun⟩, kept (.inl rfl)⟩

theorem sweep_stands (stands : s.Stands locked true false) :
    (s.signal .sweep).Stands locked true false ∧ (s.signal .sweep).watch = s.watch := by
  obtain ⟨elapsed, kept⟩ := elapse_stands stands
  exact ⟨note_stands elapsed (unreaped_of_stands elapsed) ⟨nofun, nofun, nofun⟩, kept (.inr rfl)⟩

theorem reap_gives (stands : s.Stands locked true false) :
    ∃ ended later, reap.Gives s ended later ∧ later.Stands locked true true ∧
      later.watch = s.watch := by
  obtain ⟨elapsed, kept⟩ := elapse_stands stands
  have alive : s.elapse.stage ≠ .reaped := fun dead => Bool.false_ne_true (elapsed.stage.mp dead)
  have old := elapsed.sound
  refine ⟨_, { s.elapse.note .reaped with stage := .reaped }, if_neg alive, ?_, kept (.inr rfl)⟩
  refine ⟨⟨old.orderly.concat (seen_of_stands elapsed), ?_, ?_, ?_, fun _ => elapsed.exitSeen⟩,
    elapsed.isLocked, elapsed.exitSeen, iff_of_true rfl rfl⟩
  · simp [note, old.seen]
  · simp [note, old.rang]
  · simp [note]

end Acts
end Scene

namespace LocalProcess

open Scene

variable {s : Supervised Scene} {seen reaped : Bool}

theorem act_gives {α : Type} (act : Scene → α × Scene) (s : Supervised Scene) :
    (LocalProcess.act act).Gives s (act s.kernel).1 { s with kernel := (act s.kernel).2 } := rfl

theorem perform_gives (act : Scene → Scene) (s : Supervised Scene) :
    (perform act).Gives s () { s with kernel := act s.kernel } := rfl

theorem onKernel_gives {α : Type} {work : Work Scene α} {a : α} {later : Scene}
    (gives : work.Gives s.kernel a later) :
    (onKernel work).Gives s a { s with kernel := later } := by
  rw [Work.Gives, onKernel, Work.runOn_within, gives]

/-- A process that was not waited for can be waited for: its end is seen before it is reaped, and
the report tells whether the alarm had ended it. -/
theorem awaitReport_gives (stands : s.kernel.Stands false false false) :
    ∃ report later, (awaitReport control).Gives s report later ∧
      later.kernel.Stands false true true ∧ later.process.report = some report ∧
      report.wallLimitExceeded = later.kernel.watch.alarmRang := by
  obtain ⟨ended, exits, standsEnded⟩ := awaitExit_gives stands
  obtain ⟨standsLocked, found, -⟩ := lockWatch_stands standsEnded
  obtain ⟨standsSeen, rang⟩ := unlockWatch_seen_stands standsLocked
  obtain ⟨standsJoined, joined⟩ := joinAlarm_stands standsSeen
  obtain ⟨standsSwept, swept⟩ := sweep_stands standsJoined
  obtain ⟨⟨ending, usage⟩, gone, reaps, standsGone, kept⟩ := reap_gives standsSwept
  let report := s.process.buildReport ending usage s.kernel.elapse.readings.wall
    ended.lockWatch.1.alarmRang
  refine ⟨report, ⟨gone, { s.process with report := some report }⟩, ?_, standsGone, rfl, ?_⟩
  · have exits' : (control.awaitExit s.process.job).Gives s.kernel _ ended := exits
    have reaps' : (control.reap s.process.job).Gives _ (ending, usage) gone := reaps
    rw [Work.Gives, awaitReport, Work.runOn_bind, Work.runOn_get]
    dsimp only
    rw [Work.runOn_bind_of_gives (onKernel_gives exits'),
      Work.runOn_bind_of_gives (act_gives _ _), Work.runOn_bind_of_gives (perform_gives _ _),
      Work.runOn_bind_of_gives (perform_gives _ _), Work.runOn_bind_of_gives (perform_gives _ _),
      Work.runOn_bind_of_gives (onKernel_gives reaps')]
    rfl
  · change ended.lockWatch.1.alarmRang = gone.watch.alarmRang
    rw [kept, swept, joined, rang, found]

/-- A process between two calls of its owner: not waited for, or reaped with a report that tells
whether its alarm had ended it. -/
inductive Steady (s : Supervised Scene) : Prop where
  | unreported (missing : s.process.report = none) (stands : s.kernel.Stands false false false)
  | reported (report : ProcessReport) (present : s.process.report = some report)
      (stands : s.kernel.Stands false true true)
      (told : report.wallLimitExceeded = s.kernel.watch.alarmRang)

theorem wait_gives (steady : Steady s) :
    ∃ report later, (wait control).Gives s report later ∧ Steady later ∧
      later.process.report = some report := by
  cases steady with
  | unreported missing stands =>
    obtain ⟨report, later, gives, standsLater, present, told⟩ := awaitReport_gives stands
    refine ⟨report, later, ?_, .reported report present standsLater told, present⟩
    rw [Work.Gives, wait, Work.runOn_bind, Work.runOn_get]
    simp only [missing]
    exact gives
  | reported report present stands told =>
    refine ⟨report, s, ?_, .reported report present stands told, present⟩
    rw [Work.Gives, wait, Work.runOn_bind, Work.runOn_get]
    simp only [present, Work.runOn_pure]

theorem Steady.idle {t : Supervised Scene} (steady : Steady s)
    (same : t.process.report = s.process.report) (sound : t.kernel.Sound)
    (idles : s.kernel.Idles t.kernel) : Steady t := by
  cases steady with
  | unreported missing stands =>
    exact .unreported (same.trans missing) (stands.idle sound idles).1
  | reported report present stands told =>
    obtain ⟨standsLater, kept⟩ := stands.idle sound idles
    refine .reported report (same.trans present) standsLater ?_
    rw [kept (.inr rfl), told]

theorem Steady.sound (steady : Steady s) : s.kernel.Sound := by
  cases steady with
  | unreported missing stands => exact stands.sound
  | reported report present stands told => exact stands.sound

theorem Steady.elapse (steady : Steady s) {process : LocalProcess}
    (same : process.report = s.process.report) : Steady ⟨s.kernel.elapse, process⟩ := by
  obtain ⟨elapsed, idles⟩ := elapse_sound steady.sound
  exact steady.idle same elapsed idles

theorem wait_maintains : (wait control).Maintains Steady := by
  intro s steady
  obtain ⟨report, later, gives, steadyLater, -⟩ := wait_gives steady
  rw [gives]
  exact steadyLater

theorem takeOutput_maintains (limit : Nat) : (takeOutput control limit).Maintains Steady := by
  intro s steady
  rw [takeOutput, Work.runOn_bind, Work.runOn_get]
  dsimp only
  split
  · exact steady.elapse rfl
  · exact steady

theorem takeDiagnostics_maintains : (takeDiagnostics control).Maintains Steady := by
  intro s steady
  rw [takeDiagnostics, Work.runOn_bind, Work.runOn_get]
  dsimp only
  split
  · exact steady.elapse rfl
  · exact steady

theorem communicate_maintains (outLimit errLimit : Nat) :
    (communicate control outLimit errLimit).Maintains Steady := by
  refine (takeOutput_maintains outLimit).bind fun output => ?_
  split
  · exact Work.maintains_pure _
  · refine wait_maintains.bind fun _ => takeDiagnostics_maintains.bind fun _ => ?_
    exact Work.maintains_pure _

theorem kill_steady (steady : Steady s) : Steady (kill control s) := by
  cases steady with
  | unreported missing stands =>
    obtain ⟨standsLocked, found, -⟩ := lockWatch_stands stands
    have allowed : s.kernel.lockWatch.1.allowsKill = true := by
      rw [found, Watch.allowsKill, standsLocked.exitSeen, Bool.not_false]
    obtain ⟨standsKilled, kept⟩ := kill_stands standsLocked
    obtain ⟨standsFree, -⟩ := unlockWatch_stands standsKilled
    refine .unreported missing ?_
    have killed : (kill control s).kernel =
        (s.kernel.lockWatch.2.signal .kill).unlockWatch s.kernel.lockWatch.1 := by
      change Scene.unlockWatch _ (if s.kernel.lockWatch.1.allowsKill then _ else _) = _
      rw [if_pos allowed]
      rfl
    rw [killed, found, ← kept]
    exact standsFree
  | reported report present stands told =>
    obtain ⟨standsLocked, found, kept⟩ := lockWatch_stands stands
    have refused : ¬s.kernel.lockWatch.1.allowsKill = true := by
      rw [found, Watch.allowsKill, standsLocked.exitSeen, Bool.not_true]
      exact Bool.false_ne_true
    obtain ⟨standsFree, same⟩ := unlockWatch_stands standsLocked
    have spared : (kill control s).kernel =
        s.kernel.lockWatch.2.unlockWatch s.kernel.lockWatch.1 := by
      change Scene.unlockWatch _ (if s.kernel.lockWatch.1.allowsKill then _ else _) = _
      rw [if_neg refused]
      rfl
    refine .reported report present ?_ ?_
    · rw [spared, found]
      exact standsFree
    · rw [spared, found, same, kept rfl, told]

theorem markOutput_steady (steady : Steady s) : Steady (markOutput s) := by
  cases steady with
  | unreported missing stands =>
    exact .unreported (congrArg (Option.map _) missing) stands
  | reported report present stands told =>
    exact .reported { report with outputLimitExceeded := true }
      (congrArg (Option.map _) present) stands told

theorem release_steady (steady : Steady s) : Steady (release control s) := by
  refine takeDiagnostics_maintains _ ?_
  split
  · exact steady
  · refine wait_maintains _ ?_
    have killed := kill_steady steady
    dsimp only
    split
    · exact killed.elapse rfl
    · exact killed

theorem call_steady (steady : Steady s) (call : OwnerCall) : Steady (call.run s) := by
  cases call with
  | wait => exact wait_maintains s steady
  | communicate outLimit errLimit => exact communicate_maintains outLimit errLimit s steady
  | readStderr =>
    exact (takeDiagnostics_maintains.bind fun _ => Work.maintains_pure _) s steady
  | kill => exact kill_steady steady
  | markOutput => exact markOutput_steady steady
  | drop => exact release_steady steady

theorem step_steady (steady : Steady s) (step : InterleavingStep) : Steady (step.run s) := by
  cases step with
  | happens what =>
    exact steady.idle rfl (happen_sound steady.sound what) (idles_happen what)
  | calls call => exact call_steady steady call

theorem launched_steady (job : JobId) (spec : LaunchSpec) (meanwhile : List (List Happening))
    (readings : Readings) :
    Steady ⟨.launched spec meanwhile readings, .start job spec⟩ :=
  .unreported rfl ⟨⟨orderly_nil, iff_of_false Bool.false_ne_true List.not_mem_nil,
    iff_of_false Bool.false_ne_true List.not_mem_nil, iff_of_false nofun List.not_mem_nil, nofun⟩,
    rfl, rfl, iff_of_false nofun Bool.false_ne_true⟩

theorem runInterleaving_steady (steady : Steady s) (steps : List InterleavingStep) :
    Steady (runInterleaving steps s) := by
  induction steps generalizing s with
  | nil => exact steady
  | cons step rest ih => exact ih (step_steady steady step)

/-- In an orderly trace the alarm has rung only before the end was seen. -/
theorem rang_iff_before_exitSeen {trace : List Deed} (orderly : Orderly trace)
    (seen : .exitSeen ∈ trace) : .signalled .alarm ∈ trace ↔
      ∃ past future, trace = past ++ .exitSeen :: future ∧ .signalled .alarm ∈ past := by
  constructor
  · intro rang
    obtain ⟨past, future, split⟩ := List.append_of_mem seen
    refine ⟨past, future, split, ?_⟩
    rw [split, List.mem_append, List.mem_cons] at rang
    rcases rang with before | same | after
    · exact before
    · cases same
    · obtain ⟨between, rest, rfl⟩ := List.append_of_mem after
      have late : trace = (past ++ .exitSeen :: between) ++ .signalled .alarm :: rest := by
        rw [split, List.append_assoc, List.cons_append]
      have early := (orderly _ _ _ late).1
      exact absurd (List.mem_append_right past List.mem_cons_self) early
  · rintro ⟨past, future, rfl, before⟩
    exact List.mem_append_left _ before

/-- However the calls of its owner, the turn of its alarm and the end of a process interleave: the
alarm and a kill signal it only until its end was seen, nothing signals it once it is reaped, the
owner never holds the lock while it waits for the alarm, and a report blames the alarm just if that
signalled before the end was seen. Waiting always comes to a report. -/
theorem signals_only_before_reaping (job : JobId) (spec : LaunchSpec)
    (meanwhile : List (List Happening)) (readings : Readings) (steps : List InterleavingStep) :
    let s := runInterleaving steps ⟨.launched spec meanwhile readings, .start job spec⟩
    (∀ past deed future, s.kernel.trace = past ++ deed :: future →
      (deed = .signalled .alarm ∨ deed = .signalled .kill → .exitSeen ∉ past) ∧
      (∀ sender, deed = .signalled sender → .reaped ∉ past) ∧
      ∀ locked, deed = .joined locked → locked = false) ∧
    (∀ report, s.process.report = some report →
      (report.wallLimitExceeded ↔ ∃ past future,
        s.kernel.trace = past ++ .exitSeen :: future ∧ .signalled .alarm ∈ past)) ∧
    ∃ report later, (wait control).Gives s report later ∧ later.process.report = some report := by
  intro s
  have steady : Steady s :=
    runInterleaving_steady (launched_steady job spec meanwhile readings) steps
  refine ⟨?_, ?_, ?_⟩
  · intro past deed future split
    have allowed := steady.sound.orderly past deed future split
    refine ⟨?_, ?_, ?_⟩
    · rintro (rfl | rfl)
      · exact allowed.1
      · exact allowed.1
    · rintro (_ | _ | _) rfl
      · exact allowed.2
      · exact allowed.2
      · exact allowed
    · rintro locked rfl
      exact allowed
  · intro report present
    cases steady with
    | unreported missing stands =>
      rw [missing] at present
      cases present
    | reported report' present' stands told =>
      obtain rfl : report' = report := Option.some.inj (present'.symm.trans present)
      rw [told, stands.sound.rang]
      exact rang_iff_before_exitSeen stands.sound.orderly (seen_of_stands stands)
  · obtain ⟨report, later, gives, -, present⟩ := wait_gives steady
    exact ⟨report, later, gives, present⟩

def waitedFor (meanwhile : List (List Happening)) : Supervised Scene :=
  let spec := { LaunchSpec.limited .zero 0 with wallTime := some .zero }
  runInterleaving [.calls .wait]
    ⟨.launched spec meanwhile ⟨.zero, .exited 0, ⟨.zero, 0⟩, [], []⟩, .start 0 spec⟩

-- The alarm ends the process and is blamed; or its time comes between the end and the join.
example : (waitedFor [[.timesOut, .rings]]).kernel.trace =
    [.signalled .alarm, .exitSeen, .joined false, .signalled .sweep, .reaped] := by decide

example : (waitedFor [[.exits], [], [.timesOut]]).kernel.trace =
    [.exitSeen, .joined false, .signalled .sweep, .reaped] := by decide

end LocalProcess
end ContestJudge

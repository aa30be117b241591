import ContestJudge.Proofs.Histories
import ContestJudge.Proofs.ProcessOutcomes
import ContestJudge.Sandbox.Interleaving

namespace ContestJudge

inductive HandleStep (σ : Type) where
  | wait
  | communicate (outLimit errLimit : Nat)
  | readStderr
  | kill
  | markOutput
  | meanwhile (change : σ → σ)

inductive HandleEvent where
  | waited (answer : Except Fault ProcessReport)
  | communicated (outLimit errLimit : Nat) (answer : Except Fault CapturedOutput)
  | stderrRead (answer : Except Fault Bytes)
  | killed
  | marked

namespace HandleEvent

def isMark : HandleEvent → Bool
  | .marked => true
  | _ => false

def isCommunicate : HandleEvent → Bool
  | .communicated .. => true
  | _ => false

/-- The process was waited for: in so many words, or for its output, which was not cut. -/
def endsWait : HandleEvent → Bool
  | .waited (.ok _) => true
  | .communicated _ _ (.ok output) => !output.isTruncated
  | _ => false

def Agrees (report : ProcessReport) (arrived : Bytes) (past : List HandleEvent) : HandleEvent → Prop
  | .waited (.ok answer) => answer = report.markedIf (past.any isMark)
  | .communicated _ errLimit (.ok output) =>
    let kept := arrived.take stderrLimit
    (past.any isCommunicate = true → output.stdout = []) ∧
    (output.isTruncated = false → output.stderr = kept.take errLimit ∧
      (output.stderrIntegrity = .truncatedByJudgeLimit ↔
        output.stderr.length < kept.length ∨ stderrLimit < arrived.length))
  | .waited (.error _) | .communicated _ _ (.error _) => past.any endsWait = false
  | .stderrRead answer => answer = .ok (arrived.take stderrLimit)
  | .killed | .marked => True

end HandleEvent

structure HandleCourse (σ : Type) where
  now : Supervised σ
  history : List HandleEvent

namespace HandleCourse

variable {σ : Type}

def launched (kernel : σ) (job : JobId) (spec : LaunchSpec) : HandleCourse σ :=
  ⟨⟨kernel, .start job spec⟩, []⟩

def note (event : HandleEvent) (now : Supervised σ) (s : HandleCourse σ) : HandleCourse σ :=
  ⟨now, s.history ++ [event]⟩

def step (control : JobControl σ) (s : HandleCourse σ) : HandleStep σ → HandleCourse σ
  | .wait =>
    let (answer, now) := (LocalProcess.wait control).runOn s.now
    s.note (.waited answer) now
  | .communicate outLimit errLimit =>
    let (answer, now) := (LocalProcess.communicate control outLimit errLimit).runOn s.now
    s.note (.communicated outLimit errLimit answer) now
  | .readStderr =>
    let (answer, now) := (LocalProcess.readStderr control).runOn s.now
    s.note (.stderrRead answer) now
  | .kill => s.note .killed (LocalProcess.kill control s.now)
  | .markOutput => s.note .marked (LocalProcess.markOutput s.now)
  | .meanwhile change => { s with now := { s.now with kernel := change s.now.kernel } }

def run (control : JobControl σ) (s : HandleCourse σ) (steps : List (HandleStep σ)) :
    HandleCourse σ := steps.foldl (step control) s

end HandleCourse

section Knowledge

variable {σ : Type} (control : JobControl σ) (job : JobId) (spec : LaunchSpec)

def JobControl.Arrives (arrived : Bytes) : Prop :=
  (spec.stderr = .piped →
    ∃ state, arrived = ReadOutcome.delivered (control.readDiagnostics job state).1) ∧
  (spec.stderr ≠ .piped → arrived = [])

namespace LocalProcess

/-- What is on file of a process fits a report, and what arrives on its stderr. -/
structure Fits (report : ProcessReport) (arrived : Bytes) (p : LocalProcess) : Prop where
  filed : ∀ filed, p.report = some filed → filed = report.markedIf p.marked
  heard : p.diagnosticsOpen = false → p.heard.Takes stderrLimit arrived

structure Credible (p : LocalProcess) : Prop where
  isOf : p.job = job
  collects : p.diagnosticsOpen = true → spec.stderr = .piped
  fits : ∃ report arrived, control.Arrives job spec arrived ∧ p.Fits report arrived

variable {control job spec} {report : ProcessReport} {arrived : Bytes} {p : LocalProcess}

theorem arrives_of_piped (piped : spec.stderr = .piped) (state : σ) :
    control.Arrives job spec (ReadOutcome.delivered (control.readDiagnostics job state).1) :=
  ⟨fun _ => ⟨state, rfl⟩, fun unpiped => absurd piped unpiped⟩

theorem credible_start (kernel : σ) : (start job spec).Credible control job spec where
  isOf := rfl
  collects collected := eq_of_beq collected
  fits := by
    by_cases piped : spec.stderr = .piped
    · refine ⟨default, _, arrives_of_piped piped kernel, ?_, ?_⟩
      · intro filed reported
        simp [start] at reported
      · intro closed
        simp [start, piped] at closed
    · refine ⟨default, [], ⟨fun collected => absurd collected piped, fun _ => rfl⟩, ?_, ?_⟩
      · intro filed reported
        simp [start] at reported
      · intro closed
        constructor
        · rfl
        · simp [start, heard, CapturedStream.empty]

theorem Fits.of_closed (fits : Fits report arrived { p with outputOpen := false }) :
    p.Fits report arrived := ⟨fits.filed, fits.heard⟩

theorem Credible.close (credible : p.Credible control job spec) :
    Credible control job spec { p with outputOpen := false } where
  isOf := credible.isOf
  collects := credible.collects
  fits := by
    obtain ⟨report, arrived, arrives, fits⟩ := credible.fits
    exact ⟨report, arrived, arrives, fits.filed, fits.heard⟩

theorem Fits.of_filed {filed : ProcessReport}
    (fits : Fits report arrived { p with report := some filed })
    (origin : p.report = some filed ∨ p.report = none ∧ filed.outputLimitExceeded = p.marked) :
    p.Fits report arrived ∧ filed = report.markedIf p.marked := by
  have same : filed = report.markedIf p.marked := fits.filed filed rfl
  refine ⟨⟨?_, fits.heard⟩, same⟩
  intro other reported
  rcases origin with earlier | ⟨unfiled, -⟩
  · rw [earlier] at reported
    cases reported
    exact same
  · rw [unfiled] at reported
    cases reported

theorem Credible.file (credible : p.Credible control job spec) {filed : ProcessReport}
    (origin : p.report = some filed ∨ p.report = none ∧ filed.outputLimitExceeded = p.marked) :
    Credible control job spec { p with report := some filed } where
  isOf := credible.isOf
  collects := credible.collects
  fits := by
    obtain ⟨report, arrived, arrives, fits⟩ := credible.fits
    rcases origin with earlier | ⟨-, excess⟩
    · refine ⟨report, arrived, arrives, ?_, fits.heard⟩
      intro other same
      cases same
      exact fits.filed filed earlier
    · refine ⟨filed, arrived, arrives, ?_, fits.heard⟩
      intro other same
      cases same
      rw [← excess]
      rfl

theorem Fits.of_taken {taken : Option CapturedStream}
    (fits : Fits report arrived { p with diagnosticsOpen := false, diagnostics := taken })
    (kept : p.diagnosticsOpen = false → taken.getD .empty = p.heard) :
    p.Fits report arrived ∧ (taken.getD .empty).Takes stderrLimit arrived := by
  have takes : (taken.getD .empty).Takes stderrLimit arrived := fits.heard rfl
  refine ⟨⟨fits.filed, ?_⟩, takes⟩
  intro closed
  rw [← kept closed]
  exact takes

theorem Credible.take (credible : p.Credible control job spec) {taken : Option CapturedStream}
    {state : σ} (kept : p.diagnosticsOpen = false → taken.getD .empty = p.heard)
    (read : p.diagnosticsOpen = true → (taken.getD .empty).Takes stderrLimit
      (ReadOutcome.delivered (control.readDiagnostics p.job state).1)) :
    Credible control job spec { p with diagnosticsOpen := false, diagnostics := taken } where
  isOf := credible.isOf
  collects := by simp
  fits := by
    obtain ⟨report, arrived, arrives, fits⟩ := credible.fits
    cases opened : p.diagnosticsOpen with
    | true =>
      have takes := read opened
      rw [credible.isOf] at takes
      exact ⟨report, _, arrives_of_piped (credible.collects opened) state, fits.filed,
        fun _ => takes⟩
    | false =>
      refine ⟨report, arrived, arrives, fits.filed, fun _ => ?_⟩
      have takes := fits.heard opened
      rw [← kept opened] at takes
      exact takes

theorem Fits.of_markOutput {s : Supervised σ} (credible : s.process.Credible control job spec)
    (fits : (markOutput s).process.Fits report arrived) : s.process.Fits report arrived := by
  refine ⟨?_, fits.heard⟩
  intro filed reported
  obtain ⟨first, _, -, known⟩ := credible.fits
  have excess : filed.outputLimitExceeded = s.process.marked := by
    rw [known.filed filed reported]
    rfl
  have same : filed.markedIf true = report.markedIf true := by
    apply fits.filed
    simp [markOutput, reported, ProcessReport.markedIf]
  calc
    filed = (filed.markedIf true).markedIf filed.outputLimitExceeded := rfl
    _ = report.markedIf s.process.marked := by
      rw [same, excess]
      rfl

theorem Credible.markOutput {s : Supervised σ} (credible : s.process.Credible control job spec) :
    (LocalProcess.markOutput s).process.Credible control job spec where
  isOf := credible.isOf
  collects := credible.collects
  fits := by
    obtain ⟨report, arrived, arrives, fits⟩ := credible.fits
    refine ⟨report, arrived, arrives, ?_, fits.heard⟩
    intro filed marked
    obtain ⟨earlier, reported, rfl⟩ := Option.map_eq_some_iff.mp marked
    rw [fits.filed earlier reported]
    rfl

end LocalProcess

namespace HandleCourse

open HandleEvent

structure Sound (s : HandleCourse σ) : Prop where
  credible : s.now.process.Credible control job spec
  marked : s.now.process.marked = s.history.any isMark
  ended : s.now.process.report.isSome = s.history.any endsWait
  spoken : s.history.any isCommunicate = true → s.now.process.outputOpen = false
  lawful : ∀ report arrived, s.now.process.Fits report arrived →
    Lawful (Agrees report arrived) s.history

/-- A sound course, on which all that fits now has fitted before. -/
structure Follows (s t : HandleCourse σ) : Prop where
  sound : t.Sound control job spec
  fits : ∀ report arrived, t.now.process.Fits report arrived → s.now.process.Fits report arrived

variable {control job spec} {s : HandleCourse σ}

theorem sound_launched (kernel : σ) : (launched kernel job spec).Sound control job spec where
  credible := LocalProcess.credible_start kernel
  marked := rfl
  ended := rfl
  spoken := by simp [launched]
  lawful _ _ _ := lawful_nil

theorem Sound.note (sound : s.Sound control job spec) {event : HandleEvent} {now : Supervised σ}
    (credible : now.process.Credible control job spec)
    (marked : now.process.marked = (s.now.process.marked || event.isMark))
    (ended : now.process.report.isSome = (s.now.process.report.isSome || event.endsWait))
    (spoken : s.now.process.outputOpen = false ∨ event.isCommunicate = true →
      now.process.outputOpen = false)
    (fits : ∀ report arrived, now.process.Fits report arrived →
      s.now.process.Fits report arrived ∧ event.Agrees report arrived s.history) :
    Follows control job spec s (s.note event now) where
  sound := {
    credible := credible
    marked := by simp [HandleCourse.note, marked, sound.marked]
    ended := by simp [HandleCourse.note, ended, sound.ended]
    spoken := by
      intro communicated
      apply spoken
      have before : s.history.any isCommunicate = true ∨ event.isCommunicate = true := by
        simpa [HandleCourse.note] using communicated
      rcases before with earlier | this
      · exact .inl (sound.spoken earlier)
      · exact .inr this
    lawful := by
      intro report arrived fit
      obtain ⟨fitted, agrees⟩ := fits report arrived fit
      exact (sound.lawful report arrived fitted).concat agrees }
  fits report arrived fit := (fits report arrived fit).1

theorem Sound.wait (sound : s.Sound control job spec) :
    Follows control job spec s (s.step control .wait) := by
  rcases LocalProcess.wait_outcome control s.now with
    ⟨filed, kernel, gives, origin⟩ | ⟨fault, kernel, stops, unfiled⟩
  · have ran : (LocalProcess.wait control).runOn s.now = _ := gives
    simp only [step, ran]
    refine sound.note (sound.credible.file origin) ?_ ?_ ?_ ?_
    · simp [isMark]
    · simp [endsWait]
    · simp [isCommunicate]
    · intro report arrived fits
      obtain ⟨fitted, same⟩ := fits.of_filed origin
      rw [sound.marked] at same
      exact ⟨fitted, same⟩
  · have ran : (LocalProcess.wait control).runOn s.now = _ := stops
    simp only [step, ran]
    refine sound.note sound.credible ?_ ?_ ?_ ?_
    · simp [isMark]
    · simp [endsWait]
    · simp [isCommunicate]
    · intro report arrived fits
      have unended : s.history.any endsWait = false := by
        rw [← sound.ended, unfiled]
        rfl
      exact ⟨fits, unended⟩

theorem Sound.communicate (sound : s.Sound control job spec) (outLimit errLimit : Nat) :
    Follows control job spec s (s.step control (.communicate outLimit errLimit)) := by
  obtain ⟨output, kernel, takes, first⟩ := LocalProcess.takeOutput_outcome control outLimit s.now
  have silent : s.history.any isCommunicate = true → output = .empty := by
    intro communicated
    exact first (sound.spoken communicated)
  have credible := sound.credible.close
  by_cases cut : output.integrity = .truncatedByJudgeLimit
  · have ran := LocalProcess.communicate_of_cut errLimit takes cut
    simp only [step, ran]
    refine sound.note credible ?_ ?_ ?_ ?_
    · simp [isMark]
    · simp [endsWait, CapturedOutput.isTruncated, cut]
    · simp
    · intro report arrived fits
      refine ⟨fits.of_closed, ?_, ?_⟩
      · intro communicated
        rw [silent communicated] at cut
        simp [CapturedStream.empty] at cut
      · intro whole
        simp [CapturedOutput.isTruncated, cut] at whole
  · let closed : LocalProcess := { s.now.process with outputOpen := false }
    rcases LocalProcess.wait_outcome control ⟨kernel, closed⟩ with
      ⟨filed, later, waits, origin⟩ | ⟨fault, later, stops, unfiled⟩
    · obtain ⟨captured, last, taken, reads, rfl, kept, read⟩ :=
        LocalProcess.takeDiagnostics_outcome control ⟨later, { closed with report := some filed }⟩
      have ran := LocalProcess.communicate_of_ended errLimit takes cut waits reads
      simp only [step, ran]
      refine sound.note ((credible.file origin).take kept read) ?_ ?_ ?_ ?_
      · simp [closed, isMark]
      · simp [endsWait, CapturedOutput.isTruncated, cut]
      · simp [closed]
      · intro report arrived fits
        obtain ⟨fitted, takes⟩ := fits.of_taken kept
        obtain ⟨fitted, -⟩ := fitted.of_filed origin
        refine ⟨fitted.of_closed, ?_, ?_⟩
        · intro communicated
          rw [silent communicated]
          rfl
        · intro _
          rw [← takes.data]
          exact ⟨LocalProcess.data_shorten _ errLimit, LocalProcess.cut_shorten takes errLimit⟩
    · have ran := LocalProcess.communicate_of_unended errLimit takes cut stops
      simp only [step, ran]
      refine sound.note credible ?_ ?_ ?_ ?_
      · simp [closed, isMark]
      · simp [closed, endsWait]
      · simp [closed]
      · intro report arrived fits
        have unended : s.history.any endsWait = false := by
          rw [← sound.ended, unfiled]
          rfl
        exact ⟨fits.of_closed, unended⟩

theorem Sound.readStderr (sound : s.Sound control job spec) :
    Follows control job spec s (s.step control .readStderr) := by
  obtain ⟨captured, kernel, taken, reads, rfl, kept, read⟩ :=
    LocalProcess.takeDiagnostics_outcome control s.now
  have ran := LocalProcess.runOn_readStderr reads
  simp only [step, ran]
  refine sound.note (sound.credible.take kept read) ?_ ?_ ?_ ?_
  · simp [isMark]
  · simp [endsWait]
  · simp [isCommunicate]
  · intro report arrived fits
    obtain ⟨fitted, takes⟩ := fits.of_taken kept
    exact ⟨fitted, congrArg Except.ok takes.data⟩

theorem Sound.markOutput (sound : s.Sound control job spec) :
    Follows control job spec s (s.step control .markOutput) := by
  refine sound.note sound.credible.markOutput ?_ ?_ ?_ ?_
  · simp [LocalProcess.markOutput, isMark]
  · simp [LocalProcess.markOutput, endsWait]
  · simp [LocalProcess.markOutput, isCommunicate]
  · intro report arrived fits
    exact ⟨fits.of_markOutput sound.credible, trivial⟩

theorem Sound.kill (sound : s.Sound control job spec) :
    Follows control job spec s (s.step control .kill) := by
  refine sound.note sound.credible ?_ ?_ ?_ ?_
  · simp [LocalProcess.kill, isMark]
  · simp [LocalProcess.kill, endsWait]
  · simp [LocalProcess.kill, isCommunicate]
  · intro report arrived fits
    exact ⟨fits, trivial⟩

theorem Sound.meanwhile (sound : s.Sound control job spec) (change : σ → σ) :
    Follows control job spec s (s.step control (.meanwhile change)) where
  sound := ⟨sound.credible, sound.marked, sound.ended, sound.spoken, sound.lawful⟩
  fits _ _ fits := fits

theorem Sound.step (sound : s.Sound control job spec) (next : HandleStep σ) :
    Follows control job spec s (s.step control next) := by
  cases next with
  | wait => exact sound.wait
  | communicate outLimit errLimit => exact sound.communicate outLimit errLimit
  | readStderr => exact sound.readStderr
  | kill => exact sound.kill
  | markOutput => exact sound.markOutput
  | meanwhile change => exact sound.meanwhile change

theorem Sound.run (sound : s.Sound control job spec) (steps : List (HandleStep σ)) :
    Follows control job spec s (s.run control steps) := by
  induction steps generalizing s with
  | nil => exact ⟨sound, fun _ _ fits => fits⟩
  | cons next rest ih =>
    have first := sound.step next
    have later := ih first.sound
    exact ⟨later.sound, fun report arrived fits => first.fits _ _ (later.fits report arrived fits)⟩

theorem Sound.report_eq (sound : s.Sound control job spec) {report : ProcessReport}
    {arrived : Bytes} (fits : s.now.process.Fits report arrived) :
    s.now.process.report =
      if s.history.any endsWait then some (report.markedIf (s.history.any isMark)) else none := by
  rw [← sound.ended, ← sound.marked]
  cases filed : s.now.process.report with
  | none => rfl
  | some earlier =>
    rw [fits.filed earlier filed]
    rfl

omit s in
/-- A mark that is made now is the same as one that is made after the next step. -/
theorem now_step_markOutput {s t : HandleCourse σ} (marked : t.now = LocalProcess.markOutput s.now)
    (next : HandleStep σ) :
    (t.step control next).now = LocalProcess.markOutput (s.step control next).now := by
  cases next with
  | wait =>
    have same := LocalProcess.runOn_wait_markOutput control s.now
    rw [← marked] at same
    exact congrArg Prod.snd same
  | communicate outLimit errLimit =>
    exact (LocalProcess.blind_communicate outLimit errLimit s.now t.now marked.symm).2.symm
  | readStderr => exact (LocalProcess.blind_readStderr s.now t.now marked.symm).2.symm
  | kill =>
    simp only [step, note, marked]
    rfl
  | markOutput =>
    simp only [step, note, marked]
  | meanwhile change =>
    simp only [step, marked]
    rfl

theorem now_run_markOutput {s t : HandleCourse σ} (marked : t.now = LocalProcess.markOutput s.now)
    (steps : List (HandleStep σ)) :
    (t.run control steps).now = LocalProcess.markOutput (s.run control steps).now := by
  induction steps generalizing s t with
  | nil => exact marked
  | cons next rest ih => exact ih (now_step_markOutput marked next)

end HandleCourse
end Knowledge

/-- In whatever order a handle is asked, and whatever the kernel does meanwhile, there are a report
and some bytes of stderr that all answers agree with. The report is on file from the first wait on,
and is marked from the first mark on; it ends up the same wherever the marks are made. What is kept
of stderr is given whole to each who asks for it, and a first part of it with each output that is
not cut; that part is marked as cut if there is more of what is kept, or if more arrived than is
kept. Only the first who asks for stdout gets some. -/
theorem HandleCourse.answers_agree {σ : Type} (control : JobControl σ) (kernel : σ) (job : JobId)
    (spec : LaunchSpec) (steps : List (HandleStep σ)) :
    let course := fun done => (launched kernel job spec).run control done
    (∃ report arrived, control.Arrives job spec arrived ∧
      Lawful (HandleEvent.Agrees report arrived) (course steps).history ∧
      ∀ earlier later, steps = earlier ++ later →
        (course earlier).now.process.report =
          if (course earlier).history.any HandleEvent.endsWait then
            some (report.markedIf ((course earlier).history.any HandleEvent.isMark))
          else none) ∧
    ∀ earlier later, steps = earlier ++ .markOutput :: later →
      (course steps).now = LocalProcess.markOutput (course (earlier ++ later)).now := by
  intro course
  have begins : (launched kernel job spec).Sound control job spec := sound_launched kernel
  constructor
  · have ends := (begins.run steps).sound
    obtain ⟨report, arrived, arrives, fits⟩ := ends.credible.fits
    refine ⟨report, arrived, arrives, ends.lawful report arrived fits, ?_⟩
    intro earlier later split
    have sound := (begins.run earlier).sound
    have rest : course steps = (course earlier).run control later := by
      simp only [course, split, run, List.foldl_append]
    have follows := sound.run later
    rw [← rest] at follows
    exact sound.report_eq (follows.fits report arrived fits)
  · intro earlier later split
    have first : course steps =
        ((course earlier).step control .markOutput).run control later := by
      simp only [course, split, run, List.foldl_append, List.foldl_cons]
    have second : course (earlier ++ later) = (course earlier).run control later := by
      simp only [course, run, List.foldl_append]
    rw [first, second]
    exact now_run_markOutput rfl later

namespace Sample

def torrent : List Bytes := List.replicate 128 (List.replicate 8192 0) ++ [[0]]

theorem length_flatten_torrent : torrent.flatten.length = stderrLimit + 1 := by
  rw [torrent, List.flatten_append, List.flatten_replicate_replicate, List.length_append,
    List.length_replicate]
  rfl

theorem delivered_torrent : ReadOutcome.delivered (torrent.map .chunk) = torrent.flatten := by
  apply ReadOutcome.delivered_map_chunk
  intro part listed
  rcases List.mem_append.mp listed with body | last
  · rw [List.eq_of_mem_replicate body]
    apply List.ne_nil_of_length_pos
    rw [List.length_replicate]
    decide
  · rw [List.mem_singleton.mp last]
    simp

def floodingLaunch : LaunchSpec := { LaunchSpec.limited .zero 0 with stdout := .piped }

def flooding : Supervised Scene where
  kernel := .launched floodingLaunch []
    ⟨.zero, .exited 0, ⟨.zero, 0⟩, [.chunk []], torrent.map .chunk⟩
  process := .start 0 floodingLaunch

end Sample

/-- An output can come with all that is kept of stderr, and that be marked as cut all the same. -/
theorem HandleCourse.marks_whole_stderr :
    ∃ output, ((HandleCourse.mk Sample.flooding []).run Scene.control
        [.communicate 1 stderrLimit, .readStderr]).history =
      [.communicated 1 stderrLimit (.ok output), .stderrRead (.ok output.stderr)] ∧
      output.isTruncated = false ∧ output.stderrIntegrity = .truncatedByJudgeLimit := by
  let silent : Supervised Scene :=
    { Sample.flooding with process := { Sample.flooding.process with outputOpen := false } }
  have takes : (LocalProcess.takeOutput Scene.control 1).Gives Sample.flooding .empty silent := rfl
  obtain ⟨report, ended, waits, opened, told⟩ : ∃ report ended,
      (LocalProcess.wait Scene.control).Gives silent report ended ∧
      ended.process.diagnosticsOpen = true ∧
      (Scene.control.readDiagnostics ended.process.job ended.kernel).1 =
        Sample.torrent.map .chunk := ⟨_, _, rfl, rfl, rfl⟩
  obtain ⟨captured, kernel, taken, reads, rfl, -, read⟩ :=
    LocalProcess.takeDiagnostics_outcome Scene.control ended
  have flooded := read opened
  rw [told, Sample.delivered_torrent] at flooded
  -- What was taken is given again to whoever asks for stderr.
  obtain ⟨again, _, _, reads', -, same, -⟩ := LocalProcess.takeDiagnostics_outcome Scene.control
    ⟨kernel, { ended.process with diagnosticsOpen := false, diagnostics := taken }⟩
  have communicates := LocalProcess.communicate_of_ended stderrLimit takes nofun waits reads
  let kept := LocalProcess.shorten (taken.getD .empty) stderrLimit
  have whole : again.data = kept.data := by
    rw [LocalProcess.data_shorten, same rfl, LocalProcess.heard, flooded.data, List.take_take,
      Nat.min_self]
  have rereads := LocalProcess.runOn_readStderr reads'
  rw [whole] at rereads
  refine ⟨⟨[], kept.data, .complete, kept.integrity⟩, ?_, rfl, ?_⟩
  · simp only [run, List.foldl_cons, List.foldl_nil, step, communicates, rereads, note]
    rfl
  · apply (LocalProcess.cut_shorten flooded stderrLimit).mpr
    right
    rw [Sample.length_flatten_torrent]
    exact Nat.lt_succ_self stderrLimit

end ContestJudge

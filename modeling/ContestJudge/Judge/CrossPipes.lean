import ContestJudge.Judge.Desk
/-!
The two pipes between a submission and its interactor. Each of the four ends goes to one launch;
the judge lets go of those that it still holds.
-/

namespace ContestJudge

inductive PipeRole where
  | submissionStdin
  | submissionStdout
  | interactorStdin
  | interactorStdout
  deriving DecidableEq, Repr

def PipeRole.name : PipeRole → String
  | .submissionStdin => "submission stdin"
  | .submissionStdout => "submission stdout"
  | .interactorStdin => "interactor stdin"
  | .interactorStdout => "interactor stdout"

def PipeRole.all : List PipeRole :=
  [.submissionStdin, .submissionStdout, .interactorStdin, .interactorStdout]

structure CrossPipes where
  submissionStdin : Option PipeEnd
  submissionStdout : Option PipeEnd
  interactorStdin : Option PipeEnd
  interactorStdout : Option PipeEnd
  deriving DecidableEq

namespace CrossPipes

def cross (toSubmission toInteractor : Nat) : CrossPipes :=
  ⟨some ⟨toSubmission, .read⟩, some ⟨toInteractor, .write⟩, some ⟨toInteractor, .read⟩,
    some ⟨toSubmission, .write⟩⟩

def closed : CrossPipes := ⟨none, none, none, none⟩

def held? (pipes : CrossPipes) : PipeRole → Option PipeEnd
  | .submissionStdin => pipes.submissionStdin
  | .submissionStdout => pipes.submissionStdout
  | .interactorStdin => pipes.interactorStdin
  | .interactorStdout => pipes.interactorStdout

def without (pipes : CrossPipes) : PipeRole → CrossPipes
  | .submissionStdin => { pipes with submissionStdin := none }
  | .submissionStdout => { pipes with submissionStdout := none }
  | .interactorStdin => { pipes with interactorStdin := none }
  | .interactorStdout => { pipes with interactorStdout := none }

def held (pipes : CrossPipes) : List PipeEnd :=
  [pipes.submissionStdin, pipes.submissionStdout, pipes.interactorStdin,
    pipes.interactorStdout].filterMap id

def take (pipes : CrossPipes) (role : PipeRole) : Except Fault (PipeEnd × CrossPipes) :=
  match pipes.held? role with
  | some e => .ok (e, pipes.without role)
  | none => .error (.internal (.endHandedOut role.name))

def takeBoth (pipes : CrossPipes) (input output : PipeRole) :
    Except Fault (PipeEnd × PipeEnd × CrossPipes) := do
  let (first, pipes) ← pipes.take input
  let (second, pipes) ← pipes.take output
  return (first, second, pipes)

variable {σ : Type}

def close (pipes : CrossPipes) (sandbox : Sandbox σ) (desk : Desk σ) : Desk σ :=
  pipes.held.foldl (fun desk e => sandbox.closeAtDesk e desk) desk

def openAt (sandbox : Sandbox σ) : Judge σ CrossPipes := do
  let toSubmission ← sandbox.openPipeAtDesk
  let toInteractor ← sandbox.openPipeAtDesk.unlessDone fun desk =>
    sandbox.closeAtDesk ⟨toSubmission, .write⟩ (sandbox.closeAtDesk ⟨toSubmission, .read⟩ desk)
  return cross toSubmission toInteractor

end CrossPipes
end ContestJudge

import ContestJudge.Host.Kernel
import ContestJudge.Host.Programs
import ContestJudge.Sandbox.Local

namespace ContestJudge.Host

def atRest : LocalHost Machine := .start .start

def sandbox : ContestJudge.Sandbox (LocalHost Machine) := .plain (kernel programs)

end ContestJudge.Host

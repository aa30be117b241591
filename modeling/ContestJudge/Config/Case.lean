import ContestJudge.Json.Record

namespace ContestJudge

structure CaseConfig where
  /-- Link names and targets, sorted by name. -/
  symlinks : List (String × String)
  /-- The wall clock limit as a multiple of the time limit. -/
  wallTimeFactor : Binary64
  /-- Bytes of output that are kept. -/
  outputLimit : Nat
  /-- The output is no text. -/
  binaryData : Bool
  deriving DecidableEq

namespace CaseConfig

def usual : CaseConfig := ⟨[], 3, 25 * 1024 * 1024, false⟩

def fieldNames : List String :=
  ["symlinks", "wall_time_factor", "output_limit_length", "binary_data"]

def ofFields? : List (Option Json) → Option CaseConfig
  | [symlinks, factor, limit, binary] => do
    return {
      symlinks := ← Json.default? usual.symlinks Json.textMap? symlinks
      wallTimeFactor := ← Json.default? usual.wallTimeFactor Json.real? factor
      outputLimit := ← Json.default? usual.outputLimit (Json.natural? wordBound) limit
      binaryData := ← Json.default? usual.binaryData Json.bool? binary }
  | _ => none

def ofJson? (document : Json) : Option CaseConfig := do ofFields? (← document.fields? fieldNames)

def given (members : List (WrittenText × Json)) : List (Option Json) :=
  fieldNames.map fun name => (Json.member? members name).map Json.settled

def merge? (defaults overrides : List (WrittenText × Json)) : Option CaseConfig :=
  ofFields? (given (Json.overlay defaults overrides))

def toJson (config : CaseConfig) : Json :=
  .record [
    ("symlinks", .record (config.symlinks.map fun (name, target) => (name, .ofString target))),
    ("wall_time_factor", .ofBinary64 config.wallTimeFactor),
    ("output_limit_length", .ofNat config.outputLimit),
    ("binary_data", .bool config.binaryData)]

end CaseConfig
end ContestJudge

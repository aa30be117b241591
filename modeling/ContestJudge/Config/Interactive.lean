import ContestJudge.Config.Seconds
import ContestJudge.Json.Record

namespace ContestJudge

inductive SourceFiles where
  | one (file : String)
  | many (files : List String)
  deriving DecidableEq

namespace SourceFiles

def toList : SourceFiles → List String
  | one file => [file]
  | many files => files

def toJson : SourceFiles → Json
  | one file => .ofString file
  | many files => .ofStrings files

def ofJson? : Json → Option SourceFiles
  | .string (some file) => some (.one file)
  | .array items => (items.mapM Json.text?).map .many
  | _ => none

end SourceFiles

structure InteractiveConfig where
  files : SourceFiles
  lang : String
  flags : List String
  /-- Seconds. -/
  compilerTimeLimit : Option Binary64
  unbuffered : Bool
  /-- Seconds for the interactor beyond the time limit of the problem. -/
  preprocessingTime : Option Binary64
  /-- KiB. -/
  memoryLimit : Option Nat
  argsTemplate : Option String
  /-- Whether the contestant sees the stderr of the interactor. -/
  feedback : Bool
  adapter : String
  deriving DecidableEq

namespace InteractiveConfig

def usualPreprocessing : Duration := .ofSeconds 2

/-- The time for the interactor beyond the time limit of the problem. -/
def preprocessing (config : InteractiveConfig) : Except Fault Duration :=
  match config.preprocessingTime with
  | some value =>
    if Binary64.lt 0 value then configuredTime value "preprocessing_time"
    else .ok usualPreprocessing
  | none => .ok usualPreprocessing

def fieldNames : List String :=
  ["files", "lang", "flags", "compiler_time_limit", "unbuffered", "preprocessing_time",
    "memory_limit", "args_format_string", "feedback", "type"]

def ofJson? (document : Json) : Option InteractiveConfig := do
  match ← document.fields? fieldNames with
  | [files, lang, flags, compilerTime, unbuffered, preprocessing, memory, args, feedback, adapter] =>
    return {
      files := ← Json.required? SourceFiles.ofJson? files
      lang := ← Json.required? Json.text? lang
      flags := ← Json.default? [] Json.texts? flags
      compilerTimeLimit := ← Json.default? none (Json.nullable? Json.real?) compilerTime
      unbuffered := ← Json.default? true Json.bool? unbuffered
      preprocessingTime := ← Json.default? none (Json.nullable? Json.real?) preprocessing
      memoryLimit := ← Json.default? none (Json.nullable? (Json.natural? wordBound)) memory
      argsTemplate := ← Json.default? none (Json.nullable? Json.text?) args
      feedback := ← Json.default? false Json.bool? feedback
      adapter := ← Json.default? "default" Json.text? adapter }
  | _ => none

def toJson (config : InteractiveConfig) : Json :=
  .record [
    ("files", config.files.toJson),
    ("lang", .ofString config.lang),
    ("flags", .ofStrings config.flags),
    ("compiler_time_limit", .ofOption .ofBinary64 config.compilerTimeLimit),
    ("unbuffered", .bool config.unbuffered),
    ("preprocessing_time", .ofOption .ofBinary64 config.preprocessingTime),
    ("memory_limit", .ofOption .ofNat config.memoryLimit),
    ("args_format_string", .ofOption .ofString config.argsTemplate),
    ("feedback", .bool config.feedback),
    ("type", .ofString config.adapter)]

end InteractiveConfig

structure ProblemConfig where
  interactive : Option InteractiveConfig
  /-- Whether runtimes are asked not to buffer output. -/
  unbuffered : Bool
  deriving DecidableEq

def ProblemConfig.ofJson? (document : Json) : Option ProblemConfig := do
  match ← document.fields? ["interactive", "unbuffered"] with
  | [interactive, unbuffered] =>
    return {
      interactive := ← Json.default? none (Json.nullable? InteractiveConfig.ofJson?) interactive
      unbuffered := ← Json.default? true Json.bool? unbuffered }
  | _ => none

end ContestJudge

import SubmissionGrader.Config.Basic
import SubmissionGrader.Config.Interpolation
import SubmissionGrader.Toml.Encoding

/-!
# Configurations in TOML

A configuration is a TOML document with a key for each setting. References to variables are replaced
in the name of the directory.
-/

namespace SubmissionGrader.GraderConfig

open Json (Fields Raw)

def maxNumber : Nat := UInt64.size - 1

def fieldNames : List (List String) :=
  [["max_nesting_depth"], ["cache_capacity"], ["default_min_count"], ["log_cases"], ["suite_dir"]]

def fields : Fields GraderConfig := do
  let d : GraderConfig := {}
  return {
    maxNestingDepth := ← .withDefault d.maxNestingDepth (Raw.natural? maxNumber)
    cacheCapacity := ← .withDefault d.cacheCapacity (Raw.natural? maxNumber)
    defaultMinCount := ← .withDefault d.defaultMinCount (Raw.natural? (UInt32.size - 1))
    logCases := ← .withDefault d.logCases Raw.boolean?
    suiteDir := ← .withDefault d.suiteDir Raw.text? }

def written? (content : String) : Option GraderConfig := do
  Fields.run? .ignored fieldNames fields (← Toml.readRaw? content)

def interpolated (env : Environment) (c : GraderConfig) : GraderConfig :=
  { c with suiteDir := env.interpolate c.suiteDir }

def ofToml? (env : Environment) (content : String) : Option GraderConfig :=
  (written? content).map (interpolated env)

end SubmissionGrader.GraderConfig

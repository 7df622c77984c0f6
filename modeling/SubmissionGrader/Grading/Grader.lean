import SubmissionGrader.Checker
import SubmissionGrader.Config.Basic
import SubmissionGrader.Features.Extraction
import SubmissionGrader.Grading.Cache
import SubmissionGrader.Grading.Case
import SubmissionGrader.Grading.Digest
import SubmissionGrader.Grading.Result

/-!
# Grading submissions

A grader runs test cases against a source, one after the other. The feature context is made when
the first case asks for it, and a cache may supply it. A judge that ends abnormally fails its own
case and no other.
-/

namespace SubmissionGrader

/-- A cache of feature contexts by the digests of their sources. -/
abbrev ContextCache := Cache Digest FeatureContext

/-- The cache that a configuration asks for; none if it may hold nothing. -/
def GraderConfig.newCache? (config : GraderConfig) : Option ContextCache :=
  if config.cacheCapacity = 0 then none else some (.new config.cacheCapacity)

/-- Follows a run: what it makes of each result and of all of them at the end. -/
structure Reporter (σ : Type) where
  onCase : Nat → TestResult → σ → σ
  onSuite : List TestResult → σ → σ

def Reporter.silent : Reporter Unit := ⟨fun _ _ s => s, fun _ s => s⟩

namespace Grader

variable [Syntax.Language] [Pattern.Dialect]

/-! ## Judges -/

/-- The abnormal end of a judge, perhaps with a message. -/
structure Crash where
  message : Option String
  deriving DecidableEq, Repr

def judgeContext (checker : Option String) (context : FeatureContext) : Verdict :=
  match checker with
  | none => .noChecker
  | some checker =>
    if Text.isBlankText checker then .noChecker
    else
      match context.parseError with
      | some message => .refusedSource message
      | none =>
        match Checker.tryEvaluate context checker with
        | .ok true => .passed
        | .ok false => .failed
        | .error error => .checkerError error

/-- The number of occurrences to ask for: the default, unless a number is given. -/
def leastCount (config : GraderConfig) : Option Nat → Nat
  | none | some 0 => config.defaultMinCount
  | some n => n

def judgePattern (config : GraderConfig) (source : String) (pattern : Option String)
    (least : Option Nat) : Verdict :=
  match pattern with
  | none | some "" => .noPattern
  | some pattern => .pattern (Pattern.find source pattern (some (leastCount config least)))

/-- Judges a source by a validator, which may end abnormally. -/
def judgeRuntime (source : String) (validator : Option Validator) : Except Crash Verdict :=
  match validator with
  | none => .ok .noValidator
  | some validator =>
    match validator source with
    | .verdict true => .ok .passed
    | .verdict false => .ok .failed
    | .refused message => .ok (.validatorError message)
    | .crashed message => .error ⟨message⟩

def contained : Except Crash Verdict → Verdict
  | .ok verdict => verdict
  | .error crash => .crashed crash.message

/-! ## Runs

A run carries the context along once there is one. How a context is made is left open: `make` does
it, in any monad.
-/

section Run

variable {m : Type → Type} [Monad m] {σ : Type}
variable (config : GraderConfig) (source : String) (make : m FeatureContext)

/-- The context of a run, which is made when it is first asked for. -/
def askContext : StateT (Option FeatureContext) m FeatureContext := do
  match ← get with
  | some context => return context
  | none =>
    let context ← make
    set (some context)
    return context

def judge (c : TestCase) : StateT (Option FeatureContext) m (Except Crash Verdict) :=
  match c.kind with
  | .ast checker => do
    let context ← askContext make
    return .ok (judgeContext checker context)
  | .pattern pattern least => return .ok (judgePattern config source pattern least)
  | .runtime validator => return judgeRuntime source validator
  | .unknown tag => return .ok (.unknownType tag)

/-- The result of a case. A judge that ends abnormally fails its case. -/
def runCase (c : TestCase) : StateT (Option FeatureContext) m TestResult := do
  let outcome ← judge config source make c
  return .ofVerdict c.description (contained outcome)

/-- Runs cases, of which the first one has the given index. -/
def runCases (reporter : Reporter σ) :
    Nat → List TestCase → σ → StateT (Option FeatureContext) m (List TestResult × σ)
  | _, [], report => return ([], report)
  | index, c :: rest, report => do
    let result ← runCase config source make c
    let (results, report) ← runCases reporter (index + 1) rest (reporter.onCase index result report)
    return (result :: results, report)

def runSuite (reporter : Reporter σ) (report : σ) (cases : List TestCase) :
    m (List TestResult × σ) := do
  let ((results, report), _) ← (runCases config source make reporter 0 cases report).run none
  return (results, reporter.onSuite results report)

end Run

/-! ## Runs with a cache -/

/-- The features of a source, whether they were computed, and the cache afterwards. -/
def contextFor (config : GraderConfig) (cache : Option ContextCache) (source : String) :
    FeatureContext × Bool × Option ContextCache :=
  let compute (_ : Unit) := FeatureContext.analyzeWithDepth source config.maxNestingDepth
  match cache with
  | none => (compute (), true, none)
  | some cache =>
    let (context, computed, cache) := cache.getOrInsert (.ofText source) compute
    (context, computed, some cache)

/-- The cache, how often it was asked for a context, and how often a source was analyzed. -/
structure State where
  cache : Option ContextCache
  lookups : Nat := 0
  analyses : Nat := 0

/-- Makes the context of a source, or takes it from the cache. -/
def makeContext (config : GraderConfig) (source : String) : StateM State FeatureContext := do
  let s ← get
  let (context, computed, cache) := contextFor config s.cache source
  set ({ cache, lookups := s.lookups + 1, analyses := s.analyses + computed.toNat } : State)
  return context

variable {σ : Type}

def runAllWith (config : GraderConfig) (reporter : Reporter σ) (report : σ)
    (cache : Option ContextCache) (source : String) (cases : List TestCase) :
    List TestResult × State × σ :=
  let ((results, report), s) :=
    (runSuite config source (makeContext config source) reporter report cases).run { cache }
  (results, s, report)

/-- Runs all cases. There is one result for each case, in order. -/
def runAll (config : GraderConfig) (cache : Option ContextCache) (source : String)
    (cases : List TestCase) : List TestResult × State :=
  let (results, s, _) := runAllWith config .silent () cache source cases
  (results, s)

end Grader

end SubmissionGrader

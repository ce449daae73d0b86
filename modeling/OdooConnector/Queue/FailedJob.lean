import OdooConnector.Library.Pattern
import OdooConnector.Library.Text

/-!
# Jobs that fail for want of a mapping

When a job fails, an exception name, a model and a key are read from its traceback and stored. The
job is requeued when just these are asked for.
-/

namespace OdooConnector.Queue

inductive JobState where
  | waitDependencies
  | pending
  | enqueued
  | started
  | done
  | cancelled
  | failed
deriving DecidableEq

inductive ExceptionName where
  | notMappedFromExternal
  | notMappedToExternal
  | noExternal
deriving DecidableEq

def ExceptionName.text : ExceptionName → String
  | .notMappedFromExternal => "NotMappedFromExternal"
  | .notMappedToExternal => "NotMappedToExternal"
  | .noExternal => "NoExternal"

/-- The exception names in the order of the pattern. -/
def exceptionNames : List ExceptionName :=
  [.notMappedFromExternal, .notMappedToExternal, .noExternal]

/-- `(names): (.*)\((code|id)=(.*), integration=(.*)\)` -/
def exceptionPattern : List PatternPart :=
  [.oneOf (exceptionNames.map fun name => name.text.toList), .exactly ": ".toList, .anything,
    .exactly "(".toList, .oneOf ["code".toList, "id".toList], .exactly "=".toList, .anything,
    .exactly ", integration=".toList, .anything, .exactly ")".toList]

/-- The zeros of the decimal digits of Unicode. -/
def digitZeros : List ℕ :=
  [0x30, 0x660, 0x6f0, 0x7c0, 0x966, 0x9e6, 0xa66, 0xae6, 0xb66, 0xbe6, 0xc66, 0xce6, 0xd66, 0xde6,
    0xe50, 0xed0, 0xf20, 0x1040, 0x1090, 0x17e0, 0x1810, 0x1946, 0x19d0, 0x1a80, 0x1a90, 0x1b50,
    0x1bb0, 0x1c40, 0x1c50, 0xa620, 0xa8d0, 0xa900, 0xa9d0, 0xa9f0, 0xaa50, 0xabf0, 0xff10, 0x104a0,
    0x10d30, 0x11066, 0x110f0, 0x11136, 0x111d0, 0x112f0, 0x11450, 0x114d0, 0x11650, 0x116c0,
    0x11730, 0x118e0, 0x11950, 0x11c50, 0x11d50, 0x11da0, 0x16a60, 0x16ac0, 0x16b50, 0x1d7ce,
    0x1d7d8, 0x1d7e2, 0x1d7ec, 0x1d7f6, 0x1e140, 0x1e2f0, 0x1e950, 0x1fbf0]

def decimal (char : Char) : Option ℕ :=
  (digitZeros.find? fun first => first ≤ char.toNat && char.toNat < first + 10).map
    fun first => char.toNat - first

/-- The digits of a number after its first; one underscore may stand between two digits. -/
def decimals (number : ℕ) : List Char → Option ℕ
  | [] => some number
  | '_' :: char :: text => (decimal char).bind fun digit => decimals (10 * number + digit) text
  | char :: text => (decimal char).bind fun digit => decimals (10 * number + digit) text

/-- White space around a number; the separators of files, groups, records and units are none. -/
def isNumberSpace (char : Char) : Bool :=
  isSpace char && !(0x1c ≤ char.toNat && char.toNat ≤ 0x1f)

def natural : List Char → Option ℕ
  | [] => none
  | char :: text => (decimal char).bind fun digit => decimals digit text

/-- `int` of a text. -/
def int (text : List Char) : Option ℤ :=
  match ((text.dropWhile isNumberSpace).reverse.dropWhile isNumberSpace).reverse with
  | '-' :: text => (natural text).map fun number => -(number : ℤ)
  | '+' :: text => (natural text).map Int.ofNat
  | text => (natural text).map Int.ofNat

/-- What a requeue asks for. -/
structure RequeueRequest where
  exceptionName : ExceptionName
  modelName : String
  key : String
deriving DecidableEq

structure QueueJob where
  state : JobState
  excInfo : String
  integrationId : Option ℕ
  integrationExceptionName : Option ExceptionName
  integrationModelName : Option String
  integrationKey : Option String
deriving DecidableEq

structure JobVals where
  state : Option JobState
  excInfo : Option String

namespace QueueJob

/-- The values are those that a requeue asks for. -/
structure Stores (job : QueueJob) (request : RequeueRequest) : Prop where
  exceptionName : job.integrationExceptionName = some request.exceptionName
  modelName : job.integrationModelName = some request.modelName
  key : job.integrationKey = some request.key

structure StoresNone (job : QueueJob) : Prop where
  exceptionName : job.integrationExceptionName = none
  modelName : job.integrationModelName = none
  key : job.integrationKey = none

def assign (job : QueueJob) (vals : JobVals) : QueueJob :=
  { job with
    state := vals.state.getD job.state
    excInfo := vals.excInfo.getD job.excInfo }

/-- Write to a job; an integration that is no number, or one that the field refuses, raises. -/
def write (integrationField : ℤ → Option (Option ℕ)) (job : QueueJob) (vals : JobVals) :
    Option QueueJob :=
  let job := job.assign vals
  if vals.state ≠ some .failed then some job
  else
    match PatternPart.search exceptionPattern job.excInfo.toList with
    | some [name, model, _, key, integration] =>
        if integration.isEmpty then some job
        else
          (int integration).bind fun number =>
            (integrationField number).map fun integrationId =>
              { job with
                integrationExceptionName := exceptionNames.find? fun known =>
                  known.text.toList = name
                integrationModelName := some (String.ofList model)
                integrationKey := some (String.ofList key)
                integrationId := integrationId }
    | _ =>
        if job.integrationId.isSome then
          some { job with
            integrationExceptionName := none
            integrationModelName := none
            integrationKey := none }
        else some job

/-- A started job fails. Where the write raises it is rolled back. -/
def fail (integrationField : ℤ → Option (Option ℕ)) (job : QueueJob) (excInfo : String) :
    QueueJob :=
  let started := { job with state := .started }
  (started.write integrationField ⟨some .failed, some excInfo⟩).getD started

def requeueIntegrationJobs (job : QueueJob) (request : RequeueRequest) : QueueJob :=
  if job.state = .failed ∧ job.integrationExceptionName = some request.exceptionName ∧
      job.integrationModelName = some request.modelName ∧
      job.integrationKey = some request.key then
    { job with state := .pending }
  else job

end QueueJob

end OdooConnector.Queue

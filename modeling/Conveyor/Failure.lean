/-!
# What can go wrong

Failures are told apart by where they travel. A `Failure` is the reason inside a negative response
and goes back to whoever sent the message; the other errors are returned by the call that met them.
Each is a cause, and its wording is given by one function.
-/

namespace Conveyor

/-- Why a message was not delivered. It travels inside a response. -/
inductive Failure
  | rejected (reason : String)
  /-- A transaction was dropped without an answer. -/
  | abandoned
  | delivery (reason : String)
  | stage (reason : String)
deriving DecidableEq, Inhabited

def Failure.message : Failure → String
  | .rejected reason => "message rejected: " ++ reason
  | .abandoned       => "transaction abandoned without a response"
  | .delivery reason => "delivery failed: " ++ reason
  | .stage reason    => "stage failed: " ++ reason

def Failure.isRejection : Failure → Bool
  | .rejected _ => true
  | _           => false

/-- Why a call on a pipeline, a source, a sink or a response path did not succeed. -/
inductive PipelineError
  | alreadyConsuming
  | timeout
  /-- The response path ended without a response. -/
  | abandoned
  /-- A pool cannot have this number of lanes. -/
  | invalidSize (size : Nat)
  | closed
  | construction (reason : String)
deriving DecidableEq, Inhabited

def PipelineError.message : PipelineError → String
  | .alreadyConsuming    => "already consuming an input"
  | .timeout             => "action timed out"
  | .abandoned           => "response path closed without a response"
  | .invalidSize size    => "invalid pool size: " ++ toString size
  | .closed              => "pipeline is closed"
  | .construction reason => "failed to construct lane: " ++ reason

def PipelineError.isTimeout : PipelineError → Bool
  | .timeout => true
  | _        => false

/-- Why a cache operation did not succeed. -/
inductive CacheError
  | keyNotFound
  | keyAlreadyExists
  /-- The key cannot be used with this cache. -/
  | invalidKey (key : String)
  /-- The storage under the cache failed. -/
  | storage (reason : String)
deriving DecidableEq, Inhabited

def CacheError.message : CacheError → String
  | .keyNotFound      => "key does not exist"
  | .keyAlreadyExists => "key already exists"
  | .invalidKey key   => "invalid key '" ++ key ++ "'"
  | .storage reason   => "IO error: " ++ reason

/-- A configuration that cannot be used, with the reason. -/
structure ConfigError where
  reason : String
deriving DecidableEq, Inhabited

def ConfigError.message (e : ConfigError) : String := "invalid configuration: " ++ e.reason

/-- Any of the errors, for callers that do not tell them apart. -/
inductive AnyError
  | pipeline (cause : PipelineError)
  | cache (cause : CacheError)
  | config (cause : ConfigError)
  | response (cause : Failure)
deriving DecidableEq

def AnyError.message : AnyError → String
  | .pipeline cause => cause.message
  | .cache cause    => cause.message
  | .config cause   => cause.message
  | .response cause => cause.message

end Conveyor

import Conveyor.Pool
import Conveyor.Processor
import Conveyor.Stage.Catalogue

/-!
# Blueprints

Descriptions of pipelines, from which they are built. The lanes of a pool are processors as a rule;
single lanes can be described otherwise, among other things as pools of their own, or as pipelines
that misbehave in one way or another.
-/

namespace Conveyor

/-! ### Pipelines of the catalogue -/

/-- A pipeline that is not a pool. -/
inductive SimplePipeline
  /-- A processor over stages of the catalogue. -/
  | processor (p : Processor Stage)
  /-- A pipeline that refuses every input with an error. -/
  | refusing (error : PipelineError) (outputTaken : Bool)
  /-- A pipeline that drops its input and emits nothing. -/
  | deaf (outputTaken : Bool)
deriving Inhabited

instance : Pipeline Stage SimplePipeline where
  outputCapacity
    | .processor p => p.outputCapacity
    | _            => 1
  outputTaken
    | .processor p      => p.outputTaken
    | .refusing _ taken => taken
    | .deaf taken       => taken
  takeOutput
    | .processor p      => .processor (Pipeline.takeOutput p)
    | .refusing error _ => .refusing error true
    | .deaf _           => .deaf true
  consume pipeline input :=
    match pipeline with
    | .processor p =>
      let (result, p, input) := Pipeline.consume p input
      (result, .processor p, input)
    | .refusing error taken => (.error error, .refusing error taken, input)
    | .deaf taken           => (.ok (), .deaf taken, input.shut)
  close pipeline metrics :=
    match pipeline with
    | .processor p =>
      let (p, metrics) := Pipeline.close p metrics
      (.processor p, metrics)
    | other => (other, metrics)
  holdsOutput
    | .processor p  => p.holdsOutput
    | .refusing _ _ => true
    | .deaf _       => false
  actors
    | .processor p => Pipeline.actors p
    | _            => []
  runsStages actor pipeline :=
    match pipeline with
    | .processor p => Pipeline.runsStages actor p
    | _            => false
  step process actor pipeline s :=
    match pipeline with
    | .processor p => (Pipeline.step process actor p s).map fun (p, s) => (.processor p, s)
    | _            => none

/-- A pipeline of one kind or of another. -/
instance {σ A B : Type} [Pipeline σ A] [Pipeline σ B] : Pipeline σ (A ⊕ B) where
  outputCapacity
    | .inl a => Pipeline.outputCapacity a
    | .inr b => Pipeline.outputCapacity b
  outputTaken
    | .inl a => Pipeline.outputTaken a
    | .inr b => Pipeline.outputTaken b
  takeOutput
    | .inl a => .inl (Pipeline.takeOutput a)
    | .inr b => .inr (Pipeline.takeOutput b)
  consume pipeline input :=
    match pipeline with
    | .inl a => let (result, a, input) := Pipeline.consume a input; (result, .inl a, input)
    | .inr b => let (result, b, input) := Pipeline.consume b input; (result, .inr b, input)
  close pipeline metrics :=
    match pipeline with
    | .inl a => let (a, metrics) := Pipeline.close a metrics; (.inl a, metrics)
    | .inr b => let (b, metrics) := Pipeline.close b metrics; (.inr b, metrics)
  holdsOutput
    | .inl a => Pipeline.holdsOutput a
    | .inr b => Pipeline.holdsOutput b
  actors
    | .inl a => Pipeline.actors a
    | .inr b => Pipeline.actors b
  runsStages actor pipeline :=
    match pipeline with
    | .inl a => Pipeline.runsStages actor a
    | .inr b => Pipeline.runsStages actor b
  step process actor pipeline s :=
    match pipeline with
    | .inl a => (Pipeline.step process actor a s).map fun (a, s) => (.inl a, s)
    | .inr b => (Pipeline.step process actor b s).map fun (b, s) => (.inr b, s)

/-- A pipeline in which pools stand inside pools at most `n` deep. -/
def Nested : Nat → Type
  | 0     => SimplePipeline
  | n + 1 => SimplePipeline ⊕ Pool (Nested n)

/-- Nested pipelines are pipelines, whatever the depth. -/
@[reducible] def Nested.pipeline : (n : Nat) → Pipeline Stage (Nested n)
  | 0     => inferInstanceAs (Pipeline Stage SimplePipeline)
  | n + 1 =>
    have := Nested.pipeline n
    inferInstanceAs (Pipeline Stage (SimplePipeline ⊕ Pool (Nested n)))

instance (n : Nat) : Pipeline Stage (Nested n) := Nested.pipeline n

def Nested.simple (p : SimplePipeline) : (n : Nat) → Nested n
  | 0     => p
  | _ + 1 => .inl p

/-! ### Descriptions -/

def Stage.forLane (lane : Nat) : Stage → Stage
  | .tagLane name _ => .tagLane name lane
  | stage           => stage

/-- The description of a processor. -/
structure ProcessorPlan where
  stages : List Stage
  /-- The number in the metrics, if it is not the number of the lane. -/
  lane : Option Nat := none
  outputBuffer : Option Nat := none
  metered : Bool := true
deriving Inhabited

def ProcessorPlan.build (plan : ProcessorPlan) (lane : Nat) : Processor Stage :=
  { lane := plan.lane.getD lane
    chain := plan.stages.map (Stage.forLane lane)
    outputCapacity := plan.outputBuffer.getD 1
    metered := plan.metered }

/-- How the lanes of a pool are made. -/
inductive LaneSource
  /-- All lanes are processors over the stages of the pool, and the pool is set up in full. -/
  | stages
  /-- Lanes are made one by one; of the settings of the pool only the number of lanes counts. -/
  | constructorOnly
  /-- Lanes are made one by one, and the pool is set up in full. -/
  | constructor
deriving DecidableEq, Inhabited

/-- The description of one lane of a pool. -/
inductive LanePlan
  /-- The processor that the pool describes. -/
  | usual
  /-- A processor of its own. -/
  | processor (plan : ProcessorPlan)
  | failing (error : PipelineError)
  /-- A processor whose output was taken before. -/
  | taken
  /-- A processor that was closed before. -/
  | closed
  /-- A processor that was bound before to an input that has ended. -/
  | bound
  /-- A pipeline that refuses its input. -/
  | refusing (error : PipelineError)
  /-- A pipeline that drops its input and emits nothing. -/
  | deaf
  /-- A pool: its number of lanes, its two buffers, its stages, and how its lanes are made, with
  descriptions for single lanes and one for the others. -/
  | pool (threads laneBuffer outputBuffer : Option Nat) (stages : List Stage) (metered : Bool)
      (source : LaneSource) (special : List (Nat × LanePlan)) (others : LanePlan)
deriving Inhabited

/-- The description of a pool. -/
structure PoolPlan where
  threads : Option Nat := none
  laneBuffer : Option Nat := none
  outputBuffer : Option Nat := none
  stages : List Stage := []
  metered : Bool := true
  source : LaneSource := .stages
  special : List (Nat × LanePlan) := []
  others : LanePlan := .usual
deriving Inhabited

namespace PoolPlan

/-- The processor that a pool describes for its lanes. -/
def usual (plan : PoolPlan) : ProcessorPlan :=
  { stages := plan.stages, outputBuffer := plan.outputBuffer, metered := plan.metered }

def laneAt (plan : PoolPlan) (index : Nat) : LanePlan :=
  match plan.source with
  | .stages => .usual
  | _       => (plan.special.lookup index).getD plan.others

/-- Build a pool whose lanes are made by a given function, whichever attempt it is. -/
def buildWith {P : Type} (plan : PoolPlan) (construct : Nat → LaneBuild P)
    (metrics : Metrics.Store) : Except PipelineError (Pool P) × Metrics.Store :=
  let threads := plan.threads.getD 1
  match plan.source with
  | .constructorOnly => Pool.create (fun _ => construct) threads 1 1 plan.metered metrics
  | _ =>
    Pool.create (fun _ => construct) threads (plan.laneBuffer.getD 1)
      (plan.outputBuffer.getD 1) plan.metered metrics

end PoolPlan

/-- The pipeline of a description that is not a pool, for the lane with a number of a pool. -/
def LanePlan.simple (plan : LanePlan) (pool : PoolPlan) (index : Nat) :
    Except PipelineError SimplePipeline :=
  let usual := pool.usual.build index
  match plan with
  | .usual          => .ok (.processor usual)
  | .processor own  => .ok (.processor (own.build index))
  | .failing error  => .error error
  | .taken          => .ok (.processor { usual with outputTaken := true })
  | .closed         => .ok (.processor usual.close)
  | .bound          => .ok (.processor { usual with phase := .ended, done := true })
  | .refusing error => .ok (.refusing error false)
  | .deaf           => .ok (.deaf false)
  | .pool ..        => .error (.construction "pools stand too deep")

/-- Build the lane with a number of a pool; in it pools stand at most `n` deep. -/
def LanePlan.build : (n : Nat) → LanePlan → PoolPlan → Nat → LaneBuild (Nested n)
  | n + 1, .pool threads laneBuffer outputBuffer stages metered source special others, _, _ =>
    let inner : PoolPlan :=
      { threads, laneBuffer, outputBuffer, stages, metered, source, special, others }
    let construct (index : Nat) := LanePlan.build n (inner.laneAt index) inner index
    let (built, metrics) := inner.buildWith construct {}
    { lane := built.map Sum.inr
      recorded := (metrics.gauges.get? "pipeline.pool.lanes").map Int.toNat }
  | n, plan, owner, index => { lane := (plan.simple owner index).map fun p => Nested.simple p n }

/-- Build a pool in whose lanes pools stand at most `n` deep. -/
def PoolPlan.build (plan : PoolPlan) (n : Nat) (metrics : Metrics.Store) :
    Except PipelineError (Pool (Nested n)) × Metrics.Store :=
  plan.buildWith (fun index => LanePlan.build n (plan.laneAt index) plan index) metrics

end Conveyor

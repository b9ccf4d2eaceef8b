import Conveyor.Dict

/-!
# Configuration

The settings of the parts of an application, each with its default.
-/

namespace Conveyor

/-- The settings of a pool. -/
structure PoolConfig where
  threads : UInt64 := 1
  /-- How many transactions have room in front of each lane. -/
  laneBuffer : UInt64 := 1
  outputBuffer : UInt64 := 1
deriving DecidableEq, Inhabited

/-- The settings of a memory cache. -/
structure MemoryCacheConfig where
  ttlSeconds : UInt64 := 300
  /-- How much time lies between two compactions at least. -/
  compactionIntervalSeconds : UInt64 := 60
  initValues : Dict String := .empty
deriving DecidableEq, Inhabited

/-- The settings of a file cache. -/
structure FileCacheConfig where
  directory : String := ""
deriving DecidableEq, Inhabited

/-- The settings of log output. -/
structure LogConfig where
  /-- The directives of the filter. -/
  level : String := "info"
  json : Bool := false
deriving DecidableEq, Inhabited

/-- All settings. -/
structure Config where
  pipeline : PoolConfig := {}
  memoryCache : MemoryCacheConfig := {}
  fileCache : FileCacheConfig := {}
  logging : LogConfig := {}
deriving DecidableEq, Inhabited

end Conveyor

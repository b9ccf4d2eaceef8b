import Conveyor.Config
import Conveyor.Failure
import Conveyor.Json.Reader
import Conveyor.Json.Value

/-!
# Configuration documents

A configuration is written as a JSON document with one object for each part. In reading, fields that
are left out keep their defaults.
-/

namespace Conveyor

open Json

/-! ### Shapes -/

/-- A field that holds an integer of 64 bits, of the integer type with this name. -/
def natField {ρ : Type} (name typeName : String) (set : ρ → UInt64 → ρ) : RecordField ρ where
  name
  read record s := (readNat typeName s).map fun (n, s) => (set record n.toUInt64, s)

def recordField {ρ τ : Type} (name : String) (shape : RecordShape τ) (set : ρ → τ → ρ) :
    RecordField ρ where
  name
  read record s := (shape.read s).map fun (value, s) => (set record value, s)

def PoolConfig.shape : RecordShape PoolConfig where
  name := "PoolConfig"
  start := {}
  fields := [
    natField "threads" "usize" fun c n => { c with threads := n },
    natField "lane_buffer" "usize" fun c n => { c with laneBuffer := n },
    natField "output_buffer" "usize" fun c n => { c with outputBuffer := n }]

def MemoryCacheConfig.shape : RecordShape MemoryCacheConfig where
  name := "MemoryCacheConfig"
  start := {}
  fields := [
    natField "ttl_seconds" "u64" fun c n => { c with ttlSeconds := n },
    natField "compaction_interval_seconds" "u64" fun c n =>
      { c with compactionIntervalSeconds := n },
    { name := "init_values"
      read := fun c s => (readDict (readString "a string") s).map fun (values, s) =>
        ({ c with initValues := values }, s) }]

def FileCacheConfig.shape : RecordShape FileCacheConfig where
  name := "FileCacheConfig"
  start := {}
  fields := [
    { name := "directory"
      read := fun c s => (readString "path string" s).map fun (path, s) =>
        ({ c with directory := path }, s) }]

def LogConfig.shape : RecordShape LogConfig where
  name := "LogConfig"
  start := {}
  fields := [
    { name := "level"
      read := fun c s => (readString "a string" s).map fun (level, s) =>
        ({ c with level := level }, s) },
    { name := "json"
      read := fun c s => (readBool s).map fun (json, s) => ({ c with json := json }, s) }]

def Config.shape : RecordShape Config where
  name := "Config"
  start := {}
  fields := [
    recordField "pipeline" PoolConfig.shape fun c part => { c with pipeline := part },
    recordField "memory_cache" MemoryCacheConfig.shape fun c part => { c with memoryCache := part },
    recordField "file_cache" FileCacheConfig.shape fun c part => { c with fileCache := part },
    recordField "logging" LogConfig.shape fun c part => { c with logging := part }]

/-! ### Reading and writing -/

def Config.parse (document : String) : Except ConfigError Config :=
  match readDocument Config.shape.read document with
  | .ok config   => .ok config
  | .error fault => .error ⟨fault.message⟩

/-- The value of a configuration, with these initial values in the memory cache. -/
def Config.toValueWith (initValues : List (String × String)) (c : Config) : Value :=
  .object [
    ("pipeline", .object [
      ("threads", .nat c.pipeline.threads.toNat),
      ("lane_buffer", .nat c.pipeline.laneBuffer.toNat),
      ("output_buffer", .nat c.pipeline.outputBuffer.toNat)]),
    ("memory_cache", .object [
      ("ttl_seconds", .nat c.memoryCache.ttlSeconds.toNat),
      ("compaction_interval_seconds", .nat c.memoryCache.compactionIntervalSeconds.toNat),
      ("init_values", .object (initValues.map fun e => (e.1, .text e.2)))]),
    ("file_cache", .object [
      ("directory", .text c.fileCache.directory)]),
    ("logging", .object [
      ("level", .text c.logging.level),
      ("json", .bool c.logging.json)])]

/-- The document of a configuration, with the initial values of the memory cache in some order. There
always is one, because all texts of a configuration are well-formed. -/
def Config.renderWith (initValues : List (String × String)) (c : Config) : String :=
  (c.toValueWith initValues).toPretty

def Config.render (c : Config) : String := c.renderWith c.memoryCache.initValues.toList

end Conveyor

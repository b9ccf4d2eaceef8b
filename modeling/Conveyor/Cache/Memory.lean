import Conveyor.Config
import Conveyor.Duration
import Conveyor.Failure
import Conveyor.Message

/-!
# Memory caches

A cache that keeps its values in memory. A value that is written expires after a fixed time. Expired
values are removed by compaction, which takes place within write operations, whenever enough time
has passed since the last one; looking a value up does not ask whether it has expired. All write
operations take the readings of a clock that never goes back.
-/

namespace Conveyor

abbrev Instant := Nat

def clockBound : Instant := UInt64.size / 2 * Duration.perSecond

/-- The text of the panic when a value would expire beyond the range of the clock. -/
def expiryPanic : String := "overflow when adding duration to instant"

/-- A value in a memory cache. -/
structure CachedItem where
  value : Bytes
  /-- When the value expires; initial values never do. -/
  expiresAt : Option Instant := none
deriving DecidableEq, Inhabited

/-- A cache that keeps its values in memory. -/
structure MemoryCache where
  ttl : Nat
  /-- How much time lies between two compactions at least. -/
  interval : Nat
  items : Dict CachedItem
  /-- When the cache was compacted last, or made. -/
  lastCompaction : Instant
deriving DecidableEq, Inhabited

/-- What comes of a write operation. -/
inductive WriteResult
  | ok
  | failed (error : CacheError)
  /-- The value would expire beyond the range of the clock, and the operation panicked. -/
  | panicked
deriving DecidableEq, Inhabited

/-- How long a value that is written lasts. -/
def MemoryCacheConfig.ttl (config : MemoryCacheConfig) : Nat :=
  config.ttlSeconds.toNat * Duration.perSecond

/-- How much time lies between two compactions at least. -/
def MemoryCacheConfig.interval (config : MemoryCacheConfig) : Nat :=
  config.compactionIntervalSeconds.toNat * Duration.perSecond

namespace MemoryCache

/-- A cache that holds the initial values of its configuration. -/
def new (config : MemoryCacheConfig) (now : Instant) : MemoryCache where
  ttl := config.ttl
  interval := config.interval
  items := .ofList (config.initValues.toList.map fun e => (e.1, { value := .ofString e.2 }))
  lastCompaction := now

def size (c : MemoryCache) : Nat := c.items.size

/-- Remove the values that have expired, if enough time has passed since the last time. -/
def compact (c : MemoryCache) (now : Instant) : MemoryCache :=
  if now - c.lastCompaction < c.interval then c
  else
    { c with
      items := c.items.filter fun _ item => item.expiresAt.all (now < ·)
      lastCompaction := now }

/-- A value written now, unless it would expire beyond the range of the clock. -/
def item? (c : MemoryCache) (now : Instant) (value : Bytes) : Option CachedItem :=
  if now + c.ttl < clockBound then some { value, expiresAt := some (now + c.ttl) } else none

def get (c : MemoryCache) (key : String) : Except CacheError Bytes :=
  match c.items.get? key with
  | some item => .ok item.value
  | none      => .error .keyNotFound

/-- Set a value, with the readings of the clock when it is written and when the cache is compacted. -/
def setAt (c : MemoryCache) (written now : Instant) (key : String) (value : Bytes) :
    WriteResult × MemoryCache :=
  match c.item? written value with
  | none      => (.panicked, c)
  | some item =>
    let c := c.compact now
    (.ok, { c with items := c.items.insert key item })

def set (c : MemoryCache) (now : Instant) (key : String) (value : Bytes) :
    WriteResult × MemoryCache := c.setAt now now key value

/-- Set a value under a key that is not in use, with the readings of the clock when the value is
written and when the cache is compacted. -/
def addAt (c : MemoryCache) (written now : Instant) (key : String) (value : Bytes) :
    WriteResult × MemoryCache :=
  match c.item? written value with
  | none      => (.panicked, c)
  | some item =>
    let c := c.compact now
    if c.items.contains key then (.failed .keyAlreadyExists, c)
    else (.ok, { c with items := c.items.insert key item })

def add (c : MemoryCache) (now : Instant) (key : String) (value : Bytes) :
    WriteResult × MemoryCache := c.addAt now now key value

/-- Write values one after the other, each with its reading of the clock, without compaction. -/
def insertAll (c : MemoryCache) : List (Instant × String × Bytes) → WriteResult × MemoryCache
  | [] => (.ok, c)
  | (written, key, value) :: rest =>
    match c.item? written value with
    | none      => (.panicked, c)
    | some item => insertAll { c with items := c.items.insert key item } rest

/-- Set several values, with the readings of the clock when the cache is compacted and when each of them
is written. -/
def setMultiAt (c : MemoryCache) (now : Instant) (values : List (Instant × String × Bytes)) :
    WriteResult × MemoryCache := (c.compact now).insertAll values

def setMulti (c : MemoryCache) (now : Instant) (values : Dict Bytes) :
    WriteResult × MemoryCache := c.setMultiAt now (values.toList.map fun e => (now, e))

def delete (c : MemoryCache) (now : Instant) (key : String) : MemoryCache :=
  let c := c.compact now
  { c with items := c.items.erase key }

/-- Try `n` times to add one value, and count the attempts that succeed. -/
def addRepeatedly (c : MemoryCache) (now : Instant) (key : String) (value : Bytes) :
    (n : Nat) → Nat × MemoryCache
  | 0     => (0, c)
  | n + 1 =>
    let (result, c) := c.add now key value
    let (count, c) := c.addRepeatedly now key value n
    (if result = .ok then count + 1 else count, c)

end MemoryCache

end Conveyor

import Conveyor.Config.Document
import Conveyor.Proofs.Json.Records

/-!
# Configuration documents

Settings can be written in many ways: fields in any order, sections as objects or as lists, unknown
members between the others, blanks between all tokens. What is read does not depend on it
(`Config.parse_recordText`): it is the configuration that keeps the settings that are written, and has
the defaults of all others (`Config.keeping`). So the document that a configuration is written to is
read as this configuration, in whatever order the initial values of the memory cache are written.
-/

namespace Conveyor

open Json

/-! ### Settings that are kept -/

/-- The settings whose names are kept, with the defaults of the others. -/
def PoolConfig.keeping (kept : String → Bool) (c : PoolConfig) : PoolConfig :=
  let unset : PoolConfig := {}
  { threads := if kept "threads" then c.threads else unset.threads
    laneBuffer := if kept "lane_buffer" then c.laneBuffer else unset.laneBuffer
    outputBuffer := if kept "output_buffer" then c.outputBuffer else unset.outputBuffer }

@[inherit_doc PoolConfig.keeping]
def MemoryCacheConfig.keeping (kept : String → Bool) (c : MemoryCacheConfig) : MemoryCacheConfig :=
  let unset : MemoryCacheConfig := {}
  { ttlSeconds := if kept "ttl_seconds" then c.ttlSeconds else unset.ttlSeconds
    compactionIntervalSeconds :=
      if kept "compaction_interval_seconds" then c.compactionIntervalSeconds
      else unset.compactionIntervalSeconds
    initValues := if kept "init_values" then c.initValues else unset.initValues }

@[inherit_doc PoolConfig.keeping]
def FileCacheConfig.keeping (kept : String → Bool) (c : FileCacheConfig) : FileCacheConfig :=
  let unset : FileCacheConfig := {}
  { directory := if kept "directory" then c.directory else unset.directory }

@[inherit_doc PoolConfig.keeping]
def LogConfig.keeping (kept : String → Bool) (c : LogConfig) : LogConfig :=
  let unset : LogConfig := {}
  { level := if kept "level" then c.level else unset.level
    json := if kept "json" then c.json else unset.json }

/-- The settings that are kept, by the names of their sections and their own names, with the defaults
of the others. -/
def Config.keeping (kept : (part field : String) → Bool) (c : Config) : Config where
  pipeline := c.pipeline.keeping (kept "pipeline")
  memoryCache := c.memoryCache.keeping (kept "memory_cache")
  fileCache := c.fileCache.keeping (kept "file_cache")
  logging := c.logging.keeping (kept "logging")

/-! ### Settings as they are written -/

/-- The objects with the entries of a dictionary, in any order. -/
def EntriesText (d : Dict String) : Texts := fun s =>
  ∃ es : List (String × String), es.Perm d.toList ∧
    Spelling (.object (es.map fun e => (e.1, .text e.2))) s

def PoolConfig.written (c : PoolConfig) : List (Written PoolConfig) := [
  ⟨"threads", Spelling (.nat c.threads.toNat), fun r => { r with threads := c.threads }⟩,
  ⟨"lane_buffer", Spelling (.nat c.laneBuffer.toNat),
    fun r => { r with laneBuffer := c.laneBuffer }⟩,
  ⟨"output_buffer", Spelling (.nat c.outputBuffer.toNat),
    fun r => { r with outputBuffer := c.outputBuffer }⟩]

def MemoryCacheConfig.written (c : MemoryCacheConfig) : List (Written MemoryCacheConfig) := [
  ⟨"ttl_seconds", Spelling (.nat c.ttlSeconds.toNat),
    fun r => { r with ttlSeconds := c.ttlSeconds }⟩,
  ⟨"compaction_interval_seconds", Spelling (.nat c.compactionIntervalSeconds.toNat),
    fun r => { r with compactionIntervalSeconds := c.compactionIntervalSeconds }⟩,
  ⟨"init_values", EntriesText c.initValues, fun r => { r with initValues := c.initValues }⟩]

def FileCacheConfig.written (c : FileCacheConfig) : List (Written FileCacheConfig) := [
  ⟨"directory", Spelling (.text c.directory), fun r => { r with directory := c.directory }⟩]

def LogConfig.written (c : LogConfig) : List (Written LogConfig) := [
  ⟨"level", Spelling (.text c.level), fun r => { r with level := c.level }⟩,
  ⟨"json", Spelling (.bool c.json), fun r => { r with json := c.json }⟩]

/-- The sections, each with the settings in it that are kept. -/
def Config.written (kept : (part field : String) → Bool) (c : Config) : List (Written Config) := [
  ⟨"pipeline", RecordText c.pipeline.written (kept "pipeline"),
    fun r => { r with pipeline := c.pipeline.keeping (kept "pipeline") }⟩,
  ⟨"memory_cache", RecordText c.memoryCache.written (kept "memory_cache"),
    fun r => { r with memoryCache := c.memoryCache.keeping (kept "memory_cache") }⟩,
  ⟨"file_cache", RecordText c.fileCache.written (kept "file_cache"),
    fun r => { r with fileCache := c.fileCache.keeping (kept "file_cache") }⟩,
  ⟨"logging", RecordText c.logging.written (kept "logging"),
    fun r => { r with logging := c.logging.keeping (kept "logging") }⟩]

/-! ### Fields -/

variable {ρ τ : Type}

lemma reads_natField (name typeName : String) (set : ρ → UInt64 → ρ) (r : ρ) (n : UInt64) :
    Reads ((natField name typeName set).read r) (.nat n.toNat) (set r n) := by
  have number : Reads (readNat typeName) (.nat n.toNat) n.toNat := reads_nat typeName n.toNat_lt
  have field := number.map fun k => set r k.toUInt64
  simp only [Nat.toUInt64_eq, UInt64.ofNat_toNat] at field
  exact field

lemma suits_natField (name typeName : String) (set : ρ → UInt64 → ρ) (n : UInt64) :
    Written.Suits (natField name typeName set)
      ⟨name, Spelling (.nat n.toNat), fun r => set r n⟩ where
  name := rfl
  optional := rfl
  begins _ h := h.begins
  reads r := reads_natField name typeName set r n

/-- A field whose value is read by one reader. -/
lemma suits_field {read : Reader τ} {texts : Texts} {value : τ} (h : ReadsTexts read texts value)
    (begins : ∀ s, texts s → ∃ c t, s = c :: t ∧ Opens c) (name : String) (set : ρ → τ → ρ) :
    Written.Suits ⟨name, fun r s => (read s).map fun x => (set r x.1, x.2), false⟩
      ⟨name, texts, fun r => set r value⟩ where
  name := rfl
  optional := rfl
  begins
  reads r := h.map (set r)

lemma readsTexts_entries (expected : String) (d : Dict String) :
    ReadsTexts (readDict (readString expected)) (EntriesText d) d := by
  rintro before s rest leading ⟨es, order, spelled⟩ closed
  exact reads_texts expected order leading spelled closed

/-! ### Sections -/

lemma PoolConfig.readsTexts (c : PoolConfig) (kept : String → Bool) :
    ReadsTexts shape.read (RecordText c.written kept) (c.keeping kept) := by
  have suits : List.Forall₂ Written.Suits shape.fields c.written :=
    .cons (suits_natField ..) (.cons (suits_natField ..) (.cons (suits_natField ..) .nil))
  have read := reads_recordText suits (by simp [written]) (by simp [written]) kept
  have same : putAll shape.start (c.written.filter fun e => kept e.name) = c.keeping kept := by
    simp only [written, List.filter_cons, keeping]
    split <;> split <;> split <;> rfl
  rwa [same] at read

lemma MemoryCacheConfig.readsTexts (c : MemoryCacheConfig) (kept : String → Bool) :
    ReadsTexts shape.read (RecordText c.written kept) (c.keeping kept) := by
  have begins (s : List Char) (h : EntriesText c.initValues s) : ∃ c t, s = c :: t ∧ Opens c := by
    obtain ⟨_, _, spelled⟩ := h
    exact spelled.begins
  have suits : List.Forall₂ Written.Suits shape.fields c.written :=
    .cons (suits_natField ..) (.cons (suits_natField ..)
      (.cons (suits_field (readsTexts_entries "a string" c.initValues) begins ..) .nil))
  have read := reads_recordText suits (by simp [written]) (by simp [written]) kept
  have same : putAll shape.start (c.written.filter fun e => kept e.name) = c.keeping kept := by
    simp only [written, List.filter_cons, keeping]
    split <;> split <;> split <;> rfl
  rwa [same] at read

lemma FileCacheConfig.readsTexts (c : FileCacheConfig) (kept : String → Bool) :
    ReadsTexts shape.read (RecordText c.written kept) (c.keeping kept) := by
  have suits : List.Forall₂ Written.Suits shape.fields c.written :=
    .cons (suits_field (reads_text "path string" c.directory) (fun _ h => h.begins) ..) .nil
  have read := reads_recordText suits (by simp [written]) (by simp [written]) kept
  have same : putAll shape.start (c.written.filter fun e => kept e.name) = c.keeping kept := by
    simp only [written, List.filter_cons, keeping]
    split <;> rfl
  rwa [same] at read

lemma LogConfig.readsTexts (c : LogConfig) (kept : String → Bool) :
    ReadsTexts shape.read (RecordText c.written kept) (c.keeping kept) := by
  have suits : List.Forall₂ Written.Suits shape.fields c.written :=
    .cons (suits_field (reads_text "a string" c.level) (fun _ h => h.begins) _
        fun (r : LogConfig) level => { r with level })
      (.cons (suits_field (reads_bool c.json) (fun _ h => h.begins) _
          fun (r : LogConfig) json => { r with json })
        .nil)
  have read := reads_recordText suits (by simp [written]) (by simp [written]) kept
  have same : putAll shape.start (c.written.filter fun e => kept e.name) = c.keeping kept := by
    simp only [written, List.filter_cons, keeping]
    split <;> split <;> rfl
  rwa [same] at read

/-! ### Configurations -/

variable {parts : String → Bool} {kept : (part field : String) → Bool} {before s after : List Char}

lemma Config.readsTexts (c : Config) (parts : String → Bool) (kept : (part field : String) → Bool) :
    ReadsTexts shape.read (RecordText (c.written kept) parts)
      (c.keeping fun part field => parts part && kept part field) := by
  have suits : List.Forall₂ Written.Suits shape.fields (c.written kept) :=
    .cons (suits_field (c.pipeline.readsTexts _) (fun _ h => h.begins) _
        fun (r : Config) pipeline => { r with pipeline })
      (.cons (suits_field (c.memoryCache.readsTexts _) (fun _ h => h.begins) _
          fun (r : Config) memoryCache => { r with memoryCache })
        (.cons (suits_field (c.fileCache.readsTexts _) (fun _ h => h.begins) _
            fun (r : Config) fileCache => { r with fileCache })
          (.cons (suits_field (c.logging.readsTexts _) (fun _ h => h.begins) _
              fun (r : Config) logging => { r with logging })
            .nil)))
  have read := reads_recordText suits (by simp [written]) (by simp [written]) parts
  have same : putAll shape.start ((c.written kept).filter fun e => parts e.name) =
      c.keeping fun part field => parts part && kept part field := by
    simp only [written, List.filter_cons, keeping]
    cases parts "pipeline" <;> cases parts "memory_cache" <;> cases parts "file_cache" <;>
      cases parts "logging" <;> rfl
  rwa [same] at read

/-- From every document in which some settings of a configuration are written, whether its records are
written as objects, with their fields in any order and with any members that mean nothing between
them, or as lists of their first fields, whatever blanks stand between its tokens, and however its
texts are escaped, the configuration is read that has these settings and the defaults of all others.
-/
theorem Config.parse_recordText (c : Config) (leading : Blanks before)
    (text : RecordText (c.written kept) parts s) (trailing : Blanks after) :
    parse (.ofList (before ++ (s ++ after))) =
      .ok (c.keeping fun part field => parts part && kept part field) := by
  rw [parse, (c.readsTexts parts kept).document leading text trailing]

/-- Settings that differ from the defaults. -/
def Config.busy : Config where
  pipeline := { threads := 2, laneBuffer := 7, outputBuffer := 3 }
  fileCache := { directory := "/tmp" }
  logging := { level := "debug", json := true }

/-- A document with some of these settings. One section is a list, one has its fields in another order,
and two are missing; one member is unknown. -/
def Config.rearranged : List Char :=
  "\x7b\"x\":[\x7b\"y\":null\x7d], \"logging\": [\"debug\"],
    \"pipeline\": \x7b\"output_buffer\":3, \"\\u0074hreads\":2\x7d\x7d".toList

/-- The sections in this document. -/
def Config.rearrangedParts (part : String) : Bool := part ∈ ["pipeline", "logging"]

/-- The settings in the sections of this document. -/
def Config.rearrangedKept (_ field : String) : Bool := field ∉ ["lane_buffer", "json"]

theorem Config.parse_recordText_rearranged :
    Blanks ['\n'] ∧
      RecordText (busy.written rearrangedKept) rearrangedParts rearranged ∧
      parse (.ofList (['\n'] ++ (rearranged ++ ['\n']))) = .ok
        { pipeline := { threads := 2, outputBuffer := 3 }, logging := { level := "debug" } } := by
  have line : Blanks ['\n'] := by simp [Blanks, isBlank]
  have indented : Blanks "\n    ".toList := by simp [Blanks, isBlank]
  have space : Blanks [' '] := by simp [Blanks, isBlank]
  have unknown : WellFormed "[\x7b\"y\":null\x7d]".toList := by
    have key : Frame.object.Key _ := .object (textSpelling_escape ['y']).body blanks_nil blanks_nil
    have member := WellFormedPieces.cons blanks_nil key .null blanks_nil .nil
    have object := WellFormed.nested member blanks_nil
    have element := WellFormedPieces.cons blanks_nil .list object blanks_nil .nil
    exact WellFormed.nested element blanks_nil
  have logging : RecordText busy.logging.written (rearrangedKept "logging")
      "[\"debug\"]".toList := by
    have level : Padded (Spelling (.text "debug")) _ :=
      .intro blanks_nil (.text _ (textSpelling_escape _)) blanks_nil
    have elements : List.Forall₂ (fun e => Padded (Written.texts e)) (busy.logging.written.take 1) _ :=
      .cons level .nil
    exact .list rfl elements blanks_nil
  have pipeline : RecordText busy.pipeline.written (rearrangedKept "pipeline")
      "\x7b\"output_buffer\":3, \"\\u0074hreads\":2\x7d".toList := by
    have output : MemberText "output_buffer" (Spelling (.nat 3)) _ :=
      .intro blanks_nil (textSpelling_escape _) blanks_nil blanks_nil (.nat 3) blanks_nil
    have name : TextSpelling "threads".toList "\\u0074hreads\"".toList :=
      .unit (show hexUnit? '0' '0' '7' '4' = some 0x74 from rfl) (by decide)
        (textSpelling_escape "hreads".toList)
    have threads : MemberText "threads" (Spelling (.nat 2)) _ :=
      .intro space name blanks_nil blanks_nil (.nat 2) blanks_nil
    have members : ObjectPieces (busy.pipeline.written.map Written.name)
        (busy.pipeline.written.eraseIdx 1).reverse _ := .field output (.field threads .nil)
    have order : (busy.pipeline.written.eraseIdx 1).reverse.Perm
        (busy.pipeline.written.filter fun e => rearrangedKept "pipeline" e.name) :=
      List.reverse_perm _
    exact .object order members blanks_nil
  have text : RecordText (busy.written rearrangedKept) rearrangedParts rearranged := by
    have other : MemberText "x" WellFormed _ :=
      .intro blanks_nil (textSpelling_escape _) blanks_nil blanks_nil unknown blanks_nil
    have first : MemberText "logging" _ _ :=
      .intro space (textSpelling_escape _) blanks_nil space logging blanks_nil
    have second : MemberText "pipeline" _ _ :=
      .intro indented (textSpelling_escape _) blanks_nil space pipeline blanks_nil
    have members : ObjectPieces ((busy.written rearrangedKept).map Written.name)
        (((busy.written rearrangedKept).eraseIdx 1).eraseIdx 1).reverse _ :=
      .other (by simp [written]) other (.field first (.field second .nil))
    have order : (((busy.written rearrangedKept).eraseIdx 1).eraseIdx 1).reverse.Perm
        ((busy.written rearrangedKept).filter fun e => rearrangedParts e.name) :=
      List.reverse_perm _
    have built := RecordText.object order members blanks_nil
    refine (congrArg (RecordText _ _) ?_).mp built
    decide +kernel
  exact ⟨line, text, busy.parse_recordText line text line⟩

/-! ### Written configurations -/

lemma Config.spells (c : Config) {initValues : List (String × String)}
    (h : initValues.Perm c.memoryCache.initValues.toList) {s : List Char}
    (spelled : Spelling (c.toValueWith initValues) s) :
    RecordText (c.written fun _ _ => true) (fun _ => true) s := by
  refine .of_spelling (.cons ⟨rfl, fun _ => .of_spelling ?_⟩ (.cons ⟨rfl, fun _ => .of_spelling ?_⟩
    (.cons ⟨rfl, fun _ => .of_spelling ?_⟩ (.cons ⟨rfl, fun _ => .of_spelling ?_⟩ .nil)))) spelled
  · exact .cons ⟨rfl, fun _ => id⟩ (.cons ⟨rfl, fun _ => id⟩ (.cons ⟨rfl, fun _ => id⟩ .nil))
  · exact .cons ⟨rfl, fun _ => id⟩ (.cons ⟨rfl, fun _ => id⟩
      (.cons ⟨rfl, fun _ spelled => ⟨initValues, h, spelled⟩⟩ .nil))
  · exact .cons ⟨rfl, fun _ => id⟩ .nil
  · exact .cons ⟨rfl, fun _ => id⟩ (.cons ⟨rfl, fun _ => id⟩ .nil)

lemma Config.reads (c : Config) {initValues : List (String × String)}
    (h : initValues.Perm c.memoryCache.initValues.toList) :
    Reads shape.read (c.toValueWith initValues) c := fun _ _ _ leading spelled closed =>
  c.readsTexts (fun _ => true) (fun _ _ => true) leading (c.spells h spelled) closed

/-- A configuration is read back from its document, with the initial values in any order. -/
theorem Config.parse_renderWith (c : Config) {initValues : List (String × String)}
    (h : initValues.Perm c.memoryCache.initValues.toList) :
    parse (c.renderWith initValues) = .ok c := by
  rw [parse, renderWith, (c.reads h).document_pretty]

/-- A configuration with the largest numbers, with texts that need escapes and with several initial
values. -/
def Config.extreme : Config where
  pipeline := { threads := 0, laneBuffer := 18446744073709551615 }
  memoryCache :=
    { ttlSeconds := 18446744073709551615
      initValues := .ofList [("\"", "\x00"), ("é\\", "")] }
  fileCache := { directory := "/tmp/\n" }
  logging := { level := "", json := true }

theorem Config.parse_renderWith_extreme :
    [("é\\", ""), ("\"", "\x00")].Perm extreme.memoryCache.initValues.toList ∧
      parse (extreme.renderWith [("é\\", ""), ("\"", "\x00")]) = .ok extreme := by
  have order : [("é\\", ""), ("\"", "\x00")].Perm extreme.memoryCache.initValues.toList := by
    decide +kernel
  exact ⟨order, extreme.parse_renderWith order⟩

end Conveyor

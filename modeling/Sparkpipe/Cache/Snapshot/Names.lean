import Mathlib.Data.List.DropRight
import Sparkpipe.Lib.Numeral
import Sparkpipe.Sha256.Hex
import Sparkpipe.Status

/-!
# Names of snapshot files

`kv_snapshot.c` keeps one file for each saved page or state and finds out what a directory holds
from the names alone: `SparkKvSnapshotPath` writes a key into a name, `SparkKvSnapshotParseName`
reads it back, and the scan of a shard builds the index from what it reads. A text is the list of
its bytes before the terminating zero. Of an index entry only what its key and its parent's are
made of is kept, with what the scan knows of the file; the scan's index insertion has room.
-/

namespace Sparkpipe.KvSnapshot

open Sha256 (Digest digestBytes hexPair hexToDigest toHex)

/-- `SPARK_KV_SNAPSHOT_FILE_PAGES`. -/
def filePages : UInt32 := 0

/-- `SPARK_KV_SNAPSHOT_FILE_STATE`. -/
def fileState : UInt32 := 1

/-- `SPARK_KV_SNAPSHOT_SUFFIX`. -/
def pagesSuffix : List Char := ".kvs".toList

/-- `SPARK_KV_SNAPSHOT_STATE_SUFFIX`. -/
def stateSuffix : List Char := ".kvst".toList

/-- `SPARK_KV_SNAPSHOT_TEMPORARY_PREFIX`. -/
def temporaryPrefix : List Char := ".kvs-writing-".toList

/-- `SPARK_KV_SNAPSHOT_PATH_BYTES`. -/
def pathBytes : Nat := 1024

/-- `SPARK_KV_RETENTION_SECONDS`. -/
def retentionSeconds : UInt64 := 86400

/-- `SparkKvSnapshotKey`. -/
structure Key where
  layoutSha256 : Digest
  identitySha256 : Digest
  tokenCount : UInt32
  fileKind : UInt32
  deriving DecidableEq

/-- A key after `memset`: the parent of a file without one. -/
def Key.zero : Key where
  layoutSha256 := .zero digestBytes
  identitySha256 := .zero digestBytes
  tokenCount := 0
  fileKind := 0

/-- `key->identity_sha256[0]`, the shard of a key. -/
def Key.shard (key : Key) : UInt8 := key.identitySha256.1.headD 0

/-- `SparkKvSnapshotHasParent`; `none` is the null pointer. -/
def hasParent (key : Key) (parent : Option Key) : Bool :=
  key.fileKind = filePages && parent.any fun parent => parent.tokenCount ≠ 0

/-- The parent a file is named with. -/
def namedParent (key : Key) (parent : Option Key) : Key :=
  if hasParent key parent then parent.getD .zero else .zero

section Writing

/-- `%u`. -/
def printCount (count : UInt32) : List Char := Nat.toDigits 10 count.toNat

/-- `%s-%s-%u%s` of a state file, with the text of its count. -/
def stateName (layout identity : Digest) (count : List Char) : List Char :=
  toHex layout.1 ++ '-' :: toHex identity.1 ++ '-' :: count ++ stateSuffix

/-- `%s-%s-%u-%s-%u%s` of a page file, with the texts of its counts. -/
def pagesName (layout identity : Digest) (count : List Char) (parentIdentity : Digest)
    (parentCount : List Char) : List Char :=
  toHex layout.1 ++ '-' :: toHex identity.1 ++ '-' :: count ++
    '-' :: toHex parentIdentity.1 ++ '-' :: parentCount ++ pagesSuffix

/-- The name of a file; the parent is the root's for a state file and for a first page. -/
def fileName (key parent : Key) : List Char :=
  if key.fileKind = fileState then
    stateName key.layoutSha256 key.identitySha256 (printCount key.tokenCount)
  else
    pagesName key.layoutSha256 key.identitySha256 (printCount key.tokenCount)
      parent.identitySha256 (printCount parent.tokenCount)

/-- `%s/%02x/%s`. -/
def shardPath (directory : List Char) (shard : UInt8) (name : List Char) : List Char :=
  directory ++ '/' :: hexPair shard ++ '/' :: name

/-- A parent that `SparkKvSnapshotPath` does not name a file with. -/
def misfit (key parent : Key) : Bool :=
  key.tokenCount ≤ parent.tokenCount || parent.fileKind ≠ filePages ||
    parent.layoutSha256 ≠ key.layoutSha256

/-- `SparkKvSnapshotPath`. A length beyond the range of `int` is what `snprintf` fails on. -/
def path (directory : List Char) (key : Key) (parent : Option Key) (pathCapacity : Nat) :
    Except SparkStatus (List Char) :=
  if directory = [] ∨ key.tokenCount = 0 ∨ (key.fileKind ≠ filePages ∧ key.fileKind ≠ fileState) then
    .error .invalidArgument
  else if hasParent key parent ∧ misfit key (namedParent key parent) then
    .error .invalidArgument
  else
    let text := shardPath directory key.shard (fileName key (namedParent key parent))
    if 0x7fffffff < text.length ∨ pathCapacity ≤ text.length then .error .capacityExceeded else .ok text

/-- What follows the last slash. -/
def lastComponent (path : List Char) : List Char := path.rtakeWhile (· ≠ '/')

end Writing

section Reading

/-- The loop of `SparkKvSnapshotParseCount`. -/
def parseDigits : List Char → Nat → Option Nat
  | [], count => some count
  | digit :: rest, count =>
    if digit < '0' ∨ '9' < digit then none
    else
      let count := count * 10 + (digit.toNat - '0'.toNat)
      if 0xffffffff < count then none else parseDigits rest count

/-- `SparkKvSnapshotParseCount`. -/
def parseCount (text : List Char) : Option UInt32 :=
  if text.length = 0 then none else (parseDigits text 0).map UInt32.ofNat

/-- What the end of a name says: the file kind, and the length of the suffix. -/
def parseSuffix (name : List Char) : Option (UInt32 × Nat) :=
  if stateSuffix.length < name.length ∧ name.drop (name.length - stateSuffix.length) = stateSuffix then
    some (fileState, stateSuffix.length)
  else if pagesSuffix.length < name.length ∧
      name.drop (name.length - pagesSuffix.length) = pagesSuffix then
    some (filePages, pagesSuffix.length)
  else none

/-- The rest of the name of a state file. -/
def parseState (layout identity : Digest) (counts : List Char) : Option (Key × Key) :=
  if counts.idxOf? '-' ≠ none then none
  else do
    let tokenCount ← parseCount counts
    if tokenCount = 0 then none else some (⟨layout, identity, tokenCount, fileState⟩, .zero)

/-- The rest of the name of a page file. A parent count of zero clears the parent that was read. -/
def parsePages (layout identity : Digest) (counts : List Char) : Option (Key × Key) := do
  let hex := 2 * digestBytes
  let dash ← counts.idxOf? '-'
  let tokenCount ← parseCount (counts.take dash)
  if tokenCount = 0 then none
  else
    let parentText := counts.drop (dash + 1)
    if parentText.length < hex + 2 ∨ parentText[hex]? ≠ some '-' then none
    else do
      let parentIdentity ← hexToDigest parentText
      let parentTokens ← parseCount (parentText.drop (hex + 1))
      if tokenCount ≤ parentTokens then none
      else
        let parent := if parentTokens = 0 then .zero else ⟨layout, parentIdentity, parentTokens, filePages⟩
        some (⟨layout, identity, tokenCount, filePages⟩, parent)

/-- `SparkKvSnapshotParseName`: the key and the parent, or `none` where it returns zero. -/
def parseName (name : List Char) : Option (Key × Key) := do
  let hex := 2 * digestBytes
  let (fileKind, suffix) ← parseSuffix name
  let body := name.length - suffix
  if body ≤ 2 * hex + 2 ∨ name[hex]? ≠ some '-' ∨ name[2 * hex + 1]? ≠ some '-' then none
  else do
    let layout ← hexToDigest name
    let identity ← hexToDigest (name.drop (hex + 1))
    let counts := (name.drop (2 * hex + 2)).take (body - (2 * hex + 2))
    if fileKind = fileState then parseState layout identity counts
    else parsePages layout identity counts

end Reading

section Scanning

/-- `SparkKvSnapshotIndexEntry`. -/
structure IndexEntry where
  key : Key
  parentIdentity : Digest
  parentTokens : UInt32
  bytes : UInt64
  recency : UInt64
  usedSeconds : UInt64
  deriving DecidableEq

/-- What `SparkKvSnapshotIndexInsert` writes into an entry. -/
def indexEntry (key : Key) (parent : Option Key) (bytes recency usedSeconds : UInt64) : IndexEntry where
  key := key
  parentIdentity := (namedParent key parent).identitySha256
  parentTokens := (namedParent key parent).tokenCount
  bytes := bytes
  recency := recency
  usedSeconds := usedSeconds

/-- `SparkKvSnapshotEntryParent`. -/
def entryParent (entry : IndexEntry) : Key :=
  if entry.parentTokens = 0 then .zero
  else ⟨entry.key.layoutSha256, entry.parentIdentity, entry.parentTokens, filePages⟩

/-- `SparkKvSnapshotEntryPath`, into a buffer of `SPARK_KV_SNAPSHOT_PATH_BYTES`. -/
def entryPath (directory : List Char) (entry : IndexEntry) : Except SparkStatus (List Char) :=
  path directory entry.key (some (entryParent entry)) pathBytes

/-- What `fstatat` reports of a regular file. -/
structure FileInfo where
  size : UInt64
  mtime : UInt64

/-- What `SparkKvSnapshotScanShard` does with one item of a shard's directory. -/
inductive ScanStep where
  | skip
  | removeTemporary
  | removeMisplaced
  | removeExpired
  | insert (entry : IndexEntry)
  deriving DecidableEq

/-- One round of `SparkKvSnapshotScanShard`; `none` is no regular file. -/
def scanItem (shard : UInt8) (now : UInt64) (name : List Char) (info : Option FileInfo) : ScanStep :=
  if temporaryPrefix <+: name then .removeTemporary
  else
    match parseName name with
    | none => .skip
    | some (key, parent) =>
      if key.shard ≠ shard then .removeMisplaced
      else
        match info with
        | none => .skip
        | some info =>
          if info.mtime + retentionSeconds ≤ now then .removeExpired
          else .insert (indexEntry key (some parent) info.size info.mtime info.mtime)

end Scanning

end Sparkpipe.KvSnapshot

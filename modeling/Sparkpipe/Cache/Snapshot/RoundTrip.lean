import Sparkpipe.Cache.Snapshot.Reading

/-!
# From keys to names and back

What `SparkKvSnapshotPath` writes is read back. The other way round the parser takes names that
are never written: it skips the zeros before a count, and it reads the digest of a parent whose
count is zero only to clear it. The index entry of such a file has the path of another file.
-/

namespace Sparkpipe.KvSnapshot

open Sha256 (Digest digestBytes toHex toHex_injective notMem_toHex)

/-- A directory that `SparkKvSnapshotStoreOpen` takes. -/
structure StoreDirectory where
  text : List Char
  absolute : text.head? = some '/'
  short : text.length < pathBytes / 2

/-- What a name says of the parent, with the suffix; a state file says nothing. -/
def parentPart (name : List Char) : List Char :=
  ((name.drop (2 * (2 * digestBytes) + 2)).dropWhile (· ≠ '-')).drop 1

/-- What the name of a first page says of the parent: the zero key. -/
def rootPart : List Char := toHex Key.zero.identitySha256.1 ++ '-' :: '0' :: pagesSuffix

/-- The token count begins with no zero, and the parent's count with one only in the text of the
root. -/
def Canonical (name : List Char) : Prop :=
  (name.drop (2 * (2 * digestBytes) + 2)).head? ≠ some '0' ∧
    (((parentPart name).drop (2 * digestBytes + 1)).head? = some '0' → parentPart name = rootPart)

instance (name : List Char) : Decidable (Canonical name) :=
  inferInstanceAs (Decidable (_ ∧ (_ → _)))

section Writing

variable {directory text : List Char} {key : Key} {parent : Option Key} {pathCapacity : Nat}

/-- What the checks of `SparkKvSnapshotPath` leave. -/
structure Named (key : Key) (parent : Option Key) : Prop where
  counted : key.tokenCount ≠ 0
  kind : key.fileKind = filePages ∨ key.fileKind = fileState
  fits : hasParent key parent → misfit key (namedParent key parent) = false

theorem path_eq_ok : path directory key parent pathCapacity = .ok text ↔
    directory ≠ [] ∧ Named key parent ∧
      text = shardPath directory key.shard (fileName key (namedParent key parent)) ∧
      text.length ≤ 0x7fffffff ∧ text.length < pathCapacity := by
  rw [path]
  constructor
  · intro written
    split at written
    · exact absurd written nofun
    · next checked =>
        split at written
        · exact absurd written nofun
        · next fits =>
            dsimp only at written
            split at written
            · exact absurd written nofun
            · next room =>
                cases written
                rw [not_or, not_or] at checked
                rw [not_or] at room
                refine ⟨checked.1, ⟨checked.2.1, ?_, ?_⟩, rfl, by omega, by omega⟩
                · by_contra neither
                  exact checked.2.2 (not_or.1 neither)
                · intro parented
                  exact Bool.eq_false_iff.2 fun misfits => fits ⟨parented, misfits⟩
  · rintro ⟨nonempty, ⟨counted, kind, fits⟩, rfl, small, room⟩
    have checked : ¬ (directory = [] ∨ key.tokenCount = 0 ∨
        (key.fileKind ≠ filePages ∧ key.fileKind ≠ fileState)) := by
      rintro (empty | none | ⟨notPages, notState⟩)
      · exact nonempty empty
      · exact counted none
      · exact kind.elim notPages notState
    have fitting : ¬ (hasParent key parent ∧ misfit key (namedParent key parent)) := by
      rintro ⟨parented, misfits⟩
      rw [fits parented] at misfits
      exact absurd misfits nofun
    rw [if_neg checked, if_neg fitting]
    exact if_neg (by omega)

/-- The last component of a path in a shard is the name, which has no slash. -/
theorem lastComponent_shardPath {name : List Char} (directory : List Char) (shard : UInt8)
    (noSlash : '/' ∉ name) : lastComponent (shardPath directory shard name) = name := by
  have whole : ∀ character ∈ name.reverse, decide (character ≠ '/') = true := by
    intro character member
    refine decide_eq_true ?_
    rintro rfl
    exact noSlash (List.mem_reverse.1 member)
  have split : shardPath directory shard name =
      directory ++ '/' :: Sha256.hexPair shard ++ '/' :: name := rfl
  rw [lastComponent, List.rtakeWhile, split, List.reverse_append, List.reverse_cons,
    List.append_assoc, List.takeWhile_append_of_pos whole]
  simp

theorem slash_notMem_fileName (key parent : Key) : '/' ∉ fileName key parent := by
  have digits (count : UInt32) : '/' ∉ printCount count :=
    (Numeral.decimal_toDigits count.toNat).notMem (by decide)
  have digest (value : Digest) : '/' ∉ toHex value.1 := notMem_toHex (by decide) value.1
  have suffixes : '/' ∉ stateSuffix ∧ '/' ∉ pagesSuffix := by decide
  rw [fileName]
  split
  · simp [stateName, digits, digest, suffixes]
  · simp [pagesName, digits, digest, suffixes]

/-- The parent a page file is named with is told by its identity and its count. -/
theorem Named.readParent_eq (named : Named key parent) :
    readParent key.layoutSha256 (namedParent key parent).identitySha256
        (namedParent key parent).tokenCount = namedParent key parent ∧
      (namedParent key parent).tokenCount < key.tokenCount := by
  have positive : 0 < key.tokenCount := by
    have some : key.tokenCount.toNat ≠ 0 := fun none => named.counted (UInt32.toNat_inj.1 none)
    exact UInt32.lt_iff_toNat_lt.2 (Nat.pos_of_ne_zero some)
  by_cases parented : hasParent key parent
  · have fits := named.fits parented
    have same : namedParent key parent = parent.getD .zero := if_pos parented
    rw [hasParent, Bool.and_eq_true] at parented
    cases parent with
    | none => exact absurd parented.2 nofun
    | some parent =>
      have counted : parent.tokenCount ≠ 0 := of_decide_eq_true parented.2
      rw [same] at fits ⊢
      simp only [misfit, Option.getD_some, Bool.or_eq_false_iff, decide_eq_false_iff_not,
        not_not] at fits
      obtain ⟨⟨fewer, kind⟩, layout⟩ := fits
      refine ⟨?_, UInt32.not_le.1 fewer⟩
      rw [readParent, Option.getD_some, if_neg counted, ← layout, ← kind]
  · have same : namedParent key parent = .zero := if_neg parented
    rw [same]
    exact ⟨rfl, positive⟩

/-- What is written is accepted. -/
theorem Named.accepted (named : Named key parent) :
    Accepted (fileName key (namedParent key parent)) key (namedParent key parent) := by
  rw [fileName]
  by_cases isState : key.fileKind = fileState
  · rw [if_pos isState]
    have orphan : namedParent key parent = .zero := by
      refine if_neg ?_
      rw [hasParent, isState]
      exact nofun
    rw [orphan]
    have accepted := Accepted.state key.layoutSha256 key.identitySha256
      (parseCount_printCount key.tokenCount) named.counted
    rw [← isState] at accepted
    exact accepted
  · rw [if_neg isState]
    have isPages := named.kind.resolve_right isState
    obtain ⟨told, fewer⟩ := named.readParent_eq
    have accepted := Accepted.pages key.layoutSha256 key.identitySha256
      (namedParent key parent).identitySha256 (parseCount_printCount key.tokenCount) named.counted
      (parseCount_printCount (namedParent key parent).tokenCount) fewer
    rw [told, ← isPages] at accepted
    exact accepted

end Writing

section Names

variable {layout identity : Digest} {count rest text : List Char} {tokens : UInt32}

/-- A count is printed as it was read if and only if it does not begin with a zero. -/
theorem printCount_iff (read : parseCount text = some tokens) (counted : tokens ≠ 0) :
    printCount tokens = text ↔ text.head? ≠ some '0' := by
  obtain ⟨decimal, value⟩ := parseCount_eq_some.1 read
  have some : tokens.toNat ≠ 0 := fun none => counted (UInt32.toNat_inj.1 none)
  rw [printCount, ← value]
  exact Numeral.print_iff_of_pos decimal (by omega)

theorem head?_append (read : parseCount text = some tokens) (rest : List Char) :
    (text ++ rest).head? = text.head? :=
  List.head?_append_of_ne_nil _ (parseCount_eq_some.1 read).1.1

theorem parentPart_stateName (read : parseCount count = some tokens) :
    parentPart (stateName layout identity count) = [] := by
  have absent : '-' ∉ count ++ stateSuffix := by
    rw [List.mem_append, not_or]
    exact ⟨notMem_of_parseCount (by decide) read, by decide⟩
  rw [parentPart, stateName_eq, drop_afterDigests, List.dropWhile_eq_nil_iff.2, List.drop_nil]
  intro character member
  refine decide_eq_true ?_
  rintro rfl
  exact absent member

theorem parentPart_pagesName {parentIdentity : Digest} {parentCount : List Char}
    (read : parseCount count = some tokens) :
    parentPart (pagesName layout identity count parentIdentity parentCount) =
      toHex parentIdentity.1 ++ '-' :: (parentCount ++ pagesSuffix) := by
  have whole : ∀ character ∈ count, decide (character ≠ '-') = true := by
    intro character member
    refine decide_eq_true ?_
    rintro rfl
    exact notMem_of_parseCount (by decide) read member
  rw [parentPart, pagesName_eq, drop_afterDigests, List.append_assoc,
    List.dropWhile_append_of_pos whole]
  simp

/-- Two texts that agree around a dash agree on both sides of it. -/
theorem append_dash_inj {other more : List Char} (absent : '-' ∉ text) (otherAbsent : '-' ∉ other) :
    text ++ '-' :: rest = other ++ '-' :: more ↔ text = other ∧ rest = more := by
  constructor
  · intro same
    have first := idxOf?_append absent rest
    rw [same, idxOf?_append otherAbsent] at first
    obtain ⟨before, after⟩ := List.append_inj same (Option.some.inj first).symm
    exact ⟨before, (List.cons.inj after).2⟩
  · rintro ⟨rfl, rfl⟩
    rfl

/-- The two texts of a parent agree if and only if its identity and its count do. -/
theorem parentText_inj {one two : Digest} {other : List Char} :
    toHex one.1 ++ '-' :: (text ++ pagesSuffix) = toHex two.1 ++ '-' :: (other ++ pagesSuffix) ↔
      one = two ∧ text = other := by
  rw [append_dash_inj (notMem_toHex (by decide) _) (notMem_toHex (by decide) _),
    List.append_cancel_right_eq]
  constructor
  · rintro ⟨digests, counts⟩
    exact ⟨toHex_injective digests, counts⟩
  · rintro ⟨rfl, rfl⟩
    exact ⟨rfl, rfl⟩

theorem pagesName_inj {one two : Digest} {other parentCount otherParent : List Char}
    (absent : '-' ∉ count) (otherAbsent : '-' ∉ other) :
    pagesName layout identity count one parentCount = pagesName layout identity other two otherParent ↔
      count = other ∧ one = two ∧ parentCount = otherParent := by
  have split (count : List Char) (parent : Digest) (parentCount : List Char) :
      pagesName layout identity count parent parentCount =
        toHex layout.1 ++ '-' :: toHex identity.1 ++ '-' ::
          (count ++ '-' :: (toHex parent.1 ++ '-' :: (parentCount ++ pagesSuffix))) := by
    simp only [pagesName, List.append_assoc, List.cons_append]
  rw [split, split, List.append_cancel_left_eq, List.cons.injEq, eq_self, true_and,
    append_dash_inj absent otherAbsent, parentText_inj]

theorem dash_notMem_printCount (value : UInt32) : '-' ∉ printCount value :=
  notMem_of_parseCount (by decide) (parseCount_printCount value)

/-- An accepted name is the one written for what was read if and only if it is canonical. -/
theorem Accepted.fileName_iff {name : List Char} {key parent : Key} (accepted : Accepted name key parent) :
    fileName key parent = name ↔ Canonical name := by
  cases accepted with
  | @state layout identity count tokens read counted =>
    have written : fileName ⟨layout, identity, tokens, fileState⟩ .zero =
      stateName layout identity (printCount tokens) := rfl
    rw [written, Canonical, parentPart_stateName read, stateName_eq, stateName_eq,
      drop_afterDigests, head?_append read, ← printCount_iff read counted]
    simp [afterDigests]
  | @pages layout identity parentIdentity count parentCount tokens parentTokens read counted
      parentRead fewer =>
      have written : fileName ⟨layout, identity, tokens, filePages⟩
          (readParent layout parentIdentity parentTokens) =
        pagesName layout identity (printCount tokens)
          (readParent layout parentIdentity parentTokens).identitySha256
          (printCount (readParent layout parentIdentity parentTokens).tokenCount) := rfl
      have absent : '-' ∉ count := notMem_of_parseCount (by decide) read
      rw [written, pagesName_inj (dash_notMem_printCount tokens) absent, Canonical,
        parentPart_pagesName read, drop_digest, head?_append parentRead, pagesName_eq,
        drop_afterDigests, List.append_assoc, head?_append read, ← printCount_iff read counted]
      refine and_congr_right fun _ => ?_
      have root : rootPart = toHex Key.zero.identitySha256.1 ++ '-' :: (['0'] ++ pagesSuffix) := rfl
      rw [root, parentText_inj]
      obtain ⟨decimal, value⟩ := parseCount_eq_some.1 parentRead
      by_cases orphan : parentTokens = 0
      · subst orphan
        have cleared : readParent layout parentIdentity 0 = .zero := rfl
        have zero : printCount Key.zero.tokenCount = ['0'] := rfl
        rw [cleared, zero, Numeral.leads_of_zero decimal value]
        constructor
        · rintro ⟨identities, counts⟩ _
          exact ⟨identities.symm, counts.symm⟩
        · intro isRoot
          obtain ⟨identities, counts⟩ := isRoot rfl
          exact ⟨identities.symm, counts.symm⟩
      · have kept : readParent layout parentIdentity parentTokens =
          ⟨layout, parentIdentity, parentTokens, filePages⟩ := if_neg orphan
        rw [kept, printCount_iff parentRead orphan]
        constructor
        · rintro ⟨_, unpadded⟩ leads
          exact absurd leads unpadded
        · intro isRoot
          refine ⟨rfl, fun leads => ?_⟩
          rw [(isRoot leads).2] at value
          exact orphan (UInt32.toNat_inj.1 value.symm)

end Names

section Files

variable {name : List Char} {key parent : Key}

theorem namedParent_of_hasParent (parented : hasParent key (some parent)) :
    namedParent key (some parent) = parent := if_pos parented

/-- The key and the parent that are read can be written. -/
theorem Accepted.named (accepted : Accepted name key parent) :
    Named key (some parent) ∧ namedParent key (some parent) = parent := by
  cases accepted with
  | @state layout identity count tokens _ counted =>
    exact ⟨⟨counted, .inr rfl, nofun⟩, rfl⟩
  | @pages layout identity parentIdentity count parentCount tokens parentTokens _ counted _ fewer =>
    by_cases orphan : parentTokens = 0
    · subst orphan
      exact ⟨⟨counted, .inl rfl, nofun⟩, rfl⟩
    · have kept : readParent layout parentIdentity parentTokens =
        ⟨layout, parentIdentity, parentTokens, filePages⟩ := if_neg orphan
      rw [kept]
      have parented : hasParent ⟨layout, identity, tokens, filePages⟩
          (some ⟨layout, parentIdentity, parentTokens, filePages⟩) := by
        simp [hasParent, orphan]
      have same := namedParent_of_hasParent parented
      refine ⟨⟨counted, .inl rfl, fun _ => ?_⟩, same⟩
      rw [same]
      simp [misfit, fewer]

theorem length_printCount (value : UInt32) : (printCount value).length ≤ 10 := by
  rw [printCount, Nat.length_toDigits_le_iff (by omega) (by omega)]
  have range : value.toNat < 2 ^ 32 := UInt32.toNat_lt value
  omega

theorem length_fileName (key parent : Key) : (fileName key parent).length ≤ 220 := by
  have count := length_printCount key.tokenCount
  have parentCount := length_printCount parent.tokenCount
  have digest : 2 * digestBytes = 64 := rfl
  have suffixes : stateSuffix.length = 5 ∧ pagesSuffix.length = 4 := ⟨rfl, rfl⟩
  rw [fileName]
  split
  · simp only [stateName, List.length_append, List.length_cons, length_digest]
    omega
  · simp only [pagesName, List.length_append, List.length_cons, length_digest]
    omega

/-- In the directory of a store every name that is read has a path. -/
theorem Accepted.path_eq (accepted : Accepted name key parent) (store : StoreDirectory) :
    path store.text key (some parent) pathBytes =
      .ok (shardPath store.text key.shard (fileName key parent)) := by
  obtain ⟨named, same⟩ := accepted.named
  have short := store.short
  have bytes : pathBytes = 1024 := rfl
  have size := length_fileName key parent
  have pair : (Sha256.hexPair key.shard).length = 2 := rfl
  have total : (shardPath store.text key.shard (fileName key parent)).length < pathBytes := by
    simp only [shardPath, List.length_append, List.length_cons]
    omega
  refine path_eq_ok.2 ⟨?_, named, by rw [same], by omega, total⟩
  intro empty
  have absolute := store.absolute
  rw [empty] at absolute
  exact absurd absolute nofun

/-- What the scan indexes is a file whose name is read, in the shard of its key. -/
theorem scanItem_insert {shard : UInt8} {now : UInt64} {info : Option FileInfo} {entry : IndexEntry}
    (indexed : scanItem shard now name info = .insert entry) : ∃ parent size mtime,
      Accepted name entry.key parent ∧ entry.key.shard = shard ∧
        entry = indexEntry entry.key (some parent) size mtime mtime := by
  rw [scanItem] at indexed
  split at indexed
  · exact absurd indexed nofun
  · split at indexed
    · exact absurd indexed nofun
    · next key parent read =>
        split at indexed
        · exact absurd indexed nofun
        · next placed =>
            split at indexed
            · exact absurd indexed nofun
            · next info =>
                split at indexed
                · exact absurd indexed nofun
                · cases indexed
                  exact ⟨parent, info.size, info.mtime, parseName_iff.1 read, not_not.1 placed, rfl⟩

/-- The entry of a file that is read keeps its parent. -/
theorem Accepted.entryParent_eq (accepted : Accepted name key parent) (bytes recency used : UInt64) :
    entryParent (indexEntry key (some parent) bytes recency used) = parent := by
  have same := accepted.named.2
  rw [entryParent, indexEntry, same]
  cases accepted with
  | state => rfl
  | @pages layout identity parentIdentity count parentCount tokens parentTokens =>
    by_cases orphan : parentTokens = 0
    · subst orphan
      rfl
    · have kept : readParent layout parentIdentity parentTokens =
        ⟨layout, parentIdentity, parentTokens, filePages⟩ := if_neg orphan
      rw [kept]
      exact if_neg orphan

/-- A name that is read begins with a digest, and not as a temporary file's does. -/
theorem Accepted.lasting (accepted : Accepted name key parent) : ¬ temporaryPrefix <+: name := by
  have begins : ∃ rest, name = toHex key.layoutSha256.1 ++ rest := by
    cases accepted with
    | state | pages =>
      simp only [stateName, pagesName, List.append_assoc]
      exact ⟨_, rfl⟩
  rintro ⟨tail, same⟩
  obtain ⟨rest, begins⟩ := begins
  have size := length_digest key.layoutSha256
  have noDot : '.' ∉ toHex key.layoutSha256.1 := notMem_toHex (by decide) _
  rw [begins] at same
  cases text : toHex key.layoutSha256.1 with
  | nil =>
    rw [text] at size
    cases size
  | cons first more =>
    rw [text] at same noDot
    exact noDot ((List.cons.inj same).1 ▸ (.head _))

end Files

/-- A path that is written is read back. A name that is read is the one written for its key and
parent if and only if it is canonical, and so is the path of the index entry that the scan makes of
the file the path of that file. -/
theorem names_round_trip (store : StoreDirectory) :
    (∀ directory key parent pathCapacity text, path directory key parent pathCapacity = .ok text →
      parseName (lastComponent text) = some (key, namedParent key parent)) ∧
    (∀ name key parent, parseName name = some (key, parent) →
      ((∃ text, path store.text key (some parent) pathBytes = .ok text ∧ lastComponent text = name) ↔
        Canonical name)) ∧
    ∀ shard now name info entry,
      scanItem shard now name info = .insert entry →
        (entryPath store.text entry = .ok (shardPath store.text shard name) ↔ Canonical name) := by
  refine ⟨?_, ?_, ?_⟩
  · intro directory key parent pathCapacity text written
    obtain ⟨_, named, rfl, _⟩ := path_eq_ok.1 written
    rw [lastComponent_shardPath _ _ (slash_notMem_fileName _ _)]
    exact parseName_iff.2 named.accepted
  · intro name key parent read
    have accepted := parseName_iff.1 read
    rw [← accepted.fileName_iff, accepted.path_eq store]
    constructor
    · rintro ⟨text, written, last⟩
      cases written
      rw [lastComponent_shardPath _ _ (slash_notMem_fileName _ _)] at last
      exact last
    · intro same
      exact ⟨_, rfl, (lastComponent_shardPath _ _ (slash_notMem_fileName _ _)).trans same⟩
  · intro shard now name info entry indexed
    obtain ⟨parent, size, mtime, accepted, placed, same⟩ := scanItem_insert indexed
    have told : entryParent entry = parent := by
      rw [same]
      exact accepted.entryParent_eq size mtime mtime
    rw [entryPath, told, accepted.path_eq store, ← accepted.fileName_iff, placed]
    constructor
    · intro written
      have texts := Except.ok.inj written
      simp only [shardPath, List.append_cancel_left_eq, List.cons.injEq, true_and] at texts
      exact texts
    · intro written
      rw [written]

/-- A digest whose bytes all differ. -/
def countedDigest : Digest := ⟨(List.range 32).map fun byte => .ofNat (8 * byte), rfl⟩

/-- A page of 64 tokens behind one of 32 in the store `/s`. -/
theorem names_round_trip_page : ∃ text, path ['/', 's'] ⟨countedDigest, countedDigest, 64, filePages⟩
    (some ⟨countedDigest, countedDigest, 32, filePages⟩) pathBytes = .ok text ∧
      lastComponent text = pagesName countedDigest countedDigest ['6', '4'] countedDigest ['3', '2'] :=
  ((names_round_trip ⟨['/', 's'], rfl, by decide⟩).2.1 _ _ _ (by decide +kernel)).2 (by decide +kernel)

/-- The name of a first page whose parent has a digest but no tokens. -/
def strayName : List Char :=
  pagesName (.zero digestBytes) (.zero digestBytes) ['6', '4'] ⟨1 :: List.replicate 31 0, rfl⟩ ['0']

/-- It is read, with no parent, and the scan indexes the file; no path leads back to it. -/
theorem stray_not_found :
    parseName strayName = some (⟨.zero digestBytes, .zero digestBytes, 64, filePages⟩, .zero) ∧
      (∀ text, path ['/', 's'] ⟨.zero digestBytes, .zero digestBytes, 64, filePages⟩ (some .zero)
        pathBytes = .ok text → lastComponent text ≠ strayName) ∧
      ∃ entry, scanItem 0 0 strayName (some ⟨4096, 0⟩) = .insert entry ∧
        entryPath ['/', 's'] entry ≠ .ok (shardPath ['/', 's'] 0 strayName) := by
  refine ⟨by decide +kernel, ?_, indexEntry ⟨.zero digestBytes, .zero digestBytes, 64, filePages⟩
    (some .zero) 4096 0 0, by decide +kernel, by decide +kernel⟩
  intro text written
  have same : path ['/', 's'] ⟨.zero digestBytes, .zero digestBytes, 64, filePages⟩ (some .zero)
      pathBytes = .ok (shardPath ['/', 's'] 0 (fileName ⟨.zero digestBytes, .zero digestBytes, 64,
        filePages⟩ .zero)) := by decide +kernel
  rw [same] at written
  cases written
  decide +kernel

/-- A file that the store writes is found again after a restart: its shard's scan indexes it as it was
written until it expires, any other shard's scan removes it, the index entry has the path of the file, and no other
key or parent is written there. -/
theorem written_rescanned (store : StoreDirectory) (key : Key) (parent : Option Key) (text : List Char)
    (written : path store.text key parent pathBytes = .ok text) (shard : UInt8) (now : UInt64) (info : FileInfo) :
    scanItem shard now (lastComponent text) (some info) =
        (if key.shard ≠ shard then .removeMisplaced
        else if info.mtime + retentionSeconds ≤ now then .removeExpired
        else .insert (indexEntry key parent info.size info.mtime info.mtime)) ∧
      entryPath store.text (indexEntry key parent info.size info.mtime info.mtime) = .ok text ∧
      ∀ other otherParent, path store.text other otherParent pathBytes = .ok text →
        other = key ∧ namedParent other otherParent = namedParent key parent := by
  obtain ⟨_, named, rfl, _⟩ := path_eq_ok.1 written
  have accepted := named.accepted
  have read := parseName_iff.2 accepted
  have last (key parent : Key) := lastComponent_shardPath store.text key.shard (slash_notMem_fileName key parent)
  have entry : indexEntry key (some (namedParent key parent)) info.size info.mtime info.mtime =
      indexEntry key parent info.size info.mtime info.mtime := by
    rw [indexEntry, accepted.named.2]
    rfl
  refine ⟨?_, ?_, ?_⟩
  · rw [last, scanItem, if_neg accepted.lasting, read]
    dsimp only
    rw [entry]
  · rw [entryPath, ← entry, accepted.entryParent_eq]
    exact accepted.path_eq store
  · intro other otherParent otherWritten
    obtain ⟨_, otherNamed, same, _⟩ := path_eq_ok.1 otherWritten
    have names := congrArg lastComponent same
    rw [last, last] at names
    rw [names, parseName_iff.2 otherNamed.accepted] at read
    exact Prod.mk.inj (Option.some.inj read)

theorem written_rescanned_state : scanItem 0 0
    (lastComponent (shardPath ['/', 's'] 0 (stateName (.zero digestBytes) (.zero digestBytes) ['6', '4'])))
    (some ⟨4096, 0⟩) =
      .insert (indexEntry ⟨.zero digestBytes, .zero digestBytes, 64, fileState⟩ none 4096 0 0) :=
  (written_rescanned ⟨['/', 's'], rfl, by decide⟩ ⟨.zero digestBytes, .zero digestBytes, 64, fileState⟩ none _
    (by decide +kernel) 0 0 ⟨4096, 0⟩).1

end Sparkpipe.KvSnapshot

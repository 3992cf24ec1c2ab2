import Sparkpipe.Cache.Snapshot.Names

/-!
# What the parser accepts

A name is accepted if and only if it is two digests and the counts that the suffix asks for, each
count in any number of digits. `Accepted` gives the two shapes; every later fact about
`SparkKvSnapshotParseName` is read off them.
-/

namespace Sparkpipe.KvSnapshot

open Sha256 (Digest digestBytes hexToDigest hexToBytes_eq_some hexToBytes_toHex length_toHex
  notMem_toHex toHex)
open Numeral (Decimal)

section Counts

variable {text rest : List Char} {count start number : Nat} {value : UInt32}

/-- The loop reads digits, and stops at a number that has no 32 bits. -/
theorem parseDigits_eq_some (inRange : start ≤ 0xffffffff) : parseDigits text start = some number ↔
    (∀ digit ∈ text, digit.isDigit) ∧ Nat.ofDigitChars 10 text start = number ∧ number ≤ 0xffffffff := by
  induction text generalizing start with
  | nil =>
    rw [parseDigits, Nat.ofDigitChars_nil]
    constructor
    · intro same
      cases same
      exact ⟨nofun, rfl, inRange⟩
    · rintro ⟨_, same, _⟩
      rw [same]
  | cons digit rest ih =>
    rw [Nat.ofDigitChars_cons, List.forall_mem_cons, Numeral.isDigit_iff, Nat.mul_comm 10 start]
    simp only [parseDigits]
    by_cases outside : digit < '0' ∨ '9' < digit
    · rw [if_pos outside]
      constructor
      · exact nofun
      · rintro ⟨⟨inside, _⟩, _, _⟩
        rcases outside with low | high
        · exact absurd inside.1 (Char.not_le.2 low)
        · exact absurd inside.2 (Char.not_le.2 high)
    · have inside : '0' ≤ digit ∧ digit ≤ '9' :=
        ⟨Char.not_lt.1 fun low => outside (.inl low), Char.not_lt.1 fun high => outside (.inr high)⟩
      rw [if_neg outside]
      by_cases large : 0xffffffff < start * 10 + (digit.toNat - '0'.toNat)
      · rw [if_pos large]
        constructor
        · exact nofun
        · rintro ⟨_, same, bounded⟩
          have grows := Numeral.le_ofDigitChars rest (start * 10 + (digit.toNat - '0'.toNat))
          omega
      · rw [if_neg large, ih (by omega)]
        constructor
        · rintro ⟨digits, same, bounded⟩
          exact ⟨⟨inside, digits⟩, same, bounded⟩
        · rintro ⟨⟨_, digits⟩, same, bounded⟩
          exact ⟨digits, same, bounded⟩

/-- A count is read from each of its numerals. -/
theorem parseCount_eq_some :
    parseCount text = some value ↔ Decimal text ∧ Nat.ofDigitChars 10 text 0 = value.toNat := by
  have range : value.toNat < 2 ^ 32 := UInt32.toNat_lt value
  rw [parseCount]
  by_cases empty : text.length = 0
  · rw [if_pos empty]
    constructor
    · exact nofun
    · rintro ⟨decimal, _⟩
      exact absurd (List.length_eq_zero_iff.1 empty) decimal.1
  · rw [if_neg empty, Option.map_eq_some_iff]
    have nonempty : text ≠ [] := fun none => empty (by rw [none]; rfl)
    constructor
    · rintro ⟨number, read, rfl⟩
      obtain ⟨digits, same, bounded⟩ := (parseDigits_eq_some (by omega)).1 read
      refine ⟨⟨nonempty, digits⟩, ?_⟩
      rw [same, UInt32.toNat_ofNat']
      omega
    · rintro ⟨decimal, same⟩
      refine ⟨value.toNat, (parseDigits_eq_some (by omega)).2 ⟨decimal.2, same, by omega⟩, ?_⟩
      exact UInt32.ofNat_toNat

/-- A printed count is read back. -/
theorem parseCount_printCount (value : UInt32) : parseCount (printCount value) = some value :=
  parseCount_eq_some.2 ⟨Numeral.decimal_toDigits _, Nat.ofDigitChars_ten_toDigits⟩

theorem notMem_of_parseCount {mark : Char} (noDigit : mark.isDigit = false)
    (read : parseCount text = some value) : mark ∉ text :=
  (parseCount_eq_some.1 read).1.notMem noDigit

/-- `memchr` finds the mark after a text without it. -/
theorem idxOf?_append {mark : Char} (absent : mark ∉ text) (rest : List Char) :
    (text ++ mark :: rest).idxOf? mark = some text.length := by
  rw [List.idxOf?_eq_some_iff]
  refine ⟨by simp, by simp, ?_⟩
  intro index before same
  rw [List.getElem_append_left before] at same
  exact absent (same ▸ List.getElem_mem before)

/-- It splits the text at the mark. -/
theorem split_of_idxOf? {mark : Char} (found : text.idxOf? mark = some count) :
    text = text.take count ++ mark :: text.drop (count + 1) := by
  obtain ⟨inside, same, _⟩ := List.idxOf?_eq_some_iff.1 found
  have same : text[count] = mark := same
  rw [← same, ← List.drop_eq_getElem_cons inside, List.take_append_drop]

end Counts

section Digests

variable {text : List Char} {digest : Digest}

theorem hexToDigest_toHex (digest : Digest) (rest : List Char) :
    hexToDigest (toHex digest.1 ++ rest) = some digest := hexToBytes_toHex digest rest

@[simp] theorem length_digest (digest : Digest) : (toHex digest.1).length = 2 * digestBytes := by
  rw [length_toHex, digest.2]

/-- A digest is read from its text, and a dash after it from its place. -/
theorem hexToDigest_dash : hexToDigest text = some digest ∧ text[2 * digestBytes]? = some '-' ↔
    ∃ rest, text = toHex digest.1 ++ '-' :: rest := by
  constructor
  · rintro ⟨read, dash⟩
    obtain ⟨later, rfl⟩ := hexToBytes_eq_some.1 read
    rw [List.getElem?_append_right (by rw [length_digest]), length_digest, Nat.sub_self] at dash
    cases later with
    | nil => exact absurd dash nofun
    | cons mark rest =>
      have same : mark = '-' := Option.some.inj dash
      exact ⟨rest, by rw [same]⟩
  · rintro ⟨rest, rfl⟩
    refine ⟨hexToDigest_toHex digest _, ?_⟩
    rw [List.getElem?_append_right (by rw [length_digest]), length_digest, Nat.sub_self]
    rfl

/-- What follows a digest and its dash. -/
theorem drop_digest (digest : Digest) (rest : List Char) :
    (toHex digest.1 ++ '-' :: rest).drop (2 * digestBytes + 1) = rest := by
  rw [← length_digest digest, ← List.drop_drop, List.drop_left]
  rfl

end Digests

section Shapes

variable {layout identity : Digest} {counts name : List Char} {key parent : Key}

/-- The parent that a page file's name tells. -/
def readParent (layout identity : Digest) (tokens : UInt32) : Key :=
  if tokens = 0 then .zero else ⟨layout, identity, tokens, filePages⟩

/-- The names that are read, with the key and the parent read from them. -/
inductive Accepted : List Char → Key → Key → Prop
  | state (layout identity : Digest) {count : List Char} {tokens : UInt32}
      (read : parseCount count = some tokens) (counted : tokens ≠ 0) :
      Accepted (stateName layout identity count) ⟨layout, identity, tokens, fileState⟩ .zero
  | pages (layout identity parentIdentity : Digest) {count parentCount : List Char}
      {tokens parentTokens : UInt32} (read : parseCount count = some tokens) (counted : tokens ≠ 0)
      (parentRead : parseCount parentCount = some parentTokens) (fewer : parentTokens < tokens) :
      Accepted (pagesName layout identity count parentIdentity parentCount)
        ⟨layout, identity, tokens, filePages⟩ (readParent layout parentIdentity parentTokens)

theorem parseState_eq_some : parseState layout identity counts = some (key, parent) ↔
    ∃ tokens, parseCount counts = some tokens ∧ tokens ≠ 0 ∧
      key = ⟨layout, identity, tokens, fileState⟩ ∧ parent = .zero := by
  rw [parseState]
  constructor
  · intro read
    rw [Option.ite_none_left_eq_some, Option.bind_eq_bind, Option.bind_eq_some_iff] at read
    obtain ⟨_, tokens, read, rest⟩ := read
    rw [Option.ite_none_left_eq_some] at rest
    cases rest.2
    exact ⟨tokens, read, rest.1, rfl, rfl⟩
  · rintro ⟨tokens, read, counted, rfl, rfl⟩
    have absent : '-' ∉ _ := notMem_of_parseCount (by decide) read
    rw [if_neg (by simpa using absent), read]
    exact if_neg counted

theorem parsePages_eq_some : parsePages layout identity counts = some (key, parent) ↔
    ∃ count tokens parentIdentity parentCount parentTokens, parseCount count = some tokens ∧
      tokens ≠ 0 ∧ parseCount parentCount = some parentTokens ∧ parentTokens < tokens ∧
      counts = count ++ '-' :: (toHex parentIdentity.1 ++ '-' :: parentCount) ∧
      key = ⟨layout, identity, tokens, filePages⟩ ∧
      parent = readParent layout parentIdentity parentTokens := by
  constructor
  · intro read
    simp only [parsePages, Option.bind_eq_bind, Option.bind_eq_some_iff,
      Option.ite_none_left_eq_some] at read
    obtain ⟨dash, found, tokens, read, counted, shape, parentIdentity, digestRead, parentTokens,
      parentRead, fewer, same⟩ := read
    rw [not_or, not_not] at shape
    obtain ⟨rest, split⟩ := hexToDigest_dash.1 ⟨digestRead, shape.2⟩
    rw [split, drop_digest] at parentRead
    cases same
    refine ⟨counts.take dash, tokens, parentIdentity, rest, parentTokens, read, counted, parentRead,
      UInt32.not_le.1 fewer, ?_, rfl, rfl⟩
    rw [← split]
    exact split_of_idxOf? found
  · rintro ⟨count, tokens, parentIdentity, parentCount, parentTokens, read, counted, parentRead,
      fewer, rfl, rfl, rfl⟩
    have absent : '-' ∉ _ := notMem_of_parseCount (by decide) read
    have nonempty : parentCount ≠ [] := (parseCount_eq_some.1 parentRead).1.1
    have someDigit := List.length_pos_iff.2 nonempty
    obtain ⟨digestRead, dash⟩ := hexToDigest_dash.2 ⟨parentCount, rfl⟩
    have after : (count ++ '-' :: (toHex parentIdentity.1 ++ '-' :: parentCount)).drop
        (count.length + 1) = toHex parentIdentity.1 ++ '-' :: parentCount := by
      rw [← List.drop_drop, List.drop_left]
      rfl
    have shape : ¬ ((toHex parentIdentity.1 ++ '-' :: parentCount).length < 2 * digestBytes + 2 ∨
        (toHex parentIdentity.1 ++ '-' :: parentCount)[2 * digestBytes]? ≠ some '-') := by
      rintro (short | missing)
      · rw [List.length_append, length_digest, List.length_cons] at short
        omega
      · exact missing dash
    simp only [parsePages, Option.bind_eq_bind, idxOf?_append absent, Option.bind_some,
      List.take_left, read, if_neg counted, after, if_neg shape, digestRead, drop_digest, parentRead,
      if_neg (UInt32.not_le.2 fewer)]
    rfl

/-- Two digests, and what follows them. -/
def afterDigests (layout identity : Digest) (rest : List Char) : List Char :=
  toHex layout.1 ++ '-' :: (toHex identity.1 ++ '-' :: rest)

theorem length_afterDigests (layout identity : Digest) (rest : List Char) :
    (afterDigests layout identity rest).length = 2 * (2 * digestBytes) + 2 + rest.length := by
  simp only [afterDigests, List.length_append, List.length_cons, length_digest]
  omega

theorem drop_afterDigests (layout identity : Digest) (rest : List Char) :
    (afterDigests layout identity rest).drop (2 * (2 * digestBytes) + 2) = rest := by
  have split : 2 * (2 * digestBytes) + 2 = (2 * digestBytes + 1) + (2 * digestBytes + 1) := by omega
  rw [split, ← List.drop_drop, afterDigests, drop_digest, drop_digest]

/-- The test on the two dashes and the reading of the digests before them. -/
theorem digests_iff : (hexToDigest name = some layout ∧
      hexToDigest (name.drop (2 * digestBytes + 1)) = some identity ∧
      name[2 * digestBytes]? = some '-' ∧ name[2 * (2 * digestBytes) + 1]? = some '-') ↔
    ∃ rest, name = afterDigests layout identity rest := by
  have second : 2 * (2 * digestBytes) + 1 = 2 * digestBytes + 1 + 2 * digestBytes := by omega
  rw [second, ← List.getElem?_drop]
  constructor
  · rintro ⟨layoutRead, identityRead, firstDash, secondDash⟩
    obtain ⟨later, rfl⟩ := hexToDigest_dash.1 ⟨layoutRead, firstDash⟩
    rw [drop_digest] at identityRead secondDash
    obtain ⟨rest, rfl⟩ := hexToDigest_dash.1 ⟨identityRead, secondDash⟩
    exact ⟨rest, rfl⟩
  · rintro ⟨rest, rfl⟩
    obtain ⟨layoutRead, firstDash⟩ := hexToDigest_dash.2 ⟨toHex identity.1 ++ '-' :: rest, rfl⟩
    obtain ⟨identityRead, secondDash⟩ := hexToDigest_dash.2 ⟨rest, rfl⟩
    rw [afterDigests, drop_digest]
    exact ⟨layoutRead, identityRead, firstDash, secondDash⟩

/-- The test on the end of a name. -/
theorem endsWith_iff (ending : List Char) : (ending.length < name.length ∧
    name.drop (name.length - ending.length) = ending) ↔ ∃ body, body ≠ [] ∧ name = body ++ ending := by
  constructor
  · rintro ⟨longer, same⟩
    refine ⟨name.take (name.length - ending.length), ?_, ?_⟩
    · apply List.ne_nil_of_length_pos
      rw [List.length_take]
      omega
    · have whole := List.take_append_drop (name.length - ending.length) name
      rw [same] at whole
      exact whole.symm
  · rintro ⟨body, nonempty, rfl⟩
    have longer := List.length_pos_iff.2 nonempty
    rw [List.length_append, Nat.add_sub_cancel, List.drop_left]
    exact ⟨by omega, rfl⟩

/-- A page file's name does not end as a state file's. -/
theorem pagesSuffix_ne (body other : List Char) : body ++ pagesSuffix ≠ other ++ stateSuffix := by
  intro same
  have last := congrArg List.getLast? same
  rw [List.getLast?_append_of_ne_nil _ (by decide), List.getLast?_append_of_ne_nil _ (by decide)] at last
  exact absurd last (by decide)

/-- The end of a name tells its kind. -/
theorem parseSuffix_eq_some {fileKind : UInt32} {suffix : Nat} :
    parseSuffix name = some (fileKind, suffix) ↔ ∃ body, body ≠ [] ∧
      ((fileKind = fileState ∧ suffix = stateSuffix.length ∧ name = body ++ stateSuffix) ∨
        (fileKind = filePages ∧ suffix = pagesSuffix.length ∧ name = body ++ pagesSuffix)) := by
  constructor
  · intro read
    rw [parseSuffix] at read
    split at read
    · next test =>
        obtain ⟨body, nonempty, same⟩ := (endsWith_iff stateSuffix).1 test
        cases read
        exact ⟨body, nonempty, .inl ⟨rfl, rfl, same⟩⟩
    · rw [Option.ite_none_right_eq_some] at read
      obtain ⟨body, nonempty, same⟩ := (endsWith_iff pagesSuffix).1 read.1
      cases read.2
      exact ⟨body, nonempty, .inr ⟨rfl, rfl, same⟩⟩
  · rintro ⟨body, nonempty, ⟨rfl, rfl, same⟩ | ⟨rfl, rfl, same⟩⟩
    · exact if_pos ((endsWith_iff stateSuffix).2 ⟨body, nonempty, same⟩)
    · have other : ¬ ∃ body, body ≠ [] ∧ name = body ++ stateSuffix := by
        rintro ⟨state, _, stateSame⟩
        exact pagesSuffix_ne body state (same.symm.trans stateSame)
      rw [parseSuffix, if_neg fun test => other ((endsWith_iff stateSuffix).1 test)]
      exact if_pos ((endsWith_iff pagesSuffix).2 ⟨body, nonempty, same⟩)

/-- The counts stand between the second dash and the suffix. -/
theorem counts_split {body ending rest : List Char} (same : name = body ++ ending)
    (split : name = afterDigests layout identity rest)
    (longer : 2 * (2 * digestBytes) + 2 < body.length) :
    ∃ counts, counts ≠ [] ∧ name = afterDigests layout identity (counts ++ ending) ∧
      (name.drop (2 * (2 * digestBytes) + 2)).take (body.length - (2 * (2 * digestBytes) + 2)) =
        counts := by
  have tail : name.drop (2 * (2 * digestBytes) + 2) =
      body.drop (2 * (2 * digestBytes) + 2) ++ ending := by
    rw [same, List.drop_append_of_le_length (by omega)]
  have size : (body.drop (2 * (2 * digestBytes) + 2)).length =
    body.length - (2 * (2 * digestBytes) + 2) := List.length_drop
  refine ⟨body.drop (2 * (2 * digestBytes) + 2), List.ne_nil_of_length_pos (by omega), ?_, ?_⟩
  · rw [← tail, split, drop_afterDigests]
  · rw [tail, ← size, List.take_left]

theorem afterDigests_append (layout identity : Digest) (counts ending : List Char) :
    afterDigests layout identity (counts ++ ending) = afterDigests layout identity counts ++ ending := by
  simp only [afterDigests, List.append_assoc, List.cons_append]

/-- After two digests the counts decide. -/
theorem parseName_afterDigests {ending : List Char} {fileKind : UInt32} (nonempty : counts ≠ [])
    (same : name = afterDigests layout identity (counts ++ ending))
    (ends : parseSuffix name = some (fileKind, ending.length)) : parseName name =
      if fileKind = fileState then parseState layout identity counts
      else parsePages layout identity counts := by
  have someCount := List.length_pos_iff.2 nonempty
  obtain ⟨layoutRead, identityRead, firstDash, secondDash⟩ := digests_iff.2 ⟨_, same⟩
  have size : name.length - ending.length = 2 * (2 * digestBytes) + 2 + counts.length := by
    rw [same, length_afterDigests, List.length_append]
    omega
  have shape : ¬ (name.length - ending.length ≤ 2 * (2 * digestBytes) + 2 ∨
      name[2 * digestBytes]? ≠ some '-' ∨ name[2 * (2 * digestBytes) + 1]? ≠ some '-') := by
    rintro (short | missing | missing)
    · omega
    · exact missing firstDash
    · exact missing secondDash
  have tail : (name.drop (2 * (2 * digestBytes) + 2)).take
      (name.length - ending.length - (2 * (2 * digestBytes) + 2)) = counts := by
    rw [size, same, drop_afterDigests, Nat.add_sub_cancel_left, List.take_left]
  simp only [parseName, ends, Option.bind_eq_bind, Option.bind_some, if_neg shape, layoutRead,
    identityRead, tail]

/-- A name is read by the rest of it: what stands between the digests and the suffix. -/
theorem parseName_eq_some : parseName name = some (key, parent) ↔
    ∃ layout identity counts, counts ≠ [] ∧
      ((name = afterDigests layout identity (counts ++ stateSuffix) ∧
          parseState layout identity counts = some (key, parent)) ∨
        (name = afterDigests layout identity (counts ++ pagesSuffix) ∧
          parsePages layout identity counts = some (key, parent))) := by
  constructor
  · intro read
    simp only [parseName, Option.bind_eq_bind, Option.bind_eq_some_iff,
      Option.ite_none_left_eq_some] at read
    obtain ⟨⟨fileKind, suffix⟩, ends, shape, layout, layoutRead, identity, identityRead, read⟩ := read
    rw [not_or, not_or, not_not, not_not] at shape
    obtain ⟨long, firstDash, secondDash⟩ := shape
    obtain ⟨rest, split⟩ := digests_iff.1 ⟨layoutRead, identityRead, firstDash, secondDash⟩
    obtain ⟨body, _, ⟨rfl, rfl, same⟩ | ⟨rfl, rfl, same⟩⟩ := parseSuffix_eq_some.1 ends
    · have size : name.length - stateSuffix.length = body.length := by
        rw [same, List.length_append, Nat.add_sub_cancel]
      rw [size] at long read
      obtain ⟨counts, nonempty, whole, taken⟩ := counts_split same split (by omega)
      rw [taken, if_pos rfl] at read
      exact ⟨layout, identity, counts, nonempty, .inl ⟨whole, read⟩⟩
    · have size : name.length - pagesSuffix.length = body.length := by
        rw [same, List.length_append, Nat.add_sub_cancel]
      rw [size] at long read
      obtain ⟨counts, nonempty, whole, taken⟩ := counts_split same split (by omega)
      rw [taken, if_neg (by decide)] at read
      exact ⟨layout, identity, counts, nonempty, .inr ⟨whole, read⟩⟩
  · rintro ⟨layout, identity, counts, nonempty, shape⟩
    have body : afterDigests layout identity counts ≠ [] := by
      apply List.ne_nil_of_length_pos
      rw [length_afterDigests]
      omega
    rcases shape with ⟨same, read⟩ | ⟨same, read⟩
    · have ends := parseSuffix_eq_some.2
        ⟨_, body, .inl ⟨rfl, rfl, same.trans (afterDigests_append _ _ _ _)⟩⟩
      rw [parseName_afterDigests nonempty same ends, if_pos rfl, read]
    · have ends := parseSuffix_eq_some.2
        ⟨_, body, .inr ⟨rfl, rfl, same.trans (afterDigests_append _ _ _ _)⟩⟩
      rw [parseName_afterDigests nonempty same ends, if_neg (by decide), read]

theorem stateName_eq (layout identity : Digest) (count : List Char) :
    stateName layout identity count = afterDigests layout identity (count ++ stateSuffix) := by
  simp only [afterDigests, stateName, List.append_assoc, List.cons_append]

theorem pagesName_eq (layout identity parentIdentity : Digest) (count parentCount : List Char) :
    pagesName layout identity count parentIdentity parentCount = afterDigests layout identity
      (count ++ '-' :: (toHex parentIdentity.1 ++ '-' :: parentCount) ++ pagesSuffix) := by
  simp only [afterDigests, pagesName, List.append_assoc, List.cons_append]

/-- The accepted names are those that are read. -/
theorem parseName_iff : parseName name = some (key, parent) ↔ Accepted name key parent := by
  rw [parseName_eq_some]
  constructor
  · rintro ⟨layout, identity, counts, _, ⟨rfl, read⟩ | ⟨rfl, read⟩⟩
    · obtain ⟨tokens, countRead, counted, rfl, rfl⟩ := parseState_eq_some.1 read
      rw [← stateName_eq]
      exact .state layout identity countRead counted
    · obtain ⟨count, tokens, parentIdentity, parentCount, parentTokens, countRead, counted,
        parentRead, fewer, rfl, rfl, rfl⟩ := parsePages_eq_some.1 read
      rw [← pagesName_eq]
      exact .pages layout identity parentIdentity countRead counted parentRead fewer
  · intro accepted
    cases accepted with
    | @state layout identity count tokens read counted =>
      exact ⟨layout, identity, count, (parseCount_eq_some.1 read).1.1,
        .inl ⟨stateName_eq layout identity count,
          parseState_eq_some.2 ⟨tokens, read, counted, rfl, rfl⟩⟩⟩
    | @pages layout identity parentIdentity count parentCount tokens parentTokens read counted
        parentRead fewer =>
        exact ⟨layout, identity, count ++ '-' :: (toHex parentIdentity.1 ++ '-' :: parentCount),
          by simp, .inr ⟨pagesName_eq layout identity parentIdentity count parentCount,
            parsePages_eq_some.2 ⟨count, tokens, parentIdentity, parentCount, parentTokens, read,
              counted, parentRead, fewer, rfl, rfl, rfl⟩⟩⟩

end Shapes

end Sparkpipe.KvSnapshot

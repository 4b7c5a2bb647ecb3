import Mathlib.Data.Set.Function
import Actl.Foundation.HashChain
import Actl.Audit.Tables
import Actl.Fixture

/-!
# What verification accepts

`verify_chain` walks the rows of a range in order. It accepts exactly when the
rows it finds are numbered without a gap from the start of the range, link to
each other, and agree with every checkpoint that is stored for a segment among
them (`verifyChain_ok_iff`). It does not ask for the rows at the end of the
range, nor for a checkpoint that is not stored, so it establishes what it is
meant to establish exactly for the tables in which these are not missing.

Accepting from the genesis value, on the other hand, commits to the whole
history: the hash it reports determines every payload up to canonical form.
-/

set_option autoImplicit false

namespace Actl.Audit

open Foundation (chainHead chainHashes chainLinks)

/-! ## Stored hashes can be read back -/

theorem hexValue_digitChar {n : Nat} (bound : n < 16) : hexValue (Nat.digitChar n) = some n := by
  revert n
  decide

theorem isSpace_digitChar {n : Nat} (bound : n < 16) : isSpace (Nat.digitChar n) = false := by
  revert n
  decide

theorem fromHex_hex (bytes : Bytes) : fromHex (hex bytes).toList = some bytes := by
  rw [hex, String.toList_ofList]
  induction bytes with
  | nil => rfl
  | cons byte bytes ih =>
      have bound : byte.toNat < 256 := byte.toNat_lt
      have high : byte.toNat / 16 < 16 := by omega
      have low : byte.toNat % 16 < 16 := by omega
      have whole : 16 * (byte.toNat / 16) + byte.toNat % 16 = byte.toNat := Nat.div_add_mod _ _
      simp only [List.flatMap_cons, List.cons_append, List.nil_append, fromHex,
        isSpace_digitChar high, hexValue_digitChar high, hexValue_digitChar low, ih, whole]
      simp

theorem hex_injective {bytes bytes' : Bytes} (same : hex bytes = hex bytes') : bytes = bytes' := by
  have read := fromHex_hex bytes
  rw [same, fromHex_hex] at read
  exact (Option.some.inj read).symm

/-- A digest's text determines the digest. -/
theorem prefixedDigest_injective {P : Platform} {text text' : Bytes}
    (same : P.prefixedDigest text = P.prefixedDigest text') : P.sha256 text = P.sha256 text' := by
  have digits := congrArg String.toList same
  simp only [Platform.prefixedDigest, Platform.hexdigest, String.toList_append,
    List.append_cancel_left_eq] at digits
  exact Subtype.ext (hex_injective (String.toList_inj.mp digits))

theorem toList_hexPrefixed (digest : Digest) :
    (hexPrefixed digest).toList = "sha256:".toList ++ (hex digest.val).toList :=
  String.toList_append

/-- A stored hash is read back as it was. -/
theorem parseHexPrefixed_hexPrefixed (digest : Digest) :
    parseHexPrefixed (hexPrefixed digest) = .ok digest := by
  have dropped : (hexPrefixed digest).toList.drop 7 = (hex digest.val).toList := by
    rw [toList_hexPrefixed]
    rfl
  have isPrefix : "sha256:".toList.isPrefixOf (hexPrefixed digest).toList = true := by
    rw [toList_hexPrefixed, List.isPrefixOf_iff_prefix]
    exact List.prefix_append _ _
  rw [parseHexPrefixed, if_pos isPrefix, dropped, fromHex_hex]
  exact dif_pos digest.property

theorem hexPrefixed_injective : Function.Injective hexPrefixed := by
  intro left right same
  have parsed : parseHexPrefixed (hexPrefixed left) = parseHexPrefixed (hexPrefixed right) := by
    rw [same]
  rw [parseHexPrefixed_hexPrefixed, parseHexPrefixed_hexPrefixed] at parsed
  exact Except.ok.inj parsed

/-! ## Numbered and linked rows -/

/-- The link of the chain: the hash of the previous hash and a payload's. -/
def link (P : Platform) (prevHash payloadHash : Digest) : Digest :=
  P.sha256 (prevHash.val ++ payloadHash.val)

/-- The hashes of the payloads, recomputed. -/
def payloadHashes (P : Platform) (rows : List AuditLogRow) : List Digest :=
  rows.map fun row => payloadHash P row.payload

/-- The entry hashes, recomputed from the payloads. -/
def recomputedHashes (P : Platform) (start : Digest) (rows : List AuditLogRow) : List Digest :=
  chainHashes (link P) start (payloadHashes P rows)

/-- The rows are numbered in order from `seq` on. -/
def Numbered : Int → List AuditLogRow → Prop
  | _, [] => True
  | seq, row :: rows => row.seq = seq ∧ Numbered (seq + 1) rows

/-- Every row's `prev_hash` and `entry_hash` are the recomputed ones. -/
def Chained (P : Platform) : Digest → List AuditLogRow → Prop
  | _, [] => True
  | prev, row :: rows =>
      row.prevHash = hexPrefixed prev ∧
        row.entryHash = hexPrefixed (computeEntryHash P prev row.payload) ∧
        Chained P (computeEntryHash P prev row.payload) rows

theorem recomputedHashes_cons (P : Platform) (start : Digest) (row : AuditLogRow)
    (rows : List AuditLogRow) :
    recomputedHashes P start (row :: rows) = computeEntryHash P start row.payload ::
      recomputedHashes P (computeEntryHash P start row.payload) rows := rfl

@[simp] theorem length_recomputedHashes (P : Platform) (start : Digest)
    (rows : List AuditLogRow) : (recomputedHashes P start rows).length = rows.length := by
  simp [recomputedHashes, payloadHashes]

theorem numbered_iff {seq : Int} {rows : List AuditLogRow} :
    Numbered seq rows ↔
      ∀ (i : Nat) (row : AuditLogRow), rows[i]? = some row → row.seq = seq + i := by
  induction rows generalizing seq with
  | nil => simp [Numbered]
  | cons row rows ih =>
      rw [Numbered, ih]
      constructor
      · rintro ⟨first, later⟩ i row' found
        cases i with
        | zero =>
            cases found
            simpa using first
        | succ i =>
            rw [later i row' (by simpa using found)]
            push_cast
            omega
      · intro all
        refine ⟨by simpa using all 0 row rfl, fun i row' found => ?_⟩
        rw [all (i + 1) row' (by simpa using found)]
        push_cast
        omega

/-- In linked rows each `prev_hash` is the `entry_hash` before it, and the first
is the start value's. -/
theorem Chained.links {P : Platform} {start : Digest} {rows : List AuditLogRow}
    (chained : Chained P start rows) :
    (∀ row, rows[0]? = some row → row.prevHash = hexPrefixed start) ∧
      ∀ (i : Nat) (row next : AuditLogRow), rows[i]? = some row → rows[i + 1]? = some next →
        next.prevHash = row.entryHash := by
  induction rows generalizing start with
  | nil => simp
  | cons first rows ih =>
      obtain ⟨linked, hashed, rest⟩ := chained
      obtain ⟨second, later⟩ := ih rest
      refine ⟨fun row found => ?_, fun i row next found found' => ?_⟩
      · cases found
        exact linked
      · cases i with
        | zero =>
            cases found
            rw [hashed]
            exact second next (by simpa using found')
        | succ i => exact later i row next (by simpa using found) (by simpa using found')

/-! ## One pass of the verifier -/

section Scan

variable (P : Platform) (tables : AuditTables) (fromSeq : Int)

/-- The last segment of the hashes so far. -/
def lastSegment (hashes : List Digest) : List Digest :=
  hashes.drop (hashes.length - P.settings.auditCheckpointEvery)

/-- The checkpoint stored for the segment that ends at `seq`, if the segment
lies in the range and there is one, has the root of the hashes. -/
def AgreesAt (seq : Int) (hashes : List Digest) : Prop :=
  seq % P.settings.auditCheckpointEvery = 0 →
    fromSeq ≤ seq - P.settings.auditCheckpointEvery + 1 →
      ∀ checkpoint, tables.checkpointByToSeq seq = some checkpoint →
        ∃ root, merkleRoot P (lastSegment P hashes) = some root ∧
          checkpoint.merkleRoot = hexPrefixed root

/-- The same at every one of the hashes, numbered from `seq` on, behind the
hashes that were seen before. -/
def Agrees (past : List Digest) (seq : Int) (hashes : List Digest) : Prop :=
  ∀ i < hashes.length, AgreesAt P tables fromSeq (seq + i) (past ++ hashes.take (i + 1))

variable {P tables fromSeq}

theorem agrees_cons {past hashes : List Digest} {seq : Int} {hash : Digest} :
    Agrees P tables fromSeq past seq (hash :: hashes) ↔
      AgreesAt P tables fromSeq seq (past ++ [hash]) ∧
        Agrees P tables fromSeq (past ++ [hash]) (seq + 1) hashes := by
  have shift (i : Nat) : seq + 1 + (i : Int) = seq + ((i + 1 : Nat) : Int) := by
    push_cast
    omega
  constructor
  · intro all
    refine ⟨by simpa using all 0 (by simp), fun i bound => ?_⟩
    rw [shift]
    simpa using all (i + 1) (by simpa using bound)
  · rintro ⟨first, later⟩ i bound
    cases i with
    | zero => simpa using first
    | succ i =>
        have agrees := later i (by simpa using bound)
        rw [shift] at agrees
        simpa using agrees

/-- The variables after a round that goes on. -/
def Scan.next (P : Platform) (scan : Scan) (entry : AuditLogRow) (matched : List Int) : Scan where
  prevHash := computeEntryHash P scan.prevHash entry.payload
  verified := scan.verified + 1
  checkpointsMatched := matched
  segmentHashes := scan.segmentHashes ++ [computeEntryHash P scan.prevHash entry.payload]
  expectedSeq := scan.expectedSeq + 1

theorem matchCheckpoint_eq_inr {scan after : Scan} {seq : Int}
    (goesOn : scan.matchCheckpoint P tables seq = .ok (.inr after)) :
    (∀ checkpoint, tables.checkpointByToSeq seq = some checkpoint →
      ∃ root, merkleRoot P (lastSegment P scan.segmentHashes) = some root ∧
        checkpoint.merkleRoot = hexPrefixed root) ∧
    ∃ matched, after = { scan with checkpointsMatched := matched } := by
  rw [Scan.matchCheckpoint] at goesOn
  split at goesOn
  next found =>
    cases goesOn
    exact ⟨by simp [found], scan.checkpointsMatched, rfl⟩
  next checkpoint found =>
    dsimp only at goesOn
    split at goesOn
    next => cases goesOn
    next root computed =>
      split at goesOn
      next => cases goesOn
      next same =>
        cases goesOn
        refine ⟨?_, _, rfl⟩
        intro checkpoint' found'
        rw [found] at found'
        cases found'
        exact ⟨root, computed, (not_not.mp same).symm⟩

theorem matchCheckpoint_of_agrees {scan : Scan} {seq : Int}
    (agrees : ∀ checkpoint, tables.checkpointByToSeq seq = some checkpoint →
      ∃ root, merkleRoot P (lastSegment P scan.segmentHashes) = some root ∧
        checkpoint.merkleRoot = hexPrefixed root) :
    ∃ matched, scan.matchCheckpoint P tables seq =
      .ok (.inr { scan with checkpointsMatched := matched }) := by
  rw [Scan.matchCheckpoint]
  cases found : tables.checkpointByToSeq seq with
  | none => exact ⟨scan.checkpointsMatched, rfl⟩
  | some checkpoint =>
      obtain ⟨root, computed, same⟩ := agrees checkpoint found
      rw [lastSegment] at computed
      refine ⟨scan.checkpointsMatched ++ [seq], ?_⟩
      simp [computed, same]

/-- When a round of the loop goes on. -/
theorem visit_eq_inr {scan after : Scan} {entry : AuditLogRow}
    (goesOn : scan.visit P tables fromSeq entry = .ok (.inr after)) :
    (entry.seq = scan.expectedSeq ∧ entry.prevHash = hexPrefixed scan.prevHash ∧
      entry.entryHash = hexPrefixed (computeEntryHash P scan.prevHash entry.payload) ∧
      AgreesAt P tables fromSeq scan.expectedSeq
        (scan.segmentHashes ++ [computeEntryHash P scan.prevHash entry.payload])) ∧
    ∃ matched, after = scan.next P entry matched := by
  rw [Scan.visit] at goesOn
  split at goesOn
  next => cases goesOn
  next numbered =>
    rw [not_not] at numbered
    dsimp only at goesOn
    split at goesOn
    next => cases goesOn
    next linked =>
      rw [not_or, not_not, not_not] at linked
      rw [numbered] at goesOn
      split at goesOn
      next completes =>
        obtain ⟨agrees, matched, rfl⟩ := matchCheckpoint_eq_inr goesOn
        exact ⟨⟨numbered, linked.1, linked.2, fun _ _ => agrees⟩, matched, rfl⟩
      next within =>
        cases goesOn
        refine ⟨⟨numbered, linked.1, linked.2, fun multiple inside => ?_⟩, _, rfl⟩
        exact absurd ⟨multiple, inside⟩ within

theorem visit_of_fits {scan : Scan} {entry : AuditLogRow}
    (numbered : entry.seq = scan.expectedSeq) (linked : entry.prevHash = hexPrefixed scan.prevHash)
    (hashed : entry.entryHash = hexPrefixed (computeEntryHash P scan.prevHash entry.payload))
    (agrees : AgreesAt P tables fromSeq scan.expectedSeq
      (scan.segmentHashes ++ [computeEntryHash P scan.prevHash entry.payload])) :
    ∃ matched, scan.visit P tables fromSeq entry = .ok (.inr (scan.next P entry matched)) := by
  rw [Scan.visit, if_neg (not_not.mpr numbered)]
  dsimp only
  rw [if_neg (by simp [linked, hashed]), numbered]
  split
  next completes =>
    have agrees' := agrees completes.1 completes.2
    exact matchCheckpoint_of_agrees agrees'
  next within => exact ⟨scan.checkpointsMatched, rfl⟩

/-- What a pass through the whole loop establishes. -/
theorem scanEntries_eq_inr {rows : List AuditLogRow} {scan after : Scan}
    (passed : scanEntries P tables fromSeq scan rows = .ok (.inr after)) :
    Numbered scan.expectedSeq rows ∧ Chained P scan.prevHash rows ∧
      Agrees P tables fromSeq scan.segmentHashes scan.expectedSeq
        (recomputedHashes P scan.prevHash rows) ∧
      after.verified = scan.verified + rows.length ∧
      after.prevHash = chainHead (link P) scan.prevHash (payloadHashes P rows) := by
  induction rows generalizing scan with
  | nil =>
      cases passed
      exact ⟨trivial, trivial, by simp [Agrees, recomputedHashes, payloadHashes, chainHashes],
        rfl, rfl⟩
  | cons row rows ih =>
      rw [scanEntries] at passed
      split at passed
      next next goesOn =>
        obtain ⟨⟨numbered, linked, hashed, agrees⟩, matched, rfl⟩ := visit_eq_inr goesOn
        obtain ⟨numbered', chained', agrees', verified, head⟩ := ih passed
        refine ⟨⟨numbered, numbered'⟩, ⟨linked, hashed, chained'⟩, ?_, ?_, head⟩
        · rw [recomputedHashes_cons, agrees_cons]
          exact ⟨agrees, agrees'⟩
        · have counted : (scan.next P row matched).verified = scan.verified + 1 := rfl
          rw [verified, counted, List.length_cons]
          omega
      next stopped =>
        exact absurd passed (by intro same; exact stopped _ same)

/-- When a pass goes through the whole loop. -/
theorem scanEntries_of_fits {rows : List AuditLogRow} {scan : Scan}
    (numbered : Numbered scan.expectedSeq rows) (chained : Chained P scan.prevHash rows)
    (agrees : Agrees P tables fromSeq scan.segmentHashes scan.expectedSeq
      (recomputedHashes P scan.prevHash rows)) :
    ∃ after, scanEntries P tables fromSeq scan rows = .ok (.inr after) := by
  induction rows generalizing scan with
  | nil => exact ⟨scan, rfl⟩
  | cons row rows ih =>
      rw [recomputedHashes_cons, agrees_cons] at agrees
      obtain ⟨matched, goesOn⟩ := visit_of_fits numbered.1 chained.1 chained.2.1 agrees.1
      obtain ⟨after, passed⟩ := @ih (scan.next P row matched) numbered.2 chained.2.2 agrees.2
      refine ⟨after, ?_⟩
      rw [scanEntries, goesOn]
      exact passed

end Scan

/-! ## Verification -/

section Verify

variable {P : Platform} {tables : AuditTables} {fromSeq toSeq : Int}

theorem mem_listRange {row : AuditLogRow} :
    row ∈ tables.listRange fromSeq toSeq ↔
      row ∈ tables.rows ∧ fromSeq ≤ row.seq ∧ row.seq ≤ toSeq := by
  rw [AuditTables.listRange, List.mem_insertionSort, List.mem_filter, decide_eq_true_iff]

/-- What is there of the range is in order: an entry before it to link to, rows
numbered without a gap from its start, each linked to the one before, and in
agreement with the checkpoints that are stored for them. -/
structure Intact (P : Platform) (tables : AuditTables) (fromSeq toSeq : Int) (start : Digest) :
    Prop where
  prior : priorHash tables fromSeq = .ok (some start)
  numbered : Numbered fromSeq (tables.listRange fromSeq toSeq)
  chained : Chained P start (tables.listRange fromSeq toSeq)
  agrees : Agrees P tables fromSeq [] fromSeq
    (recomputedHashes P start (tables.listRange fromSeq toSeq))

/-- What an accepting verification has found and what it reports. -/
theorem intact_of_verifyChain {result : ChainVerificationResult}
    (verified : verifyChain P tables fromSeq toSeq = .ok result) (accepted : result.ok = true) :
    ∃ start, Intact P tables fromSeq toSeq start ∧
      result.entriesVerified = (tables.listRange fromSeq toSeq).length ∧
      result.headEntryHash =
        if (tables.listRange fromSeq toSeq).isEmpty then none
        else some (hexPrefixed
          (chainHead (link P) start (payloadHashes P (tables.listRange fromSeq toSeq)))) := by
  rw [verifyChain, Foundation.bind_eq_ok] at verified
  obtain ⟨prior, found, verified⟩ := verified
  cases prior with
  | none =>
      cases verified
      cases accepted
  | some start =>
      dsimp only at verified
      rw [Foundation.bind_eq_ok] at verified
      obtain ⟨scanned, passed, verified⟩ := verified
      cases scanned with
      | inl broken =>
          cases verified
          cases accepted
      | inr after =>
          cases verified
          obtain ⟨numbered, chained, agrees, counted, head⟩ := scanEntries_eq_inr passed
          refine ⟨start, ⟨found, numbered, chained, agrees⟩, ?_, ?_⟩
          · simpa using counted
          · simp only [head]

/-- Verification accepts exactly what is in order. -/
theorem verifyChain_ok_iff :
    (∃ result, verifyChain P tables fromSeq toSeq = .ok result ∧ result.ok = true) ↔
      ∃ start, Intact P tables fromSeq toSeq start := by
  constructor
  · rintro ⟨result, verified, accepted⟩
    obtain ⟨start, intact, _⟩ := intact_of_verifyChain verified accepted
    exact ⟨start, intact⟩
  · rintro ⟨start, intact⟩
    obtain ⟨after, passed⟩ := @scanEntries_of_fits P tables fromSeq _
      ⟨start, 0, [], [], fromSeq⟩ intact.numbered intact.chained intact.agrees
    rw [verifyChain, intact.prior]
    simp only [Foundation.ok_bind, passed]
    exact ⟨_, rfl, rfl⟩

/-! ## What acceptance is meant to establish -/

/-- The segment that ends at `seq` lies in the range. -/
def SegmentInside (P : Platform) (fromSeq toSeq seq : Int) : Prop :=
  seq % P.settings.auditCheckpointEvery = 0 ∧
    fromSeq ≤ seq - P.settings.auditCheckpointEvery + 1 ∧ seq ≤ toSeq

/-- The recomputed hashes of the segment that ends at `seq`. -/
def segmentHashes (P : Platform) (tables : AuditTables) (fromSeq toSeq seq : Int) (start : Digest) :
    List Digest :=
  ((recomputedHashes P start (tables.listRange fromSeq toSeq)).drop
    (seq - P.settings.auditCheckpointEvery + 1 - fromSeq).toNat).take
    P.settings.auditCheckpointEvery

/-- Nothing is missing from the range: every row is there, and a checkpoint for
every segment inside. -/
def Complete (P : Platform) (tables : AuditTables) (fromSeq toSeq : Int) : Prop :=
  (∀ seq, fromSeq ≤ seq → seq ≤ toSeq → ∃ row ∈ tables.rows, row.seq = seq) ∧
    ∀ seq, SegmentInside P fromSeq toSeq seq →
      ∃ checkpoint ∈ tables.checkpoints, checkpoint.toSeq = seq

/-- Every row of the range is there, every `prev_hash` and `entry_hash` is the
recomputed one, and every segment inside has a checkpoint with the recomputed
root. -/
def Established (P : Platform) (tables : AuditTables) (fromSeq toSeq : Int) : Prop :=
  (∀ seq, fromSeq ≤ seq → seq ≤ toSeq → ∃ row ∈ tables.rows, row.seq = seq) ∧
    ∃ start, priorHash tables fromSeq = .ok (some start) ∧
      Chained P start (tables.listRange fromSeq toSeq) ∧
      ∀ seq, SegmentInside P fromSeq toSeq seq →
        ∃ checkpoint ∈ tables.checkpoints, checkpoint.toSeq = seq ∧
          ∃ root, merkleRoot P (segmentHashes P tables fromSeq toSeq seq start) = some root ∧
            checkpoint.merkleRoot = hexPrefixed root

theorem Established.complete (established : Established P tables fromSeq toSeq) :
    Complete P tables fromSeq toSeq := by
  obtain ⟨present, start, _, _, checkpointed⟩ := established
  refine ⟨present, fun seq inside => ?_⟩
  obtain ⟨checkpoint, member, ends, _⟩ := checkpointed seq inside
  exact ⟨checkpoint, member, ends⟩

/-- A checkpoint that is stored is the one the dictionary holds, or there is
another with the same number. -/
theorem checkpointByToSeq_of_mem {checkpoint : AuditCheckpointRow}
    (member : checkpoint ∈ tables.checkpoints) :
    ∃ held ∈ tables.checkpoints, held.toSeq = checkpoint.toSeq ∧
      tables.checkpointByToSeq checkpoint.toSeq = some held := by
  have kept : checkpoint ∈
      tables.checkpoints.filter fun c => c.toSeq = checkpoint.toSeq := by
    simpa using member
  have nonempty := List.ne_nil_of_mem kept
  have held := List.mem_filter.mp (List.getLast_mem nonempty)
  exact ⟨_, held.1, by simpa using held.2, List.getLast?_eq_some_getLast nonempty⟩

/-- The last segment of the hashes up to a position is the segment that ends
there. -/
theorem lastSegment_take {hashes : List Digest} {i : Nat} (bound : i < hashes.length)
    (long : P.settings.auditCheckpointEvery ≤ i + 1) :
    lastSegment P (hashes.take (i + 1)) =
      (hashes.drop (i + 1 - P.settings.auditCheckpointEvery)).take
        P.settings.auditCheckpointEvery := by
  have length : (hashes.take (i + 1)).length = i + 1 := by
    rw [List.length_take]
    omega
  rw [lastSegment, length, List.drop_take]
  congr 1
  omega

theorem Intact.established {start : Digest} (intact : Intact P tables fromSeq toSeq start)
    (complete : Complete P tables fromSeq toSeq) : Established P tables fromSeq toSeq := by
  refine ⟨complete.1, start, intact.prior, intact.chained, fun seq inside => ?_⟩
  have every := P.settings.checkpointEveryPositive
  obtain ⟨multiple, from_le, le_to⟩ := inside
  -- The row numbered `seq` stands at position `i` of the range.
  obtain ⟨row, member, numbered⟩ := complete.1 seq (by omega) le_to
  obtain ⟨i, found⟩ := List.mem_iff_getElem?.mp
    (mem_listRange.mpr ⟨member, by omega, by omega⟩ : row ∈ tables.listRange fromSeq toSeq)
  have position : row.seq = fromSeq + i := numbered_iff.mp intact.numbered i row found
  have bound : i < (tables.listRange fromSeq toSeq).length :=
    (List.getElem?_eq_some_iff.mp found).1
  have seq_eq : fromSeq + (i : Int) = seq := by omega
  obtain ⟨checkpoint, stored, ends⟩ := complete.2 seq ⟨multiple, from_le, le_to⟩
  obtain ⟨held, heldStored, heldEnds, isHeld⟩ := checkpointByToSeq_of_mem stored
  have agrees := intact.agrees i (by simpa using bound)
  rw [seq_eq, List.nil_append] at agrees
  obtain ⟨root, computed, same⟩ := agrees multiple from_le held (by rw [← ends, isHeld])
  refine ⟨held, heldStored, heldEnds.trans ends, root, ?_, same⟩
  rw [lastSegment_take (by simpa using bound) (by omega)] at computed
  rw [segmentHashes, ← computed]
  congr 3
  omega

/-- Acceptance establishes what it is meant to, for tables and a range, exactly
when nothing that verification does not look for is missing from them: unless
what is there of the range is in order, every row up to its end is there and
every segment inside has its checkpoint. -/
theorem verify_chain_sound_iff (P : Platform) (tables : AuditTables) (fromSeq toSeq : Int) :
    (∀ result, verifyChain P tables fromSeq toSeq = .ok result → result.ok = true →
      Established P tables fromSeq toSeq) ↔
    ((∃ start, Intact P tables fromSeq toSeq start) → Complete P tables fromSeq toSeq) := by
  constructor
  · intro sound intact
    obtain ⟨result, verified, accepted⟩ := verifyChain_ok_iff.mpr intact
    exact (sound result verified accepted).complete
  · intro complete result verified accepted
    obtain ⟨start, intact, _⟩ := intact_of_verifyChain verified accepted
    exact intact.established (complete ⟨start, intact⟩)

end Verify

namespace Fixture

open Actl.Fixture (platform)

/-- The first row of a log, for a payload. -/
def firstRow (payload : JSONValue) : AuditLogRow :=
  AppendRequest.row platform id ⟨"trc_1", "system", "agt_1", .mandateLocked, .obj [], payload⟩ 1
    genesisPrevHash

/-- The log that has only its first row. -/
def singleRow (payload : JSONValue) : AuditTables :=
  ⟨[firstRow payload], [], by simp, by simp⟩

theorem listRange_singleRow (payload : JSONValue) {toSeq : Int} (bound : 1 ≤ toSeq) :
    (singleRow payload).listRange 1 toSeq = [firstRow payload] := by
  have kept : (1 : Int) ≤ (firstRow payload).seq ∧ (firstRow payload).seq ≤ toSeq :=
    ⟨Int.le_refl 1, bound⟩
  simp [AuditTables.listRange, singleRow, kept]

theorem intact_singleRow (payload : JSONValue) {toSeq : Int} (bound : 1 ≤ toSeq) :
    Intact platform (singleRow payload) 1 toSeq genesisPrevHash := by
  refine ⟨rfl, ?_, ?_, ?_⟩
  · rw [listRange_singleRow payload bound]
    exact ⟨rfl, trivial⟩
  · rw [listRange_singleRow payload bound]
    exact ⟨rfl, rfl, trivial⟩
  · intro i _ _ _ checkpoint held
    simp [AuditTables.checkpointByToSeq, singleRow] at held

/-- The second row of the log was deleted, and verification of both accepts. -/
theorem truncated_log_accepted :
    (∃ result, verifyChain platform (singleRow (.obj [])) 1 2 = .ok result ∧ result.ok = true) ∧
      ¬ Established platform (singleRow (.obj [])) 1 2 := by
  refine ⟨verifyChain_ok_iff.mpr ⟨_, intact_singleRow _ (by decide)⟩, fun established => ?_⟩
  obtain ⟨row, member, numbered⟩ := established.1 2 (by decide) (by decide)
  rw [singleRow, List.mem_singleton] at member
  rw [member] at numbered
  exact absurd numbered (by decide)

end Fixture

/-! ## The head commits to the history -/

section Commitment

variable {P : Platform}

/-- The canonical texts of the payloads. -/
def canonicalPayloads (rows : List AuditLogRow) : List Bytes := rows.map fun row => jcs row.payload

/-- The byte strings hashed to verify rows from a start value. -/
def chainTexts (P : Platform) (start : Digest) (rows : List AuditLogRow) : List Bytes :=
  canonicalPayloads rows ++
    (chainLinks (link P) start (payloadHashes P rows)).map fun (prevHash, hash) =>
      prevHash.val ++ hash.val

theorem payloadHashes_eq_map (P : Platform) (rows : List AuditLogRow) :
    payloadHashes P rows = (canonicalPayloads rows).map P.sha256 := by
  simp [payloadHashes, canonicalPayloads, payloadHash]

/-- A digest's 32 bytes are where a hashed link splits. -/
theorem digests_of_append_eq {a b c d : Digest} (same : a.val ++ b.val = c.val ++ d.val) :
    a = c ∧ b = d := by
  have parts := List.append_inj same (a.property.trans c.property.symm)
  exact ⟨Subtype.ext parts.1, Subtype.ext parts.2⟩

/-- Rows that chain to the same hash from the same start have the same payloads
up to canonical form. -/
theorem canonicalPayloads_eq_of_head_eq {start : Digest} {left right : List AuditLogRow}
    (collisionFree : Set.InjOn P.sha256
      {text | text ∈ chainTexts P start left ++ chainTexts P start right})
    (notStart : ∀ text ∈ chainTexts P start left ++ chainTexts P start right,
      P.sha256 text ≠ start)
    (sameHead : chainHead (link P) start (payloadHashes P left) =
      chainHead (link P) start (payloadHashes P right)) :
    canonicalPayloads left = canonicalPayloads right := by
  have inLeft {l : Digest × Digest} (member : l ∈ chainLinks (link P) start (payloadHashes P left)) :
      l.1.val ++ l.2.val ∈ chainTexts P start left ++ chainTexts P start right :=
    List.mem_append_left _ (List.mem_append_right _ (List.mem_map_of_mem member))
  have inRight {r : Digest × Digest}
      (member : r ∈ chainLinks (link P) start (payloadHashes P right)) :
      r.1.val ++ r.2.val ∈ chainTexts P start left ++ chainTexts P start right :=
    List.mem_append_right _ (List.mem_append_right _ (List.mem_map_of_mem member))
  have samePayloadHashes : payloadHashes P left = payloadHashes P right := by
    refine Foundation.eq_of_chainHead_eq (link P) ?_ ?_ ?_ sameHead
    · intro l member r member' same
      obtain ⟨first, second⟩ :=
        digests_of_append_eq (collisionFree (inLeft member) (inRight member') same)
      exact Prod.ext first second
    · exact fun l member => notStart _ (inLeft member)
    · exact fun r member => notStart _ (inRight member)
  rw [payloadHashes_eq_map, payloadHashes_eq_map] at samePayloadHashes
  exact Foundation.eq_of_map_eq samePayloadHashes fun text member text' member' same =>
    collisionFree (List.mem_append_left _ (List.mem_append_left _ member))
      (List.mem_append_right _ (List.mem_append_left _ member')) same

/-- Two logs that verify from the genesis value and report the same head have
the same length and, position by position, payloads of the same canonical form,
if the hash is collision-free on what was hashed and nothing hashed to the
genesis value. -/
theorem chain_head_commits (P : Platform) (left right : AuditTables) (leftTo rightTo : Int)
    {leftResult rightResult : ChainVerificationResult}
    (leftVerified : verifyChain P left 1 leftTo = .ok leftResult) (leftOk : leftResult.ok = true)
    (rightVerified : verifyChain P right 1 rightTo = .ok rightResult)
    (rightOk : rightResult.ok = true)
    (sameHead : leftResult.headEntryHash = rightResult.headEntryHash)
    (collisionFree : Set.InjOn P.sha256
      {text | text ∈ chainTexts P genesisPrevHash (left.listRange 1 leftTo) ++
        chainTexts P genesisPrevHash (right.listRange 1 rightTo)})
    (notGenesis : ∀ text ∈ chainTexts P genesisPrevHash (left.listRange 1 leftTo) ++
      chainTexts P genesisPrevHash (right.listRange 1 rightTo), P.sha256 text ≠ genesisPrevHash) :
    (left.listRange 1 leftTo).length = (right.listRange 1 rightTo).length ∧
      ∀ (i : Nat) (leftRow rightRow : AuditLogRow), (left.listRange 1 leftTo)[i]? = some leftRow →
        (right.listRange 1 rightTo)[i]? = some rightRow →
        jcs leftRow.payload = jcs rightRow.payload := by
  obtain ⟨leftStart, leftIntact, -, leftHead⟩ := intact_of_verifyChain leftVerified leftOk
  obtain ⟨rightStart, rightIntact, -, rightHead⟩ := intact_of_verifyChain rightVerified rightOk
  have leftGenesis : genesisPrevHash = leftStart := by simpa [priorHash] using leftIntact.prior
  have rightGenesis : genesisPrevHash = rightStart := by simpa [priorHash] using rightIntact.prior
  subst leftGenesis rightGenesis
  have same : canonicalPayloads (left.listRange 1 leftTo) =
      canonicalPayloads (right.listRange 1 rightTo) := by
    rw [leftHead, rightHead] at sameHead
    split at sameHead
    next leftEmpty =>
      split at sameHead
      next rightEmpty =>
        rw [List.isEmpty_iff.mp leftEmpty, List.isEmpty_iff.mp rightEmpty]
      next => cases sameHead
    next =>
      split at sameHead
      next => cases sameHead
      next =>
        exact canonicalPayloads_eq_of_head_eq collisionFree notGenesis
          (hexPrefixed_injective (Option.some.inj sameHead))
  constructor
  · simpa [canonicalPayloads] using congrArg List.length same
  · intro i leftRow rightRow leftFound rightFound
    have sameAt := congrArg (·[i]?) same
    simpa [canonicalPayloads, leftFound, rightFound] using sameAt

end Commitment

namespace Fixture

open Actl.Fixture (platform)

/-- A payload and the same payload with its members in another order. -/
def amountFirst : JSONValue := .obj [("amount_minor", .int 420000), ("currency", .str "INR")]

def currencyFirst : JSONValue := .obj [("currency", .str "INR"), ("amount_minor", .int 420000)]

theorem headEntryHash_singleRow {payload : JSONValue} {result : ChainVerificationResult}
    (verified : verifyChain platform (singleRow payload) 1 1 = .ok result)
    (accepted : result.ok = true) :
    result.headEntryHash =
      some (hexPrefixed (computeEntryHash platform genesisPrevHash payload)) := by
  obtain ⟨start, intact, _, head⟩ := intact_of_verifyChain verified accepted
  have genesis : genesisPrevHash = start := by simpa [priorHash] using intact.prior
  rw [listRange_singleRow payload (Int.le_refl 1), ← genesis] at head
  exact head

theorem reordered_payload_same_head :
    ∃ left right : ChainVerificationResult,
      verifyChain platform (singleRow amountFirst) 1 1 = .ok left ∧ left.ok = true ∧
      verifyChain platform (singleRow currencyFirst) 1 1 = .ok right ∧ right.ok = true ∧
      left.headEntryHash = right.headEntryHash ∧
      jcs (firstRow amountFirst).payload = jcs (firstRow currencyFirst).payload := by
  obtain ⟨left, leftVerified, leftOk⟩ :=
    verifyChain_ok_iff.mpr ⟨_, intact_singleRow amountFirst (Int.le_refl 1)⟩
  obtain ⟨right, rightVerified, rightOk⟩ :=
    verifyChain_ok_iff.mpr ⟨_, intact_singleRow currencyFirst (Int.le_refl 1)⟩
  have sameTexts : jcs amountFirst = jcs currencyFirst := by decide +kernel
  have sameHead : left.headEntryHash = right.headEntryHash := by
    rw [headEntryHash_singleRow leftVerified leftOk, headEntryHash_singleRow rightVerified rightOk,
      computeEntryHash, computeEntryHash, payloadHash, payloadHash, sameTexts]
  refine ⟨left, right, leftVerified, leftOk, rightVerified, rightOk, sameHead, ?_⟩
  have checked : ∀ text ∈ chainTexts platform genesisPrevHash [firstRow amountFirst] ++
      chainTexts platform genesisPrevHash [firstRow currencyFirst],
      platform.sha256 text ≠ genesisPrevHash ∧
      ∀ text' ∈ chainTexts platform genesisPrevHash [firstRow amountFirst] ++
        chainTexts platform genesisPrevHash [firstRow currencyFirst],
        platform.sha256 text = platform.sha256 text' → text = text' := by
    decide +kernel
  refine (chain_head_commits platform _ _ 1 1 leftVerified leftOk rightVerified rightOk sameHead
    ?_ ?_).2 0 _ _ ?_ ?_
  · rw [listRange_singleRow _ (Int.le_refl 1), listRange_singleRow _ (Int.le_refl 1)]
    exact fun text member text' member' same => (checked text member).2 text' member' same
  · rw [listRange_singleRow _ (Int.le_refl 1), listRange_singleRow _ (Int.le_refl 1)]
    exact fun text member => (checked text member).1
  · rw [listRange_singleRow _ (Int.le_refl 1)]
    rfl
  · rw [listRange_singleRow _ (Int.le_refl 1)]
    rfl

end Fixture

end Actl.Audit

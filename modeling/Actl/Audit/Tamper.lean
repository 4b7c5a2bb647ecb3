import Actl.Audit.Writers
import Actl.Audit.Merkle

/-!
# Tampering with one row

The hash of an entry covers its payload and the hash before it, and nothing else
of the row. A modification of one row is therefore noticed exactly when it
changes the payload beyond its canonical form, the `prev_hash` or the
`entry_hash`, with one exception: the last row of the log can be rewritten
together with its hash as long as no later row and no checkpoint fixes that hash.

The collision-freeness that this rests on is asked of the byte strings that are
hashed when the two logs are verified.
-/

set_option autoImplicit false

namespace Actl.Audit

open Foundation (chainHead chainHashes chainLinks)

/-! ## Verification from the start of the log -/

section FromStart

variable {P : Platform} {tables : AuditTables}

theorem exists_lastSegment_root (hashes : List Digest) (hash : Digest) :
    ∃ root, merkleRoot P (lastSegment P (hashes ++ [hash])) = some root := by
  have every := P.settings.checkpointEveryPositive
  refine exists_merkleRoot (List.ne_nil_of_length_pos ?_)
  rw [lastSegment, List.length_drop, List.length_append, List.length_singleton]
  omega

/-- The loop raises nothing. -/
theorem exists_scanEntries (fromSeq : Int) (scan : Scan) (rows : List AuditLogRow) :
    ∃ outcome, scanEntries P tables fromSeq scan rows = .ok outcome := by
  induction rows generalizing scan with
  | nil => exact ⟨_, rfl⟩
  | cons row rows ih =>
      have visited : ∃ outcome, scan.visit P tables fromSeq row = .ok outcome := by
        rw [Scan.visit]
        split
        · exact ⟨_, rfl⟩
        · dsimp only
          split
          · exact ⟨_, rfl⟩
          · split
            · obtain ⟨root, computed⟩ := exists_lastSegment_root (P := P) scan.segmentHashes
                (computeEntryHash P scan.prevHash row.payload)
              rw [lastSegment] at computed
              rw [Scan.matchCheckpoint]
              split
              · exact ⟨_, rfl⟩
              · simp only [computed]
                split
                · exact ⟨_, rfl⟩
                · exact ⟨_, rfl⟩
            · exact ⟨_, rfl⟩
      obtain ⟨outcome, visited⟩ := visited
      rw [scanEntries, visited]
      cases outcome with
      | inl broken => exact ⟨_, rfl⟩
      | inr next => exact ih next

/-- Verification from the start of the log raises nothing, and rejects exactly
what is not in order. -/
theorem verifyChain_rejects_iff (toSeq : Int) :
    (∃ result, verifyChain P tables 1 toSeq = .ok result ∧ result.ok = false) ↔
      ¬ Intact P tables 1 toSeq genesisPrevHash := by
  have total : ∃ result, verifyChain P tables 1 toSeq = .ok result := by
    obtain ⟨outcome, scanned⟩ := @exists_scanEntries P tables 1
      ⟨genesisPrevHash, 0, [], [], 1⟩ (tables.listRange 1 toSeq)
    have prior : priorHash tables 1 = .ok (some genesisPrevHash) := rfl
    rw [verifyChain, prior]
    simp only [Foundation.ok_bind, scanned]
    cases outcome with
    | inl broken => exact ⟨_, rfl⟩
    | inr scan => exact ⟨_, rfl⟩
  obtain ⟨result, verified⟩ := total
  constructor
  · rintro ⟨result', verified', rejected⟩ intact
    obtain ⟨accepted, verified'', ok⟩ := verifyChain_ok_iff.mpr ⟨_, intact⟩
    rw [verified'] at verified''
    cases verified''
    rw [ok] at rejected
    cases rejected
  · intro notIntact
    refine ⟨result, verified, ?_⟩
    by_contra accepted
    rw [Bool.not_eq_false] at accepted
    obtain ⟨start, intact, _⟩ := intact_of_verifyChain verified accepted
    have genesis : genesisPrevHash = start := by simpa [priorHash] using intact.prior
    exact notIntact (genesis ▸ intact)

theorem pairwise_of_numbered {seq : Int} {rows : List AuditLogRow} (numbered : Numbered seq rows) :
    rows.Pairwise fun a b => a.seq ≤ b.seq := by
  rw [List.pairwise_iff_getElem]
  intro i j below below' ordered
  have first := numbered_iff.mp numbered i _ (List.getElem?_eq_getElem below)
  have second := numbered_iff.mp numbered j _ (List.getElem?_eq_getElem below')
  omega

/-- The whole log is the range of its numbers. -/
theorem listRange_of_numbered (numbered : Numbered 1 tables.rows) :
    tables.listRange 1 tables.rows.length = tables.rows := by
  have all : (tables.rows.filter fun row => (1 : Int) ≤ row.seq ∧
      row.seq ≤ (tables.rows.length : Int)) = tables.rows := by
    rw [List.filter_eq_self]
    intro row member
    obtain ⟨i, found⟩ := List.mem_iff_getElem?.mp member
    have position := numbered_iff.mp numbered i row found
    have bound := (List.getElem?_eq_some_iff.mp found).1
    rw [decide_eq_true_iff]
    omega
  rw [AuditTables.listRange, all, (pairwise_of_numbered numbered).insertionSort_eq]

/-- A log in order: linked, and in agreement with its checkpoints. -/
theorem intact_iff_of_numbered (numbered : Numbered 1 tables.rows) :
    Intact P tables 1 tables.rows.length genesisPrevHash ↔
      Chained P genesisPrevHash tables.rows ∧
        Agrees P tables 1 [] 1 (recomputedHashes P genesisPrevHash tables.rows) := by
  have range := listRange_of_numbered numbered
  constructor
  · rintro ⟨_, _, chained, agrees⟩
    rw [range] at chained agrees
    exact ⟨chained, agrees⟩
  · rintro ⟨chained, agrees⟩
    exact ⟨rfl, by rw [range]; exact numbered, by rw [range]; exact chained,
      by rw [range]; exact agrees⟩

theorem chained_append {start : Digest} {first second : List AuditLogRow} :
    Chained P start (first ++ second) ↔ Chained P start first ∧
      Chained P (chainHead (link P) start (payloadHashes P first)) second := by
  induction first generalizing start with
  | nil => simp [Chained, payloadHashes]
  | cons row first ih =>
      rw [List.cons_append, Chained, Chained, ih]
      simp only [and_assoc]
      rfl

end FromStart

/-! ## One modified row -/

/-- The byte strings hashed when a whole log is verified: along the chain, and
for the root of each complete segment. -/
def verificationTexts (P : Platform) (rows : List AuditLogRow) : List Bytes :=
  chainTexts P genesisPrevHash rows ++
    (List.range (rows.length / P.settings.auditCheckpointEvery)).flatMap fun k =>
      merkleTexts P (((recomputedHashes P genesisPrevHash rows).drop
        (k * P.settings.auditCheckpointEvery)).take P.settings.auditCheckpointEvery)

/-- One row of the log is replaced by another under the same number. -/
structure Modifies (tables modified : AuditTables) (i : Nat) (row row' : AuditLogRow) : Prop where
  found : tables.rows[i]? = some row
  number : row'.seq = row.seq
  rows : modified.rows = tables.rows.set i row'
  checkpoints : modified.checkpoints = tables.checkpoints

/-- The modification changes a column that the hashes cover. -/
def ChangesHashed (row row' : AuditLogRow) : Prop :=
  jcs row'.payload ≠ jcs row.payload ∨ row'.prevHash ≠ row.prevHash ∨
    row'.entryHash ≠ row.entryHash

/-- The modification gives the last row of the log, which completes no segment,
another payload together with its hash. -/
def RewritesHead (P : Platform) (tables : AuditTables) (i : Nat) (row row' : AuditLogRow) : Prop :=
  i + 1 = tables.rows.length ∧ tables.rows.length % P.settings.auditCheckpointEvery ≠ 0 ∧
    row'.prevHash = row.prevHash ∧
    ∃ prev, row.prevHash = hexPrefixed prev ∧
      row'.entryHash = hexPrefixed (computeEntryHash P prev row'.payload)

section Modified

variable {P : Platform} {tables modified : AuditTables} {i : Nat} {row row' : AuditLogRow}

theorem Modifies.numbered (modifies : Modifies tables modified i row row')
    (numbered : Numbered 1 tables.rows) : Numbered 1 modified.rows := by
  rw [numbered_iff] at numbered ⊢
  intro j other found
  rw [modifies.rows, List.getElem?_set] at found
  split at found
  next same =>
    subst same
    split at found
    next =>
      cases found
      rw [modifies.number]
      exact numbered i row modifies.found
    next => cases found
  next => exact numbered j other found

/-- The rows around the modified one. -/
theorem Modifies.split (modifies : Modifies tables modified i row row') :
    ∃ before after, tables.rows = before ++ row :: after ∧
      modified.rows = before ++ row' :: after ∧ before.length = i := by
  obtain ⟨bound, at_i⟩ := List.getElem?_eq_some_iff.mp modifies.found
  refine ⟨tables.rows.take i, tables.rows.drop (i + 1), ?_, ?_, ?_⟩
  · rw [← at_i, List.getElem_cons_drop, List.take_append_drop]
  · rw [modifies.rows, List.set_eq_take_append_cons_drop, if_pos bound]
  · rw [List.length_take]
    omega

theorem Modifies.checkpointByToSeq (modifies : Modifies tables modified i row row') (seq : Int) :
    modified.checkpointByToSeq seq = tables.checkpointByToSeq seq := by
  rw [AuditTables.checkpointByToSeq, AuditTables.checkpointByToSeq, modifies.checkpoints]

theorem recomputedHashes_append (start : Digest) (first second : List AuditLogRow) :
    recomputedHashes P start (first ++ second) = recomputedHashes P start first ++
      recomputedHashes P (chainHead (link P) start (payloadHashes P first)) second := by
  rw [recomputedHashes, payloadHashes, List.map_append, Foundation.chainHashes_append]
  rfl

theorem recomputedHashes_concat (start : Digest) (rows : List AuditLogRow) (row : AuditLogRow) :
    recomputedHashes P start (rows ++ [row]) = recomputedHashes P start rows ++
      [computeEntryHash P (chainHead (link P) start (payloadHashes P rows)) row.payload] :=
  recomputedHashes_append start rows [row]

/-- Entry hashes over the same hash that agree come from payloads with the same
canonical text. -/
theorem jcs_eq_of_computeEntryHash_eq {prev : Digest} {texts : List Bytes}
    (collisionFree : Set.InjOn P.sha256 {text | text ∈ texts}) {payload payload' : JSONValue}
    (link₁ : prev.val ++ (payloadHash P payload).val ∈ texts)
    (link₂ : prev.val ++ (payloadHash P payload').val ∈ texts) (text₁ : jcs payload ∈ texts)
    (text₂ : jcs payload' ∈ texts)
    (same : computeEntryHash P prev payload = computeEntryHash P prev payload') :
    jcs payload = jcs payload' :=
  collisionFree text₁ text₂ (digests_of_append_eq (collisionFree link₁ link₂ same)).2

/-- What is hashed for a row of a log. -/
theorem mem_verificationTexts_of_split {rows before after : List AuditLogRow} {row : AuditLogRow}
    (whole : rows = before ++ row :: after) :
    jcs row.payload ∈ verificationTexts P rows ∧
      (chainHead (link P) genesisPrevHash (payloadHashes P before)).val ++
        (payloadHash P row.payload).val ∈ verificationTexts P rows := by
  subst whole
  constructor
  · refine List.mem_append_left _ (List.mem_append_left _ ?_)
    simp [canonicalPayloads]
  · refine List.mem_append_left _ (List.mem_append_right _ ?_)
    rw [payloadHashes, List.map_append, Foundation.chainLinks_append]
    simp only [List.map_cons, chainLinks, List.map_append, List.mem_append, List.mem_cons]
    exact Or.inr (Or.inl rfl)

/-- What is hashed for the root of the segment that the last row completes. -/
theorem mem_verificationTexts_of_segment {rows : List AuditLogRow} (nonempty : 0 < rows.length)
    (completes : rows.length % P.settings.auditCheckpointEvery = 0) {text : Bytes}
    (member : text ∈ merkleTexts P (lastSegment P (recomputedHashes P genesisPrevHash rows))) :
    text ∈ verificationTexts P rows := by
  have every := P.settings.checkpointEveryPositive
  have multiple := Nat.dvd_of_mod_eq_zero completes
  have quotient : 0 < rows.length / P.settings.auditCheckpointEvery :=
    Nat.div_pos (Nat.le_of_dvd nonempty multiple) every
  refine List.mem_append_right _ (List.mem_flatMap.mpr
    ⟨rows.length / P.settings.auditCheckpointEvery - 1, by rw [List.mem_range]; omega, ?_⟩)
  have start : (rows.length / P.settings.auditCheckpointEvery - 1) *
      P.settings.auditCheckpointEvery = rows.length - P.settings.auditCheckpointEvery := by
    rw [Nat.sub_mul, Nat.div_mul_cancel multiple, Nat.one_mul]
  have segment : ((recomputedHashes P genesisPrevHash rows).drop
      (rows.length - P.settings.auditCheckpointEvery)).take P.settings.auditCheckpointEvery =
      lastSegment P (recomputedHashes P genesisPrevHash rows) := by
    rw [lastSegment, length_recomputedHashes]
    refine List.take_of_length_le ?_
    rw [List.length_drop, length_recomputedHashes]
    omega
  rw [start, segment]
  exact member

/-- The last hash of a segment, from its root. -/
theorem last_eq_of_root_eq {hashes : List Digest} {hash hash' root : Digest}
    (collisionFree : Set.InjOn P.sha256 {text | text ∈
      merkleTexts P (lastSegment P (hashes ++ [hash])) ++
        merkleTexts P (lastSegment P (hashes ++ [hash']))})
    (first : merkleRoot P (lastSegment P (hashes ++ [hash])) = some root)
    (second : merkleRoot P (lastSegment P (hashes ++ [hash'])) = some root) : hash = hash' := by
  have every := P.settings.checkpointEveryPositive
  have ends (last : Digest) : lastSegment P (hashes ++ [last]) =
      hashes.drop (hashes.length + 1 - P.settings.auditCheckpointEvery) ++ [last] := by
    rw [lastSegment, List.length_append, List.length_singleton,
      List.drop_append_of_le_length (by omega)]
  have same := eq_of_merkleRoot_eq collisionFree (first.trans second.symm)
  rw [ends, ends] at same
  simpa using same

variable {jsonb : JSONValue → JSONValue}

/-- A log that was built by appending is in order. -/
theorem Built.chained (built : Built P jsonb tables) :
    Numbered 1 tables.rows ∧ Chained P genesisPrevHash tables.rows ∧
      Agrees P tables 1 [] 1 (recomputedHashes P genesisPrevHash tables.rows) := by
  obtain ⟨log, represents, wellFormed, survived⟩ := built
  obtain ⟨chained, recomputed⟩ := @chained_rowsFrom P jsonb _ _ 1 wellFormed.linked survived
  have agrees := represents.agrees_range wellFormed (Nat.le_refl 1) (Nat.le_refl _)
  rw [represents.rows]
  refine ⟨numbered_rowsFrom _, chained, ?_⟩
  rw [Nat.sub_self, List.drop_zero, List.take_of_length_le (by simp)] at agrees
  rw [recomputed]
  exact agrees

/-- A last row that completes a segment has its hash fixed by the checkpoint. -/
theorem head_eq_of_checkpoint {before : List AuditLogRow} (built : Built P jsonb tables)
    (modifies : Modifies tables modified i row row')
    (collisionFree : Set.InjOn P.sha256 {text | text ∈
      verificationTexts P tables.rows ++ verificationTexts P modified.rows})
    (whole : tables.rows = before ++ [row]) (whole' : modified.rows = before ++ [row'])
    (completes : tables.rows.length % P.settings.auditCheckpointEvery = 0)
    (agrees' : Agrees P modified 1 [] 1 (recomputedHashes P genesisPrevHash modified.rows)) :
    computeEntryHash P (chainHead (link P) genesisPrevHash (payloadHashes P before)) row.payload =
      computeEntryHash P (chainHead (link P) genesisPrevHash (payloadHashes P before))
        row'.payload := by
  obtain ⟨_, _, agrees⟩ := built.chained
  have every := P.settings.checkpointEveryPositive
  have count : tables.rows.length = before.length + 1 := by simp [whole]
  have count' : modified.rows.length = before.length + 1 := by simp [whole']
  have fits : P.settings.auditCheckpointEvery ≤ before.length + 1 := by
    rw [← count]
    exact Nat.le_of_dvd (by omega) (Nat.dvd_of_mod_eq_zero completes)
  have number : (1 : Int) + before.length = tables.rows.length := by omega
  have multiple : ((1 : Int) + before.length) % P.settings.auditCheckpointEvery = 0 := by
    rw [number, ← Int.natCast_mod, completes]
    rfl
  obtain ⟨checkpoint, held⟩ : ∃ checkpoint,
      tables.checkpointByToSeq (1 + before.length) = some checkpoint := by
    obtain ⟨_, _, _, _, stored⟩ := built.checkpoint (by omega) (Nat.le_refl _) completes
    rw [AuditTables.checkpointByToSeq, number, stored]
    exact ⟨_, rfl⟩
  have old := recomputedHashes_concat (P := P) genesisPrevHash before row
  have new := recomputedHashes_concat (P := P) genesisPrevHash before row'
  rw [← whole] at old
  rw [← whole'] at new
  obtain ⟨root, computed, same⟩ := agrees before.length
    (by rw [length_recomputedHashes]; omega) multiple (by omega) checkpoint held
  obtain ⟨root', computed', same'⟩ := agrees' before.length
    (by rw [length_recomputedHashes]; omega) multiple (by omega) checkpoint
    (by rw [modifies.checkpointByToSeq, held])
  rw [List.nil_append, List.take_of_length_le (by rw [length_recomputedHashes, count]), old]
    at computed
  rw [List.nil_append, List.take_of_length_le (by rw [length_recomputedHashes, count']), new,
    hexPrefixed_injective (same'.symm.trans same)] at computed'
  refine last_eq_of_root_eq (collisionFree.mono fun text hashed => ?_) computed computed'
  rcases List.mem_append.mp hashed with member | member
  · rw [← old] at member
    exact List.mem_append_left _ (mem_verificationTexts_of_segment (by omega) completes member)
  · rw [← new] at member
    exact List.mem_append_right _ (mem_verificationTexts_of_segment (by omega)
      (by rw [count', ← count]; exact completes) member)

/-- A modification that the hashes cover is accepted only if it rewrites the
head. -/
theorem rewritesHead_of_intact (built : Built P jsonb tables)
    (modifies : Modifies tables modified i row row')
    (collisionFree : Set.InjOn P.sha256 {text | text ∈
      verificationTexts P tables.rows ++ verificationTexts P modified.rows})
    (changes : ChangesHashed row row')
    (chained' : Chained P genesisPrevHash modified.rows)
    (agrees' : Agrees P modified 1 [] 1 (recomputedHashes P genesisPrevHash modified.rows)) :
    RewritesHead P tables i row row' := by
  obtain ⟨_, chained, _⟩ := built.chained
  obtain ⟨before, after, whole, whole', length⟩ := modifies.split
  rw [whole, chained_append] at chained
  rw [whole', chained_append] at chained'
  obtain ⟨-, linked, hashed, rest⟩ := chained
  obtain ⟨-, linked', hashed', rest'⟩ := chained'
  have different : jcs row.payload ≠ jcs row'.payload := by
    intro same
    rcases changes with payload | prev | entry
    · exact payload same.symm
    · exact prev (linked'.trans linked.symm)
    · refine entry ?_
      rw [hashed, hashed', computeEntryHash, computeEntryHash, payloadHash, payloadHash, same]
  have texts := mem_verificationTexts_of_split (P := P) whole
  have texts' := mem_verificationTexts_of_split (P := P) whole'
  have apart : computeEntryHash P _ row.payload ≠ computeEntryHash P _ row'.payload :=
    fun same => different (jcs_eq_of_computeEntryHash_eq collisionFree
      (List.mem_append_left _ texts.2) (List.mem_append_right _ texts'.2)
      (List.mem_append_left _ texts.1) (List.mem_append_right _ texts'.1) same)
  -- A later row would hold the old hash.
  have last : after = [] := by
    cases after with
    | nil => rfl
    | cons next after =>
        exact absurd (hexPrefixed_injective (rest.1.symm.trans rest'.1)) apart
  subst last
  refine ⟨by rw [whole, List.length_append, length]; rfl, fun completes => ?_,
    linked'.trans linked.symm, _, linked, hashed'⟩
  exact apart (head_eq_of_checkpoint built modifies collisionFree whole whole' completes agrees')

theorem Modifies.agreesAt (modifies : Modifies tables modified i row row') {seq : Int}
    {hashes : List Digest} (agrees : AgreesAt P tables 1 seq hashes) :
    AgreesAt P modified 1 seq hashes := by
  intro multiple inside checkpoint held
  rw [modifies.checkpointByToSeq] at held
  exact agrees multiple inside checkpoint held

/-- A modification that the hashes do not cover is accepted. -/
theorem intact_of_not_changesHashed (built : Built P jsonb tables)
    (modifies : Modifies tables modified i row row') (uncovered : ¬ ChangesHashed row row') :
    Chained P genesisPrevHash modified.rows ∧
      Agrees P modified 1 [] 1 (recomputedHashes P genesisPrevHash modified.rows) := by
  obtain ⟨_, chained, agrees⟩ := built.chained
  obtain ⟨before, after, whole, whole', _⟩ := modifies.split
  simp only [ChangesHashed, not_or, not_not] at uncovered
  obtain ⟨samePayload, samePrev, sameEntry⟩ := uncovered
  have samePayloadHash : payloadHash P row'.payload = payloadHash P row.payload := by
    rw [payloadHash, payloadHash, samePayload]
  have sameHash (prev : Digest) :
      computeEntryHash P prev row'.payload = computeEntryHash P prev row.payload := by
    rw [computeEntryHash, computeEntryHash, samePayloadHash]
  have sameHashes : recomputedHashes P genesisPrevHash modified.rows =
      recomputedHashes P genesisPrevHash tables.rows := by
    rw [recomputedHashes, recomputedHashes, whole, whole']
    simp only [payloadHashes, List.map_append, List.map_cons, samePayloadHash]
  rw [whole, chained_append] at chained
  obtain ⟨earlier, linked, hashed, rest⟩ := chained
  constructor
  · rw [whole', chained_append]
    refine ⟨earlier, samePrev.trans linked, ?_, ?_⟩
    · rw [sameHash, sameEntry, hashed]
    · rw [sameHash]
      exact rest
  · rw [sameHashes]
    exact fun j bound => modifies.agreesAt (agrees j bound)

/-- The head can be rewritten together with its hash. -/
theorem intact_of_rewritesHead (built : Built P jsonb tables)
    (modifies : Modifies tables modified i row row')
    (rewrites : RewritesHead P tables i row row') :
    Chained P genesisPrevHash modified.rows ∧
      Agrees P modified 1 [] 1 (recomputedHashes P genesisPrevHash modified.rows) := by
  obtain ⟨_, chained, agrees⟩ := built.chained
  obtain ⟨before, after, whole, whole', length⟩ := modifies.split
  obtain ⟨head, within, samePrev, prev, links, rewritten⟩ := rewrites
  have last : after = [] := by
    have counted := congrArg List.length whole
    rw [List.length_append, List.length_cons] at counted
    exact List.length_eq_zero_iff.mp (by omega)
  subst last
  rw [whole, chained_append] at chained
  obtain ⟨earlier, linked, hashed, _⟩ := chained
  have prevIs := hexPrefixed_injective (links.symm.trans linked)
  constructor
  · rw [whole', chained_append]
    exact ⟨earlier, samePrev.trans linked, by rw [rewritten, prevIs], trivial⟩
  · intro j bound
    rw [length_recomputedHashes, whole', List.length_append, List.length_singleton] at bound
    by_cases atHead : j = before.length
    · intro multiple
      refine absurd ?_ within
      have number : (1 : Int) + j = tables.rows.length := by omega
      rw [number] at multiple
      exact_mod_cast multiple
    · have upTo : (recomputedHashes P genesisPrevHash modified.rows).take (j + 1) =
          (recomputedHashes P genesisPrevHash tables.rows).take (j + 1) := by
        rw [whole, whole', recomputedHashes_append, recomputedHashes_append,
          List.take_append_of_le_length (by rw [length_recomputedHashes]; omega),
          List.take_append_of_le_length (by rw [length_recomputedHashes]; omega)]
      rw [upTo]
      exact modifies.agreesAt (agrees j (by rw [length_recomputedHashes]; omega))

end Modified

namespace Fixture

open Actl.Fixture (platform)

/-- One entry is appended and committed. -/
def oneEntry : List WriterEvent :=
  [.start 0, .append 0 ⟨"trc_1", "system", "agt_1", .mandateLocked, .obj [], .obj []⟩,
    .advance 0, .advance 0, .advance 0, .commit 0]

theorem committed_oneEntry :
    (Writers.initial.run platform id oneEntry).committed = singleRow (.obj []) := rfl

theorem survives_oneEntry : ∀ event ∈ oneEntry, event.Survives id := by
  simp [oneEntry, WriterEvent.Survives, Survives]

/-- The log of the one entry with its row replaced. -/
def altered (row : AuditLogRow) : AuditTables := ⟨[row], [], by simp, by simp⟩

theorem modifies_altered {row : AuditLogRow} (number : row.seq = 1) :
    Modifies (Writers.initial.run platform id oneEntry).committed (altered row) 0
      (firstRow (.obj [])) row := by
  rw [committed_oneEntry]
  exact ⟨rfl, number, rfl, rfl⟩

/-- What is hashed for a log of one row and for its alteration does not collide,
if the payloads' texts and the two links do not. -/
theorem collisionFree_altered {row : AuditLogRow}
    (checked : ∀ text ∈ verificationTexts platform [firstRow (.obj [])] ++
        verificationTexts platform [row],
      ∀ text' ∈ verificationTexts platform [firstRow (.obj [])] ++
        verificationTexts platform [row],
        platform.sha256 text = platform.sha256 text' → text = text') :
    Set.InjOn platform.sha256 {text | text ∈
      verificationTexts platform (Writers.initial.run platform id oneEntry).committed.rows ++
        verificationTexts platform (altered row).rows} := by
  rw [committed_oneEntry]
  exact fun text member text' member' same => checked text member text' member' same

/-- The row under another actor. -/
def otherActor : AuditLogRow := { firstRow (.obj []) with actorId := "agt_2" }

/-- The row with the payload that `scripts/tamper.py` writes. -/
def tampered : AuditLogRow :=
  { firstRow (.obj []) with payload := .obj [("tampered", .bool true)] }

end Fixture

end Actl.Audit

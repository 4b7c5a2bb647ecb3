import Actl.Anchor.Discipline

/-!
# The outbox and the chain agree

Every action moves the chain and the outbox forward (`Follows`): a root stays, a mined
transaction stays mined, a row stays the row of its range. So what a tick has seen of
the chain still holds when it commits, and while no other tick runs the rows it has listed
are still there to be marked. `anchor_agreement` puts the two together for all runs of
one worker.
-/

set_option autoImplicit false

namespace Actl.Anchor

open Foundation (Step System WriteOnce)
open Foundation.System (Ascending Lawful Admissible initial run_invariant run_related
  admissible_append getElem?_set_cases getElem?_append_cases)
open Audit (parseHexPrefixed)

/-! ## Moving forward -/

/-- The row is still about the same range and root. -/
def SameCheckpoint (row row' : AuditCheckpointRecord) : Prop :=
  row'.fromSeq = row.fromSeq ∧ row'.toSeq = row.toSeq ∧ row'.merkleRoot = row.merkleRoot

/-- The state may come after the other. -/
structure Follows (w w' : Anchoring) : Prop where
  registers : w.contract.registers.Extends w'.contract.registers
  transactions : ∀ (tx : Nat) (t : Transaction), w.transactions[tx]? = some t →
    ∃ t' : Transaction, w'.transactions[tx]? = some t' ∧ t'.call = t.call ∧
      ∀ status, t.status = some status → t'.status = some status
  checkpoints : ∀ (key : Nat) (row : AuditCheckpointRecord), w.checkpoints[key]? = some row →
    ∃ row', w'.checkpoints[key]? = some row' ∧ SameCheckpoint row row'

theorem SameCheckpoint.trans {row row' row'' : AuditCheckpointRecord}
    (one : SameCheckpoint row row') (two : SameCheckpoint row' row'') : SameCheckpoint row row'' :=
  ⟨two.1.trans one.1, two.2.1.trans one.2.1, two.2.2.trans one.2.2⟩

theorem Follows.refl (w : Anchoring) : Follows w w where
  registers := .refl _
  transactions := fun _ t found => ⟨t, found, rfl, fun _ => id⟩
  checkpoints := fun _ row found => ⟨row, found, rfl, rfl, rfl⟩

theorem Follows.trans (w w' w'' : Anchoring) (one : Follows w w') (two : Follows w' w'') :
    Follows w w'' where
  registers := one.registers.trans two.registers
  transactions := fun tx t found => by
    obtain ⟨t', found', call, kept⟩ := one.transactions tx t found
    obtain ⟨t'', found'', call', kept'⟩ := two.transactions tx t' found'
    exact ⟨t'', found'', call'.trans call, fun status mined => kept' status (kept status mined)⟩
  checkpoints := fun key row found => by
    obtain ⟨row', found', same⟩ := one.checkpoints key row found
    obtain ⟨row'', found'', same'⟩ := two.checkpoints key row' found'
    exact ⟨row'', found'', same.trans same'⟩

/-! ## What an action does -/

/-- The states an action may lead to. -/
inductive Moves (action : Action) (w : Anchoring) : Anchoring → Prop where
  | stays : Moves action w w
  | called (sent : AnchorCall) (timestamp : Nat) (contract : Contract)
      (done : w.contract.call sent timestamp = .ok contract) :
      Moves action w { w with contract }
  | sent (t : Transaction) (pending : t.status = none) :
      Moves action w { w with transactions := w.transactions ++ [t] }
  | mined (tx timestamp : Nat) (t : Transaction) (contract : Contract)
      (found : w.transactions[tx]? = some t) (pending : t.status = none)
      (done : w.contract.call t.call timestamp = .ok contract) :
      Moves action w
        { w with contract, transactions := w.transactions.set tx ⟨t.call, t.hash, some true⟩ }
  | reverted (tx : Nat) (t : Transaction) (found : w.transactions[tx]? = some t)
      (pending : t.status = none) :
      Moves action w { w with transactions := w.transactions.set tx ⟨t.call, t.hash, some false⟩ }
  | added (row : AuditCheckpointRecord) (fresh : row.anchorStatus = .unanchored) :
      Moves action w { w with checkpoints := w.checkpoints ++ [row] }
  | committed (marks : List (Nat × Mark)) (commit : action = .commit marks) :
      Moves action w { w with checkpoints := applyMarks w.checkpoints marks }

theorem mine_moves (action : Action) (w : Anchoring) (tx timestamp : Nat) :
    Moves action w (w.mine tx timestamp) := by
  unfold Anchoring.mine
  split
  · rename_i call hash found
    split
    · rename_i contract done
      exact .mined tx timestamp ⟨call, hash, none⟩ contract found rfl done
    · exact .reverted tx ⟨call, hash, none⟩ found rfl
  · exact .stays

theorem execute_moves (client : MonadAnchor) (action : Action) (input : Input) (w : Anchoring) :
    Moves action w (execute client action input w).2 := by
  cases action with
  | sendRawTransaction key sent =>
      simp only [execute]
      split
      · exact .sent _ rfl
      · split
        · exact .sent _ rfl
        · exact .stays
  | commit marks =>
      simp only [execute]
      split
      · exact .stays
      · exact .committed marks rfl
  | mine tx => exact mine_moves ..
  | anchor sent =>
      simp only [execute]
      split
      · rename_i contract done
        exact .called sent _ contract done
      · exact .stays
  | addCheckpoint fromSeq toSeq merkleRoot anchorTx =>
      simp only [execute]
      split
      · exact .stays
      · exact .added _ rfl
  | _ => exact .stays

/-! ### The chain -/

/-- The contract has logged its roots, and a transaction that succeeded has left its root. -/
structure Sound (w : Anchoring) : Prop where
  logged : w.contract.registers.Logged
  mined : ∀ t ∈ w.transactions, t.status = some true →
    w.contract.root? t.call.range = some t.call.merkleRoot

theorem sound_fresh (owner : Address) : Sound (.fresh owner) where
  logged := by
    rw [Anchoring.fresh, Contract.registers_deploy]
    exact WriteOnce.logged_empty
  mined := fun _ member => nomatch member

section Chain

variable {w w' : Anchoring} {action : Action} {c c' : Contract} {sent : AnchorCall}
variable {timestamp : Nat}

theorem call_extends (done : c.call sent timestamp = .ok c') : c.registers.Extends c'.registers := by
  obtain ⟨-, -, written, -⟩ := Contract.anchor_refines done
  rw [written]
  exact WriteOnce.write_extends

theorem call_logged (logged : c.registers.Logged) (done : c.call sent timestamp = .ok c') :
    c'.registers.Logged := by
  obtain ⟨-, -, written, -⟩ := Contract.anchor_refines done
  rw [written]
  exact logged.write

theorem call_root (done : c.call sent timestamp = .ok c') :
    c'.root? sent.range = some sent.merkleRoot := (Contract.anchor_refines done).2.2.2

theorem Sound.moves (sound : Sound w) (moves : Moves action w w') : Sound w' := by
  have kept : ∀ {sent timestamp contract}, w.contract.call sent timestamp = .ok contract →
      ∀ t ∈ w.transactions, t.status = some true →
        contract.root? t.call.range = some t.call.merkleRoot := fun done t member success =>
    call_extends done _ _ (sound.mined t member success)
  cases moves with
  | stays => exact sound
  | called sent timestamp contract done => exact ⟨call_logged sound.logged done, kept done⟩
  | sent t pending =>
      refine ⟨sound.logged, fun t' member success => ?_⟩
      rcases List.mem_append.mp member with old | new
      · exact sound.mined t' old success
      · cases List.mem_singleton.mp new
        rw [pending] at success
        cases success
  | mined tx timestamp t contract found pending done =>
      refine ⟨call_logged sound.logged done, fun t' member success => ?_⟩
      rcases List.mem_or_eq_of_mem_set member with old | rfl
      · exact kept done t' old success
      · exact call_root done
  | reverted tx t found pending =>
      refine ⟨sound.logged, fun t' member success => ?_⟩
      rcases List.mem_or_eq_of_mem_set member with old | rfl
      · exact sound.mined t' old success
      · cases success
  | added row fresh => exact ⟨sound.logged, sound.mined⟩
  | committed marks commit => exact ⟨sound.logged, sound.mined⟩

end Chain

/-! ### The rows -/

section Rows

variable {rows : CheckpointTable} {marks : List (Nat × Mark)}

theorem sameCheckpoint_apply (mark : Mark) (row : AuditCheckpointRecord) :
    SameCheckpoint row (mark.apply row) := by
  cases mark <;> exact ⟨rfl, rfl, rfl⟩

theorem length_applyMarks : (applyMarks rows marks).length = rows.length := by
  unfold applyMarks
  induction marks generalizing rows with
  | nil => rfl
  | cons mark marks ih => rw [List.foldl_cons, ih, List.length_modify]

/-- What holds of every row, and of a row after each of the marks made for it, holds of
every row in the end. -/
theorem applyMarks_forall (holds : Nat → AuditCheckpointRecord → Prop)
    (before : ∀ key row, rows[key]? = some row → holds key row)
    (step : ∀ mark ∈ marks, ∀ row, holds mark.1 row → holds mark.1 (mark.2.apply row)) :
    ∀ key row, (applyMarks rows marks)[key]? = some row → holds key row := by
  unfold applyMarks
  induction marks generalizing rows with
  | nil => exact before
  | cons mark marks ih =>
      refine ih (fun key row found => ?_) fun mark' member => step mark' (List.mem_cons_of_mem _ member)
      rw [List.getElem?_modify] at found
      obtain ⟨old, present, rfl⟩ := Option.map_eq_some_iff.mp found
      split
      · rename_i here
        subst here
        exact step mark List.mem_cons_self old (before _ old present)
      · exact before key old present

theorem getElem?_applyMarks {key : Nat} {row : AuditCheckpointRecord} (found : rows[key]? = some row) :
    ∃ row', (applyMarks rows marks)[key]? = some row' ∧ SameCheckpoint row row' := by
  have inside : key < (applyMarks rows marks).length := by
    rw [length_applyMarks]
    exact (List.getElem?_eq_some_iff.mp found).1
  refine ⟨_, List.getElem?_eq_getElem inside, ?_⟩
  refine applyMarks_forall (fun key row' => ∀ row, rows[key]? = some row → SameCheckpoint row row')
    (fun key row found row' found' => ?_)
    (fun mark _ row' holds row found => (holds row found).trans (sameCheckpoint_apply ..)) key _
    (List.getElem?_eq_getElem inside) row found
  cases found.symm.trans found'
  exact ⟨rfl, rfl, rfl⟩

end Rows

theorem getElem?_set_settled {transactions : List Transaction} {tx tx' : Nat} {t t' : Transaction}
    {status : Option Bool} (found : transactions[tx]? = some t) (pending : t.status = none)
    (found' : transactions[tx']? = some t') :
    ∃ t'' : Transaction, (transactions.set tx ⟨t.call, t.hash, status⟩)[tx']? = some t'' ∧
      t''.call = t'.call ∧ ∀ status, t'.status = some status → t''.status = some status := by
  by_cases here : tx = tx'
  · subst here
    cases found.symm.trans found'
    refine ⟨_, List.getElem?_set_self (List.getElem?_eq_some_iff.mp found).1, rfl, ?_⟩
    intro status settled
    rw [pending] at settled
    cases settled
  · exact ⟨t', (List.getElem?_set_ne here).trans found', rfl, fun _ => id⟩

/-- Every action moves the state forward. -/
theorem Moves.follows {action : Action} {w w' : Anchoring} (moves : Moves action w w') :
    Follows w w' := by
  have same := Follows.refl w
  cases moves with
  | stays => exact same
  | called sent timestamp contract done => exact ⟨call_extends done, same.2, same.3⟩
  | sent t pending =>
      refine ⟨same.1, fun tx t' found => ⟨t', ?_, rfl, fun _ => id⟩, same.3⟩
      rw [List.getElem?_append_left (List.getElem?_eq_some_iff.mp found).1]
      exact found
  | mined tx timestamp t contract found pending done =>
      exact ⟨call_extends done, fun tx' t' => getElem?_set_settled found pending, same.3⟩
  | reverted tx t found pending =>
      exact ⟨same.1, fun tx' t' => getElem?_set_settled found pending, same.3⟩
  | added row fresh =>
      refine ⟨same.1, same.2, fun key row' found => ⟨row', ?_, rfl, rfl, rfl⟩⟩
      rw [List.getElem?_append_left (List.getElem?_eq_some_iff.mp found).1]
      exact found
  | committed marks commit => exact ⟨same.1, same.2, fun key row found => getElem?_applyMarks found⟩

/-! ## What a call has seen -/

theorem execute_follows (client : MonadAnchor) (action : Action) (input : Input) (w : Anchoring) :
    Follows w (execute client action input w).2 := (execute_moves client action input w).follows

section Seen

variable {worker : Worker} {w : Anchoring} {past : Past}

/-- What was found in the state of a step, later states follow. -/
theorem follows_of_mem (ascending : Ascending (S := anchoring worker) Follows w past)
    {s : Step Action Input Anchoring} (member : s ∈ past) : Follows s.before w :=
  Follows.trans _ _ _ (execute_follows worker.client s.action s.input s.before)
    (ascending.ended Follows.trans (execute_follows worker.client) member)

theorem met_lasts (ascending : Ascending (S := anchoring worker) Follows w past) {range : Range}
    {root : Digest} (met : Met past range root) : w.contract.root? range = some root := by
  obtain ⟨s, member, found⟩ := met
  exact (follows_of_mem ascending member).registers _ _ found

/-- A transaction that was sent is still there. -/
theorem sent_lasts (ascending : Ascending (S := anchoring worker) Follows w past) {key tx : Nat}
    {sent : AnchorCall} (did : Did worker.client past (.sendRawTransaction key sent) tx) :
    ∃ t : Transaction, w.transactions[tx]? = some t ∧ t.call = sent := by
  obtain ⟨⟨action, input, before⟩, member, rfl, result⟩ := did
  have later := ascending.ended Follows.trans (execute_follows worker.client) member
  simp only [anchoring, execute] at result later
  split at result
  · rename_i stale answers
    simp only [answers] at later
    cases result
    obtain ⟨t, found, call, -⟩ := later.transactions before.transactions.length _
      List.getElem?_concat_length
    exact ⟨t, found, call⟩
  · cases result

/-- A transaction whose receipt is a success has been mined. -/
theorem mined_lasts (ascending : Ascending (S := anchoring worker) Follows w past) {tx : Nat}
    {hash : String} (did : Did worker.client past (.waitForTransactionReceipt tx) ⟨hash, true⟩) :
    ∃ t : Transaction, w.transactions[tx]? = some t ∧ t.status = some true := by
  obtain ⟨⟨action, input, before⟩, member, rfl, result⟩ := did
  have later := follows_of_mem ascending member
  simp only [execute] at result
  split at result
  · rename_i call hash' status _ found
    cases result
    obtain ⟨t, found', -, settled⟩ := later.transactions tx _ found
    exact ⟨t, found', settled true rfl⟩
  · cases result
  · cases result

/-- What the call knows of the chain still holds. -/
theorem onChain_lasts (sound : Sound w)
    (ascending : Ascending (S := anchoring worker) Follows w past)
    {checkpoint : AuditCheckpointRecord} (known : OnChain worker.client past checkpoint) :
    ∃ range root, About worker.client checkpoint range root ∧
      w.contract.root? range = some root := by
  obtain ⟨range, root, about, met | ⟨key, sender, tx, hash, sent, mined⟩⟩ := known
  · exact ⟨range, root, about, met_lasts ascending met⟩
  · obtain ⟨t, found, call⟩ := sent_lasts ascending sent
    obtain ⟨t', found', success⟩ := mined_lasts ascending mined
    cases found.symm.trans found'
    have rooted := sound.mined t (List.mem_of_getElem? found) success
    rw [call] at rooted
    exact ⟨range, root, about, rooted⟩

/-- A row that was found for a listed checkpoint is the row of that checkpoint. -/
theorem chosen_lasts (ascending : Ascending (S := anchoring worker) Follows w past)
    {entry : AuditCheckpointRecord × Nat} {key : Nat}
    (chosen : Chosen worker.client past entry key) :
    key = entry.2 ∧ Listed worker.client past entry := by
  obtain ⟨s, earlier, inside, answered, listed⟩ := chosen
  refine ⟨?_, listed.mono ((List.suffix_cons s earlier).trans inside)⟩
  obtain ⟨pending, ⟨⟨action, input, before⟩, member, rfl, result⟩, present⟩ := listed
  have later := follows_of_mem (ascending.of_suffix inside) member
  obtain ⟨-, answer⟩ := answered
  simp only [execute] at result answer
  split at result
  · cases result
  split at answer
  · cases answer
  cases result
  obtain ⟨row, found, same⟩ := later.checkpoints _ _ (mem_listUnanchored present).1
  exact getRow_unique answer found same.2.1

end Seen

/-! ## The invariant -/

section Invariant

variable (worker : Worker)

/-- A tick that has neither ended nor crashed. -/
def Ticking (r : (anchoring worker).Running) : Prop := r.call = .anchorTick ∧ r.InProgress

/-- `_anchor_loop`: a tick starts when no other is running. -/
def OneWorker (c : (anchoring worker).Config) : (anchoring worker).Event → Prop
  | .start .anchorTick => ∀ r ∈ c.calls, ¬ Ticking worker r
  | _ => True

/-- The mark of a row agrees with the chain. -/
def RowAgrees (client : MonadAnchor) (c : Contract) (row : AuditCheckpointRecord) : Prop :=
  match row.anchorStatus with
  | .unanchored => True
  | .anchored => ∃ range root, About client row range root ∧ c.root? range = some root
  | .conflict => ∃ range root existing, About client row range root ∧ existing ≠ root ∧
      c.root? range = some existing

structure Coherent (c : (anchoring worker).Config) : Prop where
  sound : Sound c.state
  ascending : ∀ r ∈ c.calls, Ascending Follows c.state r.history
  alone : ∀ (i j : Nat) (r r' : (anchoring worker).Running), c.calls[i]? = some r →
    c.calls[j]? = some r' → Ticking worker r → Ticking worker r' → i = j
  /-- What a running tick has listed is still there to be marked. -/
  current : ∀ (i : Nat) (r : (anchoring worker).Running), c.calls[i]? = some r → r.InProgress →
    ∀ entry, Listed worker.client r.history entry →
      c.state.checkpoints[entry.2]? = some entry.1 ∧ entry.1.anchorStatus = .unanchored
  agrees : ∀ row ∈ c.state.checkpoints, RowAgrees worker.client c.state.contract row

variable {worker}

theorem coherent_initial (owner : Address) :
    Coherent worker (initial (.fresh owner) : (anchoring worker).Config) where
  sound := sound_fresh owner
  ascending := fun _ member => nomatch member
  alone := fun _ _ _ _ found => nomatch found
  current := fun _ _ found => nomatch found
  agrees := fun _ member => nomatch member

theorem About.same {client : MonadAnchor} {row row' : AuditCheckpointRecord} {range : Range}
    {root : Digest} (about : About client row range root) (same : SameCheckpoint row row') :
    About client row' range root := by
  obtain ⟨start, ends, parsed⟩ := same
  rw [About, start, ends, parsed]
  exact about

theorem RowAgrees.extends {client : MonadAnchor} {c c' : Contract} {row : AuditCheckpointRecord}
    (agrees : RowAgrees client c row) (more : c.registers.Extends c'.registers) :
    RowAgrees client c' row := by
  unfold RowAgrees at agrees ⊢
  split
  · trivial
  · rename_i status
    rw [status] at agrees
    obtain ⟨range, root, about, found⟩ := agrees
    exact ⟨range, root, about, more _ _ found⟩
  · rename_i status
    rw [status] at agrees
    obtain ⟨range, root, existing, about, other, found⟩ := agrees
    exact ⟨range, root, existing, about, other, more _ _ found⟩

/-- A mark that rests on what was seen agrees with the chain. -/
theorem found_agrees {w : Anchoring} {past : Past} {checkpoint row : AuditCheckpointRecord}
    {mark : Mark} (sound : Sound w)
    (ascending : Ascending (S := anchoring worker) Follows w past)
    (found : Found worker.client past checkpoint mark) (same : SameCheckpoint checkpoint row)
    (agrees : RowAgrees worker.client w.contract row) :
    RowAgrees worker.client w.contract (mark.apply row) := by
  have same' := same.trans (sameCheckpoint_apply mark row)
  cases mark with
  | anchored txHash chainId contractAddress anchoredAt =>
      obtain ⟨range, root, about, rooted⟩ := onChain_lasts sound ascending found
      exact ⟨range, root, about.same same', rooted⟩
  | conflict error =>
      obtain ⟨range, root, existing, about, other, met⟩ := found
      exact ⟨range, root, existing, about.same same', other, met_lasts ascending met⟩
  | attemptFailure error => exact agrees

/-- Only a tick lists checkpoints. -/
theorem listed_tick {call : Call} {past : Past}
    (lawful : Lawful (S := anchoring worker) (May worker.client) call past)
    {entry : AuditCheckpointRecord × Nat} (listed : Listed worker.client past entry) :
    call = .anchorTick := by
  obtain ⟨pending, ⟨s, member, action, -⟩, -⟩ := listed
  obtain ⟨earlier, -, grounds⟩ := lawful.permitted member
  rw [action] at grounds
  exact grounds

/-- Without a commit rows stay as they are, and new ones are unanchored. -/
theorem Moves.rows {action : Action} {w w' : Anchoring} (moves : Moves action w w')
    (fine : Uncommitted action) :
    (∀ (key : Nat) row, w.checkpoints[key]? = some row → w'.checkpoints[key]? = some row) ∧
      ∀ row ∈ w'.checkpoints, row ∈ w.checkpoints ∨ row.anchorStatus = .unanchored := by
  cases moves with
  | added row fresh =>
      refine ⟨fun key row' found => ?_, fun row' member => ?_⟩
      · exact (List.getElem?_append_left (List.getElem?_eq_some_iff.mp found).1).trans found
      · rcases List.mem_append.mp member with old | new
        · exact .inl old
        · cases List.mem_singleton.mp new
          exact .inr fresh
  | committed marks commit => exact absurd commit (fine marks)
  | _ => exact ⟨fun _ _ => id, fun _ => .inl⟩

/-! ### Every event keeps it -/

variable {c : (anchoring worker).Config}

theorem Coherent.start (keeps : Coherent worker c) (call : Call)
    (allowed : OneWorker worker c (.start call)) : Coherent worker (c.apply (.start call)) where
  sound := keeps.sound
  ascending := System.Config.ascending_apply Follows.refl Follows.trans
    (execute_follows worker.client) keeps.ascending _
  alone := fun i j r r' found found' ticking ticking' => by
    have new : ∀ (k : Nat) (r : (anchoring worker).Running),
        (c.apply (.start call)).calls[k]? = some r →
          c.calls[k]? = some r ∨ (k = c.calls.length ∧ r.call = call) := by
      intro k r entry
      change (c.calls ++ [_])[k]? = some r at entry
      rcases Nat.lt_or_ge k c.calls.length with inside | outside
      · exact .inl ((List.getElem?_append_left inside).symm.trans entry)
      · rw [List.getElem?_append_right outside] at entry
        obtain ⟨position, rfl⟩ := List.getElem?_eq_some_iff.mp entry
        rw [List.length_singleton, Nat.lt_one_iff, Nat.sub_eq_zero_iff_le] at position
        exact .inr ⟨Nat.le_antisymm position outside, by rw [List.getElem_singleton]⟩
    have single : ∀ (k : Nat) (r : (anchoring worker).Running), c.calls[k]? = some r →
        Ticking worker r → call = .anchorTick → False := by
      rintro k r old ticking rfl
      exact allowed r (List.mem_of_getElem? old) ticking
    rcases new i r found with old | ⟨rfl, call₁⟩ <;> rcases new j r' found' with old' | ⟨rfl, call₂⟩
    · exact keeps.alone i j r r' old old' ticking ticking'
    · exact (single i r old ticking (call₂.symm.trans ticking'.1)).elim
    · exact (single j r' old' ticking' (call₁.symm.trans ticking.1)).elim
    · rfl
  current := fun i r found running entry listed => by
    rcases getElem?_append_cases found with old | rfl
    · exact keeps.current i r old running entry listed
    · obtain ⟨_, ⟨_, member, _⟩, _⟩ := listed
      cases member
  agrees := keeps.agrees

theorem Coherent.crash (keeps : Coherent worker c) (index : Nat) :
    Coherent worker (c.apply (.crash index)) := by
  have ascending := System.Config.ascending_apply Follows.refl Follows.trans
    (execute_follows worker.client) keeps.ascending (.crash index)
  rcases c.apply_crash_cases index with same | ⟨r, found, after⟩
  · rw [same]
    exact keeps
  rw [after] at ascending ⊢
  have old : ∀ (i : Nat) (r' : (anchoring worker).Running),
      (c.calls.set index ⟨r.call, r.history, none⟩)[i]? = some r' → r'.InProgress →
        c.calls[i]? = some r' := by
    rintro i r' found' ⟨action, next, rest⟩
    rcases getElem?_set_cases found' with ⟨-, rfl⟩ | ⟨-, old⟩
    · cases rest
    · exact old
  exact ⟨keeps.sound, ascending,
    fun i j r r' found found' ticking ticking' => keeps.alone i j r r' (old i r found ticking.2)
      (old j r' found' ticking'.2) ticking ticking',
    fun i r found running => keeps.current i r (old i r found running) running, keeps.agrees⟩

/-- A call that commits has then ended. -/
theorem ended_of_commit {r : (anchoring worker).Running} {marks : List (Nat × Mark)}
    {next : Reply (.commit marks) → Foundation.Program Action Reply (Except Failure Nat)}
    (disciplined : r.Disciplined (May worker.client) fun _ _ _ => True)
    (rest : r.rest = some (.act (.commit marks) next)) (input : Input) (w : Anchoring) :
    ¬ (r.advance (Action.commit marks) next input w).InProgress := by
  rintro ⟨action, next', rest'⟩
  have obeyed := (disciplined.obeys _ rest).2 input w
  have left : next (execute worker.client (.commit marks) input w).1 = .act action next' :=
    Option.some.inj rest'
  have onward : Foundation.Obeys (execute worker.client) (May worker.client r.call) (fun _ _ => True)
      (⟨.commit marks, input, w⟩ :: r.history) (.act action next') := left ▸ obeyed
  exact onward.1.1 _ List.mem_cons_self marks rfl

section Step

variable {index : Nat} {r : (anchoring worker).Running} {action : Action} {input : Input}
variable {next : Reply action → Foundation.Program Action Reply (Except Failure Nat)}

/-- The rows the marks of a commit are for. -/
theorem marks_rows (keeps : Coherent worker c) (issues : c.Issues index r action next)
    (permitted : May worker.client r.call r.history action) {marks : List (Nat × Mark)}
    (commit : action = .commit marks) :
    ∀ mark ∈ marks, ∃ checkpoint, c.state.checkpoints[mark.1]? = some checkpoint ∧
      checkpoint.anchorStatus = .unanchored ∧ Found worker.client r.history checkpoint mark.2 := by
  subst commit
  intro mark member
  obtain ⟨entry, chosen, found⟩ := permitted.2.2 mark member
  obtain ⟨same, listed⟩ := chosen_lasts (keeps.ascending r issues.mem) chosen
  obtain ⟨present, unanchored⟩ := keeps.current index r issues.1 ⟨_, _, issues.2⟩ entry listed
  rw [← same] at present
  exact ⟨entry.1, present, unanchored, found⟩

theorem agrees_step (keeps : Coherent worker c) (issues : c.Issues index r action next)
    (permitted : May worker.client r.call r.history action) {w' : Anchoring}
    (moves : Moves action c.state w') :
    ∀ row ∈ w'.checkpoints, RowAgrees worker.client w'.contract row := by
  have more := moves.follows.registers
  cases moves with
  | added row fresh =>
      intro row' member
      rcases List.mem_append.mp member with old | new
      · exact keeps.agrees row' old
      · cases List.mem_singleton.mp new
        rw [RowAgrees, fresh]
        trivial
  | committed marks commit =>
      intro row member
      obtain ⟨key, found⟩ := List.mem_iff_getElem?.mp member
      refine (applyMarks_forall (fun key row =>
        (∃ old, c.state.checkpoints[key]? = some old ∧ SameCheckpoint old row) ∧
          RowAgrees worker.client c.state.contract row) (fun key row found => ?_)
        (fun mark made row holds => ?_) key row found).2
      · exact ⟨⟨row, found, rfl, rfl, rfl⟩, keeps.agrees row (List.mem_of_getElem? found)⟩
      · obtain ⟨⟨old, present, same⟩, agrees⟩ := holds
        obtain ⟨checkpoint, present', -, rests⟩ := marks_rows keeps issues permitted commit mark made
        cases present.symm.trans present'
        exact ⟨⟨old, present, same.trans (sameCheckpoint_apply ..)⟩,
          found_agrees keeps.sound (keeps.ascending r issues.mem) rests same agrees⟩
  | _ => exact fun row member => (keeps.agrees row member).extends more

theorem current_step (keeps : Coherent worker c)
    (disciplined : c.Disciplined (May worker.client) fun _ _ _ => True)
    (issues : c.Issues index r action next) {i : Nat} {r' : (anchoring worker).Running}
    (found : (c.calls.set index (r.advance action next input c.state))[i]? = some r')
    (running : r'.InProgress) {entry : AuditCheckpointRecord × Nat}
    (listed : Listed worker.client r'.history entry) :
    (execute worker.client action input c.state).2.checkpoints[entry.2]? = some entry.1 ∧
      entry.1.anchorStatus = .unanchored := by
  have moves := execute_moves worker.client action input c.state
  have active : r.InProgress := ⟨action, next, issues.2⟩
  by_cases fine : Uncommitted action
  · have kept := (moves.rows fine).1
    rcases getElem?_set_cases found with ⟨rfl, rfl⟩ | ⟨-, old⟩
    · obtain ⟨pending, ⟨s, member, answered⟩, present⟩ := listed
      rcases List.mem_cons.mp member with rfl | earlier
      · obtain ⟨same, result⟩ := answered
        subst same
        simp only [execute] at result ⊢
        split at result
        · cases result
        · cases result
          exact mem_listUnanchored present
      · obtain ⟨row, unanchored⟩ := keeps.current i r issues.1 active entry
          ⟨pending, ⟨s, earlier, answered⟩, present⟩
        exact ⟨kept _ _ row, unanchored⟩
    · obtain ⟨row, unanchored⟩ := keeps.current i r' old running entry listed
      exact ⟨kept _ _ row, unanchored⟩
  · -- The one tick that runs has just ended.
    obtain ⟨marks, commit⟩ := not_forall_not.mp fine
    have permitted := disciplined.permits issues
    subst commit
    rcases getElem?_set_cases found with ⟨rfl, rfl⟩ | ⟨other, old⟩
    · exact absurd running
        (ended_of_commit (disciplined r issues.mem) issues.2 input c.state)
    · have lawful := (disciplined r' (List.mem_of_getElem? old)).lawful
      exact absurd (keeps.alone i index r' r old issues.1 ⟨listed_tick lawful listed, running⟩
        ⟨permitted.2.1, active⟩) other

theorem Coherent.step (keeps : Coherent worker c)
    (disciplined : c.Disciplined (May worker.client) fun _ _ _ => True) (input : Input) :
    Coherent worker (c.apply (.step index input)) := by
  have ascending := System.Config.ascending_apply Follows.refl Follows.trans
    (execute_follows worker.client) keeps.ascending (.step index input)
  rcases c.apply_step_cases index input with same | ⟨r, action, next, issues, after⟩
  · rw [same]
    exact keeps
  rw [after] at ascending ⊢
  have moves := execute_moves worker.client action input c.state
  have ticked : ∀ (i : Nat) (r' : (anchoring worker).Running),
      (c.calls.set index (r.advance action next input c.state))[i]? = some r' →
        Ticking worker r' → ∃ r₀, c.calls[i]? = some r₀ ∧ Ticking worker r₀ := by
    intro i r' found ticking
    rcases getElem?_set_cases found with ⟨rfl, rfl⟩ | ⟨-, old⟩
    · exact ⟨r, issues.1, ticking.1, action, next, issues.2⟩
    · exact ⟨r', old, ticking⟩
  refine ⟨keeps.sound.moves moves, ascending, fun i j r₁ r₂ found₁ found₂ ticking₁ ticking₂ => ?_,
    fun i r' found running entry listed => current_step keeps disciplined issues found running listed,
    agrees_step keeps issues (disciplined.permits issues) moves⟩
  obtain ⟨_, old₁, was₁⟩ := ticked i r₁ found₁ ticking₁
  obtain ⟨_, old₂, was₂⟩ := ticked j r₂ found₂ ticking₂
  exact keeps.alone i j _ _ old₁ old₂ was₁ was₂

end Step

theorem Coherent.apply (keeps : Coherent worker c)
    (disciplined : c.Disciplined (May worker.client) fun _ _ _ => True)
    {e : (anchoring worker).Event} (allowed : OneWorker worker c e) :
    Coherent worker (c.apply e) := by
  cases e with
  | start call => exact keeps.start call allowed
  | step index input => exact keeps.step disciplined input
  | crash index => exact keeps.crash index

end Invariant

/-! ## Agreement -/

/-- The outbox agrees with the contract, and the contract with its events. -/
structure Agreement (client : MonadAnchor) (w : Anchoring) : Prop where
  once : (w.contract.events.map CheckpointAnchored.range).Nodup
  emitted : ∀ range root, w.contract.root? range = some root ↔
    ∃ event ∈ w.contract.events, event.range = range ∧ event.merkleRoot = root
  anchored : ∀ row ∈ w.checkpoints, row.anchorStatus = .anchored → ∃ range root,
    About client row range root ∧ root ≠ zeroRoot ∧ (w.contract.getCheckpoint range).merkleRoot = root
  conflict : ∀ row ∈ w.checkpoints, row.anchorStatus = .conflict → ∃ range root,
    About client row range root ∧ (w.contract.getCheckpoint range).merkleRoot ≠ zeroRoot ∧
      (w.contract.getCheckpoint range).merkleRoot ≠ root

/-- Roots that are set stay, and so do rows that are marked. -/
structure Lasts (w w' : Anchoring) : Prop where
  roots : w.contract.registers.Extends w'.contract.registers
  rows : ∀ (key : Nat) row, w.checkpoints[key]? = some row → row.anchorStatus ≠ .unanchored →
    w'.checkpoints[key]? = some row

theorem Lasts.refl (w : Anchoring) : Lasts w w := ⟨.refl _, fun _ _ found _ => found⟩

theorem Lasts.trans {w w' w'' : Anchoring} (one : Lasts w w') (two : Lasts w' w'') : Lasts w w'' :=
  ⟨one.roots.trans two.roots, fun key row found marked =>
    two.rows key row (one.rows key row found marked) marked⟩

section Agreement

variable {worker : Worker} {c : (anchoring worker).Config}

theorem Coherent.agreement (coherent : Coherent worker c) : Agreement worker.client c.state where
  once := by
    have once := coherent.sound.logged.once
    rw [Contract.registers, List.map_map] at once
    exact once
  emitted := fun range root => by
    refine (coherent.sound.logged.logged range root).trans ?_
    simp only [Contract.registers, List.mem_map, Prod.mk.injEq]
  anchored := fun row member status => by
    have agrees := coherent.agrees row member
    rw [RowAgrees, status] at agrees
    obtain ⟨range, root, about, found⟩ := agrees
    obtain ⟨same, set⟩ := Contract.root?_eq_some.mp found
    exact ⟨range, root, about, set, same⟩
  conflict := fun row member status => by
    have agrees := coherent.agrees row member
    rw [RowAgrees, status] at agrees
    obtain ⟨range, root, existing, about, other, found⟩ := agrees
    obtain ⟨rfl, set⟩ := Contract.root?_eq_some.mp found
    exact ⟨range, root, about, set, other⟩

theorem Coherent.lasts (keeps : Coherent worker c)
    (disciplined : c.Disciplined (May worker.client) fun _ _ _ => True)
    (e : (anchoring worker).Event) : Lasts c.state (c.apply e).state := by
  cases e with
  | start call => exact .refl _
  | crash index =>
      rw [(c.journal_crash index).1]
      exact .refl _
  | step index input =>
      rcases c.apply_step_cases index input with same | ⟨r, action, next, issues, after⟩
      · rw [same]
        exact .refl _
      rw [after]
      have moves : Moves action c.state (execute worker.client action input c.state).2 :=
        execute_moves ..
      refine ⟨moves.follows.registers, fun key row found marked => ?_⟩
      change (execute worker.client action input c.state).2.checkpoints[key]? = some row
      generalize (execute worker.client action input c.state).2 = w' at moves
      by_cases fine : Uncommitted action
      · exact (moves.rows fine).1 key row found
      obtain ⟨marks, commit⟩ := not_forall_not.mp fine
      obtain ⟨row', found', -⟩ := moves.follows.checkpoints key row found
      cases moves with
      | committed marks commit =>
          have same := applyMarks_forall (fun key row' => ∀ row, c.state.checkpoints[key]? = some row →
            row.anchorStatus ≠ .unanchored → row' = row)
            (fun key row found row' found' _ => Option.some.inj (found.symm.trans found'))
            (fun mark made row' _ row found marked => by
              obtain ⟨checkpoint, present, unanchored, -⟩ :=
                marks_rows keeps issues (disciplined.permits issues) commit mark made
              cases present.symm.trans found
              exact absurd unanchored marked) key row' found' row found marked
          rw [same] at found'
          exact found'
      | added row fresh =>
          exact (List.getElem?_append_left (List.getElem?_eq_some_iff.mp found).1).trans found
      | _ => exact found

/-- What a call is about to send is for a row that is not marked. -/
theorem Coherent.sends (keeps : Coherent worker c)
    (disciplined : c.Disciplined (May worker.client) fun _ _ _ => True) {index key : Nat}
    {sent : AnchorCall} (next : c.next? index = some (.sendRawTransaction key sent)) :
    ∃ row, c.state.checkpoints[key]? = some row ∧ row.anchorStatus = .unanchored ∧
      About worker.client row sent.range sent.merkleRoot := by
  obtain ⟨r, rest, issues⟩ := System.Config.issues_of_next? next
  obtain ⟨checkpoint, listed, about⟩ := (disciplined.permits issues).2
  obtain ⟨present, unanchored⟩ := keeps.current index r issues.1 ⟨_, _, issues.2⟩ _ listed
  exact ⟨checkpoint, present, unanchored, about⟩

end Agreement

/-- In every run of one worker, whatever the node does and whoever else calls the
contract: the outbox agrees with the chain; roots and marks that are set are never changed; a
row that is marked is never sent again; and what is sent is a root of a row that is not
marked. -/
theorem anchor_agreement (worker : Worker) (owner : Address)
    (events more : List (anchoring worker).Event)
    (oneWorker : Admissible (OneWorker worker) (initial (.fresh owner)) (events ++ more)) :
    let c := (initial (.fresh owner) : (anchoring worker).Config).run events
    let c' := c.run more
    Agreement worker.client c.state ∧
      (∀ range root, c.state.contract.root? range = some root →
        c'.state.contract.root? range = some root) ∧
      (∀ (key : Nat) row, c.state.checkpoints[key]? = some row → row.anchorStatus ≠ .unanchored →
        c'.state.checkpoints[key]? = some row ∧
          ∀ index sent, c'.next? index ≠ some (.sendRawTransaction key sent)) ∧
      ∀ index key sent, c.next? index = some (.sendRawTransaction key sent) →
        ∃ row, c.state.checkpoints[key]? = some row ∧ row.anchorStatus = .unanchored ∧
          About worker.client row sent.range sent.merkleRoot := by
  have kept : ∀ (c : (anchoring worker).Config) e, (c.Disciplined (May worker.client)
      (fun _ _ _ => True) ∧ Coherent worker c) → OneWorker worker c e →
      ((c.apply e).Disciplined (May worker.client) (fun _ _ _ => True) ∧
        Coherent worker (c.apply e)) := fun c e keeps allowed =>
    ⟨keeps.1.apply (code_obeys worker) e, keeps.2.apply keeps.1 allowed⟩
  obtain ⟨first, second⟩ := admissible_append.mp oneWorker
  have here := run_invariant _ kept ⟨System.initial_disciplined _, coherent_initial owner⟩ first
  have there := run_invariant _ kept here second
  have lasts := run_related _ (fun c c' => Lasts c.state c'.state) (fun c => .refl c.state)
    Lasts.trans kept (fun c e keeps _ => keeps.2.lasts keeps.1 e) here second
  refine ⟨here.2.agreement, lasts.roots, fun key row found marked => ?_,
    fun index key sent => here.2.sends here.1⟩
  have still := lasts.rows key row found marked
  refine ⟨still, fun index sent next => ?_⟩
  obtain ⟨row', found', unanchored, -⟩ := there.2.sends there.1 next
  cases still.symm.trans found'
  exact marked unanchored

/-! ## A run -/

namespace Fixture

/-- A digest with the same byte everywhere. -/
def digest (byte : UInt8) : Digest := ⟨List.replicate 32 byte, List.length_replicate⟩

def anchorClient : MonadAnchor where
  chainId := 10143
  contractAddress := "0xA0"
  auditChainId := digest 1
  address := "0xB0"

def anchorWorker : Worker := ⟨anchorClient, 3, id⟩

/-- A node that answers, and errors called by their names. -/
def answering : Input where
  rpc := .answers false
  circuitOpen := none
  errorText := fun
    | .conflictingRoot _ => "ConflictingRoot"
    | _ => ""
  named := fun revert named => by
    cases revert with
    | conflictingRoot existing => exact ⟨existing, rfl⟩
    | _ => exact absurd named (by decide)
  txHash := "c0"
  timestamp := 1767225660
  now := 1767225660000000
  dbError := false

/-- A call that takes its next steps. -/
def steps (index count : Nat) : List (anchoring anchorWorker).Event :=
  List.replicate count (.step index answering)

/-- A checkpoint is written and anchored by a tick, its transaction mined before the tick
looks for the receipt. -/
def firstTick : List (anchoring anchorWorker).Event :=
  [.start (.addCheckpoint 1 64 (Audit.hexPrefixed (digest 2)) none)] ++ steps 0 1 ++
    [.start .anchorTick] ++ steps 1 5 ++ [.start (.mine 0)] ++ steps 2 1 ++ steps 1 4

/-- Its owner anchors another root than the next checkpoint's, which the next tick
finds. -/
def secondTick : List (anchoring anchorWorker).Event :=
  [.start (.anchor ⟨"0xB0", ⟨digest 1, 65, 128⟩, digest 3⟩)] ++ steps 3 1 ++
    [.start (.addCheckpoint 65 128 (Audit.hexPrefixed (digest 4)) none)] ++ steps 4 1 ++
    [.start .anchorTick] ++ steps 5 5

/-- Whether a call is a tick that is running. -/
def ticking (r : (anchoring anchorWorker).Running) : Bool :=
  match r.call, r.rest with
  | .anchorTick, some (.act _ _) => true
  | _, _ => false

def oneWorker (c : (anchoring anchorWorker).Config) : (anchoring anchorWorker).Event → Bool
  | .start .anchorTick => c.calls.all fun r => !ticking r
  | _ => true

theorem oneWorker_sound (c : (anchoring anchorWorker).Config) (e : (anchoring anchorWorker).Event)
    (checked : oneWorker c e = true) : OneWorker anchorWorker c e := by
  cases e with
  | start call =>
      cases call with
      | anchorTick =>
          rintro r member ⟨called, action, next, left⟩
          have still := List.all_eq_true.mp checked r member
          simp only [ticking, called, left, Bool.not_true, Bool.false_eq_true] at still
      | _ => trivial
  | step index input => trivial
  | crash index => trivial

/-- The first checkpoint is anchored and stays as it is; the second one is in conflict. -/
theorem anchored_and_conflict :
    let c := (initial (.fresh "0xB0") : (anchoring anchorWorker).Config).run firstTick
    let c' := c.run secondTick
    c.state.checkpoints.map AuditCheckpointRecord.anchorStatus = [.anchored] ∧
      c'.state.checkpoints.map AuditCheckpointRecord.anchorStatus = [.anchored, .conflict] ∧
      Agreement anchorClient c.state ∧
      ∀ row, c.state.checkpoints[0]? = some row → c'.state.checkpoints[0]? = some row := by
  have agreement := anchor_agreement anchorWorker "0xB0" firstTick secondTick
    (System.admissible_of_checkRun oneWorker_sound (by decide +kernel))
  refine ⟨by decide +kernel, by decide +kernel, agreement.1, fun row found => ?_⟩
  have anchored : ((initial (.fresh "0xB0") : (anchoring anchorWorker).Config).run
      firstTick).state.checkpoints.map AuditCheckpointRecord.anchorStatus = [.anchored] := by
    decide +kernel
  have marked : row.anchorStatus ∈ [AnchorStatus.anchored] := by
    rw [← anchored]
    exact List.mem_map_of_mem (List.mem_of_getElem? found)
  refine (agreement.2.2.1 0 row found ?_).1
  rw [List.mem_singleton.mp marked]
  exact nofun

end Fixture

end Actl.Anchor

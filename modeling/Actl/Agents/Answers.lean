import Actl.Agents.Dispatch
import Actl.Catalog.Paging
import Actl.Runs.Repetition

/-!
# Which messages are answered

With a database and a provider that work, a verified message is answered by a signed
envelope exactly when its content fits what it is put to (`answers_iff`): the cursor of
a query has to be one that is decoded, to a price that fits its column, and the nights
and the total of a quote have to fit theirs. The REST route catches a cursor that is not
decoded, and neither route catches the rest.

A proposal never raises (`handleOrderPropose_returns`).
-/

set_option autoImplicit false

namespace Actl.Agents

open Audit (LoadedValue)
open Foundation (CodeText Table)
open Foundation.Code (Returns returns_pure returns_outcome returns_bind concludes_bind_cases
  concludes_pure)
open Foundation.Program (Concludes concludes_alone)
open Catalog (CatalogItems CatalogQuery FitsBigint FitsInteger Storable decodeCursor listCatalog
  maxUnitPriceMinor)
open Gate (MoneyActionRequest MoneyActionResult)
open Saga (ProposeArgs)

/-! ## Proposals -/

/-- The database works, and ids that are drawn are new. -/
structure Healthy (db : Database) (input : Input) : Prop where
  works : input.dbError = false
  newDecision : ∀ decision ∈ db.decisions, decision.decisionId ≠ input.ids 0
  newQuote : ∀ quote ∈ db.quotes, quote.id ≠ input.ids 0

section Proposals

variable {P : Platform} {allowed : Input → Prop} {w w' : World} {orderId : String}

/-- A transaction that cannot fail is answered by a database that works. -/
theorem transaction_ok {α : Type} {body : Database → Except Failure (α × Database)} {value : α}
    {db : Database} (done : body w.db = .ok (value, db)) :
    w.transaction false body = (.ok value, { w with db }) := by
  rw [World.transaction, if_neg Bool.false_ne_true, done]

theorem releaseReservation_returns (works : ∀ input, allowed input → input.dbError = false)
    (c : Gate.Compensation) : Returns (execute P) allowed (issue (.releaseReservation c)) := by
  intro w result w' ended
  obtain ⟨input, fine, rfl, -⟩ := concludes_issue.mp ended
  obtain ⟨db, done, -⟩ := releaseReservation_ok P c (input.now 0) w.db
  have released : (fun db => (Gate.releaseReservationAndMarkCompensated P c (input.now 0) db).map
      fun db => ((), db)) w.db = .ok ((), db) := congrArg (Except.map fun db => ((), db)) done
  refine ⟨(), ?_⟩
  simp only [execute, World.command, works input fine]
  rw [transaction_ok released]

/-- The gate answers and does not raise. -/
theorem executeMoneyAction_returns (works : ∀ input, allowed input → input.dbError = false)
    (req : MoneyActionRequest) :
    Returns (execute P) allowed (executeMoneyAction P req orderId) := by
  have execution : Returns (execute P) allowed (runG6G7Execute P req orderId) := by
    refine returns_bind (returns_outcome _) fun outcome => ?_
    have released : ∀ reason answer, Returns (execute P) allowed (do
        issue (.releaseReservation (gateCompensation P req reason))
        return answer : Prog MoneyActionResult) := fun reason answer =>
      returns_bind (releaseReservation_returns works _) fun _ => returns_pure _
    split
    next => exact returns_pure _
    next => exact returns_pure _
    next => exact returns_pure _
    next => exact released _ _
    next failure _ _ _ =>
      split
      next => exact released _ _
      next => exact released _ _
  refine returns_bind (returns_outcome _) fun haltState => ?_
  cases haltState with
  | error failure => exact returns_pure _
  | ok haltState =>
      dsimp only
      split
      next => exact returns_pure _
      next =>
        split
        next => exact returns_pure _
        next =>
          refine returns_bind (returns_outcome _) fun passed => ?_
          split
          next => exact returns_pure _
          next => exact returns_pure _
          next => exact execution

/-- A saga that is there stays, whatever the gate does. -/
theorem saga_stays {req : MoneyActionRequest} {key : String}
    {result : Except Failure MoneyActionResult}
    (ended : Concludes (execute P) allowed (executeMoneyAction P req orderId) w result w')
    (there : ∃ saga ∈ w.db.sagas, saga.id = key) : ∃ saga ∈ w'.db.sagas, saga.id = key := by
  have kept : ∀ action, SparesCatalog action → ∀ input (w : World),
      (∃ saga ∈ w.db.sagas, saga.id = key) →
        ∃ saga ∈ (execute P action input w).2.db.sagas, saga.id = key := by
    rintro action - input w ⟨saga, member, named⟩
    obtain ⟨saga', member', becomes⟩ := (execute_sagas P action input w).forward saga member
    exact ⟨saga', member', becomes.same.id.trans named⟩
  exact Concludes.keeps
    (fun w w' : World => (∃ saga ∈ w.db.sagas, saga.id = key) → ∃ saga ∈ w'.db.sagas, saga.id = key)
    (fun _ there => there) (fun _ _ _ first second there => second (first there)) kept
    (confined_executeMoneyAction req orderId) ended there

theorem writeSaga_total {sagaId step : String} {status : SagaStatus} {written : Option String}
    {db : Database} (there : ∃ saga ∈ db.sagas, saga.id = sagaId) :
    ∃ final db', Saga.writeSaga sagaId step status written db = .ok (final, db') := by
  obtain ⟨saga, member, named⟩ := there
  have found : db.getSaga sagaId = some saga := Database.getSaga_eq_some.mpr ⟨member, named⟩
  unfold Saga.writeSaga Database.updateSaga
  rw [found, Foundation.ok_bind]
  split
  next final _ => exact ⟨final, _, rfl⟩
  next missing =>
    have gone := Table.get?_eq_none_iff.mp missing
    refine absurd ?_ (gone { saga with step, status, orderId := written.or saga.orderId } ?_)
    · exact named
    · rw [Table.mem_modify]
      exact ⟨saga, member, by simp [named]⟩

/-- A saga is opened for a purchase that the tables admit. -/
theorem openSaga_total {req : MoneyActionRequest} {key : String} {db : Database}
    (admits : db.AdmitsPurchase req.mandateId req.decisionId req.quoteId req.amountMinor) :
    ∃ existing db', Saga.openSaga req key db = .ok (existing, db') ∧
      ∃ saga ∈ db'.sagas, saga.id = key := by
  unfold Saga.openSaga
  cases found : db.getSaga key with
  | some existing => exact ⟨_, db, rfl, existing, Database.getSaga_eq_some.mp found⟩
  | none =>
      have missing := Table.get?_eq_none_iff.mp found
      dsimp only
      rw [Database.addSaga, if_pos admits]
      cases inserted : db.sagas.insert? _ with
      | some sagas =>
          refine ⟨none, _, rfl, _, (Table.mem_of_insert? inserted).mpr (.inr rfl), rfl⟩
      | none =>
          obtain ⟨col, unique, listed⟩ := Table.insert?_eq_none_iff.mp inserted
          obtain ⟨saga, stored, same⟩ := List.mem_map.mp listed
          rw [List.mem_singleton.mp unique] at same
          exact absurd same (missing saga stored)

/-- The purchase of a proposal that was allowed is one that the tables admit. -/
theorem admits_of_allowed {args : ProposeArgs} {decisionId : String} {now : Nat → Time}
    {db db' : Database} {req : MoneyActionRequest}
    (totals : ∀ quote ∈ db.quotes, 0 < quote.totalMinor)
    (done : Saga.proposeOrder P args decisionId now db = .ok (.allowed req, db')) :
    db'.AdmitsPurchase req.mandateId req.decisionId req.quoteId req.amountMinor := by
  obtain ⟨row, quote, item, allowed, rfl⟩ := proposeOrder_allowed done
  have mandate := Table.get?_mem allowed.foundMandate
  have quoted := Table.get?_mem allowed.foundQuote
  unfold Saga.proposeOrder at done
  rw [allowed.toDerived.deriveIntent_eq] at done
  dsimp only at done
  split at done
  next => cases done
  next decisions inserted =>
    split at done
    next =>
      simp only [Except.ok.injEq, Prod.mk.injEq] at done
      obtain ⟨-, rfl⟩ := done
      refine ⟨⟨row, mandate.1, rfl⟩, ⟨_, (Table.mem_of_insert? inserted).mpr (.inr rfl), rfl⟩,
        ⟨quote, quoted.1, quoted.2⟩, totals quote quoted.1⟩
    next => cases done

/-- A purchase that the tables admit is begun. -/
theorem beginPurchase_returns (works : ∀ input, allowed input → input.dbError = false)
    {req : MoneyActionRequest}
    (admits : w.db.AdmitsPurchase req.mandateId req.decisionId req.quoteId req.amountMinor)
    {result : Except Failure Saga.SagaSnapshot}
    (ended : Concludes (execute P) allowed (beginPurchase P req orderId) w result w') :
    ∃ snapshot, result = .ok snapshot := by
  obtain ⟨existing, db, opened, there⟩ := @openSaga_total req (req.key P) _ admits
  have opens : ∀ input, allowed input →
      execute P (.openSaga req (req.key P)) input w = (.ok existing, { w with db }) := by
    intro input fine
    simp only [execute, works input fine]
    exact transaction_ok opened
  rcases concludes_bind_cases ended with ⟨failure, raised, -⟩ | ⟨found, w₁, opening, later⟩
  · obtain ⟨input, fine, same, -⟩ := concludes_issue.mp raised
    rw [opens input fine] at same
    cases same
  · obtain ⟨input, fine, same, rfl⟩ := concludes_issue.mp opening
    rw [opens input fine] at same later
    cases same
    cases existing with
    | some existing => exact ⟨_, (concludes_pure.mp later).1⟩
    | none =>
        rcases concludes_bind_cases later with ⟨failure, raised, -⟩ | ⟨answer, w₂, run, later⟩
        · obtain ⟨answer, clash⟩ := executeMoneyAction_returns works req _ _ _ raised
          cases clash
        · have stays := saga_stays run there
          rcases concludes_bind_cases later with ⟨failure, raised, -⟩ | ⟨final, w₃, -, later⟩
          · obtain ⟨input, fine, same, -⟩ := concludes_issue.mp raised
            obtain ⟨final, db', resolved⟩ : ∃ final db',
                Saga.resolveSaga (req.key P) answer w₂.db = .ok (final, db') := by
              unfold Saga.resolveSaga
              split
              next => exact writeSaga_total stays
              next => exact writeSaga_total stays
            simp only [execute, works input fine, transaction_ok resolved] at same
            cases same
          · exact ⟨_, (concludes_pure.mp later).1⟩

/-- With a database that works a proposal is answered. -/
theorem handleOrderPropose_returns {args : ProposeArgs}
    (totals : ∀ quote ∈ w.db.quotes, 0 < quote.totalMinor) {result : Except Failure HandlerResult}
    (ended : Concludes (execute P) (Healthy w.db) (handleOrderPropose P args orderId) w result w') :
    ∃ answer, result = .ok answer := by
  have works : ∀ input, Healthy w.db input → input.dbError = false := fun input fine => fine.works
  have proposes : ∀ input, Healthy w.db input → ∃ proposal db,
      Saga.proposeOrder P args (input.ids 0) (input.now 0) w.db = .ok (proposal, db) ∧
        execute P (.proposeOrder args) input w = (.ok proposal, { w with db }) := by
    intro input fine
    obtain ⟨proposal, db, done⟩ :=
      @proposeOrder_total P args (input.ids 0) (input.now 0) w.db fine.newDecision
    refine ⟨proposal, db, done, ?_⟩
    simp only [execute, fine.works]
    exact transaction_ok done
  rcases concludes_bind_cases ended with ⟨failure, raised, -⟩ | ⟨proposal, w₁, proposed, later⟩
  · obtain ⟨input, fine, same, -⟩ := concludes_issue.mp raised
    obtain ⟨proposal, db, -, executed⟩ := proposes input fine
    rw [executed] at same
    cases same
  · obtain ⟨input, fine, same, rfl⟩ := concludes_issue.mp proposed
    obtain ⟨proposal', db, done, executed⟩ := proposes input fine
    rw [executed] at same later
    cases same
    cases proposal with
    | rejected code => exact ⟨_, (concludes_pure.mp later).1⟩
    | allowed req =>
        rcases concludes_bind_cases later with
          ⟨failure, raised, -⟩ | ⟨snapshot, w₂, -, answered⟩
        · obtain ⟨snapshot, clash⟩ :=
            beginPurchase_returns works (admits_of_allowed totals done) raised
          cases clash
        · split at answered
          next => exact ⟨_, (concludes_pure.mp answered).1⟩
          next => exact ⟨_, (concludes_pure.mp answered).1⟩

end Proposals

/-! ## Texts -/

/-- A text made of characters of another has no NUL when that has none. -/
theorem NulFree.of_subset {text text' : String} (free : NulFree text)
    (subset : ∀ c ∈ text'.toList, c ∈ text.toList) : NulFree text' :=
  fun nul => free (subset _ nul)

theorem nulFree_strip {text : String} (free : NulFree text) : NulFree (strip text) := by
  refine free.of_subset fun c member => ?_
  rw [strip, String.toList_ofList, List.mem_reverse] at member
  have kept := (List.dropWhile_sublist isSpace).subset member
  rw [List.mem_reverse] at kept
  exact (List.dropWhile_sublist isSpace).subset kept

theorem nulFree_beforeComma {text : String} (free : NulFree text) : NulFree (beforeComma text) := by
  refine free.of_subset fun c member => ?_
  rw [beforeComma, String.toList_ofList] at member
  exact (List.takeWhile_sublist _).subset member

theorem nulFree_afterComma {text : String} (free : NulFree text) : NulFree (afterComma text) := by
  refine free.of_subset fun c member => ?_
  rw [afterComma, String.toList_ofList] at member
  exact (List.dropWhile_sublist _).subset (List.mem_of_mem_drop member)

theorem mem_orNone {text text' : String} (member : text' ∈ orNone text) : text' = text := by
  rw [orNone] at member
  split at member
  next => cases member
  next => exact (Option.some.inj member).symm

theorem nulFree_splitLocation {location : Option String}
    (free : ∀ location' ∈ location, NulFree location') :
    (∀ city ∈ (splitLocation location).1, NulFree city) ∧
      ∀ country ∈ (splitLocation location).2, NulFree country := by
  cases location with
  | none => exact ⟨by simp [splitLocation], by simp [splitLocation]⟩
  | some text =>
      have whole := free text rfl
      simp only [splitLocation]
      refine ⟨fun city member => ?_, fun country member => ?_⟩
      · rw [mem_orNone member]
        exact nulFree_strip (nulFree_beforeComma whole)
      · rw [mem_orNone member]
        exact nulFree_strip (nulFree_afterComma whole)

theorem nulFree_parseLocation {location : Option String}
    (free : ∀ location' ∈ location, NulFree location') :
    (∀ city ∈ (parseLocation location).1, NulFree city) ∧
      ∀ country ∈ (parseLocation location).2, NulFree country := by
  cases location with
  | none => exact ⟨by simp [parseLocation], by simp [parseLocation]⟩
  | some text =>
      have whole := free text rfl
      simp only [parseLocation]
      refine ⟨fun city member => ?_, fun country member => ?_⟩
      · rw [mem_orNone member]
        exact nulFree_beforeComma whole
      · rw [mem_orNone member]
        exact nulFree_afterComma whole

theorem bindTexts_of_nulFree {α : Type} {texts : List String} {body : Except Failure α}
    (free : ∀ text ∈ texts, NulFree text) : bindTexts texts body = body := if_pos free

/-! ## Queries -/

/-- A cursor that is decoded to a price that fits its column; an empty one is none. -/
def DecodesFit (cursor : Option String) : Prop :=
  ∀ text ∈ cursor, text ≠ "" → ∃ price sku, decodeCursor text = .ok (price, sku) ∧ FitsBigint price

/-- A cursor that is not decoded to a price that its column cannot have. -/
def NoOverflow (cursor : Option String) : Prop :=
  ∀ text ∈ cursor, text ≠ "" → ∀ price sku, decodeCursor text = .ok (price, sku) → FitsBigint price

theorem decodeCursor_error {cursor : String} {failure : Failure}
    (failed : decodeCursor cursor = .error failure) : failure = .valueError := by
  unfold decodeCursor at failed
  dsimp only at failed
  split at failed
  next =>
    cases failed
    rfl
  next =>
    split at failed
    next =>
      cases failed
      rfl
    next => cases failed

section Queries

variable {M : MerchantPlatform} {body : CatalogQueryBody} {location : Option String × Option String}
variable {actorId traceId : String} {now : Time} {items : CatalogItems} {db : Database}

/-- The texts of a query are free of NUL. -/
theorem texts_nulFree (actor : NulFree actorId)
    (places : (∀ city ∈ location.1, NulFree city) ∧ ∀ country ∈ location.2, NulFree country) :
    ∀ text ∈ (body.query location).category.toList ++ (body.query location).locationCity.toList ++
      (body.query location).locationCountry.toList ++ (body.query location).cursor.toList ++
        [actorId], NulFree text := by
  intro text member
  simp only [List.mem_append, Option.mem_toList, List.mem_singleton] at member
  rcases member with (((category | city) | country) | cursor) | rfl
  · exact body.categoryNulFree text category
  · exact places.1 text city
  · exact places.2 text country
  · exact body.cursorNulFree text cursor
  · exact actor

/-- What listing comes to: a cursor that is not decoded, one that overflows, or a feed. -/
theorem listBound_cases (actor : NulFree actorId)
    (places : (∀ city ∈ location.1, NulFree city) ∧ ∀ country ∈ location.2, NulFree country) :
    (∃ text ∈ body.cursor, text ≠ "" ∧ decodeCursor text = .error .valueError ∧
        listBound M (body.query location) actorId traceId now items db = .error .valueError) ∨
      (∃ text ∈ body.cursor, text ≠ "" ∧ (∃ price sku, decodeCursor text = .ok (price, sku) ∧
          ¬ FitsBigint price) ∧
        listBound M (body.query location) actorId traceId now items db = .error .dbapiError) ∨
      (DecodesFit body.cursor ∧
        ∃ feed db', listBound M (body.query location) actorId traceId now items db
          = .ok (feed, db')) := by
  have fits : (body.query location).Fits := by
    refine ⟨fun maximum member => ?_, ?_⟩
    · obtain ⟨low, high⟩ := body.maximumInRange maximum member
      exact ⟨le_trans (by decide) low.le, high⟩
    · obtain ⟨low, high⟩ := body.limitInRange
      have range : (body.query location).limit = body.limit := rfl
      constructor
      · rw [maxUnitPriceMinor]
        omega
      · rw [maxUnitPriceMinor]
        omega
  rw [listBound, bindTexts_of_nulFree (texts_nulFree actor places)]
  have answered : ∀ edge, (body.query location).decodedCursor = .ok edge →
      (∀ place ∈ edge, FitsBigint place.1) →
      ∃ feed db', listCatalog M.toPlatform M.collation (body.query location) actorId traceId now
        items db = .ok (feed, db') := fun edge decoded bigint =>
    @Catalog.answer_of_decoded _ _ _ fits body.cursor edge decoded bigint
      ⟨actorId, traceId, now, items, db⟩
  have cursor : (body.query location).cursor = body.cursor := rfl
  cases given : body.cursor with
  | none =>
      refine .inr (.inr ⟨by simp [DecodesFit], answered none ?_ (by simp)⟩)
      rw [CatalogQuery.decodedCursor, cursor, given]
  | some text =>
      by_cases empty : text = ""
      · refine .inr (.inr ⟨?_, answered none ?_ (by simp)⟩)
        · rintro _ ⟨⟩ visible
          exact absurd empty visible
        · rw [CatalogQuery.decodedCursor, cursor, given]
          exact if_pos empty
      · have decoding : (body.query location).decodedCursor = (decodeCursor text).map some := by
          rw [CatalogQuery.decodedCursor, cursor, given]
          exact if_neg empty
        cases read : decodeCursor text with
        | error failure =>
            obtain rfl := decodeCursor_error read
            refine .inl ⟨text, rfl, empty, read, ?_⟩
            rw [listCatalog, decoding, read]
            rfl
        | ok edge =>
            obtain ⟨price, sku⟩ := edge
            by_cases bigint : FitsBigint price
            · refine .inr (.inr ⟨?_, answered (some (price, sku)) ?_ ?_⟩)
              · rintro _ ⟨⟩ -
                exact ⟨price, sku, read, bigint⟩
              · rw [decoding, read]
                rfl
              · rintro _ ⟨⟩
                exact bigint
            · refine .inr (.inl ⟨text, rfl, empty, ⟨price, sku, read, bigint⟩, ?_⟩)
              rw [listCatalog, decoding, read]
              have refused : Catalog.listItems M.collation (body.query location) (some (price, sku))
                  ((body.query location).limit + 1) items = .error .dbapiError :=
                if_neg fun all => bigint (all.2.1 _ rfl)
              rw [Except.map, Foundation.ok_bind, refused]
              rfl

end Queries

/-! ## Quotes -/

/-- The nights and the total of the quote that is asked for fit their columns, if it
comes to a quote. -/
def QuoteFits (db : Database) (body : QuoteRequestBody) : Prop :=
  (db.getMandate body.mandateId.text).isSome → ∀ item,
    db.items.get? CatalogItemRecord.sku body.sku.text = some item → 0 < item.availableUnits →
      FitsInteger body.nights ∧ FitsBigint (item.unitPriceMinor * body.nights)

/-- The failures of `create_quote` that have an answer of their own. -/
def Typed : Failure → Prop
  | .mandateNotFound _ | .skuNotFound _ | .skuUnavailable _ => True
  | _ => False

/-- The constraints of the tables: totals of quotes are positive, and the items of the
catalog are the rows that are listed. -/
structure Valid (items : CatalogItems) (db : Database) : Prop where
  totals : ∀ quote ∈ db.quotes, 0 < quote.totalMinor
  listed : ∀ item ∈ db.items, ∃ row ∈ items.table, row.toCatalogItemRecord = item

theorem Valid.price {items : CatalogItems} {db : Database} (valid : Valid items db)
    {item : CatalogItemRecord} (member : item ∈ db.items) :
    0 < item.unitPriceMinor ∧ FitsBigint item.unitPriceMinor := by
  obtain ⟨row, here, rfl⟩ := valid.listed item member
  exact ⟨items.positive row here, Catalog.fitsBigint_price here⟩

section Quotes

variable {M : MerchantPlatform} {body : QuoteRequestBody} {actorId traceId quoteId : String}
variable {now : Time} {items : CatalogItems} {db : Database}

/-- What quoting comes to: an overflow, a typed failure, or a quote. -/
theorem quoteBound_cases (valid : Valid items db) (actor : NulFree actorId)
    (fresh : ∀ quote ∈ db.quotes, quote.id ≠ quoteId) :
    (¬ QuoteFits db body ∧
        quoteBound M (body.args actorId traceId) quoteId now db = .error .dbapiError) ∨
      (QuoteFits db body ∧
        ((∃ failure, Typed failure ∧
            quoteBound M (body.args actorId traceId) quoteId now db = .error failure) ∨
          ∃ quote db', quoteBound M (body.args actorId traceId) quoteId now db
            = .ok (quote, db'))) := by
  have free : ∀ text ∈ [(body.args actorId traceId).mandateId, (body.args actorId traceId).sku,
      (body.args actorId traceId).actorId], NulFree text := by
    intro text member
    rcases List.mem_cons.mp member with rfl | member
    · exact body.mandateId.nulFree
    · rcases List.mem_pair.mp member with rfl | rfl
      · exact body.sku.nulFree
      · exact actor
  rw [quoteBound, bindTexts_of_nulFree free, Catalog.createQuote]
  cases mandate : db.getMandate body.mandateId.text with
  | none =>
      refine .inr ⟨fun some => ?_, .inl ⟨.mandateNotFound body.mandateId.text, trivial, ?_⟩⟩
      · rw [mandate] at some
        cases some
      · rw [show (body.args actorId traceId).mandateId = body.mandateId.text from rfl, mandate]
  | some row =>
      rw [show (body.args actorId traceId).mandateId = body.mandateId.text from rfl, mandate]
      dsimp only
      cases found : db.items.get? CatalogItemRecord.sku body.sku.text with
      | none =>
          refine .inr ⟨fun _ item some => ?_, .inl ⟨.skuNotFound body.sku.text, trivial, ?_⟩⟩
          · rw [found] at some
            cases some
          · rw [show (body.args actorId traceId).sku = body.sku.text from rfl, found]
      | some item =>
          rw [show (body.args actorId traceId).sku = body.sku.text from rfl, found]
          dsimp only
          by_cases available : item.availableUnits ≤ 0
          · rw [if_pos available]
            refine .inr ⟨fun _ item' some' more => ?_,
              .inl ⟨.skuUnavailable body.sku.text, trivial, rfl⟩⟩
            obtain rfl := Option.some.inj (found.symm.trans some')
            omega
          · rw [if_neg available]
            obtain ⟨priced, bigint⟩ := valid.price (Table.get?_mem found).1
            have positive := body.positive
            have storable : Storable (Catalog.draftQuote M.toPlatform (body.args actorId traceId)
                item db.catalogVersion quoteId now)
                ↔ FitsInteger body.nights ∧ FitsBigint (item.unitPriceMinor * body.nights) :=
              ⟨fun stored => ⟨stored.nights, stored.total⟩, fun fits =>
                ⟨priced, Int.mul_pos priced positive, bigint, fits.1, fits.2⟩⟩
            by_cases fits : FitsInteger body.nights ∧
                FitsBigint (item.unitPriceMinor * body.nights)
            · refine .inr ⟨fun _ item' some' _ => ?_, .inr ?_⟩
              · obtain rfl := Option.some.inj (found.symm.trans some')
                exact fits
              · rw [Catalog.addQuote, if_pos (storable.mpr fits)]
                cases inserted : db.quotes.insert? _ with
                | some quotes => exact ⟨_, _, rfl⟩
                | none =>
                    obtain ⟨col, unique, listed⟩ := Table.insert?_eq_none_iff.mp inserted
                    obtain ⟨quote, stored, same⟩ := List.mem_map.mp listed
                    rw [List.mem_singleton.mp unique] at same
                    exact absurd same (fresh quote stored)
            · refine .inl ⟨fun quoteFits => fits ?_, ?_⟩
              · exact quoteFits (by rw [mandate]; rfl) item found (by omega)
              · rw [Catalog.addQuote, if_neg fun stored => fits (storable.mp stored)]
                rfl

end Quotes

/-! ## Answers -/

/-- The response is signed with the merchant's key and addressed to the sender. -/
structure SignedAnswer (M : MerchantPlatform) (request response : AgentEnvelope) : Prop where
  sender : response.from_ = M.merchantAgentId
  recipient : response.to_ = request.from_
  correlation : response.corrId = request.corrId
  signature : ∃ signingBytes, canonicalSigningBytes M.toAgentPlatform response = .ok signingBytes ∧
    response.sig = some ⟨"Ed25519", M.merchantKeyId, hex (M.merchantSign signingBytes)⟩

/-- A response is built around a value with a canonical text, so it is signed. -/
theorem signedAnswer_buildResponseEnvelope (M : MerchantPlatform) (request : AgentEnvelope)
    (outcome : HandlerOutcome) (msgId : String) (now : Time) :
    ∃ response, buildResponseEnvelope M request outcome msgId now = .ok response ∧
      SignedAnswer M request response := by
  cases outcome with
  | result type body =>
      exact ⟨_, signEnvelopeEd25519_ofJson rfl _ _, rfl, rfl, rfl, _,
        canonicalSigningBytes_ofJson rfl, rfl⟩
  | error code message retryable =>
      exact ⟨_, signEnvelopeEd25519_ofJson rfl _ _, rfl, rfl, rfl, _,
        canonicalSigningBytes_ofJson rfl, rfl⟩

/-- What the schema of envelopes asks of the texts that go to the database. -/
structure Admitted (request : AgentEnvelope) : Prop where
  sender : NulFree request.from_
  correlation : NulFree request.corrId

/-- The content of a message fits what it is put to. -/
structure Answerable (M : MerchantPlatform) (db : Database) (request : AgentEnvelope) : Prop where
  query : ∀ body, request.type = .catalogQuery → M.catalogQueryBody request.body = some body →
    DecodesFit body.cursor
  quote : ∀ body, request.type = .quoteRequest → M.quoteRequestBody request.body = some body →
    QuoteFits db body

section Answers

variable {M : MerchantPlatform} {request : AgentEnvelope} {drawn : Drawn} {items : CatalogItems}
variable {inputs : Nat → Input} {w : World}

/-- A handler answered, or the exception that went through it. -/
def Answered (result : Except Failure HandlerOutcome × World) : Prop :=
  ∃ outcome, result.1 = .ok outcome

theorem handleCatalogQuery_iff {body : CatalogQueryBody} {actorId traceId : String} {input : Input}
    (works : input.dbError = false) (actor : NulFree actorId) :
    Answered (handleCatalogQuery M (body.query (splitLocation body.location)) actorId traceId items
      input w) ↔ DecodesFit body.cursor := by
  have places := nulFree_splitLocation body.locationNulFree
  rw [handleCatalogQuery, works, World.transaction, if_neg Bool.false_ne_true]
  rcases @listBound_cases M body _ actorId traceId (input.now 0 0) items w.db actor places with
    ⟨text, given, visible, failed, done⟩ | ⟨text, given, visible, ⟨price, sku, read, large⟩, done⟩ |
    ⟨fits, feed, db, done⟩
  · rw [done]
    refine iff_of_false (by rintro ⟨outcome, clash⟩; cases clash) fun fits => ?_
    obtain ⟨price, sku, read, -⟩ := fits text given visible
    cases failed.symm.trans read
  · rw [done]
    refine iff_of_false (by rintro ⟨outcome, clash⟩; cases clash) fun fits => ?_
    obtain ⟨price', sku', read', bigint⟩ := fits text given visible
    cases read.symm.trans read'
    exact large bigint
  · rw [done]
    exact iff_of_true ⟨_, rfl⟩ fits

theorem handleQuoteRequest_iff (valid : Valid items w.db) {body : QuoteRequestBody}
    {actorId traceId : String} {input : Input} (healthy : Healthy w.db input)
    (actor : NulFree actorId) :
    Answered (handleQuoteRequest M (body.args actorId traceId) input w)
      ↔ QuoteFits w.db body := by
  rw [handleQuoteRequest, healthy.works, World.transaction, if_neg Bool.false_ne_true]
  rcases @quoteBound_cases M body actorId traceId (input.ids 0) (input.now 0 0) items w.db valid
    actor healthy.newQuote with ⟨large, done⟩ | ⟨fits, ⟨failure, typed, done⟩ | ⟨quote, db, done⟩⟩
  · rw [done]
    exact iff_of_false (by rintro ⟨outcome, clash⟩; cases clash) large
  · rw [done]
    refine iff_of_true ?_ fits
    cases failure with
    | mandateNotFound mandateId => exact ⟨_, rfl⟩
    | skuNotFound sku => exact ⟨_, rfl⟩
    | skuUnavailable sku => exact ⟨_, rfl⟩
    | _ => exact absurd typed id
  · rw [done]
    exact iff_of_true ⟨_, rfl⟩ fits

theorem answerProposal_answered (totals : ∀ quote ∈ w.db.quotes, 0 < quote.totalMinor)
    (healthy : ∀ i, Healthy w.db (inputs i)) {args : ProposeArgs} {orderId : String}
    (free : ∀ text ∈ [args.mandateId, args.quoteId, args.traceId, args.actorId], NulFree text) :
    Answered (answerProposal M args orderId inputs w) := by
  have ended : Concludes (execute M.toPlatform) (Healthy w.db)
      (handleOrderPropose M.toPlatform args orderId) w _ _ :=
    concludes_alone (handleOrderPropose M.toPlatform args orderId) healthy w
  obtain ⟨answer, same⟩ := handleOrderPropose_returns totals ended
  rw [answerProposal, if_pos free]
  dsimp only
  rw [same]
  exact ⟨_, rfl⟩

theorem readOrder_answers {orderId : String} {input : Input} (works : input.dbError = false)
    (free : NulFree orderId) :
    (readOrder orderId input w).1 = .ok ((w.db.getOrder orderId).map fun order =>
      (order, seqRangeForOrder w.db.auditLog orderId)) := by
  have alone : ∀ text ∈ [orderId], NulFree text := by
    intro text member
    rw [List.mem_singleton.mp member]
    exact free
  rw [readOrder, World.query, World.transaction, works, if_neg Bool.false_ne_true,
    bindTexts_of_nulFree alone]
  rfl

/-- A message is dispatched to an outcome exactly when its content fits. -/
theorem dispatch_iff (admitted : Admitted request) (valid : Valid items w.db)
    (healthy : ∀ i, Healthy w.db (inputs i)) :
    Answered (dispatch M request drawn items inputs w) ↔ Answerable M w.db request := by
  have unasked : request.type ≠ .catalogQuery → request.type ≠ .quoteRequest →
      Answerable M w.db request := fun noQuery noQuote =>
    ⟨fun _ query => absurd query noQuery, fun _ quote => absurd quote noQuote⟩
  unfold dispatch
  cases type : request.type with
  | capabilityDiscover =>
      refine iff_of_true ?_ (unasked (by simp [type]) (by simp [type]))
      cases M.capabilityDiscoverBody request.body with
      | none => exact ⟨_, rfl⟩
      | some body => exact ⟨_, rfl⟩
  | catalogQuery =>
      dsimp only
      cases read : M.catalogQueryBody request.body with
      | none =>
          refine iff_of_true ⟨_, rfl⟩ ⟨fun body _ here => ?_, fun body quote => ?_⟩
          · cases read.symm.trans here
          · cases type.symm.trans quote
      | some body =>
          refine (handleCatalogQuery_iff (healthy 0).works admitted.sender).trans ?_
          refine ⟨fun fits => ⟨fun body' _ here => ?_, fun body' quote => ?_⟩, fun fits =>
            fits.query body type read⟩
          · cases read.symm.trans here
            exact fits
          · cases type.symm.trans quote
  | quoteRequest =>
      dsimp only
      cases read : M.quoteRequestBody request.body with
      | none =>
          refine iff_of_true ⟨_, rfl⟩ ⟨fun body query => ?_, fun body _ here => ?_⟩
          · cases type.symm.trans query
          · cases read.symm.trans here
      | some body =>
          refine (handleQuoteRequest_iff valid (healthy 0) admitted.sender).trans ?_
          refine ⟨fun fits => ⟨fun body' query => ?_, fun body' _ here => ?_⟩, fun fits =>
            fits.quote body type read⟩
          · cases type.symm.trans query
          · cases read.symm.trans here
            exact fits
  | orderPropose =>
      refine iff_of_true ?_ (unasked (by simp [type]) (by simp [type]))
      dsimp only
      cases M.orderProposeBody request.body with
      | none => exact ⟨_, rfl⟩
      | some body =>
          refine answerProposal_answered valid.totals healthy fun text member => ?_
          simp only [List.mem_cons, List.not_mem_nil, or_false] at member
          rcases member with rfl | rfl | rfl | rfl
          · exact body.mandateId.nulFree
          · exact body.quoteId.nulFree
          · exact admitted.correlation
          · exact admitted.sender
  | orderStatus =>
      refine iff_of_true ?_ (unasked (by simp [type]) (by simp [type]))
      dsimp only
      cases M.orderStatusBody request.body with
      | none => exact ⟨_, rfl⟩
      | some body =>
          exact ⟨_, congrArg (Except.map _)
            (readOrder_answers (healthy 0).works body.orderId.nulFree)⟩
  | receiptIssue =>
      refine iff_of_true ?_ (unasked (by simp [type]) (by simp [type]))
      dsimp only
      cases M.receiptIssueBody request.body with
      | none => exact ⟨_, rfl⟩
      | some body =>
          exact ⟨_, congrArg (Except.map _)
            (readOrder_answers (healthy 0).works body.orderId.nulFree)⟩
  | error => exact iff_of_true ⟨_, rfl⟩ (unasked (by simp [type]) (by simp [type]))

/-- The REST query is answered exactly when its cursor does not overflow, or the client
has the page already. -/
theorem getCatalog_iff {body : CatalogQueryBody} {ifNoneMatch : Option String}
    {actorId traceId : String} {input : Input} (works : input.dbError = false)
    (actor : NulFree actorId) :
    (∃ response, (getCatalog M body ifNoneMatch actorId traceId items input w).1 = .ok response) ↔
      isNotModified ifNoneMatch (computeEtag M w.db.catalogVersion
        (body.query (parseLocation body.location))) = true ∨ NoOverflow body.cursor := by
  have places := nulFree_parseLocation body.locationNulFree
  unfold getCatalog
  dsimp only
  split
  next same => exact iff_of_true ⟨_, rfl⟩ (.inl same)
  next changed =>
    rw [or_iff_right changed, works, World.transaction, if_neg Bool.false_ne_true]
    rcases @listBound_cases M body _ actorId traceId (input.now 0 0) items w.db actor places with
      ⟨text, given, visible, failed, done⟩ |
      ⟨text, given, visible, ⟨price, sku, read, large⟩, done⟩ | ⟨fits, feed, db, done⟩
    · rw [done]
      refine iff_of_true ⟨_, rfl⟩ fun text' given' _ price sku read => ?_
      obtain rfl := Option.some.inj (given.symm.trans given')
      cases failed.symm.trans read
    · rw [done]
      refine iff_of_false (by rintro ⟨response, clash⟩; cases clash) fun fits => ?_
      exact large (fits text given visible price sku read)
    · rw [done]
      refine iff_of_true ⟨_, rfl⟩ fun text given visible price sku read => ?_
      obtain ⟨price', sku', read', bigint⟩ := fits text given visible
      cases read.symm.trans read'
      exact bigint

/-- The REST quote is answered exactly when it fits its columns. -/
theorem postQuote_iff (valid : Valid items w.db) {body : QuoteRequestBody}
    {actorId traceId : String} {input : Input} (healthy : Healthy w.db input)
    (actor : NulFree actorId) :
    (∃ response, (postQuote M body actorId traceId input w).1 = .ok response)
      ↔ QuoteFits w.db body := by
  rw [postQuote, healthy.works, World.transaction, if_neg Bool.false_ne_true]
  rcases @quoteBound_cases M body actorId traceId (input.ids 0) (input.now 0 0) items w.db valid
    actor healthy.newQuote with ⟨large, done⟩ | ⟨fits, ⟨failure, typed, done⟩ | ⟨quote, db, done⟩⟩
  · rw [done]
    exact iff_of_false (by rintro ⟨outcome, clash⟩; cases clash) large
  · rw [done]
    refine iff_of_true ?_ fits
    cases failure with
    | mandateNotFound mandateId => exact ⟨_, rfl⟩
    | skuNotFound sku => exact ⟨_, rfl⟩
    | skuUnavailable sku => exact ⟨_, rfl⟩
    | _ => exact absurd typed id
  · rw [done]
    exact iff_of_true ⟨_, rfl⟩ fits

/-- With a database that works and ids that are new, a verified message gets a signed
answer exactly when its content fits; the REST routes answer exactly when the cursor
does not overflow and the quote fits. -/
theorem answers_iff (admitted : Admitted request) (valid : Valid items w.db)
    (healthy : ∀ i, Healthy w.db (inputs i)) (msgId : String) (now : Time) :
    ((∃ response, (answerMessage M request drawn items inputs msgId now w).1 = .ok response ∧
        SignedAnswer M request response) ↔ Answerable M w.db request) ∧
    (∀ body ifNoneMatch actorId traceId, NulFree actorId →
      ((∃ response, (getCatalog M body ifNoneMatch actorId traceId items (inputs 0) w).1
          = .ok response) ↔
        isNotModified ifNoneMatch (computeEtag M w.db.catalogVersion
          (body.query (parseLocation body.location))) = true ∨ NoOverflow body.cursor)) ∧
    ∀ body actorId traceId, NulFree actorId →
      ((∃ response, (postQuote M body actorId traceId (inputs 0) w).1 = .ok response)
        ↔ QuoteFits w.db body) := by
  refine ⟨?_, fun body ifNoneMatch actorId traceId => getCatalog_iff (healthy 0).works,
    fun body actorId traceId => postQuote_iff valid (healthy 0)⟩
  rw [← @dispatch_iff M request drawn items inputs w admitted valid healthy, answerMessage]
  by_cases type : request.type = .error
  · rw [if_pos type]
    refine iff_of_true ?_ ?_
    · dsimp only
      rw [Except.bind]
      exact signedAnswer_buildResponseEnvelope M request _ msgId now
    · rw [dispatch, type]
      exact ⟨_, rfl⟩
  · rw [if_neg type]
    constructor
    · rintro ⟨response, answered, -⟩
      cases dispatched : (dispatch M request drawn items inputs w).1 with
      | ok outcome => exact ⟨outcome, dispatched⟩
      | error failure =>
          dsimp only at answered
          rw [dispatched] at answered
          cases answered
    · rintro ⟨outcome, dispatched⟩
      dsimp only
      rw [dispatched, Except.bind]
      exact signedAnswer_buildResponseEnvelope M request outcome msgId now

end Answers

namespace Fixture

/-- A text of a body under a key, as the schemas take it. -/
def key? (body : LoadedValue) (name : String) : Option Key :=
  match body.get? name with
  | some (.str text) => do
      let text ← CodeText.string? text
      if fine : text ≠ "" ∧ NulFree text then some ⟨text, fine.1, fine.2⟩ else none
  | _ => none

def capabilityDiscoverBody (body : LoadedValue) : Option CapabilityDiscoverBody :=
  match body.get? "supported_protocols" with
  | some (.arr items) =>
      let protocols := items.filterMap fun item =>
        match item with
        | .str text => CodeText.string? text
        | _ => none
      if fine : protocols ≠ [] then some ⟨protocols, fine⟩ else none
  | _ => none

/-- A query for a page behind a cursor. -/
def catalogQueryBody (body : LoadedValue) : Option CatalogQueryBody :=
  match body.get? "cursor" with
  | some (.str cursor) => do
      let cursor ← CodeText.string? cursor
      if fine : NulFree cursor then
        some
          { category := none, location := none, maxUnitMinor := none, cursor := some cursor
            limit := 20
            categoryNulFree := by simp
            locationNulFree := by simp
            maximumInRange := by simp
            cursorNulFree := by simpa using fine
            limitInRange := by decide }
      else none
  | _ => none

def quoteRequestBody (body : LoadedValue) : Option QuoteRequestBody := do
  let sku ← key? body "sku"
  let mandateId ← key? body "mandate_id"
  match body.get? "nights" with
  | some (.int nights) =>
      if fine : 0 < nights then some ⟨sku, mandateId, nights, fine⟩ else none
  | _ => none

def orderProposeBody (body : LoadedValue) : Option OrderProposeBody := do
  let quoteId ← key? body "quote_id"
  let quoteHash ← key? body "quote_hash"
  let mandateId ← key? body "mandate_id"
  let mandateSpecHash ← key? body "mandate_spec_hash"
  let intentHash ← key? body "intent_hash"
  return ⟨quoteId, quoteHash, mandateId, mandateSpecHash, intentHash⟩

/-- The merchant of the fixture, without a key. -/
def merchant : MerchantPlatform where
  toAgentPlatform := agentPlatform
  collation := Catalog.Fixture.bytewise
  capabilityDiscoverBody := capabilityDiscoverBody
  catalogQueryBody := catalogQueryBody
  quoteRequestBody := quoteRequestBody
  orderProposeBody := orderProposeBody
  orderStatusBody body := (key? body "order_id").map OrderStatusBody.mk
  receiptIssueBody body := (key? body "order_id").map ReceiptIssueBody.mk
  feedDump feed := .int feed.items.length
  quoteDump quote := Catalog.hashablePayload Actl.Fixture.platform quote
  orderStatusText _ := "CREATED"
  merchantAgentId := "agt_merchant_01"
  merchantKeyId := "ed25519:merchant-demo"
  merchantSign _ := []

/-- A row for an item, in Goa. -/
def rowOf (item : CatalogItemRecord) : CatalogItemRow :=
  { item with locationCity := "Goa", locationCountry := "IN" }

def shelf : CatalogItems where
  table := ⟨[rowOf Actl.Fixture.seaView, rowOf Actl.Fixture.budgetRoom], by decide⟩
  positive := by
    intro row member
    rcases List.mem_pair.mp member with rfl | rfl <;> decide
  bigint := by
    intro row member
    rcases List.mem_pair.mp member with rfl | rfl <;> decide

def market : World := ⟨Actl.Fixture.database, .fresh⟩

/-- A database that works and a provider that answers. -/
def input : Input where
  now _ _ := Actl.Fixture.start
  ids _ := "id_new"
  dbError := false
  answer := .ok ()
  tookEffect := true
  providerOrderId := "order_1"
  payments := []
  polls _ := .ok []

/-- The buyer asks for a quote. -/
def quoteRequest (nights : Int) : AgentEnvelope :=
  { unsigned with
    type := .quoteRequest
    body := .ofJson (.obj [("sku", .str "HTL-GOA-SEA-DLX"), ("mandate_id", .str "mdt_1"),
      ("nights", .int nights)]) }

/-- The buyer asks for a page behind a cursor. -/
def catalogQuery (cursor : String) : AgentEnvelope :=
  { unsigned with
    type := .catalogQuery
    body := .ofJson (.obj [("cursor", .str cursor)]) }

def answer (request : AgentEnvelope) : Except Failure AgentEnvelope × World :=
  answerMessage merchant request ⟨"trc_1", "ord_1"⟩ shelf (fun _ => input) "msg_2"
    Actl.Fixture.start market

/-- More nights than an `integer` holds, and a cursor without a colon: the message is
not answered. -/
theorem message_unanswered :
    (¬ ∃ response, (answer (quoteRequest (2 ^ 31))).1 = .ok response) ∧
      ¬ ∃ response, (answer (catalogQuery "next")).1 = .ok response := by
  have quote : ((answer (quoteRequest (2 ^ 31))).1.toOption).isNone = true := by decide +kernel
  have page : ((answer (catalogQuery "next")).1.toOption).isNone = true := by decide +kernel
  constructor
  · rintro ⟨response, answered⟩
    rw [answered] at quote
    cases quote
  · rintro ⟨response, answered⟩
    rw [answered] at page
    cases page

theorem valid_market : Valid shelf market.db where
  totals := by decide
  listed := by
    intro item member
    rcases List.mem_pair.mp member with rfl | rfl
    · exact ⟨rowOf Actl.Fixture.seaView, List.mem_cons_self, rfl⟩
    · exact ⟨rowOf Actl.Fixture.budgetRoom, List.mem_cons_of_mem _ List.mem_cons_self, rfl⟩

theorem healthy_input : Healthy market.db input where
  works := rfl
  newDecision := by
    intro decision member
    cases member
  newQuote := by decide

theorem admitted_quoteRequest : Admitted (quoteRequest 3) where
  sender := by decide
  correlation := by decide

/-- A request for three nights is answered with a signed quote. -/
theorem quote_answered : ∃ response, (answer (quoteRequest 3)).1 = .ok response ∧
    SignedAnswer merchant (quoteRequest 3) response := by
  refine (answers_iff admitted_quoteRequest valid_market (fun _ => healthy_input) "msg_2"
    Actl.Fixture.start).1.mpr ⟨fun body query => ?_, fun body _ read => ?_⟩
  · cases query
  · have asked : merchant.quoteRequestBody (quoteRequest 3).body
        = some ⟨⟨"HTL-GOA-SEA-DLX", by decide, by decide⟩, ⟨"mdt_1", by decide, by decide⟩, 3,
          by decide⟩ := rfl
    obtain rfl := Option.some.inj (asked.symm.trans read)
    intro _ item found _
    have listed : market.db.items.get? CatalogItemRecord.sku "HTL-GOA-SEA-DLX"
        = some Actl.Fixture.seaView := rfl
    obtain rfl := Option.some.inj (listed.symm.trans found)
    decide

end Fixture

end Actl.Agents

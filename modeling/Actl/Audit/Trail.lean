import Actl.Audit.Chain
import Actl.Foundation.Journal

/-!
# What an audit entry follows from

An entry of the audit log tells of a step of a purchase, and most steps follow from
another one: a proposal from a quote, a reservation from a proposal that was allowed, a
payment from a reservation, its result from the payment, a settlement from a result, and
the end of a reservation from its beginning. The log has an entry for that other step
before (`Caused`), and the texts the two entries share say that it is the same purchase.
-/

set_option autoImplicit false

namespace Actl.Audit

/-- A place in an audit entry. -/
inductive Field where
  | subject (name : String)
  | payload (name : String)
  deriving DecidableEq, Repr

/-- The value at a place of an entry with the subject and the payload. -/
def Field.value? (subject payload : JSONValue) : Field → Option JSONValue
  | .subject name => subject.get? name
  | .payload name => payload.get? name

/-- The text at a place. -/
def Field.text? (subject payload : JSONValue) (field : Field) : Option String :=
  match field.value? subject payload with
  | some (.str text) => some text
  | _ => none

namespace AuditEntry

def text? (entry : AuditEntry) (field : Field) : Option String :=
  field.text? entry.subject entry.payload

/-- The entry is of the action and has these texts. -/
structure Shows (entry : AuditEntry) (action : AuditAction) (texts : List (Field × String)) :
    Prop where
  action : entry.action = action
  texts : ∀ pair ∈ texts, entry.text? pair.1 = some pair.2

theorem Shows.text {entry : AuditEntry} {action : AuditAction} {texts : List (Field × String)}
    {field : Field} {text : String} (shows : entry.Shows action texts)
    (listed : (field, text) ∈ texts) : entry.text? field = some text :=
  shows.texts _ listed

theorem Shows.mono {entry : AuditEntry} {action : AuditAction} {texts fewer : List (Field × String)}
    (shows : entry.Shows action texts) (sub : fewer ⊆ texts) : entry.Shows action fewer :=
  ⟨shows.action, fun pair member => shows.texts pair (sub member)⟩

end AuditEntry

/-- The log has an entry of the action with these texts. -/
def Shown (entries : List AuditEntry) (action : AuditAction) (texts : List (Field × String)) :
    Prop :=
  ∃ entry ∈ entries, entry.Shows action texts

theorem Shown.mono {entries entries' : List AuditEntry} {action : AuditAction}
    {texts fewer : List (Field × String)} (shown : Shown entries action texts)
    (more : entries ⊆ entries') (sub : fewer ⊆ texts) : Shown entries' action fewer := by
  obtain ⟨entry, member, shows⟩ := shown
  exact ⟨entry, more member, shows.mono sub⟩

/-- What an entry can follow from: an entry of this action with these texts, that has each
shared text where the other one has it. -/
structure Cause where
  action : AuditAction
  shared : List (Field × Field)
  texts : List (Field × String) := []

/-- What the entries of each action follow from. -/
def AuditAction.cause? : AuditAction → Option Cause
  | .orderProposed => some
      { action := .quoteIssued, shared := [(.subject "quote_id", .subject "quote_id")] }
  | .budgetReserved => some
      { action := .orderProposed
        shared := [(.subject "mandate_id", .subject "mandate_id")]
        texts := [(.payload "verdict", "ALLOW")] }
  | .paymentIntent => some
      { action := .budgetReserved
        shared := [(.subject "mandate_id", .subject "mandate_id"),
          (.subject "ref_id", .payload "idempotency_key")] }
  | .paymentResult => some
      { action := .paymentIntent, shared := [(.subject "order_id", .subject "order_id")] }
  | .settlementClosed => some
      { action := .paymentResult
        shared := [(.subject "order_id", .subject "order_id"),
          (.payload "provider_payment_id", .payload "provider_payment_id")]
        texts := [(.payload "status", "captured")] }
  | .compensationApplied | .reservationExpired => some
      { action := .budgetReserved, shared := [(.subject "ref_id", .subject "ref_id")] }
  | _ => none

/-- The log has an entry that the given one follows from. -/
def FollowsFrom (past : List AuditEntry) (entry : AuditEntry) (c : Cause) : Prop :=
  ∃ cause ∈ past, cause.Shows c.action c.texts ∧ ∀ pair ∈ c.shared,
    (cause.text? pair.1).isSome = true ∧ cause.text? pair.1 = entry.text? pair.2

/-- The log has what an entry follows from before it. -/
def Caused (past : List AuditEntry) (entry : AuditEntry) : Prop :=
  ∀ c, entry.action.cause? = some c → FollowsFrom past entry c

theorem Caused.mono {past later : List AuditEntry} {entry : AuditEntry} (caused : Caused past entry)
    (more : past ⊆ later) : Caused later entry := by
  intro c needed
  obtain ⟨cause, member, rest⟩ := caused c needed
  exact ⟨cause, more member, rest⟩

/-- An entry follows from one that shows its texts. -/
theorem Shown.follows {past : List AuditEntry} {entry : AuditEntry} {c : Cause}
    {texts : List (Field × String)} (shown : Shown past c.action texts) (sub : c.texts ⊆ texts)
    (same : ∀ pair ∈ c.shared, ∃ text, (pair.1, text) ∈ texts ∧ entry.text? pair.2 = some text) :
    FollowsFrom past entry c := by
  obtain ⟨cause, member, shows⟩ := shown
  refine ⟨cause, member, shows.mono sub, fun pair listed => ?_⟩
  obtain ⟨text, there, here⟩ := same pair listed
  have told := shows.texts _ there
  exact ⟨by rw [told]; rfl, told.trans here.symm⟩

end Actl.Audit

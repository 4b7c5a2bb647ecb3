import Actl.Fixture
import Actl.Programs

/-!
# Concrete runs

What runs on the fixture share: the request for the first quote, and the input of
a step in which nothing goes wrong.
-/

set_option autoImplicit false

namespace Actl.Fixture

open Foundation.System (initial)

/-- The request for the first quote. -/
def request : Gate.MoneyActionRequest where
  traceId := "trc_1"
  mandateId := "mdt_1"
  decisionId := "dec_1"
  quoteId := "qte_1"
  intentHash := seaViewHash
  amountMinor := 420000
  currency := "INR"
  attemptNo := 1
  actorId := "system"

/-- A step in which nothing goes wrong. -/
def input : Input where
  now _ _ := start
  ids _ := "id_1"
  dbError := false
  answer := .ok ()
  tookEffect := true
  providerOrderId := "order_1"
  payments := []
  polls _ := .ok []

def world (db : Database) : World := ⟨db, .fresh⟩

abbrev Event : Type := (application platform).Event

/-- The configuration after a run from the given store. -/
def reached (db : Database) (events : List Event) : (application platform).Config :=
  (initial (world db)).run events

/-- What the calls of a run have returned. -/
def outcomes (db : Database) (events : List Event) : List (Option (Except Failure Outcome)) :=
  (reached db events).calls.map fun r => r.returned?

/-- What a call returns with its next step. -/
def returns (db : Database) (events : List Event) (index : Nat) (input : Input) :
    Option (Except Failure Outcome) :=
  (reached db events).returns? index input

/-- The calls of a run are the ones it starts. -/
theorem reached_call (db : Database) (events : List Event) (index : Nat) :
    (reached db events).calls[index]?.map (·.call)
      = (events.flatMap Foundation.System.Event.started)[index]? := by
  have calls := Foundation.System.Config.run_calls
    (initial (world db) : (application platform).Config) events
  rw [← List.getElem?_map]
  exact congrArg (·[index]?) calls

theorem length_outcomes (db : Database) (events : List Event) :
    (outcomes db events).length = (reached db events).calls.length := List.length_map _

end Actl.Fixture

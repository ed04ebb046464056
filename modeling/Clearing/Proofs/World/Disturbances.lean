import Clearing.Proofs.Ledger.History
import Clearing.World
/-!
Disturbances: what happens to the stores, the connections and the clock of a
deployment without any service having done it.
-/

namespace Clearing

inductive Disturbance where
  | openAccount (opening : Opening)
  | setLedger (online : Bool)
  | setBook (online : Bool)
  | setBroker (outage : Option BusError)
  | setFaults (faults : Faults)
  /-- Entries of the cache are lost, expire or are written by others. -/
  | setCache (store : Store)
  | setClock (now : Nat) (moment : Timestamp)
      (inRange : Date.YearInRange moment.date.year)

def Disturbance.ledgerEvents : Disturbance → List LedgerEvent
  | .openAccount opening => [.openAccount opening]
  | .setLedger online => [.call (.setOnline online)]
  | .setBook _ | .setBroker _ | .setFaults _ | .setCache _ | .setClock _ _ _ => []

namespace World

def disturb (world : World) : Disturbance → World
  | .openAccount opening =>
      { world with
        ledger :=
          world.ledger.openAccount opening.id opening.currency opening.balance }
  | .setLedger online =>
      { world with ledger := { world.ledger with online := online } }
  | .setBook online => { world with book := { world.book with online := online } }
  | .setBroker outage => { world with broker := world.broker.setOutage outage }
  | .setFaults faults => { world with faults := faults }
  | .setCache store => { world with store := store }
  | .setClock now moment _ => { world with now := now, moment := moment }

theorem ledger_disturb (world : World) (disturbance : Disturbance) :
    (world.disturb disturbance).ledger =
      world.ledger.after disturbance.ledgerEvents := by
  cases disturbance <;> rfl

end World

end Clearing

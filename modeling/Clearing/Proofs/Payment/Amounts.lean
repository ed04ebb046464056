import Clearing.Proofs.Json.Literals
import Clearing.Proofs.Ledger.Settlements
import Clearing.Proofs.Payment.Requests
import Clearing.Proofs.Settlement.Deliveries
/-!
The amounts of payments, from the text that asks for one to the balances of its accounts.
Where all digits of the text count, no digit is lost on the way, and what cannot be a sum of
money is refused.
-/

namespace Clearing

open Json

section Written

/-- An amount, as a number and as it is written. -/
def amountPair : FieldPair where
  name := "amount"
  First := Decimal
  Second := Literal
  first := decimal
  second := literal
  Related number written := written.decimal? = some number
  follows := follows_literal

def paymentPairs (last : Field) : List FieldPair :=
  [.same ⟨"payment_id", String, string⟩, .same ⟨"from_account", String, string⟩,
    .same ⟨"to_account", String, string⟩, amountPair,
    .same ⟨"currency", String, string⟩, .same last]

def writtenAmount (last : Field) (bytes : Bytes) : Except Fault Literal :=
  (decode (record ((paymentPairs last).map FieldPair.right)) bytes).map fun row => row.2.2.2.1

theorem exists_writtenAmount {last : Field} {bytes : Bytes}
    {row : Row ((paymentPairs last).map FieldPair.left)}
    (decoded : decode (record ((paymentPairs last).map FieldPair.left)) bytes = .ok row) :
    ∃ written, writtenAmount last bytes = .ok written ∧
      written.decimal? = some row.2.2.2.1 := by
  obtain ⟨other, otherDecoded, rows⟩ := (follows_record (paymentPairs last)).decode_eq_ok decoded
  refine ⟨other.2.2.2.1, ?_, rows.2.2.2.1⟩
  rw [writtenAmount, otherDecoded]
  rfl

end Written

def PaymentRequest.writtenAmount (body : Bytes) : Except Fault Literal :=
  Clearing.writtenAmount ⟨"idempotency_key", String, string⟩ body

def SettlementEvent.writtenAmount (payload : Bytes) : Except Fault Literal :=
  Clearing.writtenAmount ⟨"timestamp", Timestamp, moment⟩ payload

theorem PaymentRequest.exists_writtenAmount {body : Bytes} {request : PaymentRequest}
    (decoded : decode body = .ok request) :
    ∃ written, writtenAmount body = .ok written ∧ written.decimal? = some request.amount := by
  obtain ⟨row, read, rfl⟩ := exists_of_map_eq_ok decoded
  exact Clearing.exists_writtenAmount read

theorem SettlementEvent.exists_writtenAmount {payload : Bytes} {event : SettlementEvent}
    (decoded : decode payload = .ok event) :
    ∃ written, writtenAmount payload = .ok written ∧ written.decimal? = some event.amount := by
  obtain ⟨row, read, rfl⟩ := exists_of_map_eq_ok decoded
  exact Clearing.exists_writtenAmount read

theorem TransferOrder.isMoney_of_applied {ledger : Ledger} {order : TransferOrder}
    {source destination : Account}
    (applied : (ledger.transfer order).1 = .ok (.applied source destination)) :
    IsMoney order.amount.value := by
  have shape := (Ledger.decision_of_transfer_eq_applied applied).1
  obtain ⟨positive, decimals, bounded⟩ := order.amount_of_check_eq_ok shape
  exact isMoney_of_bounds positive decimals bounded

theorem SettlementEvent.amount_of_order?_eq_some {event : SettlementEvent}
    {order : TransferOrder} (ordered : event.order? = some order) :
    order.amount = event.amount := by
  obtain ⟨currency, _, rfl⟩ := Option.map_eq_some_iff.mp ordered
  rfl

/--
A payment that is accepted, and an event that is settled, are of the number that is written
in the text, provided that all digits of the text count.  A text of another number than a
sum of money is then neither accepted nor settled.
-/
theorem amounts_as_written (sink : StatusSink) (world : World) (body payload : Bytes) :
    (∀ request payment, PaymentRequest.decode body = .ok request →
      request.validate = .ok payment →
      ∃ written, PaymentRequest.writtenAmount body = .ok written ∧
        (written.Faithful →
          payment.amount.value.value = written.value ∧ IsMoney written.value)) ∧
    ((world.settle sink payload).1 = .answered .settled →
      ∃ event order source destination written,
        SettlementEvent.decode payload = .ok event ∧ event.order? = some order ∧
        (world.ledger.transfer order).1 = .ok (.applied source destination) ∧
        (world.settle sink payload).2.ledger = (world.ledger.transfer order).2 ∧
        SettlementEvent.writtenAmount payload = .ok written ∧
        (written.Faithful →
          order.amount.value = written.value ∧ IsMoney written.value ∧
          (world.ledger.Solvent →
            ∃ payer payee, world.ledger.account? order.source = some payer ∧
              world.ledger.account? order.destination = some payee ∧
              source.balance.value = payer.balance.value - written.value ∧
              destination.balance.value = payee.balance.value + written.value))) := by
  constructor
  · intro request payment decoded valid
    obtain ⟨written, read, decimal⟩ := PaymentRequest.exists_writtenAmount decoded
    refine ⟨written, read, fun faithful => ?_⟩
    have same := Literal.value_of_decimal? faithful decimal
    have kept := (PaymentRequest.taken_of_validate_eq_ok valid).2.2
    rw [← kept] at same
    exact ⟨same, same ▸ payment.amount.isMoney⟩
  · intro settled
    obtain ⟨event, order, source, destination, decoded, ordered, applied, after⟩ :=
      World.exists_order_of_settled settled
    obtain ⟨written, read, decimal⟩ := SettlementEvent.exists_writtenAmount decoded
    refine ⟨event, order, source, destination, written, decoded, ordered, applied, after, read,
      fun faithful => ?_⟩
    have same := Literal.value_of_decimal? faithful decimal
    rw [← SettlementEvent.amount_of_order?_eq_some ordered] at same
    rw [← same]
    exact ⟨rfl, TransferOrder.isMoney_of_applied applied, fun solvent =>
      Ledger.balances_of_transfer_eq_applied solvent applied⟩

/-- A record about a payment in dollars, with its amount in a given notation. -/
def dollarRecord (source destination : String) (amount : Bytes) (last : String × Bytes) :
    Bytes :=
  writeObject
    [("payment_id", writeString "p1"), ("from_account", writeString source),
      ("to_account", writeString destination), ("amount", amount),
      ("currency", writeString Currency.dollar.code), last]

def numberRequest (amount : String) : Bytes :=
  dollarRecord "3f2b8c1e-9a4d-4e7b-8c2f-1a2b3c4d5e6f" "7d6c5b4a-3f2e-4d1c-9b8a-0f1e2d3c4b5a"
    (Bytes.ofText amount) ("idempotency_key", writeString "k1")

def textEvent (amount : String) : Bytes :=
  dollarRecord "a" "b" (writeString amount) ("timestamp", writeMoment .sample)

def twoAccountsWorld : World :=
  { World.ofPartitions 1 with ledger := Ledger.twoAccounts }

/-- Seventeen digits before the point and two behind it do not come through a double. -/
example :
    (PaymentRequest.decode (numberRequest "12345678901234567.89")).toOption.map
      PaymentRequest.amount = some { coefficient := 12345678901234568, scale := 0 } := by
  decide +kernel

theorem amounts_as_written_bothNotations :
    (∃ request payment, PaymentRequest.decode (numberRequest "314.15") = .ok request ∧
        request.validate = .ok payment ∧ payment.amount.value.value = 31415 / 100) ∧
      (twoAccountsWorld.settle .log (textEvent "1.205e2")).1 = .answered .settled ∧
      ∃ order source destination, ∃ payer payee : Account,
        (twoAccountsWorld.ledger.transfer order).1 = .ok (.applied source destination) ∧
        order.amount.value = 241 / 2 ∧
        source.balance.value = payer.balance.value - 241 / 2 ∧
        destination.balance.value = payee.balance.value + 241 / 2 := by
  obtain ⟨requests, events⟩ := amounts_as_written .log twoAccountsWorld
    (numberRequest "314.15") (textEvent "1.205e2")
  constructor
  · let token : NumberToken :=
      { negative := false, whole := "314".toList, fraction := "15".toList, exponent := none }
    have accepted : ((PaymentRequest.decode (numberRequest "314.15")).toOption.bind
        fun request => request.validate.toOption).isSome := by
      decide +kernel
    have written :
        PaymentRequest.writtenAmount (numberRequest "314.15") = .ok (.number token) := by
      decide +kernel
    have short : token.IsShort :=
      ⟨by decide +kernel, by decide +kernel, by decide +kernel, by decide +kernel⟩
    have size : (Literal.number token).value = 31415 / 100 := by
      decide +kernel
    obtain ⟨payment, found⟩ := Option.isSome_iff_exists.mp accepted
    obtain ⟨request, decoded, valid⟩ := Option.bind_eq_some_iff.mp found
    have decoded := eq_ok_of_toOption_eq_some decoded
    have valid := eq_ok_of_toOption_eq_some valid
    obtain ⟨literal, read, kept⟩ := requests request payment decoded valid
    cases written.symm.trans read
    exact ⟨request, payment, decoded, valid, (kept (.inr short)).1.trans size⟩
  · have settled : (twoAccountsWorld.settle .log (textEvent "1.205e2")).1 =
        .answered .settled := by
      decide +kernel
    have written :
        SettlementEvent.writtenAmount (textEvent "1.205e2") = .ok (.text "1.205e2") := by
      decide +kernel
    have significand : (Numeral.significand "1.205e2").value = (1205 : Int) / 10 ^ 3 := by
      decide +kernel
    have total : (Literal.text "1.205e2").value = (1205 : Int) / 10 ^ 1 := by
      decide +kernel
    have size : (Literal.text "1.205e2").value = 241 / 2 := by
      decide +kernel
    have faithful : (Literal.text "1.205e2").Faithful := by
      constructor
      · rw [significand]
        exact Decimal.representable_of_bounds (by decide) (by decide)
      · change Decimal.Representable (Literal.text "1.205e2").value
        rw [total]
        exact Decimal.representable_of_bounds (by decide) (by decide)
    obtain ⟨event, order, source, destination, literal, _, _, applied, _, read, kept⟩ :=
      events settled
    cases written.symm.trans read
    obtain ⟨same, _, balances⟩ := kept faithful
    obtain ⟨payer, payee, _, _, debited, credited⟩ := balances Ledger.solvent_twoAccounts
    rw [size] at same debited credited
    exact ⟨settled, order, source, destination, payer, payee, applied, same, debited,
      credited⟩

end Clearing

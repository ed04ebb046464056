import Clearing.Proofs.Ledger.Spellings
import Clearing.Proofs.Payment.Answers
import Clearing.Proofs.Payment.Desk
import Clearing.Proofs.Pipeline.Operations
/-!
Requests that differ in how they spell their accounts.  A request is checked for paying one account
from another, and there two spellings of an account are one account.  The book and the ledger know
an account by its spelling, so what is one payment for the check is two for them.
-/

namespace Clearing

/-- The same request, but for the case of the digits of its accounts. -/
structure PaymentRequest.Respells (request other : PaymentRequest) : Prop where
  source : Text.equalIgnoringCase request.source other.source = true
  destination : Text.equalIgnoringCase request.destination other.destination = true
  rest : { other with source := request.source, destination := request.destination } = request

namespace ValidPayment

/-- The same payment, but for the spellings of its accounts. -/
structure Respells (payment other : ValidPayment) : Prop where
  source : payment.source.sameAccount other.source = true
  destination : payment.destination.sameAccount other.destination = true
  rest : { other with source := payment.source, destination := payment.destination } = payment

variable {payment other : ValidPayment}

theorem Respells.eq_iff (respells : payment.Respells other) :
    other = payment ↔
      other.source.text = payment.source.text ∧
        other.destination.text = payment.destination.text := by
  refine ⟨fun same => same ▸ ⟨rfl, rfl⟩, fun ⟨source, destination⟩ => ?_⟩
  rw [← respells.rest, ← AccountId.ext_text source, ← AccountId.ext_text destination]

theorem Respells.id_eq (respells : payment.Respells other) : other.id = payment.id :=
  (congrArg ValidPayment.id respells.rest :)

theorem Respells.key_eq (respells : payment.Respells other) :
    other.idempotencyKey = payment.idempotencyKey :=
  (congrArg ValidPayment.idempotencyKey respells.rest :)

theorem Respells.order (respells : payment.Respells other)
    (distinct : other.source.sameAccount other.destination ≠ true) :
    payment.order.Respells other.order := by
  have source := (AccountId.sameAccount_iff _ _).mp respells.source
  have destination := (AccountId.sameAccount_iff _ _).mp respells.destination
  rw [Ne, AccountId.sameAccount_iff] at distinct
  constructor
  · exact respells.id_eq
  · exact congrArg (fun payment => payment.amount.value) respells.rest
  · exact (congrArg ValidPayment.currency respells.rest :)
  · intro same
    exact distinct (source.symm.trans (congrArg Text.lowerText same))
  · intro same
    exact distinct ((congrArg Text.lowerText same).symm.trans destination)

theorem Respells.order_eq_iff (respells : payment.Respells other) :
    payment.order = other.order ↔ other = payment := by
  rw [respells.eq_iff]
  refine ⟨fun same => ?_, fun ⟨source, destination⟩ => ?_⟩
  · exact ⟨congrArg TransferOrder.source same.symm, congrArg TransferOrder.destination same.symm⟩
  · rw [respells.eq_iff.mpr ⟨source, destination⟩]

end ValidPayment

theorem PaymentRequest.Respells.payment {request other : PaymentRequest}
    {payment otherPayment : ValidPayment} (respells : request.Respells other)
    (gives : request.Gives payment) (otherGives : other.Gives otherPayment) :
    payment.Respells otherPayment := by
  constructor
  · rw [AccountId.sameAccount, gives.source_eq, otherGives.source_eq]
    exact respells.source
  · rw [AccountId.sameAccount, gives.destination_eq, otherGives.destination_eq]
    exact respells.destination
  · have again : request.Gives
        { otherPayment with source := payment.source, destination := payment.destination } := by
      rw [← respells.rest]
      exact ⟨otherGives.id_eq, otherGives.key_eq, gives.source_eq, gives.destination_eq,
        otherGives.currency, otherGives.amount_eq⟩
    exact again.unique gives

theorem PaymentRecord.sameTransfer_pending_iff (record : PaymentRecord) (payment : ValidPayment)
    (moment : Timestamp) :
    record.SameTransfer (.pending payment moment) ↔ record.Covers payment.order :=
  ⟨fun ⟨id, source, destination, amount, currency⟩ => ⟨id, source, destination, amount, currency⟩,
    fun ⟨id, source, destination, amount, currency⟩ => ⟨id, source, destination, amount, currency⟩⟩

theorem ValidPayment.Respells.eq_of_covers {payment other : ValidPayment}
    (respells : payment.Respells other) {record : PaymentRecord}
    (covers : record.Covers payment.order) (otherCovers : record.Covers other.order) :
    other = payment :=
  respells.eq_iff.mpr ⟨otherCovers.source.symm.trans covers.source,
    otherCovers.destination.symm.trans covers.destination⟩

namespace PaymentBook

variable {book : PaymentBook} {payment other : ValidPayment} {moment : Timestamp}

open Classical in
theorem insert_of_held (online : book.online = true) {held : PaymentRecord}
    (found : book.records.get? payment.id = some held) (message : Option OutboundMessage) :
    (book.insert (.pending payment moment) message).1 =
      if held.Covers payment.order then .ok .duplicate else .error (.conflict payment.id) := by
  have taken : book.records.get? (PaymentRecord.pending payment moment).id = some held := found
  rw [insert, if_pos online, taken]
  simp only [PaymentRecord.sameTransfer_pending_iff]
  split <;> rfl

theorem insert_eq_of_respells (respells : payment.Respells other)
    (unheld : book.online = true → book.records.get? payment.id = none)
    (message : Option OutboundMessage) :
    (book.insert (.pending payment moment) message).1 =
      (book.insert (.pending other moment) message).1 := by
  cases online : book.online with
  | false => rw [insert, insert, online]; rfl
  | true =>
      have otherUnheld : book.records.get? other.id = none := respells.id_eq ▸ unheld online
      rw [insert_of_unheld online (unheld online), insert_of_unheld online otherUnheld,
        PaymentRecord.pending, PaymentRecord.pending, respells.key_eq]

end PaymentBook

namespace World

variable {world : World} {settings : IntakeSettings} {traced otherTraced : TracedRequest}
  {payment respelled : ValidPayment}

/-- What settling a message comes to: a disposition, and the rows of the accounts. -/
def settlement (world : World) (sink : StatusSink) (payload : Bytes) :
    Delivery × Table String Account :=
  ((world.settle sink payload).1, (world.settle sink payload).2.ledger.accounts)

/-- The event of a payment comes to what the ledger made of its order before the intake. -/
theorem settlement_initiatePayment (settings : IntakeSettings) (traced : TracedRequest)
    (sink : StatusSink) (audible : world.faults.cacheSilent = false)
    (answering : world.faults.ledgerSilent = false) {moment : Timestamp}
    (inRange : Date.YearInRange moment.date.year) (payment : ValidPayment) :
    (world.initiatePayment settings traced).2.settlement sink
        (SettlementEvent.ofPayment payment moment).encode =
      (.answered (world.ledger.outcome payment.order).1,
        (world.ledger.outcome payment.order).2) := by
  have kept := Intake.ledger_faults_initiatePayment world settings traced
  generalize (world.initiatePayment settings traced).2 = taken at kept
  obtain ⟨ledger_eq, faults_eq⟩ := Prod.mk.inj kept
  obtain ⟨verdict, told⟩ := SettlementEvent.verdict_of_order?_eq_some
    (payment.order?_ofPayment moment) taken.ledger
  rcases settle_cases sink taken (SettlementEvent.decode_ofPayment inRange) with
    ⟨after, settled, after_eq⟩ | ⟨silent, _⟩
  · rw [settlement, settled, after_eq, verdict, told, ledger_eq]
    rfl
  · rw [faults_eq, audible, answering] at silent
    simp at silent

theorem covered_iff_of_found {order : TransferOrder} {record : PaymentRecord}
    (found : world.book.records.get? order.id = some record) :
    world.Covered order ↔ record.Covers order := by
  rw [Covered, found]
  simp

/-- Only a book that has the payment in one of the spellings tells them apart. -/
theorem replies_ne_iff (settings : IntakeSettings) (respells : payment.Respells respelled) :
    Intake.reply settings world.broker.outage payment.id
        (world.book.insert (.pending payment world.moment) none).1 ≠
      Intake.reply settings world.broker.outage payment.id
        (world.book.insert (.pending respelled world.moment) none).1 ↔
      respelled ≠ payment ∧ world.book.online = true ∧
        (world.Covered payment.order ∨ world.Covered respelled.order) := by
  by_cases held : world.book.online = true ∧
      ∃ record, world.book.records.get? payment.id = some record
  · obtain ⟨online, record, found⟩ := held
    have otherFound : world.book.records.get? respelled.id = some record :=
      respells.id_eq ▸ found
    have covered : world.Covered payment.order ↔ record.Covers payment.order :=
      covered_iff_of_found found
    have otherCovered : world.Covered respelled.order ↔ record.Covers respelled.order :=
      covered_iff_of_found otherFound
    have apart := Intake.reply_duplicate_ne_conflict settings world.broker.outage payment.id
      payment.id
    rw [PaymentBook.insert_of_held online found, PaymentBook.insert_of_held online otherFound,
      covered, otherCovered, respells.id_eq]
    by_cases covers : record.Covers payment.order <;>
      by_cases otherCovers : record.Covers respelled.order
    · simp [respells.eq_of_covers covers otherCovers, covers]
    · have different : respelled ≠ payment := fun same => otherCovers (same ▸ covers)
      simp [covers, otherCovers, different, online, apart]
    · have different : respelled ≠ payment := fun same => covers (same ▸ otherCovers)
      simp [covers, otherCovers, different, online, apart.symm]
    · simp [covers, otherCovers]
  · have unheld (online : world.book.online = true) :
        world.book.records.get? payment.id = none :=
      Option.eq_none_iff_forall_ne_some.mpr fun record found => held ⟨online, record, found⟩
    rw [PaymentBook.insert_eq_of_respells respells unheld]
    refine ⟨fun different => absurd rfl different, ?_⟩
    rintro ⟨_, online, ⟨record, found, _⟩ | ⟨record, found, _⟩⟩
    · exact absurd ⟨online, record, found⟩ held
    · exact absurd ⟨online, record, respells.id_eq ▸ found⟩ held

theorem answers_ne_iff (respells : payment.Respells respelled)
    (audible : world.faults.cacheSilent = false)
    (valid : traced.request.validate = .ok payment)
    (otherValid : otherTraced.request.validate = .ok respelled) :
    (world.initiatePayment settings traced).1 ≠ (world.initiatePayment settings otherTraced).1 ↔
      respelled ≠ payment ∧ world.Forgets payment.idempotencyKey ∧ world.book.online = true ∧
        (world.Covered payment.order ∨ world.Covered respelled.order) := by
  rw [answer_initiatePayment audible valid, answer_initiatePayment audible otherValid,
    respells.id_eq, respells.key_eq, ← recallReceipt_eq_none_iff, and_left_comm,
    ← replies_ne_iff settings respells, Ne, Call.answered.injEq]
  rcases (world.recallReceipt payment.idempotencyKey).1 with fault | (_ | receipt)
  · simp
  · simp
  · simp

theorem settlements_eq_iff (respells : payment.Respells respelled)
    (audible : world.faults.cacheSilent = false)
    (answering : world.faults.ledgerSilent = false)
    (inRange : Date.YearInRange world.moment.date.year) (solvent : world.ledger.Solvent)
    (valid : traced.request.validate = .ok payment)
    (otherValid : otherTraced.request.validate = .ok respelled) (sink : StatusSink) :
    (world.initiatePayment settings traced).2.settlement sink
        (SettlementEvent.ofPayment payment world.moment).encode =
      (world.initiatePayment settings otherTraced).2.settlement sink
        (SettlementEvent.ofPayment respelled world.moment).encode ↔
      respelled = payment ∨ ¬ world.ledger.Considers payment.order ∨
        ∃ error otherError, world.ledger.Refuses payment.order error ∧
          world.ledger.Refuses respelled.order otherError ∧ error.code = otherError.code := by
  have distinct : respelled.source.sameAccount respelled.destination ≠ true := by
    obtain ⟨passes, gives⟩ := PaymentRequest.validate_eq_ok_iff.mp otherValid
    rw [Ne, AccountId.sameAccount_iff, gives.source_eq, gives.destination_eq]
    exact passes .distinct
  rw [settlement_initiatePayment settings traced sink audible answering inRange,
    settlement_initiatePayment settings otherTraced sink audible answering inRange,
    Prod.mk.injEq, Call.answered.injEq, ← Prod.ext_iff,
    Ledger.outcome_eq_iff solvent (PaymentRequest.check_order_of_validate valid)
      (PaymentRequest.check_order_of_validate otherValid) (respells.order distinct),
    respells.order_eq_iff]

/-- The book has the payment in one spelling, and it is asked for in another. -/
theorem insert_of_covered (respells : payment.Respells respelled)
    (online : world.book.online = true) (covered : world.Covered payment.order)
    (message : Option OutboundMessage) :
    (world.book.insert (.pending respelled world.moment) message).1 =
      if respelled = payment then .ok .duplicate else .error (.conflict payment.id) := by
  obtain ⟨record, found, covers⟩ := covered
  have otherFound : world.book.records.get? respelled.id = some record :=
    respells.id_eq ▸ found
  have again : record.Covers respelled.order ↔ respelled = payment :=
    ⟨respells.eq_of_covers covers, fun same => same ▸ covers⟩
  simp only [PaymentBook.insert_of_held online otherFound, again, respells.id_eq]

theorem answer_eq_conflict_iff (respells : payment.Respells respelled)
    (audible : world.faults.cacheSilent = false)
    (otherValid : otherTraced.request.validate = .ok respelled)
    (online : world.book.online = true) (covered : world.Covered payment.order) :
    (world.initiatePayment settings otherTraced).1 =
        .answered (.error (.conflict
          ("payment " ++ payment.id ++ " already exists with different parameters"))) ↔
      respelled ≠ payment ∧ world.Forgets payment.idempotencyKey := by
  rw [answer_initiatePayment audible otherValid, insert_of_covered respells online covered,
    respells.key_eq, ← recallReceipt_eq_none_iff, Call.answered.injEq]
  rcases (world.recallReceipt payment.idempotencyKey).1 with fault | (_ | receipt)
  · simp
  · by_cases same : respelled = payment
    · have apart := Intake.reply_duplicate_ne_conflict settings world.broker.outage respelled.id
        payment.id
      simp only [same, ne_eq, not_true_eq_false, false_and, iff_false]
      exact same ▸ apart
    · simp [same, Intake.reply]
  · simp

/--
Two requests that are the same but for the case of the digits of their accounts, and that are both
accepted, are treated alike only as long as nobody looks at the accounts.  They are told different
things exactly if they are spelled differently, nothing is remembered under their key, and the book
has the payment in one of the two spellings.  What they ask for comes to the same disposition and
to the same balances exactly if they are spelled alike, if the ledger has nothing to decide, or if
it refuses both for the same.  And once the book has the payment, asking for it in another spelling
is a conflict, unless the request is answered from the cache.
-/
theorem spellings_told_apart (respells : traced.request.Respells otherTraced.request)
    (valid : traced.request.validate = .ok payment)
    (otherValid : otherTraced.request.validate = .ok respelled)
    (audible : world.faults.cacheSilent = false) (settings : IntakeSettings) :
    let taken := world.initiatePayment settings traced
    let otherTaken := world.initiatePayment settings otherTraced
    (taken.1 ≠ otherTaken.1 ↔
      respelled ≠ payment ∧ world.Forgets payment.idempotencyKey ∧ world.book.online = true ∧
        (world.Covered payment.order ∨ world.Covered respelled.order)) ∧
    (world.ledger.Solvent → world.faults.ledgerSilent = false →
      Date.YearInRange world.moment.date.year → ∀ sink,
      (taken.2.settlement sink (SettlementEvent.ofPayment payment world.moment).encode =
          otherTaken.2.settlement sink (SettlementEvent.ofPayment respelled world.moment).encode ↔
        respelled = payment ∨ ¬ world.ledger.Considers payment.order ∨
          ∃ error otherError, world.ledger.Refuses payment.order error ∧
            world.ledger.Refuses respelled.order otherError ∧ error.code = otherError.code)) ∧
    (world.book.online = true → world.Covered payment.order →
      (world.book.insert (.pending respelled world.moment) none).1 =
          (if respelled = payment then .ok .duplicate else .error (.conflict payment.id)) ∧
        (otherTaken.1 =
            .answered (.error (.conflict
              ("payment " ++ payment.id ++ " already exists with different parameters"))) ↔
          respelled ≠ payment ∧ world.Forgets payment.idempotencyKey)) := by
  have gives := (PaymentRequest.validate_eq_ok_iff.mp valid).2
  have otherGives := (PaymentRequest.validate_eq_ok_iff.mp otherValid).2
  have paid : payment.Respells respelled := respells.payment gives otherGives
  refine ⟨answers_ne_iff paid audible valid otherValid, ?_, ?_⟩
  · intro solvent answering inRange sink
    exact settlements_eq_iff paid audible answering inRange solvent valid otherValid sink
  · intro online covered
    exact ⟨insert_of_covered paid online covered none,
      answer_eq_conflict_iff paid audible otherValid online covered⟩

def tenant : AccountId where
  text := "abcdefab-cdef-abcd-efab-cdefabcdefab"
  wellFormed := by decide

def tenantInCapitals : AccountId where
  text := Text.upperText tenant.text
  wellFormed := by decide

def rent : Decimal := (Desk.payRent "rent" "may").request.amount

def rentFrom (source : AccountId) : ValidPayment where
  id := "rent"
  source
  destination :=
    { text := "44444444-4444-4444-4444-444444444444"
      wellFormed := by decide }
  currency := .euro
  amount :=
    { value := rent
      positive := by decide
      decimals_le := by decide
      value_le := by decide }
  idempotencyKey := "may"

def payRentFrom (source : AccountId) : TracedRequest :=
  { Desk.payRent "rent" "may" with
    request := { (Desk.payRent "rent" "may").request with source := source.text } }

def lodging : World :=
  { ofPartitions 1 with
    ledger := Ledger.empty.after
      ([tenant.text, (rentFrom tenant).destination.text].map fun id =>
        .openAccount
          { id
            currency := .euro
            balance := rent }) }

/-- The rent has been asked for, and the receipt was forgotten since. -/
def rentAsked : World :=
  { (lodging.initiatePayment Desk.directIntake (payRentFrom tenant)).2 with store := .empty }

theorem solvent_rentAsked : rentAsked.ledger.Solvent := by
  have kept := Intake.ledger_faults_initiatePayment lodging Desk.directIntake (payRentFrom tenant)
  have ledger_eq : rentAsked.ledger = lodging.ledger := (Prod.mk.inj kept).1
  rw [ledger_eq]
  exact Ledger.solvent_empty.after _

/-- To ask for the rent again in capitals is a conflict, and it would not come to the same. -/
theorem spellings_told_apart_capitals :
    let capitals := rentAsked.initiatePayment Desk.directIntake (payRentFrom tenantInCapitals)
    let again := rentAsked.initiatePayment Desk.directIntake (payRentFrom tenant)
    capitals.1 =
        .answered (.error (.conflict "payment rent already exists with different parameters")) ∧
      again.2.settlement .book
          (SettlementEvent.ofPayment (rentFrom tenant) rentAsked.moment).encode ≠
        capitals.2.settlement .book
          (SettlementEvent.ofPayment (rentFrom tenantInCapitals) rentAsked.moment).encode := by
  have respells : (payRentFrom tenant).request.Respells (payRentFrom tenantInCapitals).request :=
    ⟨by decide, by decide, rfl⟩
  have valid : (payRentFrom tenant).request.validate = .ok (rentFrom tenant) := by
    decide +kernel
  have otherValid :
      (payRentFrom tenantInCapitals).request.validate = .ok (rentFrom tenantInCapitals) := by
    decide +kernel
  have audible : rentAsked.faults.cacheSilent = false := by decide +kernel
  have different : rentFrom tenantInCapitals ≠ rentFrom tenant := by decide
  have covered : rentAsked.Covered (rentFrom tenant).order :=
    ⟨.pending (rentFrom tenant) rentAsked.moment, by decide +kernel,
      ⟨rfl, rfl, rfl, by decide, rfl⟩⟩
  have considers : rentAsked.ledger.Considers (rentFrom tenant).order :=
    ⟨PaymentRequest.check_order_of_validate valid, by decide +kernel, by decide +kernel⟩
  have settled : (rentAsked.ledger.outcome (rentFrom tenant).order).1 = .settled := by
    decide +kernel
  have forgets : rentAsked.Forgets "may" := ⟨rfl, fun receipt ⟨_, live, _⟩ => nomatch live.found⟩
  obtain ⟨_, settlements, resubmitted⟩ :=
    spellings_told_apart respells valid otherValid audible Desk.directIntake
  refine ⟨(resubmitted (by decide +kernel) covered).2.mpr ⟨different, forgets⟩, fun same => ?_⟩
  rcases (settlements solvent_rentAsked (by decide +kernel) (by decide) .book).mp same with
    alike | ignored | ⟨error, _, refuses, _⟩
  · exact different alike
  · exact ignored considers
  · rw [Ledger.outcome_of_refuses solvent_rentAsked considers refuses] at settled
    cases settled

end World

end Clearing

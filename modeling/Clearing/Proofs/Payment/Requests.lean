import Clearing.Payment.Request
import Clearing.Proofs.Account.Spelling
import Clearing.Proofs.Except
import Clearing.Proofs.Money.Amount
import Clearing.Proofs.Text.Trimming
/-!
What a request is checked for.  A request is accepted exactly if it passes every check, and
otherwise the first check that it fails is reported.  A payment that was accepted passes the
checks as it stands, so checking it again changes nothing.
-/

namespace Clearing

/-- What a request is checked for. -/
inductive RequestCheck where
  | idPresent
  | idLength
  | keyPresent
  | sign
  | currency
  | precision
  | size
  | account (role : AccountRole)
  | distinct
deriving DecidableEq

/-- The checks in the order in which they are made. -/
def RequestCheck.all : List RequestCheck :=
  [.idPresent, .idLength, .keyPresent, .sign, .currency, .precision, .size, .account .source,
    .account .destination, .distinct]

namespace PaymentRequest

/-- The text that names an account of the payment. -/
def account (request : PaymentRequest) : AccountRole → String
  | .source => request.source
  | .destination => request.destination

/-- The currency that is meant, in any case and with blanks around it or not. -/
def Names (request : PaymentRequest) (currency : Currency) : Prop :=
  Text.upperText (Text.trim request.currency) = currency.code

/-- What it takes to pass a check. -/
def Passes (request : PaymentRequest) : RequestCheck → Prop
  | .idPresent => Text.trim request.id ≠ ""
  | .idLength => (Text.trim request.id).length ≤ maximumIdLength
  | .keyPresent => Text.trim request.idempotencyKey ≠ ""
  | .sign => 0 < request.amount.value
  | .currency => ∃ currency, request.Names currency
  | .precision => ∀ currency, request.Names currency →
      request.amount.WholeAt currency.minorUnits
  | .size => request.amount.value ≤ maximumAmount.value
  | .account role => IsAccountSpelling (request.account role).toList
  | .distinct => Text.lowerText request.source ≠ Text.lowerText request.destination

/-- What a client is told when a check is not passed. -/
inductive Reports (request : PaymentRequest) : RequestCheck → RequestError → Prop where
  | idPresent : Reports request .idPresent .missingId
  | idLength : Reports request .idLength .longId
  | keyPresent : Reports request .keyPresent .missingKey
  | sign : Reports request .sign (.money .notPositive)
  | currency : Reports request .currency (.money (.unsupportedCurrency request.currency))
  | precision (currency : Currency) :
      request.Names currency →
      Reports request .precision
        (.money (.tooPrecise request.amount.significantScale currency))
  | size : Reports request .size (.money .tooLarge)
  | account (role : AccountRole) :
      Reports request (.account role) (.badAccount role (request.account role))
  | distinct : Reports request .distinct .sameAccount

def PassesAll (request : PaymentRequest) (checks : List RequestCheck) : Prop :=
  ∀ check ∈ checks, request.Passes check

def FirstFailing (request : PaymentRequest) (check : RequestCheck) : Prop :=
  ∃ before after, RequestCheck.all = before ++ check :: after ∧ request.PassesAll before ∧
    ¬ request.Passes check

/-- What a payment takes from its request. -/
structure Gives (request : PaymentRequest) (payment : ValidPayment) : Prop where
  id_eq : payment.id = Text.trim request.id
  key_eq : payment.idempotencyKey = Text.trim request.idempotencyKey
  source_eq : payment.source.text = request.source
  destination_eq : payment.destination.text = request.destination
  currency : request.Names payment.currency
  amount_eq : payment.amount.value = request.amount

theorem Names.unique {request : PaymentRequest} {first second : Currency}
    (one : request.Names first) (other : request.Names second) : first = second := by
  have codes : first.code = second.code := one.symm.trans other
  cases first <;> cases second <;> first | rfl | exact absurd codes (by decide)

theorem Gives.unique {request : PaymentRequest} {first second : ValidPayment}
    (one : request.Gives first) (other : request.Gives second) : first = second := by
  obtain ⟨firstId, firstSource, firstDestination, firstCurrency, firstAmount, firstKey⟩ := first
  obtain ⟨id, source, destination, currency, amount, key⟩ := second
  cases one.currency.unique other.currency
  cases one.id_eq.trans other.id_eq.symm
  cases one.key_eq.trans other.key_eq.symm
  cases AccountId.ext_text (one.source_eq.trans other.source_eq.symm)
  cases AccountId.ext_text (one.destination_eq.trans other.destination_eq.symm)
  obtain ⟨firstValue, _, _, _⟩ := firstAmount
  obtain ⟨value, _, _, _⟩ := amount
  cases one.amount_eq.trans other.amount_eq.symm
  rfl

theorem Reports.unique {request : PaymentRequest} {check : RequestCheck}
    {first second : RequestError} (one : request.Reports check first)
    (other : request.Reports check second) : first = second := by
  cases one with
  | precision currency named =>
      cases other with
      | precision otherCurrency otherNamed => rw [named.unique otherNamed]
  | _ => cases other; rfl

open Classical in
theorem FirstFailing.find?_eq {request : PaymentRequest} {check : RequestCheck}
    (failing : request.FirstFailing check) :
    RequestCheck.all.find? (fun check => ¬ request.Passes check) = some check := by
  obtain ⟨before, after, split, passed, failed⟩ := failing
  exact List.find?_eq_some_iff_append.mpr
    ⟨by simpa using failed, before, after, split, by simpa [PassesAll] using passed⟩

theorem FirstFailing.unique {request : PaymentRequest} {first second : RequestCheck}
    (one : request.FirstFailing first) (other : request.FirstFailing second) :
    first = second :=
  Option.some.inj (one.find?_eq.symm.trans other.find?_eq)

theorem PassesAll.snoc {request : PaymentRequest} {checks : List RequestCheck}
    (passed : request.PassesAll checks) (check : RequestCheck) (next : request.Passes check) :
    request.PassesAll (checks ++ [check]) := by
  intro other member
  rcases List.mem_append.mp member with earlier | last
  · exact passed other earlier
  · rw [List.mem_singleton.mp last]
    exact next

theorem checkId_eq_ok_iff (id : String) (done : Unit) :
    checkId id = .ok done ↔ id ≠ "" ∧ id.length ≤ maximumIdLength := by
  simp only [checkId, ite_error_eq_ok_iff, not_lt, and_true, ne_eq]

theorem checkId_eq_error_iff (id : String) (error : RequestError) :
    checkId id = .error error ↔
      id = "" ∧ .missingId = error ∨
        id ≠ "" ∧ maximumIdLength < id.length ∧ .longId = error := by
  simp only [checkId, ite_error_eq_error_iff, reduceCtorEq, and_false, or_false, ne_eq]

theorem checkKey_eq_ok_iff (key : String) (done : Unit) :
    checkKey key = .ok done ↔ key ≠ "" := by
  simp only [checkKey, ite_error_eq_ok_iff, and_true, ne_eq]

theorem checkKey_eq_error_iff (key : String) (error : RequestError) :
    checkKey key = .error error ↔ key = "" ∧ .missingKey = error := by
  simp only [checkKey, ite_error_eq_error_iff, reduceCtorEq, and_false, or_false]

theorem checkSign_eq_ok_iff (amount : Decimal) (done : Unit) :
    checkSign amount = .ok done ↔ 0 < amount.value := by
  simp only [checkSign, ite_error_eq_ok_iff, and_true, Decimal.le_iff_value_le,
    Decimal.value_zero, not_le]

theorem checkSign_eq_error_iff (amount : Decimal) (error : RequestError) :
    checkSign amount = .error error ↔ ¬ 0 < amount.value ∧ .money .notPositive = error := by
  simp only [checkSign, ite_error_eq_error_iff, reduceCtorEq, and_false, or_false,
    Decimal.le_iff_value_le, Decimal.value_zero, not_lt]

end PaymentRequest

theorem AccountRole.parse_eq_ok_iff (role : AccountRole) (text : String) (account : AccountId) :
    role.parse text = .ok account ↔ account.text = text := by
  rw [← AccountId.parse_eq_some_iff]
  unfold parse
  cases AccountId.parse text <;> simp

theorem AccountRole.parse_eq_error_iff (role : AccountRole) (text : String)
    (error : RequestError) :
    role.parse text = .error error ↔
      ¬ IsAccountSpelling text.toList ∧ .badAccount role text = error := by
  rw [← AccountId.parse_eq_none_iff]
  unfold parse
  cases AccountId.parse text <;> simp

namespace PaymentRequest

variable {request : PaymentRequest} {payment : ValidPayment}

theorem passes_of_amount {currency : Currency} (named : request.Names currency)
    (amount : Amount currency) (same : amount.value = request.amount) :
    request.Passes .precision ∧ request.Passes .size := by
  constructor
  · intro other otherNamed
    cases named.unique otherNamed
    rw [← same, ← Decimal.significantScale_le_iff]
    exact amount.decimals_le
  · rw [Passes, ← same, ← Decimal.le_iff_value_le]
    exact amount.value_le

theorem passes_of_account {role : AccountRole} {account : AccountId}
    (same : account.text = request.account role) : request.Passes (.account role) := by
  rw [Passes, ← same]
  exact account.isAccountSpelling

/-- A request that is accepted passes every check, and gives the payment. -/
theorem passes_gives_of_validate_eq_ok (valid : request.validate = .ok payment) :
    (∀ check, request.Passes check) ∧ request.Gives payment := by
  simp only [validate, bind_eq_ok_iff, mapError_eq_ok_iff, checkId_eq_ok_iff, checkKey_eq_ok_iff,
    checkSign_eq_ok_iff, Currency.parse_eq_ok_iff, Amount.ofDecimal_eq_ok_iff,
    AccountRole.parse_eq_ok_iff, exists_const] at valid
  obtain ⟨⟨idPresent, idLength⟩, keyPresent, sign, currency, named, amount, same, source,
    sourceText, destination, destinationText, valid⟩ := valid
  split at valid
  · cases valid
  · rename_i distinct
    rw [AccountId.sameAccount_iff, sourceText, destinationText] at distinct
    obtain ⟨precision, size⟩ := passes_of_amount named amount same
    cases valid
    refine ⟨fun check => ?_, rfl, rfl, sourceText, destinationText, named, same⟩
    cases check with
    | idPresent => exact idPresent
    | idLength => exact idLength
    | keyPresent => exact keyPresent
    | sign => exact sign
    | currency => exact ⟨currency, named⟩
    | precision => exact precision
    | size => exact size
    | account role =>
        cases role with
        | source => exact passes_of_account sourceText
        | destination => exact passes_of_account destinationText
    | distinct => exact distinct

/-- A request that is refused is told of the first check that it does not pass. -/
theorem exists_firstFailing_of_validate_eq_error {error : RequestError}
    (refused : request.validate = .error error) :
    ∃ check, request.FirstFailing check ∧ request.Reports check error := by
  simp only [validate, bind_eq_error_iff, mapError_eq_error_iff, mapError_eq_ok_iff,
    checkId_eq_ok_iff, checkId_eq_error_iff, checkKey_eq_ok_iff, checkKey_eq_error_iff,
    checkSign_eq_ok_iff, checkSign_eq_error_iff, Currency.parse_eq_ok_iff,
    Currency.parse_eq_error_iff, Amount.ofDecimal_eq_ok_iff, Amount.ofDecimal_eq_error_iff,
    AccountRole.parse_eq_ok_iff, AccountRole.parse_eq_error_iff, exists_const] at refused
  -- What has been passed grows by the checks that a stage makes, and the rest goes on.
  have passed : request.PassesAll [] := nofun
  rcases refused with (⟨absent, rfl⟩ | ⟨idPresent, long, rfl⟩) | ⟨⟨idPresent, idLength⟩, refused⟩
  · exact ⟨.idPresent, ⟨_, _, rfl, passed, not_not.mpr absent⟩, .idPresent⟩
  · exact ⟨.idLength, ⟨_, _, rfl, passed.snoc .idPresent idPresent, not_le.mpr long⟩, .idLength⟩
  replace passed := (passed.snoc .idPresent idPresent).snoc .idLength idLength
  rcases refused with ⟨absent, rfl⟩ | ⟨keyPresent, refused⟩
  · exact ⟨.keyPresent, ⟨_, _, rfl, passed, not_not.mpr absent⟩, .keyPresent⟩
  replace passed := passed.snoc .keyPresent keyPresent
  rcases refused with ⟨unsigned, rfl⟩ | ⟨sign, refused⟩
  · exact ⟨.sign, ⟨_, _, rfl, passed, unsigned⟩, .sign⟩
  replace passed := passed.snoc .sign sign
  rcases refused with ⟨_, ⟨unnamed, rfl⟩, rfl⟩ | ⟨currency, named, refused⟩
  · exact ⟨.currency, ⟨_, _, rfl, passed, fun ⟨currency, named⟩ => unnamed currency named⟩,
      .currency⟩
  replace passed := passed.snoc .currency ⟨currency, named⟩
  rcases refused with ⟨_, fault, rfl⟩ | ⟨amount, same, refused⟩
  · rcases fault with ⟨unsigned, _⟩ | ⟨_, ⟨fine, rfl⟩ | ⟨whole, large, rfl⟩⟩
    · exact absurd sign unsigned
    · exact ⟨.precision, ⟨_, _, rfl, passed, fun whole => fine (whole currency named)⟩,
        .precision currency named⟩
    · refine ⟨.size, ⟨_, _, rfl, passed.snoc .precision fun other otherNamed => ?_, large⟩, .size⟩
      cases Names.unique named otherNamed
      exact whole
  obtain ⟨precision, size⟩ := passes_of_amount named amount same
  replace passed := (passed.snoc .precision precision).snoc .size size
  rcases refused with ⟨malformed, rfl⟩ | ⟨source, sourceText, refused⟩
  · exact ⟨.account .source, ⟨_, _, rfl, passed, malformed⟩, .account .source⟩
  replace passed := passed.snoc (.account .source) (passes_of_account sourceText)
  rcases refused with ⟨malformed, rfl⟩ | ⟨destination, destinationText, refused⟩
  · exact ⟨.account .destination, ⟨_, _, rfl, passed, malformed⟩, .account .destination⟩
  replace passed := passed.snoc (.account .destination) (passes_of_account destinationText)
  split at refused
  · rename_i same
    rw [AccountId.sameAccount_iff, sourceText, destinationText] at same
    cases refused
    exact ⟨.distinct, ⟨_, _, rfl, passed, not_not.mpr same⟩, .distinct⟩
  · cases refused

theorem validate_eq_ok_iff :
    request.validate = .ok payment ↔ (∀ check, request.Passes check) ∧ request.Gives payment := by
  refine ⟨passes_gives_of_validate_eq_ok, fun ⟨passes, gives⟩ => ?_⟩
  cases result : request.validate with
  | ok other => rw [(passes_gives_of_validate_eq_ok result).2.unique gives]
  | error error =>
      obtain ⟨check, ⟨_, _, _, _, failed⟩, _⟩ := exists_firstFailing_of_validate_eq_error result
      exact absurd (passes check) failed

theorem validate_eq_error_iff {error : RequestError} :
    request.validate = .error error ↔
      ∃ check, request.FirstFailing check ∧ request.Reports check error := by
  refine ⟨exists_firstFailing_of_validate_eq_error, ?_⟩
  rintro ⟨check, failing, reported⟩
  cases result : request.validate with
  | ok payment =>
      obtain ⟨_, _, _, _, failed⟩ := failing
      exact absurd ((passes_gives_of_validate_eq_ok result).1 check) failed
  | error other =>
      obtain ⟨otherCheck, otherFailing, otherReported⟩ :=
        exists_firstFailing_of_validate_eq_error result
      cases otherFailing.unique failing
      rw [otherReported.unique reported]

theorem of_validate_eq_ok (valid : request.validate = .ok payment) :
    Text.isBlankText payment.id = false ∧
      payment.source.text ≠ payment.destination.text := by
  obtain ⟨passes, gives⟩ := validate_eq_ok_iff.mp valid
  constructor
  · rw [gives.id_eq]
    exact Text.isBlankText_trim (passes .idPresent)
  · intro same
    rw [gives.source_eq, gives.destination_eq] at same
    exact passes .distinct (congrArg Text.lowerText same)

theorem taken_of_validate_eq_ok (valid : request.validate = .ok payment) :
    payment.id = Text.trim request.id ∧
      payment.idempotencyKey = Text.trim request.idempotencyKey ∧
      payment.amount.value = request.amount := by
  have gives := (validate_eq_ok_iff.mp valid).2
  exact ⟨gives.id_eq, gives.key_eq, gives.amount_eq⟩

end PaymentRequest

/-- The request for a payment as it was accepted. -/
def ValidPayment.toRequest (payment : ValidPayment) : PaymentRequest where
  id := payment.id
  source := payment.source.text
  destination := payment.destination.text
  amount := payment.amount.value
  currency := payment.currency.code
  idempotencyKey := payment.idempotencyKey

theorem Currency.upperText_trim_code (currency : Currency) :
    Text.upperText (Text.trim currency.code) = currency.code := by
  cases currency <;> decide

namespace PaymentRequest

variable {request : PaymentRequest} {payment : ValidPayment}

theorem Gives.toRequest (gives : request.Gives payment) : payment.toRequest.Gives payment where
  id_eq := by
    rw [ValidPayment.toRequest, gives.id_eq, Text.trim_trim]
  key_eq := by
    rw [ValidPayment.toRequest, gives.key_eq, Text.trim_trim]
  source_eq := rfl
  destination_eq := rfl
  currency := payment.currency.upperText_trim_code
  amount_eq := rfl

theorem Gives.passes_toRequest (gives : request.Gives payment)
    (passes : ∀ check, request.Passes check) (check : RequestCheck) :
    payment.toRequest.Passes check := by
  have again := gives.toRequest
  have amount := passes_of_amount again.currency payment.amount rfl
  cases check with
  | idPresent =>
      rw [Passes, ← again.id_eq, gives.id_eq]
      exact passes .idPresent
  | idLength =>
      rw [Passes, ← again.id_eq, gives.id_eq]
      exact passes .idLength
  | keyPresent =>
      rw [Passes, ← again.key_eq, gives.key_eq]
      exact passes .keyPresent
  | sign =>
      rw [Passes, ← again.amount_eq, gives.amount_eq]
      exact passes .sign
  | currency => exact ⟨payment.currency, again.currency⟩
  | precision => exact amount.1
  | size => exact amount.2
  | account role =>
      cases role with
      | source => exact passes_of_account again.source_eq
      | destination => exact passes_of_account again.destination_eq
  | distinct =>
      rw [Passes, ← again.source_eq, ← again.destination_eq, gives.source_eq,
        gives.destination_eq]
      exact passes .distinct

/--
A request is accepted exactly if it passes every check, and the payment has its id and its key
without blanks, its accounts and its amount as they are written, and the currency that it names.
Otherwise the first check that it does not pass is reported.  The request for a payment that was
accepted is accepted, and gives the same payment.
-/
theorem validation_exact (request : PaymentRequest) :
    ((∃ payment, request.validate = .ok payment) ↔ ∀ check, request.Passes check) ∧
    (∀ payment, request.validate = .ok payment ↔
      (∀ check, request.Passes check) ∧ request.Gives payment) ∧
    (∀ error, request.validate = .error error ↔
      ∃ check, request.FirstFailing check ∧ request.Reports check error) ∧
    ∀ payment, request.validate = .ok payment →
      payment.toRequest.validate = .ok payment := by
  refine ⟨⟨fun ⟨payment, valid⟩ => (validate_eq_ok_iff.mp valid).1, fun passes => ?_⟩,
    fun payment => validate_eq_ok_iff, fun error => validate_eq_error_iff,
    fun payment valid => ?_⟩
  · cases result : request.validate with
    | ok payment => exact ⟨payment, rfl⟩
    | error error =>
        obtain ⟨check, ⟨_, _, _, _, failed⟩, _⟩ := validate_eq_error_iff.mp result
        exact absurd (passes check) failed
  · obtain ⟨passes, gives⟩ := validate_eq_ok_iff.mp valid
    exact validate_eq_ok_iff.mpr ⟨gives.passes_toRequest passes, gives.toRequest⟩

end PaymentRequest

end Clearing

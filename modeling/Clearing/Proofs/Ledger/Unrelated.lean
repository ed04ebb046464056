import Clearing.Proofs.Ledger.Outcomes
/-!
Orders that have nothing to do with each other.  A transfer reads and writes the rows of its two
accounts and the decision of its payment, and nothing else.  So orders of different payments
between different accounts are answered as if each were the only one, in whatever order they
come.
-/

namespace Clearing

def TransferOrder.accounts (order : TransferOrder) : List String :=
  [order.source, order.destination]

/-- Two orders of different payments that have no account in common. -/
structure TransferOrder.Unrelated (left right : TransferOrder) : Prop where
  ids : left.id ≠ right.id
  accounts : left.accounts.Disjoint right.accounts

theorem TransferOrder.Unrelated.symm {left right : TransferOrder}
    (unrelated : left.Unrelated right) : right.Unrelated left :=
  ⟨unrelated.ids.symm, unrelated.accounts.symm⟩

namespace Ledger

def answers (ledger : Ledger) : List TransferOrder → List (Except LedgerError TransferOutcome)
  | [] => []
  | order :: rest => (ledger.transfer order).1 :: (ledger.transfer order).2.answers rest

def afterOrders (ledger : Ledger) (orders : List TransferOrder) : Ledger :=
  ledger.afterCalls (orders.map .transfer)

structure Alike (left right : Ledger) : Prop where
  accounts : ∀ id, left.account? id = right.account? id
  decisions : ∀ id, left.decisions.get? id = right.decisions.get? id
  online : left.online = right.online

/-- Two ledgers have the same about the accounts and the payment of an order. -/
structure AlikeFor (order : TransferOrder) (left right : Ledger) : Prop where
  accounts : ∀ id ∈ order.accounts, left.account? id = right.account? id
  decision : left.decisions.get? order.id = right.decisions.get? order.id
  online : left.online = right.online

theorem AlikeFor.trans {order : TransferOrder} {first second third : Ledger}
    (one : AlikeFor order first second) (other : AlikeFor order second third) :
    AlikeFor order first third where
  accounts id member := (one.accounts id member).trans (other.accounts id member)
  decision := one.decision.trans other.decision
  online := one.online.trans other.online

variable {ledger left right : Ledger} {order : TransferOrder}

theorem AlikeFor.moved_eq (alike : AlikeFor order left right) :
    left.moved order = right.moved order := by
  have source := alike.accounts order.source List.mem_cons_self
  have destination := alike.accounts order.destination
    (List.mem_cons_of_mem _ List.mem_cons_self)
  rw [moved, moved, source, destination]

theorem AlikeFor.decideOrder (alike : AlikeFor order left right) :
    (left.decideOrder order).1 = (right.decideOrder order).1 ∧
      AlikeFor order (left.decideOrder order).2 (right.decideOrder order).2 := by
  rw [Ledger.decideOrder, Ledger.decideOrder, alike.moved_eq]
  cases right.moved order with
  | error error =>
      refine ⟨rfl, alike.accounts, ?_, alike.online⟩
      dsimp only
      rw [Table.get?_insert, Table.get?_insert, alike.decision]
  | ok after =>
      refine ⟨rfl, fun id member => ?_, ?_, alike.online⟩
      · have same := alike.accounts id member
        dsimp only [account?] at same ⊢
        simp only [Table.get?_insert, same]
      · dsimp only
        rw [Table.get?_insert, Table.get?_insert, alike.decision]

theorem AlikeFor.transfer (alike : AlikeFor order left right) :
    (left.transfer order).1 = (right.transfer order).1 ∧
      AlikeFor order (left.transfer order).2 (right.transfer order).2 := by
  have called : AlikeFor order left.called right.called :=
    ⟨alike.accounts, alike.decision, alike.online⟩
  rw [transfer_eq, transfer_eq, alike.online, alike.decision]
  cases order.check with
  | error error => exact ⟨rfl, called⟩
  | ok =>
      cases right.online with
      | false => exact ⟨rfl, called⟩
      | true =>
          cases right.decisions.get? order.id with
          | some decision => exact ⟨rfl, called⟩
          | none => exact called.decideOrder

theorem Keyed.account?_transfer_of_not_mem (keyed : ledger.Keyed) {id : String}
    (outside : id ∉ order.accounts) :
    (ledger.transfer order).2.account? id = ledger.account? id := by
  rcases ledger.account?_transfer_eq_or keyed order id with kept | ⟨_, rfl | rfl⟩
  · exact kept
  · exact absurd List.mem_cons_self outside
  · exact absurd (List.mem_cons_of_mem _ List.mem_cons_self) outside

theorem decision_transfer_of_ne (ledger : Ledger) {id : String} (different : order.id ≠ id) :
    (ledger.transfer order).2.decisions.get? id = ledger.decisions.get? id := by
  rcases asked : ledger.transfer order with ⟨answer, after⟩
  refine Option.ext fun decision => ?_
  rw [decision_transfer_iff asked]
  exact or_iff_left fun ⟨same, _⟩ => different same

theorem Keyed.alikeFor_transfer (keyed : ledger.Keyed) {other : TransferOrder}
    (unrelated : order.Unrelated other) : AlikeFor other (ledger.transfer order).2 ledger where
  accounts _ member := keyed.account?_transfer_of_not_mem (unrelated.accounts · member)
  decision := ledger.decision_transfer_of_ne unrelated.ids
  online := online_transfer rfl

/-- What orders that have nothing to do with each other have made of a ledger. -/
structure LeftBy (before : Ledger) (orders : List TransferOrder) (after : Ledger) : Prop where
  ordered : ∀ order ∈ orders, AlikeFor order after (before.transfer order).2
  rows_kept : ∀ id, (∀ order ∈ orders, id ∉ order.accounts) →
    after.account? id = before.account? id
  decisions_kept : ∀ id, (∀ order ∈ orders, order.id ≠ id) →
    after.decisions.get? id = before.decisions.get? id
  online_eq : after.online = before.online

/-- Unrelated orders are answered, and leave the ledger, as if each were the only one. -/
theorem Keyed.answers_unrelated (keyed : ledger.Keyed) {orders : List TransferOrder}
    (unrelated : orders.Pairwise TransferOrder.Unrelated) :
    ledger.answers orders = orders.map (fun order => (ledger.transfer order).1) ∧
      ledger.LeftBy orders (ledger.afterOrders orders) := by
  induction orders generalizing ledger with
  | nil =>
      exact ⟨rfl, nofun, fun _ _ => rfl, fun _ _ => rfl, rfl⟩
  | cons order rest inductionHypothesis =>
      obtain ⟨apart, unrelated⟩ := List.pairwise_cons.mp unrelated
      obtain ⟨answered, left⟩ := inductionHypothesis (keyed.transfer order) unrelated
      have alone (other : TransferOrder) (member : other ∈ rest) :
          AlikeFor other (ledger.transfer order).2 ledger :=
        keyed.alikeFor_transfer (apart other member)
      refine ⟨?_, List.forall_mem_cons.mpr ⟨?_, fun other member => ?_⟩, fun id outside => ?_,
        fun id fresh => ?_, ?_⟩
      · rw [answers, answered, List.map_cons]
        exact congrArg _ (List.map_congr_left fun other member => (alone other member).transfer.1)
      · exact
          { accounts := fun id member => left.rows_kept id fun other others shared =>
              (apart other others).accounts member shared
            decision := left.decisions_kept order.id fun other others same =>
              (apart other others).ids same.symm
            online := left.online_eq }
      · exact (left.ordered other member).trans (alone other member).transfer.2
      · obtain ⟨outsideOrder, outsideRest⟩ := List.forall_mem_cons.mp outside
        exact (left.rows_kept id outsideRest).trans
          (keyed.account?_transfer_of_not_mem outsideOrder)
      · obtain ⟨freshOrder, freshRest⟩ := List.forall_mem_cons.mp fresh
        exact (left.decisions_kept id freshRest).trans (ledger.decision_transfer_of_ne freshOrder)
      · exact left.online_eq.trans (online_transfer rfl)

/-- What unrelated orders have made of a ledger does not depend on how they were arranged. -/
theorem LeftBy.alike {orders others : List TransferOrder} (first : ledger.LeftBy orders left)
    (second : ledger.LeftBy others right) (same : ∀ order, order ∈ orders ↔ order ∈ others) :
    Alike left right where
  accounts id := by
    by_cases named : ∃ order ∈ orders, id ∈ order.accounts
    · obtain ⟨order, member, touched⟩ := named
      rw [(first.ordered order member).accounts id touched,
        (second.ordered order ((same order).mp member)).accounts id touched]
    · have untouched (order : TransferOrder) (member : order ∈ orders) : id ∉ order.accounts :=
        fun touched => named ⟨order, member, touched⟩
      rw [first.rows_kept id untouched,
        second.rows_kept id fun order member => untouched order ((same order).mpr member)]
  decisions id := by
    by_cases named : ∃ order ∈ orders, order.id = id
    · obtain ⟨order, member, rfl⟩ := named
      rw [(first.ordered order member).decision,
        (second.ordered order ((same order).mp member)).decision]
    · have fresh (order : TransferOrder) (member : order ∈ orders) : order.id ≠ id :=
        fun of => named ⟨order, member, of⟩
      rw [first.decisions_kept id fresh,
        second.decisions_kept id fun order member => fresh order ((same order).mpr member)]
  online := first.online_eq.trans second.online_eq.symm

/--
Unrelated orders get the same answers in whatever order they come, namely those that each would
get if it were the only one, and they leave the same rows and the same decisions behind.
-/
theorem unrelated_orders_permute (events : List LedgerEvent) {orders shuffled : List TransferOrder}
    (unrelated : orders.Pairwise TransferOrder.Unrelated) (permuted : orders.Perm shuffled) :
    let ledger := empty.after events
    ledger.answers orders = orders.map (fun order => (ledger.transfer order).1) ∧
      ledger.answers shuffled = shuffled.map (fun order => (ledger.transfer order).1) ∧
      (ledger.afterOrders orders).Alike (ledger.afterOrders shuffled) := by
  intro ledger
  have keyed : ledger.Keyed := fun id account found =>
    (solvent_empty.after events id account found).id_eq
  have apart : shuffled.Pairwise TransferOrder.Unrelated :=
    (permuted.pairwise_iff TransferOrder.Unrelated.symm).mp unrelated
  obtain ⟨answered, left⟩ := keyed.answers_unrelated unrelated
  obtain ⟨shuffledAnswered, shuffledLeft⟩ := keyed.answers_unrelated apart
  exact ⟨answered, shuffledAnswered, left.alike shuffledLeft fun order => permuted.mem_iff⟩

/-- Four accounts with as much money as the small order moves. -/
def fourAccounts : List LedgerEvent :=
  ["a", "b", "c", "d"].map fun id =>
    .openAccount
      { id
        currency := .dollar
        balance := smallOrder.amount }

/-- An order for more money than there is, between the other two accounts. -/
def largerOrder : TransferOrder where
  id := "p2"
  source := "c"
  destination := "d"
  amount := maximumAmount
  currency := .dollar

theorem unrelated_smallOrder_largerOrder : smallOrder.Unrelated largerOrder where
  ids := by decide
  accounts := by simp [TransferOrder.accounts, smallOrder, largerOrder]

theorem unrelated_orders_permute_fourAccounts :
    let ledger := empty.after fourAccounts
    [smallOrder, largerOrder].Pairwise TransferOrder.Unrelated ∧
      [smallOrder, largerOrder].Perm [largerOrder, smallOrder] ∧
      (∃ payer payee, ledger.answers [largerOrder, smallOrder] =
        [.error (.insufficientFunds smallOrder.amount largerOrder.amount),
          .ok (.applied payer payee)]) ∧
      (ledger.afterOrders [smallOrder, largerOrder]).Alike
        (ledger.afterOrders [largerOrder, smallOrder]) := by
  have unrelated : [smallOrder, largerOrder].Pairwise TransferOrder.Unrelated :=
    List.pairwise_pair.mpr unrelated_smallOrder_largerOrder
  have permuted : [smallOrder, largerOrder].Perm [largerOrder, smallOrder] :=
    List.Perm.swap _ _ _
  obtain ⟨_, answered, alike⟩ := unrelated_orders_permute fourAccounts unrelated permuted
  exact ⟨unrelated, permuted, ⟨_, _, answered.trans rfl⟩, alike⟩

end Ledger

end Clearing

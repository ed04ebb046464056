import Clearing.Settlement.Delivery
/-!
Members of a group that settles payments.  A member fetches a message,
delivers it and commits its offset, whatever the disposition.  A member that
is lost with a message in hand has not committed it, so the message comes
again to whoever joins the group next.
-/

namespace Clearing

/-- What a member is at. -/
inductive MemberTask where
  | idle
  | delivering (message : InboundMessage) (delivery : Delivery)
deriving DecidableEq

structure Member where
  consumer : Consumer
  stats : SettlementStats
  task : MemberTask
deriving DecidableEq

namespace Member

def join (group topic : String) : Member where
  consumer := .join group topic
  stats := .zero
  task := .idle

/-- Fetch once without taking what comes up into hand. -/
def fetch (member : Member) (broker : Broker) :
    Except BusError (Option InboundMessage) × Member :=
  let (result, consumer) := member.consumer.fetch broker
  (result, { member with consumer := consumer })

/-- What one step of a member came to. -/
inductive Progress where
  /-- Something has been done, and there may be more to do at once. -/
  | moved
  /-- There is no message yet. -/
  | waiting
  /-- The broker refused to give out messages. -/
  | failed (error : BusError)
deriving DecidableEq

/-- Commit the message in hand, counting a failure. -/
def commit (member : Member) (world : World) (message : InboundMessage) :
    Member × World :=
  match world.commit member.consumer.group message with
  | (.ok (), world) => ({ member with task := .idle }, world)
  | (.error _, world) =>
      ({ member with
          task := .idle
          stats := member.stats.countCommitFailure }, world)

/--
Take one step: fetch a message, do the next thing about the message in hand,
or commit it once its disposition is known.
-/
def step (sink : StatusSink) (world : World) (member : Member) :
    Progress × Member × World :=
  match member.task with
  | .idle =>
      match member.fetch world.broker with
      | (.error error, member) => (.failed error, member, world)
      | (.ok none, member) => (.waiting, member, world)
      | (.ok (some message), member) =>
          (.moved,
            { member with
              task := .delivering message (Delivery.begin message.payload) },
            world)
  | .delivering message (.running stage) =>
      let (delivery, world) := Delivery.step sink world stage
      let stats :=
        match delivery with
        | .answered disposition => member.stats.count disposition
        | .running _ => member.stats
      (.moved,
        { member with
          task := .delivering message delivery
          stats := stats }, world)
  | .delivering message (.answered _) =>
      let (member, world) := member.commit world message
      (.moved, member, world)

end Member

end Clearing

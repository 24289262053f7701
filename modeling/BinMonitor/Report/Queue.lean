import BinMonitor.Fault
import BinMonitor.Report.Basic
import BinMonitor.Signals

/-! Reports waiting to be sent. They are queued as JSON text and handed to the uplink one at a
time, oldest first; one that could not be sent goes back to the front. -/

namespace BinMonitor

/-- What became of a payload handed to the uplink. -/
inductive Delivery where
  | answered (status : UInt16)
  | unanswered
  | failed
deriving DecidableEq

def Delivery.text : Delivery → String
  | answered status => "Answered(" ++ toString status.toNat ++ ")"
  | unanswered => "Unanswered"
  | failed => "Failed"

class Uplink (υ : Type) where
  publish : υ → (event payload : String) → Delivery × υ

/-- Sends to a console and answers 200. -/
structure ConsoleUplink where

instance : Uplink ConsoleUplink where
  publish u _ _ := (.answered 200, u)

structure ReportQueue (υ : Type) where
  capacity : Nat
  pending : List String := []
  uplink : υ
  ack : AckSlot := {}

namespace ReportQueue

/-- The largest payload in bytes. -/
def payloadCapacity : Nat := 256

variable {υ : Type} [Uplink υ]

def enqueue (q : ReportQueue υ) (r : Report) : Except TelemetryError Unit × ReportQueue υ :=
  let payload := r.json
  if payloadCapacity < payload.utf8ByteSize then (.error .encode, q)
  else if q.capacity ≤ q.pending.length then (.error .queueFull, q)
  else (.ok (), { q with pending := q.pending ++ [payload] })

/-- Puts a payload in front of the others, and says whether there was room for it. -/
def putBack (q : ReportQueue υ) (payload : String) : Bool × ReportQueue υ :=
  if q.pending.length < q.capacity then (true, { q with pending := payload :: q.pending })
  else (false, q)

def service (q : ReportQueue υ) : ReportQueue υ :=
  match q.pending with
  | [] => q
  | payload :: rest =>
    let (delivery, uplink) := Uplink.publish q.uplink Report.event payload
    match delivery with
    | .answered status => { q with pending := rest, uplink, ack := q.ack.answer status }
    | .unanswered => { q with pending := rest, uplink }
    | .failed => ({ q with pending := rest, uplink }.putBack payload).2

def takeAck (q : ReportQueue υ) : Option UInt16 × ReportQueue υ :=
  let (status, ack) := q.ack.take
  (status, { q with ack })

end ReportQueue

end BinMonitor

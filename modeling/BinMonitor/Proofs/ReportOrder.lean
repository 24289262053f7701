import BinMonitor.Proofs.ReportsInFlight

/-! The order of reports. What the uplink was handed is noted by an uplink around it, which changes nothing
else. What was sent and what still waits, one after the other, is then what was queued: this is kept by every
use of a queue that is not over its capacity. A payload that was just taken out always has its place back. -/

namespace BinMonitor

namespace Delivery

def sent : Delivery → Bool
  | failed => false
  | _ => true

def status? : Delivery → Option UInt16
  | answered status => some status
  | _ => none

end Delivery

structure Handover where
  event : String
  payload : String
  delivery : Delivery
deriving DecidableEq

/-- An uplink and what it was handed so far, in order. -/
structure Recorder (υ : Type) where
  uplink : υ
  handed : List Handover := []

namespace Recorder

variable {υ : Type}

instance [Uplink υ] : Uplink (Recorder υ) where
  publish r event payload :=
    let (delivery, uplink) := Uplink.publish r.uplink event payload
    (delivery, { uplink, handed := r.handed ++ [{ event, payload, delivery }] })

def sent (r : Recorder υ) : List String :=
  (r.handed.filter fun handover => handover.delivery.sent).map Handover.payload

section Publish

variable [Uplink υ] (r : Recorder υ) (event payload : String)

theorem publish_delivery :
    (Uplink.publish r event payload).1 = (Uplink.publish r.uplink event payload).1 := rfl

theorem publish_handed : (Uplink.publish r event payload).2.handed =
    r.handed ++ [⟨event, payload, (Uplink.publish r.uplink event payload).1⟩] := rfl

theorem publish_sent : (Uplink.publish r event payload).2.sent =
    r.sent ++ if (Uplink.publish r.uplink event payload).1.sent then [payload] else [] := by
  rw [sent, sent, publish_handed, List.filter_append, List.map_append]
  cases delivered : (Uplink.publish r.uplink event payload).1.sent <;> simp [delivered]

end Publish

end Recorder

namespace ReportQueue

inductive Use where
  | enqueue (report : Report)
  | service
  | takeAck

section Uses

variable {υ : Type} [Uplink υ] (q : ReportQueue υ)

def use : Use → ReportQueue υ
  | .enqueue report => (q.enqueue report).2
  | .service => q.service
  | .takeAck => q.takeAck.2

def after (uses : List Use) : ReportQueue υ := uses.foldl use q

def taken : Use → Option String
  | .enqueue report =>
    match (q.enqueue report).1 with
    | .ok () => some report.json
    | .error _ => none
  | .service => none
  | .takeAck => none

def accepted (q : ReportQueue υ) : List Use → List String
  | [] => []
  | next :: rest => (q.taken next).toList ++ (q.use next).accepted rest

variable {q} {payload : String} {rest : List String}

omit [Uplink υ] in
theorem putBack_eq (room : rest.length < q.capacity) (uplink : υ) :
    { q with pending := rest, uplink }.putBack payload =
      (true, { q with pending := payload :: rest, uplink }) := by
  -- there is room for a payload that was taken out
  rw [putBack, if_pos room]

omit [Uplink υ] in
theorem enqueue_eq_ok {report : Report} : (q.enqueue report).1 = .ok () ↔
    report.json.utf8ByteSize ≤ payloadCapacity ∧ q.pending.length < q.capacity := by
  unfold enqueue
  dsimp only
  split
  · rename_i long
    exact ⟨nofun, fun h => absurd h.1 (Nat.not_le_of_lt long)⟩
  · rename_i short
    split
    · rename_i full
      exact ⟨nofun, fun h => absurd h.2 (Nat.not_lt_of_le full)⟩
    · rename_i room
      exact ⟨fun _ => ⟨Nat.le_of_not_lt short, Nat.lt_of_not_le room⟩, fun _ => rfl⟩

theorem service_eq (waits : q.pending = payload :: rest) (room : rest.length < q.capacity) :
    let delivery := (Uplink.publish q.uplink Report.event payload).1
    q.service =
      { q with
        pending := if delivery.sent then rest else q.pending
        uplink := (Uplink.publish q.uplink Report.event payload).2
        ack := delivery.status?.elim q.ack q.ack.answer } := by
  intro delivery
  unfold service
  rw [waits]
  dsimp only
  cases delivered : (Uplink.publish q.uplink Report.event payload).1 with
  | answered status => simp [delivery, delivered, Delivery.sent, Delivery.status?]
  | unanswered => simp [delivery, delivered, Delivery.sent, Delivery.status?]
  | failed =>
    rw [putBack_eq room]
    simp [delivery, delivered, Delivery.sent, Delivery.status?]

theorem service_idle (idle : q.pending = []) : q.service = q := by
  unfold service
  rw [idle]

theorem use_capacity (next : Use) : (q.use next).capacity = q.capacity := by
  cases next with
  | enqueue report =>
    rcases q.enqueue_cases report with taken | ⟨e, refused⟩
    · rw [use, taken]
    · rw [use, refused]
  | service =>
    change q.service.capacity = q.capacity
    unfold service putBack
    split
    · rfl
    · dsimp only
      split
      · rfl
      · rfl
      · split <;> rfl
  | takeAck => rfl

theorem after_capacity (uses : List Use) : (q.after uses).capacity = q.capacity := by
  induction uses generalizing q with
  | nil => rfl
  | cons next rest ih => exact ih.trans (use_capacity next)

end Uses

section Recorded

variable {υ : Type}

def recorded (q : ReportQueue υ) : ReportQueue (Recorder υ) :=
  { q with uplink := { uplink := q.uplink } }

def plain (q : ReportQueue (Recorder υ)) : ReportQueue υ := { q with uplink := q.uplink.uplink }

variable {q : ReportQueue (Recorder υ)}

theorem enqueue_plain (report : Report) :
    q.plain.enqueue report = ((q.enqueue report).1, (q.enqueue report).2.plain) := by
  unfold enqueue
  dsimp only
  split
  · rfl
  · split
    · rw [if_pos ‹_›]
    · rw [if_neg ‹_›]
      rfl

theorem putBack_plain (payload : String) : (q.putBack payload).2.plain = (q.plain.putBack payload).2 := by
  unfold putBack
  split
  · rw [if_pos ‹_›]
    rfl
  · rw [if_neg ‹_›]

theorem taken_plain (next : Use) : q.plain.taken next = q.taken next := by
  cases next with
  | enqueue report => rw [taken, taken, enqueue_plain]
  | service => rfl
  | takeAck => rfl

variable [Uplink υ]

theorem service_plain : q.service.plain = q.plain.service := by
  unfold service
  rw [show q.plain.pending = q.pending from rfl, show q.plain.uplink = q.uplink.uplink from rfl]
  cases q.pending with
  | nil => rfl
  | cons payload rest =>
    dsimp only
    rw [Recorder.publish_delivery]
    cases (Uplink.publish q.uplink.uplink Report.event payload).1 with
    | answered status => rfl
    | unanswered => rfl
    | failed => exact putBack_plain payload

theorem use_plain (next : Use) : (q.use next).plain = q.plain.use next := by
  cases next with
  | enqueue report => rw [use, use, enqueue_plain]
  | service => exact service_plain
  | takeAck => rfl

theorem after_plain (uses : List Use) : (q.after uses).plain = q.plain.after uses := by
  induction uses generalizing q with
  | nil => rfl
  | cons next rest ih =>
    refine ih.trans ?_
    rw [use_plain]
    rfl

theorem accepted_plain (uses : List Use) : q.plain.accepted uses = q.accepted uses := by
  induction uses generalizing q with
  | nil => rfl
  | cons next rest ih => rw [accepted, accepted, taken_plain, ← use_plain, ih]

/-- What was sent and what waits, up to the capacity, is what was queued. -/
structure InOrder (q : ReportQueue (Recorder υ)) (queued : List String) : Prop where
  order : q.uplink.sent ++ q.pending = queued
  bounded : q.pending.length ≤ q.capacity

variable {queued : List String}

theorem InOrder.enqueue (held : q.InOrder queued) (report : Report) :
    (q.use (.enqueue report)).InOrder (queued ++ (q.taken (.enqueue report)).toList) := by
  rcases q.enqueue_cases report with taken | ⟨e, refused⟩
  · rw [ReportQueue.use, ReportQueue.taken, taken]
    constructor
    · rw [← held.order]
      exact (List.append_assoc _ _ _).symm
    · rw [List.length_append]
      exact (enqueue_eq_ok.mp (congrArg Prod.fst taken)).2
  · rw [ReportQueue.use, ReportQueue.taken, refused, Option.toList_none, List.append_nil]
    exact held

theorem InOrder.service (held : q.InOrder queued) : q.service.InOrder queued := by
  cases waits : q.pending with
  | nil => rwa [service_idle waits]
  | cons payload rest =>
    have room : rest.length < q.capacity := by
      have bounded := held.bounded
      rwa [waits] at bounded
    have order := held.order
    rw [service_eq waits room]
    constructor
    · dsimp only
      rw [Recorder.publish_sent, Recorder.publish_delivery]
      split
      · rw [List.append_assoc, List.singleton_append, ← waits, order]
      · rw [List.append_nil, order]
    · dsimp only
      split
      · exact Nat.le_of_lt room
      · exact held.bounded

theorem InOrder.use (held : q.InOrder queued) (next : Use) :
    (q.use next).InOrder (queued ++ (q.taken next).toList) := by
  cases next with
  | enqueue report => exact held.enqueue report
  | service =>
    rw [taken, Option.toList_none, List.append_nil]
    exact held.service
  | takeAck =>
    rw [taken, Option.toList_none, List.append_nil]
    exact ⟨held.order, held.bounded⟩

theorem InOrder.after (held : q.InOrder queued) (uses : List Use) :
    (q.after uses).InOrder (queued ++ q.accepted uses) := by
  induction uses generalizing q queued with
  | nil => rwa [accepted, List.append_nil]
  | cons next rest ih =>
    rw [accepted, ← List.append_assoc]
    exact ih (held.use next)

variable (q) in
/-- What one service does with the oldest payload, if any waits. -/
structure Serves : Prop where
  idle : q.pending = [] → q.service = q
  /-- It is the one payload handed over. -/
  handed : ∀ payload rest, q.pending = payload :: rest →
    q.service.uplink.handed = q.uplink.handed ++
      [⟨Report.event, payload, (Uplink.publish q.uplink.uplink Report.event payload).1⟩]
  /-- It leaves the queue if it is sent. -/
  left : ∀ payload rest, q.pending = payload :: rest →
    q.service.pending =
      if (Uplink.publish q.uplink.uplink Report.event payload).1.sent then rest else payload :: rest
  /-- Whatever was answered before, a status is passed on if and only if it answers this payload. -/
  answered : ∀ payload rest, q.pending = payload :: rest → ∀ slot,
    { q with ack := slot }.service.ack =
      match (Uplink.publish q.uplink.uplink Report.event payload).1 with
      | .answered status => slot.answer status
      | .unanswered | .failed => slot
  /-- There is room for it, whatever became of the uplink. -/
  room : ∀ payload rest, q.pending = payload :: rest → ∀ uplink : Recorder υ,
    ({ q with pending := rest, uplink }.putBack payload).1 = true

theorem InOrder.serves (held : q.InOrder queued) : q.Serves := by
  have fits {payload : String} {rest : List String} (waits : q.pending = payload :: rest) :
      rest.length < q.capacity := by
    have bounded := held.bounded
    rwa [waits] at bounded
  constructor
  · exact service_idle
  · intro payload rest waits
    rw [service_eq waits (fits waits)]
    rfl
  · intro payload rest waits
    rw [service_eq waits (fits waits), ← waits]
    rfl
  · intro payload rest waits slot
    have answers := service_eq (q := { q with ack := slot }) waits (fits waits)
    rw [answers]
    dsimp only
    rw [Recorder.publish_delivery]
    cases (Uplink.publish q.uplink.uplink Report.event payload).1 <;> rfl
  · intro payload rest waits uplink
    rw [putBack_eq (fits waits)]

/-- However a queue is used, and whatever becomes of what it hands over: the payloads sent and those that
wait, one after the other, are the payloads queued, and never more than the capacity wait. A report is
queued if it is short enough and there is room; refused, it leaves the queue as it is. The next service hands
over the oldest payload. -/
theorem queue_keeps_order (capacity : Nat) (uplink : υ) (ack : AckSlot) (uses : List Use) :
    let start : ReportQueue υ := { capacity, uplink, ack }
    let q := start.recorded.after uses
    q.plain = start.after uses ∧
      q.uplink.sent ++ q.pending = start.accepted uses ∧
      q.pending.length ≤ capacity ∧
      (∀ report, (q.enqueue report).1 = .ok () ↔
        report.json.utf8ByteSize ≤ payloadCapacity ∧ q.pending.length < capacity) ∧
      (∀ report e, (q.enqueue report).1 = .error e → (q.enqueue report).2 = q) ∧
      q.Serves := by
  intro start q
  have empty : start.recorded.InOrder [] := ⟨rfl, Nat.zero_le _⟩
  have held := empty.after uses
  have order := held.order
  have bounded := held.bounded
  rw [List.nil_append, ← accepted_plain] at order
  have capacity : q.capacity = capacity := after_capacity uses
  rw [capacity] at bounded
  refine ⟨after_plain uses, order, bounded, fun report => ?_, fun report e refused => ?_, held.serves⟩
  · rw [enqueue_eq_ok, capacity]
  · rcases q.enqueue_cases report with taken | ⟨why, kept⟩
    · rw [taken] at refused
      cases refused
    · rw [kept]

end Recorded

end ReportQueue

end BinMonitor

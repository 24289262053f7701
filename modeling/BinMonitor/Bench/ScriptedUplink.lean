import BinMonitor.Report.Queue

/-! An uplink that answers as it is told, 200 when there is nothing left to tell, and notes what
it was given. -/

namespace BinMonitor.Bench

structure ScriptedUplink where
  outcomes : List Delivery := []
  /-- Event and payload, in order. -/
  sent : List (String × String) := []

instance : Uplink ScriptedUplink where
  publish u event payload :=
    (u.outcomes.headD (.answered 200),
      { outcomes := u.outcomes.drop 1, sent := u.sent ++ [(event, payload)] })

end BinMonitor.Bench

import NdsStorage.Client.SendProgress

/-! What the polls of the host come to, told by the library's answers and by
the reports that have been written when they are made. A call takes the oldest
reports, so credits and statuses can be read off the order in which reports
appear. -/
namespace NdsStorage.Client

/-- The reports of a send queue: the statuses of those that are written and not
yet polled, and the number of those to come. -/
structure Reports where
  written : List UInt8
  owed : Nat

def QueueSide.reports (side : QueueSide) : Reports where
  written := side.ready.map Cqe.status
  owed := side.awaiting.length

namespace Reports

end Reports

/-- The library answers the poll with a number of completions. -/
def RaPoll.Answered : RaPoll → Prop
  | .polled _ _ => True
  | .invalid _ => False

section Polls

variable {qp : TransportQp}

end Polls

section Credits

variable {first : RaPoll} {qp : TransportQp}

end Credits

end NdsStorage.Client

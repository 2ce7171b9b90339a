/-!
Reply loops.  Whoever posts to a loop leaves a delivery there; whoever owns it runs deliveries in
the order in which they were posted.
-/

namespace TokenAcquisition.Dispatch

/-- Deliveries waiting for the owner of a loop. -/
structure ReplyLoop (α : Type) where
  waiting : List α := []
  /-- How many can still post. -/
  senders : Nat := 1
  isOpen : Bool := true

namespace ReplyLoop

variable {α : Type}

/-- Leaves a delivery; without sender or owner it is dropped. -/
def post (loop : ReplyLoop α) (delivery : α) : ReplyLoop α :=
  if loop.isOpen && loop.senders != 0 then { loop with waiting := loop.waiting ++ [delivery] }
  else loop

inductive Turn (α : Type) where
  | ran (delivery : α)
  /-- Nothing is there, but more may come. -/
  | waiting
  /-- Nothing is there and nothing more can come. -/
  | ended
  | closed

def runOnce (loop : ReplyLoop α) : Turn α × ReplyLoop α :=
  if !loop.isOpen then (.closed, loop)
  else
    match loop.waiting with
    | delivery :: rest => (.ran delivery, { loop with waiting := rest })
    | [] => (if loop.senders = 0 then .ended else .waiting, loop)

/-- Takes all deliveries, and tells whether nothing more can come.  The loop is used up. -/
def run (loop : ReplyLoop α) : List α × Bool × ReplyLoop α :=
  (loop.waiting, decide (loop.senders = 0), { loop with waiting := [], isOpen := false })

def cloneSender (loop : ReplyLoop α) : ReplyLoop α :=
  if loop.senders = 0 then loop else { loop with senders := loop.senders + 1 }

def dropSender (loop : ReplyLoop α) : ReplyLoop α :=
  { loop with senders := loop.senders - 1 }

def close (loop : ReplyLoop α) : ReplyLoop α :=
  { loop with waiting := [], isOpen := false }

end ReplyLoop

end TokenAcquisition.Dispatch

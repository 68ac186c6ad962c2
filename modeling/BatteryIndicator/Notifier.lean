import BatteryIndicator.Effect
/-!
# Notifier — messages, and a fallback for good

A message goes to the primary channel until that fails once; then it goes to the fallback, and so do all later ones.  A
channel that fails has noted the message before it fails.
-/
namespace BatteryIndicator

structure Message where
  title : String
  body : String
deriving DecidableEq, Inhabited

/-- A way to show messages, with the messages it was given. -/
structure Channel where
  fails : Bool
  messages : List Message
deriving DecidableEq, Inhabited

namespace Channel

def new (fails : Bool) : Channel := ⟨fails, []⟩

def give (m : Message) (c : Channel) : Channel := { c with messages := c.messages ++ [m] }

end Channel

/-- The channels, and whether the primary one is no longer, or was never, in use. -/
structure Notifier where
  primary : Option Channel
  fallback : Channel
  usingFallback : Bool
deriving DecidableEq, Inhabited

namespace Notifier

def new (primary : Option Channel) (fallback : Channel) : Notifier := ⟨primary, fallback, primary.isNone⟩

/-- Gives the message to the fallback. -/
def notifyFallback (m : Message) (n : Notifier) : Option Failure × Notifier :=
  (if n.fallback.fails then some .notDelivered else none,
    { n with fallback := n.fallback.give m, usingFallback := true })

/-- Delivers a message; it fails only when the fallback does. -/
def notify (m : Message) (n : Notifier) : Option Failure × Notifier × List Effect :=
  match n.usingFallback, n.primary with
  | false, some c =>
    let n := { n with primary := some (c.give m) }
    if c.fails then
      let r := n.notifyFallback m
      (r.1, r.2, [.warning ("Notification failed (" ++ Failure.notDelivered.message ++ "); falling back to dialogs")])
    else (none, n, [])
  | _, _ =>
    let r := n.notifyFallback m
    (r.1, r.2, [])

/-- Forgets the messages of both channels. -/
def forget (n : Notifier) : Notifier :=
  { n with primary := n.primary.map fun c => { c with messages := [] }, fallback := { n.fallback with messages := [] } }

end Notifier
end BatteryIndicator

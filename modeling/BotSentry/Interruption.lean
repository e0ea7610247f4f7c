import BotSentry.Http.Location
import BotSentry.Pattern.Compiled
import BotSentry.Peer.Transfer
import BotSentry.Text.Quoted
import BotSentry.Time.DateTime

/-!
# Interruptions

What can end an operation before it has a result: faults that no part of the library takes for its
own.
-/

namespace BotSentry

/-- A fault of the host's own application. -/
structure AppFault where
  name : String
  message : String
  deriving DecidableEq, Repr

inductive Interruption where
  /-- A pattern was refused for another reason than a malformed text. -/
  | pattern (refusal : Pattern.Refusal)
  | time (fault : TimeFault)
  | transfer (fault : TransferFault)
  | cache (reason : String)
  | location (fault : LocationFault)
  | surrogates (fault : Text.EncodeFault)
  | app (fault : AppFault)
  /-- A key outside ASCII cannot be compared. -/
  | foreignKey
  /-- A document nests too deeply. -/
  | tooDeep (message : String)
  | timedOut

namespace Interruption

def message : Interruption → String
  | pattern refusal => refusal.message []
  | time fault => fault.message
  | transfer fault => fault.message
  | cache reason => reason
  | location fault => fault.message
  | surrogates fault => fault.message
  | app fault => fault.message
  | foreignKey => "comparing strings with non-ASCII characters is not supported"
  | tooDeep message => message
  | timedOut => ""

end Interruption

end BotSentry

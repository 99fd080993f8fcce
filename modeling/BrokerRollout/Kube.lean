import BrokerRollout.Kube.Exec
import BrokerRollout.Kube.Store

/-!
# A cluster behind an API server

The store and the endpoint of a live run go over one transport.
-/

namespace BrokerRollout.Kube

def backend {σ : Type} (t : Transport σ) : Backend σ where
  store := store t
  endpoint := endpoint t

end BrokerRollout.Kube

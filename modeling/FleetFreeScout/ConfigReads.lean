import FleetFreeScout.Interleaving

namespace FleetFreeScout.Worker

open Externalsvc

section

variable (matchWithIntegrations : TeamIntegrations → Integrations → Except String Integrations)
  (ds₀ : Datastore) (es : List Event) (i : Nat)

end

section

variable {matchWithIntegrations : TeamIntegrations → Integrations → Except String Integrations}
  {newClientFunc : FreeScoutOptions → Nat → Except String Externalsvc.FreeScout}
  {ds₀ : Datastore} {es : List Event} {i : Nat}

end

end FleetFreeScout.Worker

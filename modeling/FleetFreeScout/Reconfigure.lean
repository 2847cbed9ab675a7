import FleetFreeScout.StableConfig

namespace FleetFreeScout.Worker

open Externalsvc

section

variable (matchWithIntegrations : TeamIntegrations → Integrations → Except String Integrations)
  (ds : Datastore)

end

section

variable {matchWithIntegrations : TeamIntegrations → Integrations → Except String Integrations}
  {newClientFunc : FreeScoutOptions → Nat → Except String Externalsvc.FreeScout}
  {ds : Datastore}

end

end FleetFreeScout.Worker

import FleetFreeScout.Fleet
import FleetFreeScout.Strings
import FleetFreeScout.Client
import FleetFreeScout.GetClient
import FleetFreeScout.Interleaving
import FleetFreeScout.ConfigReads
import FleetFreeScout.CacheReuse
import FleetFreeScout.StableConfig
import FleetFreeScout.Reconfigure
import FleetFreeScout.Conversation
import FleetFreeScout.Query
import FleetFreeScout.Templates
import FleetFreeScout.Run
import FleetFreeScout.QueueJobs

import AdminAccess.Config
import AdminAccess.Identity.Realm
import AdminAccess.Proofs.Session.Lineage
import AdminAccess.Proofs.Call.PathValues
import AdminAccess.Proofs.Session.Dispatch
import AdminAccess.Proofs.Session.ForcedLogout
import AdminAccess.Proofs.Session.Generations
import AdminAccess.Service.Backend
import AdminAccess.Service.GameSaves
import AdminAccess.Service.Searches
import AdminAccess.Service.Users
import AdminAccess.Simulation.Scenario
import AdminAccess.Transport.Basic
import AdminAccess.Transport.Peer
import AdminAccess.Proofs.Session.Changes
import AdminAccess.Proofs.Session.Effects
import AdminAccess.Proofs.Session.Course
import AdminAccess.Proofs.Session.Books
import AdminAccess.Proofs.Session.Endings
import AdminAccess.Proofs.Session.Gate
import AdminAccess.Proofs.Session.Logins
import AdminAccess.Proofs.Session.LoneLogin
import AdminAccess.Proofs.Session.Upkeep
import AdminAccess.Proofs.Session.Unexpired
import AdminAccess.Proofs.Session.AlikeRuns
import AdminAccess.Proofs.Session.Secrecy
import AdminAccess.Proofs.Pipeline.Order
import AdminAccess.Proofs.Session.IdleEndings
import AdminAccess.Proofs.Session.LoopEnds
import AdminAccess.Proofs.Session.Telling
import AdminAccess.Proofs.Call.Outcome
import AdminAccess.Proofs.Pipeline.Logging
import AdminAccess.Proofs.Session.Handles
import AdminAccess.Proofs.Json.Collections
import AdminAccess.Proofs.Json.Represents
import AdminAccess.Proofs.Json.RoundTrip
import AdminAccess.Proofs.Model.Payloads
import AdminAccess.Proofs.Service.Payloads
import AdminAccess.Proofs.Service.LoggedPayloads
import AdminAccess.Proofs.Session.FailedLogins
import AdminAccess.Proofs.Session.CancelledLoops
import AdminAccess.Proofs.Session.RefreshRate
import AdminAccess.Proofs.Session.RefreshCalls
import AdminAccess.Proofs.Session.RefreshExpiry
import AdminAccess.Proofs.Session.RefreshOverflow
import AdminAccess.Proofs.Pipeline.Bearers
import AdminAccess.Proofs.Text.FormPairs
import AdminAccess.Proofs.Identity.Forms
import AdminAccess.Proofs.Call.Offsets
import AdminAccess.Proofs.Call.Substitution
import AdminAccess.Proofs.Call.DistinctPaths
import AdminAccess.Proofs.Call.Queries
import AdminAccess.Proofs.Json.Documents
import AdminAccess.Proofs.Call.ParamsText
import AdminAccess.Proofs.Json.Growth
import AdminAccess.Proofs.Json.Replacement
import AdminAccess.Proofs.Model.LeafFaults
import AdminAccess.Proofs.Json.WholeDocument
import AdminAccess.Proofs.Call.Roots
import AdminAccess.Proofs.Session.Exchanges
import AdminAccess.Proofs.Transport.Answers
import AdminAccess.Proofs.Transport.Requests

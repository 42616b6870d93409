import LocatorHealing.Text.Blank
import LocatorHealing.Text.Case
import LocatorHealing.Text.Printable
import LocatorHealing.Text.Lines
import LocatorHealing.Text.Utf8
import LocatorHealing.Text.Base64
import LocatorHealing.Text.ScriptLiteral
import LocatorHealing.Number.Basic
import LocatorHealing.Json.Reader
import LocatorHealing.Json.Writer
import LocatorHealing.Url.Basic
import LocatorHealing.Validation.Scalar
import LocatorHealing.Fault
import LocatorHealing.AuthResult
import LocatorHealing.Settings
import LocatorHealing.Credentials
import LocatorHealing.TimeScale.Basic
import LocatorHealing.Locator
import LocatorHealing.Inquiry
import LocatorHealing.Browser.Options
import LocatorHealing.Event
import LocatorHealing.Outside
import LocatorHealing.Service.Basic
import LocatorHealing.Files.Tree
import LocatorHealing.Session.Basic
import LocatorHealing.Action
import LocatorHealing.Service.Http
import LocatorHealing.Launch
import LocatorHealing.Worker
import LocatorHealing.Browser.Start
import LocatorHealing.Rehearsal.Stage
import LocatorHealing.TimeScale.Exact
import LocatorHealing.Proofs.Healing.FailOpen
import LocatorHealing.Proofs.Healing.Trail
import LocatorHealing.Proofs.Healing.Poll
import LocatorHealing.Proofs.Launch.Capabilities
import LocatorHealing.Proofs.Session.History
import LocatorHealing.Proofs.Session.Admission
import LocatorHealing.Proofs.Session.Audited
import LocatorHealing.Proofs.Launch.Eligibility
import LocatorHealing.Proofs.Unaudited.Process
import LocatorHealing.Proofs.Launch.Isolation
import LocatorHealing.Proofs.Launch.Confinement
import LocatorHealing.Proofs.Service.Recovery
import LocatorHealing.Proofs.Session.Interleaving
import LocatorHealing.Proofs.Capability.Again
import LocatorHealing.Proofs.Session.Declined
import LocatorHealing.Proofs.Session.Undriven
import LocatorHealing.Proofs.Session.Boundary
import LocatorHealing.Proofs.Text.ScriptLiteral
import LocatorHealing.Proofs.Audit.ReadBack
import LocatorHealing.Proofs.Service.Authentication
import LocatorHealing.Proofs.Capability.Targets
import LocatorHealing.Proofs.Capability.Bearer
import LocatorHealing.Proofs.Browser.Options
import LocatorHealing.Proofs.Settings.ProviderHost
import LocatorHealing.Proofs.Wait.Limits
import LocatorHealing.Proofs.Url.Location
import LocatorHealing.Proofs.Launch.Funnel
import LocatorHealing.Proofs.Healing.Unhealed
import LocatorHealing.Proofs.Service.Addresses

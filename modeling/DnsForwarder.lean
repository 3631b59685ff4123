import DnsForwarder.Resolver.Handle
import DnsForwarder.Resolver.Request
import DnsForwarder.Json.Printer
import DnsForwarder.Json.FaultKind
import DnsForwarder.Settings.Json
import DnsForwarder.Settings.Check
import DnsForwarder.Settings.Load
import DnsForwarder.CommandLine.Parser
import DnsForwarder.CommandLine.Apply
import DnsForwarder.Main
import DnsForwarder.Remote.Doh
import DnsForwarder.Remote.Udp
import DnsForwarder.Proofs.Message.Aging
import DnsForwarder.Proofs.Resolver.Agreement
import DnsForwarder.Proofs.Resolver.Identity
import DnsForwarder.Proofs.Resolver.Provenance
import DnsForwarder.Proofs.Resolver.Contract
import DnsForwarder.Proofs.Resolver.Fitting
import DnsForwarder.Proofs.Resolver.Content
import DnsForwarder.Proofs.Udp.Register
import DnsForwarder.Proofs.Udp.Delivery
import DnsForwarder.Proofs.Udp.Answer
import DnsForwarder.Proofs.Udp.Correlation
import DnsForwarder.Proofs.Resolver.Questions
import DnsForwarder.Proofs.Resolver.Mirroring
import DnsForwarder.Proofs.Resolver.Freshness
import DnsForwarder.Proofs.Resolver.Absence
import DnsForwarder.Proofs.Udp.Release
import DnsForwarder.Proofs.Resolver.Course
import DnsForwarder.Proofs.Resolver.Account
import DnsForwarder.Proofs.Listener.Balance
import DnsForwarder.Proofs.Message.Renumbering
import DnsForwarder.Proofs.Udp.Relay
import DnsForwarder.Proofs.Resolver.Exchange
import DnsForwarder.Proofs.Resolver.Transparency
import DnsForwarder.Proofs.Cache.History
import DnsForwarder.Proofs.Settings.Check
import DnsForwarder.Proofs.Message.Chaining
import DnsForwarder.Proofs.Net.Address
import DnsForwarder.Proofs.CommandLine.Override
import DnsForwarder.Proofs.Resolver.Failure
import DnsForwarder.Proofs.Resolver.Independence
import DnsForwarder.Proofs.Json.RoundTrip
import DnsForwarder.Proofs.Settings.Layering
import DnsForwarder.Proofs.Settings.Printing

import SessionHandoff.Profile.Display
import SessionHandoff.Profile.Transfer
import SessionHandoff.Password.Exchange
import SessionHandoff.Storage.Settings
import SessionHandoff.Launch.Command
import SessionHandoff.Children.Registry
import SessionHandoff.Fork.World
import SessionHandoff.Main
import SessionHandoff.Proofs.Outcome
import SessionHandoff.Proofs.Text.Utf8
import SessionHandoff.Proofs.Cipher.Base64
import SessionHandoff.Proofs.Cipher.Gcm
import SessionHandoff.Proofs.Cipher.Opening
import SessionHandoff.Proofs.Json.Printed
import SessionHandoff.Proofs.Json.Complete
import SessionHandoff.Proofs.Profile.Wire
import SessionHandoff.Proofs.Profile.Transfer
import SessionHandoff.Proofs.Storage.Paths
import SessionHandoff.Proofs.Storage.Secret
import SessionHandoff.Proofs.Password.Exchange
import SessionHandoff.Proofs.Password.Handoff
import SessionHandoff.Proofs.Launch.Exposure
import SessionHandoff.Proofs.Profile.Interruption
import SessionHandoff.Proofs.Children.Run
import SessionHandoff.Proofs.Children.Waiting
import SessionHandoff.Proofs.Password.Lifecycle
import SessionHandoff.Proofs.Profile.Faults
import SessionHandoff.Proofs.Profile.Schema
import SessionHandoff.Proofs.Profile.Relay
import SessionHandoff.Proofs.Fork.History
import SessionHandoff.Proofs.Password.Recovery
import SessionHandoff.Proofs.Json.Outer
import SessionHandoff.Proofs.Storage.Settings
import SessionHandoff.Proofs.CommandLine.Arguments
import SessionHandoff.Proofs.CommandLine.Steps
import SessionHandoff.Proofs.CommandLine.TwoFiles
import SessionHandoff.Proofs.CommandLine.Recovery
import SessionHandoff.Proofs.Fork.MainThread
import SessionHandoff.Proofs.Limits.Application
import SessionHandoff.Proofs.Children.Collection
import SessionHandoff.Proofs.Children.Conservation
import SessionHandoff.Proofs.Text.Digits
import SessionHandoff.Proofs.Text.Shown
import SessionHandoff.Proofs.Profile.Display
import SessionHandoff.Proofs.Cipher.Faults
import SessionHandoff.Proofs.Password.Refusal
import SessionHandoff.Proofs.Storage.Folders
import SessionHandoff.Proofs.Storage.Privacy
import SessionHandoff.Proofs.Storage.WriteOnce
import SessionHandoff.Proofs.Profile.Independence
import SessionHandoff.Proofs.Json.Number
import SessionHandoff.Proofs.Profile.Numbers
import SessionHandoff.Proofs.Profile.Restated
import SessionHandoff.Proofs.Launch.Occurrences
import SessionHandoff.Proofs.Password.Atomicity
import SessionHandoff.Proofs.Password.Verdict
import SessionHandoff.Proofs.Limits.Plan
import SessionHandoff.Proofs.Limits.Transmission
import SessionHandoff.Proofs.Launch.Command
import SessionHandoff.Proofs.Storage.Override
import SessionHandoff.Proofs.Text.Blank
import SessionHandoff.Proofs.Cipher.Canonical
import SessionHandoff.Proofs.Limits.Affinity

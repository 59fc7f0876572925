import LiveConfig.Command.Lookup
import LiveConfig.Constants
import LiveConfig.Main
import LiveConfig.Proofs.File.Precedence
import LiveConfig.Proofs.Handle.Calls
import LiveConfig.Proofs.Handle.Order
import LiveConfig.Proofs.Handle.Walk
import LiveConfig.Proofs.Layer.Search
import LiveConfig.Proofs.Patch
import LiveConfig.Proofs.Scope.Basic
import LiveConfig.Proofs.Session.Delivery
import LiveConfig.Proofs.Session.Life
import LiveConfig.Proofs.Session.Run
import LiveConfig.Proofs.Session.Transaction
import LiveConfig.Proofs.Stack.Reference
import LiveConfig.Proofs.Value.Rebuild
import LiveConfig.Session.Step
import LiveConfig.Proofs.Scope.Moves
import LiveConfig.Proofs.Session.Listening
import LiveConfig.Proofs.Session.Scope
import LiveConfig.Proofs.Session.ScopeRun
import LiveConfig.Proofs.Scope.Growth
import LiveConfig.Proofs.Session.Renewal
import LiveConfig.Proofs.Stack.Standard
import LiveConfig.Proofs.Scope.Lookups
import LiveConfig.Proofs.Session.Standard
import LiveConfig.Proofs.Command.BadFiles
import LiveConfig.Proofs.Command.Diff
import LiveConfig.Proofs.Session.FileBootstrap
import LiveConfig.Proofs.Settings.CommaList

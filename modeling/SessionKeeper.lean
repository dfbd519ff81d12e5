import SessionKeeper.Mailbox
import SessionKeeper.Main
import SessionKeeper.Proofs.Json.Forms
import SessionKeeper.Proofs.Json.Notices
import SessionKeeper.Proofs.Keeper.Accounts
import SessionKeeper.Proofs.Keeper.Attempts
import SessionKeeper.Proofs.Keeper.Cleanups
import SessionKeeper.Proofs.Keeper.Closings
import SessionKeeper.Proofs.Keeper.Connects
import SessionKeeper.Proofs.Keeper.Disconnects
import SessionKeeper.Proofs.Keeper.Edges
import SessionKeeper.Proofs.Keeper.Losses
import SessionKeeper.Proofs.Keeper.Peers
import SessionKeeper.Proofs.Keeper.Schedules
import SessionKeeper.Proofs.Launcher.Cleanup
import SessionKeeper.Proofs.Launcher.GivingUp
import SessionKeeper.Proofs.Launcher.Lines
import SessionKeeper.Proofs.Launcher.Printing
import SessionKeeper.Proofs.Launcher.Schedules
import SessionKeeper.Proofs.Launcher.Sending
import SessionKeeper.Proofs.Mailroom
import SessionKeeper.Proofs.Settings.Overrides
import SessionKeeper.Proofs.Socket.Afresh
import SessionKeeper.Proofs.Socket.Overflow
import SessionKeeper.Proofs.Socket.Splitting
import SessionKeeper.Proofs.Socket.Traffic
import SessionKeeper.Proofs.StopSignal.Actions
import SessionKeeper.Rehearsal.Launch
import SessionKeeper.Rehearsal.Library
import SessionKeeper.Rehearsal.Program
import SessionKeeper.Rehearsal.Session
import SessionKeeper.StopSignal

import LineShell.Main
import LineShell.Proofs.Command.Arrangement
import LineShell.Proofs.Command.Delivery
import LineShell.Proofs.Command.Mark
import LineShell.Proofs.Command.Moving
import LineShell.Proofs.Command.Naming
import LineShell.Proofs.Command.Refusal
import LineShell.Proofs.Command.Rendering
import LineShell.Proofs.Options.Acceptance
import LineShell.Proofs.Shell.Fidelity
import LineShell.Proofs.Shell.Frame
import LineShell.Proofs.Startup.Levels
import LineShell.Proofs.Token.Account
import LineShell.Proofs.World.Writing

import WrapShell.Completion
import WrapShell.Main
import WrapShell.Proofs.Completion
import WrapShell.Proofs.Config
import WrapShell.Proofs.Files.Change
import WrapShell.Proofs.Files.Directory
import WrapShell.Proofs.Files.Legal
import WrapShell.Proofs.Glob.Fault
import WrapShell.Proofs.History.Bases
import WrapShell.Proofs.History.Shared
import WrapShell.Proofs.Line.Append
import WrapShell.Proofs.Line.Argument
import WrapShell.Proofs.Line.Error
import WrapShell.Proofs.Line.Expand
import WrapShell.Proofs.Line.Front
import WrapShell.Proofs.Line.Literal
import WrapShell.Proofs.Line.Reread
import WrapShell.Proofs.Line.Value
import WrapShell.Proofs.Number.Integer
import WrapShell.Proofs.Program.Directories
import WrapShell.Proofs.Session.Arguments
import WrapShell.Proofs.Session.Directory
import WrapShell.Proofs.Session.Dispatch
import WrapShell.Proofs.Session.Exit
import WrapShell.Proofs.Session.Frame
import WrapShell.Proofs.Session.Names
import WrapShell.Proofs.Session.Run
import WrapShell.Proofs.Session.Variables
import WrapShell.Proofs.Start
import WrapShell.Proofs.Suggest.Candidates
import WrapShell.Proofs.Suggest.Narrow
import WrapShell.Proofs.Suggest.Paths
import WrapShell.Proofs.Suggest.Walk
import WrapShell.Proofs.Yaml.Block
import WrapShell.Proofs.Yaml.Layout
import WrapShell.Proofs.Yaml.Node
import WrapShell.Proofs.Yaml.Plain
import WrapShell.Proofs.Yaml.Quoted
import WrapShell.Proofs.Yaml.Write

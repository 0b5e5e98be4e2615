import Salutation.Main
import Salutation.Session
import Salutation.Proofs.CommandLine.Name
import Salutation.Proofs.CommandLine.Offence
import Salutation.Proofs.CommandLine.ProgramName
import Salutation.Proofs.CommandLine.Update
import Salutation.Proofs.Log.Alignment
import Salutation.Proofs.Log.Line
import Salutation.Proofs.Log.Precedence
import Salutation.Proofs.Log.SimpleDirective
import Salutation.Proofs.Output.Calls
import Salutation.Proofs.Output.Interruption
import Salutation.Proofs.Output.Report
import Salutation.Proofs.Output.SafeLine
import Salutation.Proofs.Output.Verbatim
import Salutation.Proofs.Program.Colour
import Salutation.Proofs.Program.Forgery
import Salutation.Proofs.Program.Indifference
import Salutation.Proofs.Program.Label
import Salutation.Proofs.Program.Log
import Salutation.Proofs.Program.Objection
import Salutation.Proofs.Program.PlainText
import Salutation.Proofs.Program.Selection
import Salutation.Proofs.Rendering
import Salutation.Proofs.Session
import Salutation.Proofs.Terminal.Styled

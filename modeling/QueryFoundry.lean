import QueryFoundry.Host.Beside
import QueryFoundry.Json.Reader
import QueryFoundry.Main
import QueryFoundry.Proofs.GeneratedFiles
import QueryFoundry.Proofs.Unformatted
import QueryFoundry.Proofs.ConfigWriting
import QueryFoundry.Proofs.BridgeNesting
import QueryFoundry.Proofs.CommandOutput
import QueryFoundry.Proofs.EngineLayouts
import QueryFoundry.Proofs.HeaderHashes
import QueryFoundry.Proofs.PollBounds
import QueryFoundry.Proofs.ReportTotals
import QueryFoundry.Proofs.TypeReading
import QueryFoundry.Proofs.FetchedConstants
import QueryFoundry.Proofs.SourceTexts
import QueryFoundry.Proofs.LoadedSettings

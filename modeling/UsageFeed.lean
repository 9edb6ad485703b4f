import UsageFeed.Main
import UsageFeed.Proofs.Accounting
import UsageFeed.Proofs.CallSequence
import UsageFeed.Proofs.CommitProtocol
import UsageFeed.Proofs.CountSettings
import UsageFeed.Proofs.Endpoints
import UsageFeed.Proofs.EventTexts
import UsageFeed.Proofs.Extraction
import UsageFeed.Proofs.Forms
import UsageFeed.Proofs.Isolation
import UsageFeed.Proofs.Offsets
import UsageFeed.Proofs.PoisonIsolation
import UsageFeed.Proofs.RowCoverage
import UsageFeed.Proofs.RunHealth
import UsageFeed.Proofs.Separators
import UsageFeed.Proofs.TableRoundTrip
import UsageFeed.Proofs.TextSettings
import UsageFeed.Proofs.Timestamps
import UsageFeed.Proofs.WireFormat
import UsageFeed.Source.Script

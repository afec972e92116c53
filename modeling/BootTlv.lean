import BootTlv.Main
import BootTlv.Session
import BootTlv.Settings.Strict
import BootTlv.Proofs.Catalog.Rows
import BootTlv.Proofs.Catalog.Build
import BootTlv.Proofs.Spelling
import BootTlv.Proofs.Text.Words
import BootTlv.Proofs.Text.Damage
import BootTlv.Proofs.Text.Values
import BootTlv.Proofs.Validation.Kinds
import BootTlv.Proofs.Validation.Readers
import BootTlv.Proofs.Validation.Review
import BootTlv.Proofs.Validation.Order
import BootTlv.Proofs.Framing.Entry
import BootTlv.Proofs.Framing.Split
import BootTlv.Proofs.Framing.Whole
import BootTlv.Proofs.Framing.Inspect
import BootTlv.Proofs.Compact.Scan
import BootTlv.Proofs.Compact.RoundTrip
import BootTlv.Proofs.Compact.Verdict
import BootTlv.Proofs.Compact.Append
import BootTlv.Proofs.Compact.InPlace
import BootTlv.Proofs.Compact.Footprint
import BootTlv.Proofs.Vendor.RoundTrip
import BootTlv.Proofs.Vendor.Format
import BootTlv.Proofs.Framing.Safety
import BootTlv.Proofs.Construction
import BootTlv.Proofs.Session
import BootTlv.Proofs.Request.Fields
import BootTlv.Proofs.Request.RoundTrip
import BootTlv.Proofs.Request.Acceptance
import BootTlv.Proofs.Uri.Grammar
import BootTlv.Proofs.Hex.Spelling
import BootTlv.Proofs.Inspector.HexInput
import BootTlv.Proofs.Inspector.Admission
import BootTlv.Proofs.Inspector.HexRefusal
import BootTlv.Proofs.Report.Lines
import BootTlv.Proofs.Report.Readings
import BootTlv.Proofs.Report.Spelling
import BootTlv.Proofs.Json.Layout
import BootTlv.Proofs.Json.Verdict
import BootTlv.Proofs.Program.Outcome
import BootTlv.Proofs.CommandLine.Grammar
import BootTlv.Proofs.Settings.Load
import BootTlv.Proofs.Settings.Strict
import BootTlv.Proofs.Fault.Message

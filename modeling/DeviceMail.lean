import DeviceMail.Json.Reader
import DeviceMail.Main
import DeviceMail.Session
import DeviceMail.Proofs.Assignments
import DeviceMail.Proofs.Writes
import DeviceMail.Proofs.Lives
import DeviceMail.Proofs.Composition
import DeviceMail.Proofs.Expiries
import DeviceMail.Proofs.Erasure
import DeviceMail.Proofs.Base64
import DeviceMail.Proofs.Bodies
import DeviceMail.Proofs.Numerals
import DeviceMail.Proofs.Clauses
import DeviceMail.Proofs.Moments
import DeviceMail.Proofs.Invariants
import DeviceMail.Proofs.LogEntries
import DeviceMail.Proofs.Payloads
import DeviceMail.Proofs.Identifiers
import DeviceMail.Proofs.Lineages
import DeviceMail.Proofs.Calendar
import DeviceMail.Proofs.Timestamps
import DeviceMail.Proofs.TimestampOrder
import DeviceMail.Proofs.JsonTexts
import DeviceMail.Proofs.Reports
import DeviceMail.Proofs.Cuts
import DeviceMail.Proofs.Paths
import DeviceMail.Proofs.Summaries
import DeviceMail.Proofs.Journals
import DeviceMail.Proofs.PropertyArguments
import DeviceMail.Proofs.JsonForms
import DeviceMail.Proofs.QuotedTexts
import DeviceMail.Proofs.Dumps
import DeviceMail.Proofs.InstantDumps
import DeviceMail.Proofs.MessageDumps

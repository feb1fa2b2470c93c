import DeviceCatalog.Files.Tree
import DeviceCatalog.Main
import DeviceCatalog.Proofs.Sequencing
import DeviceCatalog.Proofs.DeviceMatch.Spelling
import DeviceCatalog.Proofs.Corpus.Sightings
import DeviceCatalog.Proofs.Corpus.ReceiverIdentities
import DeviceCatalog.Proofs.Lookup
import DeviceCatalog.Proofs.Schema.Admission
import DeviceCatalog.Proofs.Validation.Stages
import DeviceCatalog.Proofs.Catalog.Outcomes
import DeviceCatalog.Proofs.Corpus.Declarations
import DeviceCatalog.Proofs.CommandLine.CheckAll
import DeviceCatalog.Proofs.Text.Trimmed
import DeviceCatalog.Proofs.Text.Cuts
import DeviceCatalog.Proofs.Text.Padding
import DeviceCatalog.Proofs.Keyfile.Grammar
import DeviceCatalog.Proofs.Keyfile.Turn
import DeviceCatalog.Proofs.Keyfile.Role
import DeviceCatalog.Proofs.Keyfile.RoundTrip
import DeviceCatalog.Proofs.Keyfile.Representation
import DeviceCatalog.Proofs.Validation.Acceptance
import DeviceCatalog.Proofs.Keyfile.Outline
import DeviceCatalog.Proofs.Keyfile.FirstFault
import DeviceCatalog.Proofs.Keyfile.Concatenation
import DeviceCatalog.Proofs.Corpus.Coverage
import DeviceCatalog.Proofs.Corpus.DuplicateIdentities
import DeviceCatalog.Proofs.CommandLine.Agreement
import DeviceCatalog.Proofs.Validation.Reordering
import DeviceCatalog.Proofs.Keyfile.Layout
import DeviceCatalog.Proofs.Keyfile.Comments
import DeviceCatalog.Proofs.Text.Raw
import DeviceCatalog.Proofs.Files.Naming
import DeviceCatalog.Proofs.Files.Enumeration
import DeviceCatalog.Proofs.Catalog.Listing
import DeviceCatalog.Proofs.CommandLine.Resolution
import DeviceCatalog.Proofs.Text.Spread
import DeviceCatalog.Proofs.Numeral.Digits
import DeviceCatalog.Proofs.DeviceMatch.Language
import DeviceCatalog.Proofs.Dpi.ListRun
import DeviceCatalog.Proofs.Dpi.ListSpelling
import DeviceCatalog.Proofs.Decimal.Notation
import DeviceCatalog.Proofs.Binary64.Value
import DeviceCatalog.Proofs.Binary64.Notation
import DeviceCatalog.Proofs.Dpi.RangeSpelling
import DeviceCatalog.Proofs.Corpus.RecurringEntries
import DeviceCatalog.Proofs.Numeral.Hexadecimal
import DeviceCatalog.Proofs.DeviceIndex.Language
import DeviceCatalog.Proofs.Schema.Faults
import DeviceCatalog.Proofs.Validation.Shape
import DeviceCatalog.Proofs.Validation.Precedence
import DeviceCatalog.Proofs.Validation.Indifference
import DeviceCatalog.Proofs.Corpus.ScanOrder
import DeviceCatalog.Proofs.Keyfile.Insertion
import DeviceCatalog.Proofs.Keyfile.Reading
import DeviceCatalog.Proofs.Vocabulary.Lists
import DeviceCatalog.Proofs.Keyfile.OpenEntry

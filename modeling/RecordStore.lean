import RecordStore.Memory.Database
import RecordStore.Proofs.Codec.Cells
import RecordStore.Proofs.Codec.Guessing
import RecordStore.Proofs.Codec.Numbers
import RecordStore.Proofs.Codec.StoredInstants
import RecordStore.Proofs.Memory.Chronology
import RecordStore.Proofs.Model.DefinitionDocument
import RecordStore.Proofs.RoundTrip
import RecordStore.Proofs.Search.Derivation
import RecordStore.Proofs.Search.Leaves
import RecordStore.Proofs.Search.Patterns
import RecordStore.Proofs.Search.RoundTrip
import RecordStore.Proofs.Search.Texts
import RecordStore.Proofs.Sql.Dialects
import RecordStore.Proofs.Sql.Identifiers
import RecordStore.Proofs.Sql.Merging
import RecordStore.Proofs.Store.Agreement
import RecordStore.Proofs.Store.Homogeneity
import RecordStore.Proofs.Store.Paging
import RecordStore.Proofs.Store.Refinement
import RecordStore.Proofs.Text.Kebab
import RecordStore.Store.Datastore
import RecordStore.Store.Script

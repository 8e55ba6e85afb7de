import QueryBook.Json.Reader
import QueryBook.Log.Session
import QueryBook.Proofs.LastRegistration
import QueryBook.Proofs.ListingRoundTrip
import QueryBook.Proofs.PositionalBinding
import QueryBook.Proofs.StrayText
import QueryBook.Proofs.WellFormedQueries
import QueryBook.Version
import QueryBook.Proofs.RepeatedNames
import QueryBook.Proofs.CompileNotices
import QueryBook.Proofs.CallAgreement
import QueryBook.Proofs.CanonicalText
import QueryBook.Proofs.AttributeAccess
import QueryBook.Proofs.LineEndings
import QueryBook.Proofs.LineEndingIndependence
import QueryBook.Proofs.VerbatimBody
import QueryBook.Proofs.DefinitionOrder
import QueryBook.Proofs.MarkerLine
import QueryBook.Proofs.DispatchRecords
import QueryBook.Proofs.Reconfiguration
import QueryBook.Proofs.RecordReading
import QueryBook.Proofs.PlaceholderPlaces
import QueryBook.Proofs.RewrittenBody
import QueryBook.Proofs.HeaderGrammar
import QueryBook.Proofs.CommentLines
import QueryBook.Proofs.LoggerNames
import QueryBook.Proofs.QueryDocuments
import QueryBook.Proofs.UniqueCut
import QueryBook.Proofs.ProblemDetails
import QueryBook.Proofs.EnvironmentReading

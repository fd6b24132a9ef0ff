import RegexWords.Main
import RegexWords.Session
import RegexWords.Proofs.Sequence.DiagonalSequence
import RegexWords.Proofs.Listing.Derivations
import RegexWords.Proofs.Listing.Starvation
import RegexWords.Proofs.Listing.ExampleCounts
import RegexWords.Proofs.Pattern.RoundTrip
import RegexWords.Proofs.CharSet.CommonText
import RegexWords.Proofs.Listing.NegatedBrackets
import RegexWords.Proofs.Session
import RegexWords.Proofs.Sequence.Foretelling
import RegexWords.Proofs.Sequence.RoundRobinCalls
import RegexWords.Proofs.Sequence.BoxCalls
import RegexWords.Proofs.Sequence.DiagonalErrors
import RegexWords.Proofs.Listing.Contexts
import RegexWords.Proofs.Pattern.ParsedForm
import RegexWords.Proofs.Pattern.BranchText
import RegexWords.Proofs.Pattern.FailurePlaces
import RegexWords.Proofs.Pattern.Joining
import RegexWords.Proofs.Pattern.AnchorPlaces
import RegexWords.Proofs.Listing.AnchoredWords
import RegexWords.Proofs.Listing.Asking
import RegexWords.Proofs.Listing.Liveliness
import RegexWords.Proofs.Listing.Productivity
import RegexWords.Proofs.Pattern.MemberText
import RegexWords.Proofs.Pattern.NumericEscapes
import RegexWords.Proofs.Listing.Powers
import RegexWords.Proofs.Listing.Segments
import RegexWords.Proofs.CommandLine.Output
import RegexWords.Proofs.Listing.ClassCalls
import RegexWords.Proofs.Pattern.ByteReader
import RegexWords.Proofs.Pattern.ByteReading
import RegexWords.Proofs.Pattern.FailureCauses
import RegexWords.Proofs.Pattern.ByteDescent
import RegexWords.Proofs.Pattern.Braces
import RegexWords.Proofs.Listing.QuarterPoints
import RegexWords.Proofs.Listing.Doublings

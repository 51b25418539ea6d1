import Slideshow.Main
import Slideshow.Playback.Careful
import Slideshow.Playback.InPlace
import Slideshow.Playback.Recorder
import Slideshow.Project.Build
import Slideshow.Text.Lines
import Slideshow.Proofs.Document.Restored
import Slideshow.Proofs.Playback.EqualProjects
import Slideshow.Proofs.Playback.References
import Slideshow.Proofs.Playback.Begun
import Slideshow.Proofs.Playback.Gathered
import Slideshow.Proofs.Validation.Report
import Slideshow.Proofs.Playback.Order
import Slideshow.Proofs.NormalValues
import Slideshow.Proofs.ValueMeaning
import Slideshow.Proofs.Playback.Account
import Slideshow.Proofs.Playback.InPlace
import Slideshow.Proofs.Playback.Refusal
import Slideshow.Proofs.Playback.Abreast
import Slideshow.Proofs.Playback.Workload
import Slideshow.Proofs.Playback.Limit
import Slideshow.Proofs.Playback.Navigation
import Slideshow.Proofs.Playback.Cycles
import Slideshow.Proofs.Playback.Bare
import Slideshow.Proofs.Playback.Presentation
import Slideshow.Proofs.Playback.Starts
import Slideshow.Proofs.Playback.Deeds
import Slideshow.Proofs.Validation.Located
import Slideshow.Proofs.Playback.Links
import Slideshow.Proofs.Playback.StoredValues
import Slideshow.Proofs.Decimal.Apart
import Slideshow.Proofs.Json.Injective
import Slideshow.Proofs.Document.Settled
import Slideshow.Proofs.Document.AnyLayout
import Slideshow.Proofs.Playback.Faults
import Slideshow.Proofs.Playback.Visits
import Slideshow.Proofs.Playback.Pointing
import Slideshow.Proofs.Playback.Counters
import Slideshow.Proofs.Document.Required
import Slideshow.Proofs.Playback.Arrivals
import Slideshow.Proofs.CommandLine.Transcript
import Slideshow.Proofs.CommandLine.Printout
import Slideshow.Proofs.Lookups
import Slideshow.Proofs.Playback.Careful
import Slideshow.Proofs.Playback.ClickCount
import Slideshow.Proofs.Playback.Coverage
